import RavenBinding.Fault
import RavenBinding.Number.Shortest

/-!
# Values

What run properties, documents, results and log calls hold: a value that carries its own kind.

## Main definitions

- `Value`: the type
- `Value.typeName`, `Value.isTruthy`: the name of the kind, and whether a value counts as present
- `Value.isDeep`: whether collections are nested too deeply to be walked through
- `Value.equal`: equality by value, under which `1`, `1.0` and `true` are one key
-/

namespace RavenBinding

/-- The kinds of byte strings. -/
inductive BytesKind where
  | bytes
  | bytearray
  | memoryview
  deriving DecidableEq, Repr

/-- The kinds of collections of single items. -/
inductive SequenceKind where
  | list
  | tuple
  | set
  | frozenset
  deriving DecidableEq, Repr

/-- A value of any kind. -/
inductive Value where
  | none
  | bool (b : Bool)
  | int (i : Int)
  | float (x : Binary64)
  | text (t : Text)
  | bytes (kind : BytesKind) (b : Bytes)
  | sequence (kind : SequenceKind) (items : List Value)
  | map (entries : List (Value × Value))
  /-- A fault as an object. -/
  | fault (f : Fault)
  /-- An object that raises a fault when it is asked for its text. -/
  | unprintable (f : Fault)
  deriving Repr

namespace Value

/-- The name of the kind. -/
def typeName : Value → Text
  | none => "NoneType"
  | bool _ => "bool"
  | int _ => "int"
  | float _ => "float"
  | text _ => "str"
  | bytes .bytes _ => "bytes"
  | bytes .bytearray _ => "bytearray"
  | bytes .memoryview _ => "memoryview"
  | sequence .list _ => "list"
  | sequence .tuple _ => "tuple"
  | sequence .set _ => "set"
  | sequence .frozenset _ => "frozenset"
  | map _ => "dict"
  | fault f => f.kind.name
  | unprintable _ => "object"

/-- Nothing, zero and what is empty do not count as present. -/
def isTruthy : Value → Bool
  | none => false
  | bool b => b
  | int i => i != 0
  | float x => !x.isZero
  | text t => !t.isEmpty
  | bytes _ b => !b.isEmpty
  | sequence _ items => !items.isEmpty
  | map entries => !entries.isEmpty
  | fault _ => true
  | unprintable _ => true

/-- How many collections inside each other can be walked through. -/
def maxDepth : Nat := 985

/-- Collections are nested more deeply than a bound. -/
def deeperThan (bound : Nat) (v : Value) : Bool :=
  match bound, v with
  | 0, sequence _ _ | 0, map _ => true
  | bound + 1, sequence _ items => items.any (deeperThan bound)
  | bound + 1, map entries =>
    entries.any fun e => deeperThan bound e.1 || deeperThan bound e.2
  | _, _ => false

/-- Collections are nested too deeply. -/
def isDeep (v : Value) : Bool := v.deeperThan maxDepth

/-- The integer that a number is equal to. -/
def numericInt? : Value → Option Int
  | bool b => some (if b then 1 else 0)
  | int i => some i
  | float x => x.toInt?
  | _ => Option.none

/-- Sets of either kind. -/
def isSetKind : SequenceKind → Bool
  | .set | .frozenset => true
  | _ => false

mutual

/-- Equality by value: numbers by what they count, byte strings by their bytes, sets by their
members, and other collections item by item. -/
def equal : Value → Value → Bool
  | none, other => match other with
    | none => true
    | _ => false
  | bool b, other => match other.numericInt? with
    | some j => j == (if b then 1 else 0)
    | Option.none => false
  | int i, other => match other.numericInt? with
    | some j => i == j
    | Option.none => false
  | float x, other => match other with
    | float y => x.equal y
    | bool b => x.toInt? == some (if b then 1 else 0)
    | int i => x.toInt? == some i
    | _ => false
  | text t, other => match other with
    | text u => t == u
    | _ => false
  | bytes _ b, other => match other with
    | bytes _ c => b == c
    | _ => false
  | sequence kind items, other => match other with
    | sequence kind' items' =>
      if isSetKind kind then
        isSetKind kind' && items.length == items'.length && allAmong items items'
      else kind == kind' && itemsEqual items items'
    | _ => false
  | map entries, other => match other with
    | map entries' => entries.length == entries'.length && entriesAmong entries entries'
    | _ => false
  | fault _, _ => false
  | unprintable _, _ => false

/-- Equality item by item. -/
def itemsEqual : List Value → List Value → Bool
  | [], other => other.isEmpty
  | x :: xs, other => match other with
    | y :: ys => equal x y && itemsEqual xs ys
    | [] => false

/-- Every item of the first list is equal to one of the second. -/
def allAmong : List Value → List Value → Bool
  | [], _ => true
  | x :: xs, ys => ys.any (fun y => equal x y) && allAmong xs ys

/-- Every entry of the first list is equal to one of the second. -/
def entriesAmong : List (Value × Value) → List (Value × Value) → Bool
  | [], _ => true
  | (k, v) :: rest, others =>
    others.any (fun other => equal k other.1 && equal v other.2) && entriesAmong rest others

end

instance : BEq Value := ⟨equal⟩

/-- The items with repetitions of equal values left out. -/
def distinct (items : List Value) : List Value :=
  (items.foldl (fun found x => if found.any (· == x) then found else x :: found) []).reverse

end Value

end RavenBinding
