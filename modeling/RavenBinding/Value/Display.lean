import RavenBinding.Value.Basic
import RavenBinding.Number.Numeral

/-!
# The text of a value

Messages and logs show values. Inside a collection texts are quoted; a text by itself is shown as it
is. Integers with too many digits, collections that are nested too deeply, and objects that raise a
fault have no text.

## Main definitions

- `Value.quoted`: the text of a value as it stands inside a collection
- `Value.display`: the text of a value by itself, or the fault it raises
-/

namespace RavenBinding

/-- An integer with more decimal digits than are written. -/
def tooManyDigits (i : Int) : Bool := Nat.pow 10 Numeral.maxDigits ≤ i.natAbs

/-- The fault of writing an integer with too many digits. -/
def digitLimitFault : Fault :=
  ⟨.valueError, Text.ofString "Exceeds the limit (4300 digits) for integer string conversion; "
    ++ Text.ofString "use sys.set_int_max_str_digits() to increase the limit"⟩

namespace Value

mutual

/-- Some integer inside the value has too many digits. -/
def holdsTooManyDigits : Value → Bool
  | int i => tooManyDigits i
  | sequence _ items => itemsHoldTooManyDigits items
  | map entries => entriesHoldTooManyDigits entries
  | _ => false

/-- Some integer inside one of the items has too many digits. -/
def itemsHoldTooManyDigits : List Value → Bool
  | [] => false
  | x :: xs => holdsTooManyDigits x || itemsHoldTooManyDigits xs

/-- Some integer inside one of the entries has too many digits. -/
def entriesHoldTooManyDigits : List (Value × Value) → Bool
  | [] => false
  | (k, v) :: rest => holdsTooManyDigits k || holdsTooManyDigits v || entriesHoldTooManyDigits rest

end

/-- The texts around the items of a collection. -/
def brackets : SequenceKind → Text × Text
  | .list => ("[", "]")
  | .tuple => ("(", ")")
  | .set => ("\x7b", "\x7d")
  | .frozenset => ("frozenset(\x7b", "\x7d)")

/-- Items between brackets, with commas; a set without items is shown by its name, and a tuple of
one item has a comma at its end. -/
def enclose (kind : SequenceKind) (items : List Text) : Text :=
  match kind, items with
  | .set, [] => "set()"
  | .frozenset, [] => "frozenset()"
  | .tuple, [x] => Text.ofString "(" ++ x ++ Text.ofString ",)"
  | kind, items =>
    (brackets kind).1 ++ Text.join (Text.ofString ", ") items ++ (brackets kind).2

mutual

/-- The text of a value inside a collection. -/
def quoted : Value → Text
  | none => "None"
  | bool b => if b then "True" else "False"
  | int i => Text.ofInt i
  | float x => x.text .plain
  | text t => t.quoted
  | bytes kind b => match kind with
    | .bytes => Bytes.quoted b
    | .bytearray => Text.ofString "bytearray(" ++ Bytes.quotedFully b ++ Text.ofString ")"
    | .memoryview => "<memory>"
  | sequence kind items => enclose kind (quotedItems items)
  | map entries =>
    Text.ofString "\x7b" ++ Text.join (Text.ofString ", ") (quotedEntries entries)
      ++ Text.ofString "\x7d"
  | fault f => f.kind.name ++ Text.ofString "(" ++ f.text.quoted ++ Text.ofString ")"
  | unprintable _ => "<object>"

/-- The texts of the items of a collection. -/
def quotedItems : List Value → List Text
  | [] => []
  | x :: xs => quoted x :: quotedItems xs

/-- The texts of the entries of a map. -/
def quotedEntries : List (Value × Value) → List Text
  | [] => []
  | (k, v) :: rest => (quoted k ++ Text.ofString ": " ++ quoted v) :: quotedEntries rest

end

/-- The text of a value inside a collection, unless it is nested too deeply or an integer has too
many digits. -/
def quoted? (v : Value) : Except Fault Text :=
  if v.isDeep then .error (depthFault "getting the repr of an object")
  else if v.holdsTooManyDigits then .error digitLimitFault else .ok v.quoted

/-- The text of a value by itself. -/
def display : Value → Except Fault Text
  | text t => .ok t
  | fault f => .ok f.message
  | unprintable f => .error f
  | v => v.quoted?

end Value

end RavenBinding
