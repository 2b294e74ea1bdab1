import RavenBinding.FieldMap
import RavenBinding.Value.Display

/-!
# JSON values

A JSON value is what a body or a stored field holds. Values of other kinds become JSON values where
they can: numbers, texts and collections do, and keys that are no texts are spelled out.

## Main definitions

- `Json`: the type
- `Value.ofJson`, `Value.toJson`, `Value.toJson?`: the two directions
- `JsonFault`: why a value has no JSON form
-/

namespace RavenBinding

/-- A JSON value; the members of an object are in order. -/
inductive Json where
  | null
  | bool (b : Bool)
  | int (i : Int)
  | float (x : Binary64)
  | text (t : Text)
  | array (items : List Json)
  | object (members : List (Text × Json))
  deriving Repr

/-- Why a value has no JSON form. -/
inductive JsonFault where
  /-- A number that is infinite or not a number, where those are not written. -/
  | outOfRange
  /-- An integer with too many digits. -/
  | tooManyDigits
  /-- Collections that are nested too deeply. -/
  | tooDeep
  /-- A value of a kind that JSON does not have. -/
  | kind (typeName : Text)
  /-- A key of a kind that is not spelled out. -/
  | key (typeName : Text)
  deriving DecidableEq, Repr

/-- The fault that a missing JSON form raises. -/
def JsonFault.fault : JsonFault → Fault
  | outOfRange => ⟨.valueError, "Out of range float values are not JSON compliant"⟩
  | tooManyDigits => digitLimitFault
  | tooDeep => depthFault "encoding a JSON object"
  | kind typeName =>
    ⟨.typeError, Text.ofString "Object of type " ++ typeName
      ++ Text.ofString " is not JSON serializable"⟩
  | key typeName =>
    ⟨.typeError, Text.ofString "keys must be str, int, float, bool or None, not " ++ typeName⟩

namespace Value

mutual

/-- A JSON value as a value: arrays are lists and objects are maps. -/
def ofJson : Json → Value
  | .null => none
  | .bool b => bool b
  | .int i => int i
  | .float x => float x
  | .text t => text t
  | .array items => sequence .list (ofItems items)
  | .object members => map (ofMembers members)

/-- The items of an array as values. -/
def ofItems : List Json → List Value
  | [] => []
  | x :: xs => ofJson x :: ofItems xs

/-- The members of an object as entries. -/
def ofMembers : List (Text × Json) → List (Value × Value)
  | [] => []
  | (k, v) :: rest => (text k, ofJson v) :: ofMembers rest

end

/-- The number as JSON, unless it is infinite or not a number and those are not written. -/
def floatToJson (allowNan : Bool) (x : Binary64) : Except JsonFault Json :=
  if x.isFinite || allowNan then .ok (.float x) else .error .outOfRange

/-- The integer as JSON, unless it has too many digits. -/
def intToJson (i : Int) : Except JsonFault Json :=
  if RavenBinding.tooManyDigits i then .error .tooManyDigits else .ok (.int i)

/-- The text of a key. -/
def keyToJson (allowNan : Bool) : Value → Except JsonFault Text
  | text t => .ok t
  | none => .ok "null"
  | bool b => .ok (if b then "true" else "false")
  | int i => do
    let _ ← intToJson i
    pure (Text.ofInt i)
  | float x => do
    let _ ← floatToJson allowNan x
    pure (x.text .json)
  | v => .error (.key v.typeName)

mutual

/-- The JSON form of a value; the first thing without one, in reading order, is reported. -/
def toJson (allowNan : Bool) : Value → Except JsonFault Json
  | none => .ok .null
  | bool b => .ok (.bool b)
  | int i => intToJson i
  | float x => floatToJson allowNan x
  | text t => .ok (.text t)
  | sequence kind items =>
    if isSetKind kind then .error (.kind (sequence kind []).typeName)
    else do
      let items ← itemsToJson allowNan items
      pure (.array items)
  | map entries => do
    let members ← entriesToJson allowNan entries
    pure (.object members)
  | bytes kind b => .error (.kind (bytes kind b).typeName)
  | fault f => .error (.kind (fault f).typeName)
  | unprintable f => .error (.kind (unprintable f).typeName)

/-- The JSON forms of items in order. -/
def itemsToJson (allowNan : Bool) : List Value → Except JsonFault (List Json)
  | [] => .ok []
  | x :: xs => do
    let item ← toJson allowNan x
    let items ← itemsToJson allowNan xs
    pure (item :: items)

/-- The JSON forms of entries in order, each key before its value. -/
def entriesToJson (allowNan : Bool) : List (Value × Value) → Except JsonFault (List (Text × Json))
  | [] => .ok []
  | (k, v) :: rest => do
    let name ← keyToJson allowNan k
    let value ← toJson allowNan v
    let members ← entriesToJson allowNan rest
    pure ((name, value) :: members)

end

/-- The JSON form of a value that is not nested too deeply. -/
def toJson? (allowNan : Bool) (v : Value) : Except JsonFault Json :=
  if v.isDeep then .error .tooDeep else v.toJson allowNan

end Value

end RavenBinding
