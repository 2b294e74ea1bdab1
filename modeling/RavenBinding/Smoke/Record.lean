import RavenBinding.Binding.Contract
import RavenBinding.Smoke.Generator

/-!
# Generated records

A generated record has numbered fields whose values are letters and digits of ASCII.

## Main definitions

- `RecordShape`: how many fields a record has, and how long they are
- `RecordShape.draw`, `RecordShape.drawAll`: records drawn from a generator
-/

namespace RavenBinding

/-- The number of fields of a record and the number of bytes of each; what is negative counts as
zero. -/
structure RecordShape where
  fieldCount : Int
  fieldLength : Int
  deriving DecidableEq, Repr

namespace RecordShape

/-- The letter or digit of a number below 62: lower case, upper case, digits. -/
def letter (i : Nat) : UInt8 :=
  if i < 26 then UInt8.ofNat (0x61 + i)
  else if i < 52 then UInt8.ofNat (0x41 + (i - 26))
  else UInt8.ofNat (0x30 + (i - 52))

/-- The name of a field. -/
def fieldName (i : Nat) : Text := Text.ofString "field" ++ Text.ofNat i

/-- The key of a record. -/
def recordKey (i : Nat) : Text := Text.ofString "user" ++ Text.ofNat i

/-- Draws a value. -/
def drawValue (length : Int) : StateM Generator Bytes :=
  (List.range length.toNat).mapM fun _ => do
    let i ← Generator.nextBelow 62
    pure (letter i)

/-- Draws a record. -/
def draw (shape : RecordShape) : StateM Generator ResultMap :=
  (List.range shape.fieldCount.toNat).mapM fun i => do
    let value ← drawValue shape.fieldLength
    pure (fieldName i, value)

/-- Draws a number of records and gives each its key. -/
def drawAll (shape : RecordShape) (count : Int) : StateM Generator (List (Text × ResultMap)) :=
  (List.range count.toNat).mapM fun i => do
    let record ← shape.draw
    pure (recordKey i, record)

end RecordShape

end RavenBinding
