import RavenBinding.Settings.NumberText
import RavenBinding.Text.Utf8
import RavenBinding.Value.Basic

/-!
# Conversion of settings

A raw setting is a value of any kind, most often a text. It is converted to the type of its field
leniently: a truth value may be spelled out, and a number may be written as a text.

## Main definitions

- `ConversionError`: why a value cannot be converted, with its tag and its wording
- `Value.toSettingText`, `Value.toSettingBool`, `Value.toSettingInt`, `Value.toSettingFloat`
-/

namespace RavenBinding

/-- Why a value cannot be converted. -/
inductive ConversionError where
  | stringType
  | stringUnicode
  | boolParsing
  | boolType
  | floatParsing
  | floatType
  | intParsing
  | intParsingSize
  | intFromFloat
  | intType
  | finiteNumber
  | modelType
  deriving DecidableEq, Repr

namespace ConversionError

/-- The tag of the reason. -/
def tag : ConversionError → Text
  | stringType => "string_type"
  | stringUnicode => "string_unicode"
  | boolParsing => "bool_parsing"
  | boolType => "bool_type"
  | floatParsing => "float_parsing"
  | floatType => "float_type"
  | intParsing => "int_parsing"
  | intParsingSize => "int_parsing_size"
  | intFromFloat => "int_from_float"
  | intType => "int_type"
  | finiteNumber => "finite_number"
  | modelType => "model_type"

/-- The wording of the reason. -/
def message : ConversionError → Text
  | stringType => "Input should be a valid string"
  | stringUnicode =>
    "Input should be a valid string, unable to parse raw data as a unicode string"
  | boolParsing => "Input should be a valid boolean, unable to interpret input"
  | boolType => "Input should be a valid boolean"
  | floatParsing => "Input should be a valid number, unable to parse string as a number"
  | floatType => "Input should be a valid number"
  | intParsing => "Input should be a valid integer, unable to parse string as an integer"
  | intParsingSize => "Unable to parse input string as an integer, exceeded maximum size"
  | intFromFloat => "Input should be a valid integer, got a number with a fractional part"
  | intType => "Input should be a valid integer"
  | finiteNumber => "Input should be a finite number"
  | modelType => "Input should be a valid dictionary or instance of RavenDBSettings"

end ConversionError

namespace Value

/-- The text of well-formed UTF-8. -/
def utf8Text? (bytes : Bytes) : Option Text :=
  (Utf8.readPieces (Utf8.pieces Utf8.firstPiece bytes)).toOption

/-- A text stands for itself, and bytes that can be changed or not for the text of their UTF-8. -/
def toSettingText : Value → Except ConversionError Text
  | text t => .ok t
  | bytes .memoryview _ => .error .stringType
  | bytes _ b =>
    match utf8Text? b with
    | some t => .ok t
    | Option.none => .error .stringUnicode
  | _ => .error .stringType

/-- The text that a truth value or a number may be written in: one without surrogates, or the UTF-8
of one. A value of another kind has none; bytes of no text are malformed. -/
def writtenText? (malformed : ConversionError) : Value → Option (Except ConversionError Text)
  | text t => some (if t.isScalar then .ok t else .error .stringUnicode)
  | bytes .bytes b =>
    some (match utf8Text? b with
      | some t => .ok t
      | Option.none => .error malformed)
  | _ => Option.none

/-- The spellings of true. -/
def trueWords : List Text := ["1", "t", "true", "on", "y", "yes"].map Text.ofString

/-- The spellings of false. -/
def falseWords : List Text := ["0", "f", "false", "off", "n", "no"].map Text.ofString

/-- The truth value that a word stands for in any case. -/
def readBool (t : Text) : Except ConversionError Bool :=
  let word := t.toLowerAscii
  if trueWords.contains word then .ok true
  else if falseWords.contains word then .ok false
  else .error .boolParsing

/-- The bound of the integers of one machine word. -/
def wordBound : Int := 0x8000000000000000

/-- The integer of one machine word that a number is; the least of them is no float. -/
def wordInt? : Value → Option Int
  | int i => if -wordBound ≤ i ∧ i < wordBound then some i else Option.none
  | float x =>
    x.toInt?.bind fun i => if -wordBound < i ∧ i < wordBound then some i else Option.none
  | _ => Option.none

/-- A truth value, a word for one, or a zero or one. -/
def toSettingBool (v : Value) : Except ConversionError Bool :=
  match v, writtenText? .boolParsing v, wordInt? v with
  | bool b, _, _ => .ok b
  | _, some written, _ => written.bind readBool
  | _, Option.none, some i =>
    if i = 0 then .ok false else if i = 1 then .ok true else .error .boolParsing
  | _, Option.none, Option.none => .error .boolType

/-- The integer that a text writes. -/
def readSettingInt (t : Text) : Except ConversionError Int :=
  (NumberText.readInt t).mapError fun
    | .malformed => .intParsing
    | .tooLong => .intParsingSize

/-- An integer, a numeral of limited length, or a number without a fraction. -/
def toSettingInt : Value → Except ConversionError Int
  | bool b => .ok (if b then 1 else 0)
  | int i => .ok i
  | float x =>
    if !x.isFinite then .error .finiteNumber
    else
      match x.toInt? with
      | some i => if -wordBound < i ∧ i < wordBound then .ok i else .error .intParsingSize
      | Option.none => .error .intFromFloat
  | v =>
    match writtenText? .intParsing v with
    | some written => written.bind readSettingInt
    | Option.none => .error .intType

/-- The number that a text writes. -/
def readSettingFloat (t : Text) : Except ConversionError Binary64 :=
  match NumberText.readFloat? t with
  | some x => .ok x
  | Option.none => .error .floatParsing

/-- A number, or a decimal as a text. An integer that is too large is no number of this type. -/
def toSettingFloat : Value → Except ConversionError Binary64
  | bool b => .ok (Binary64.ofInt (if b then 1 else 0))
  | int i =>
    let x := Binary64.ofInt i
    if x.isFinite then .ok x else .error .floatType
  | float x => .ok x
  | v =>
    match writtenText? .floatParsing v with
    | some written => written.bind readSettingFloat
    | Option.none => .error .floatType

end Value

end RavenBinding
