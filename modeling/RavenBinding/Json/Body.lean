import RavenBinding.Json.Parse
import RavenBinding.Text.Utf8

/-!
# JSON bodies

A body comes in UTF-8, UTF-16 or UTF-32. A byte order mark tells which; without one, the zero bytes
among the first ones do.

## Main definitions

- `BodyFormat`, `BodyFormat.detect`: the encoding and its byte order mark
- `BodyError`: why a body holds no value
- `Json.parseBody`: the value of a body
-/

namespace RavenBinding

/-- The encoding of a body, with the byte order mark that it starts with. -/
inductive BodyFormat where
  | utf8 (marked : Bool)
  | utf16 (order : Units.ByteOrder) (marked : Bool)
  | utf32 (order : Units.ByteOrder) (marked : Bool)
  deriving DecidableEq, Repr

namespace BodyFormat

/-- The format that zero bytes among the first four tell. -/
def ofZeros : Bytes → BodyFormat
  | a :: b :: c :: d :: _ =>
    if a = 0 then (if b = 0 then utf32 .big false else utf16 .big false)
    else if b = 0 then (if c = 0 && d = 0 then utf32 .little false else utf16 .little false)
    else utf8 false
  | [a, b] =>
    if a = 0 then utf16 .big false else if b = 0 then utf16 .little false else utf8 false
  | _ => utf8 false

/-- The format of a body. -/
def detect (bytes : Bytes) : BodyFormat :=
  if [0x00, 0x00, 0xFE, 0xFF].isPrefixOf bytes then utf32 .big true
  else if [0xFF, 0xFE, 0x00, 0x00].isPrefixOf bytes then utf32 .little true
  else if [0xFE, 0xFF].isPrefixOf bytes then utf16 .big true
  else if [0xFF, 0xFE].isPrefixOf bytes then utf16 .little true
  else if [0xEF, 0xBB, 0xBF].isPrefixOf bytes then utf8 true
  else ofZeros bytes

/-- The text of a body in the given format, without the byte order mark. -/
def decode (bytes : Bytes) : BodyFormat → Except DecodeError Text
  | utf8 true => Utf8.decode (bytes.drop 3)
  | utf8 false => Utf8.decode bytes
  | utf16 order true => Units.decode16 order 2 (bytes.drop 2)
  | utf16 order false => Units.decode16 order 0 bytes
  | utf32 order true => Units.decode32 order 4 (bytes.drop 4)
  | utf32 order false => Units.decode32 order 0 bytes

end BodyFormat

/-- Why a body holds no value. -/
inductive BodyError where
  | encoding (error : DecodeError)
  | content (error : Json.ParseError)
  deriving DecidableEq, Repr

/-- The wording of the error. -/
def BodyError.message : BodyError → Text
  | encoding error => error.message
  | content error => error.message

/-- The fault that is raised instead of the error, if there is one. -/
def BodyError.fault? : BodyError → Option Fault
  | encoding _ => none
  | content error => error.fault?

/-- The value of a body. -/
def Json.parseBody (bytes : Bytes) : Except BodyError Json :=
  match (BodyFormat.detect bytes).decode bytes with
  | .error error => .error (.encoding error)
  | .ok t =>
    match Json.parse t with
    | .error error => .error (.content error)
    | .ok value => .ok value

end RavenBinding
