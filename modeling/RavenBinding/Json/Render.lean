import RavenBinding.Json.Basic
import RavenBinding.Text.Units

/-!
# JSON text

A JSON value is written without white space between its parts. Texts are written in ASCII with
escapes for all other code points, or with every code point above the controls as it is.

## Main definitions

- `Json.quote`: a text between double quotes
- `Json.render`: the text of a value
-/

namespace RavenBinding

namespace Json

/-- The escape by number of a code point below U+10000. -/
def unitEscape (n : Nat) : Text := Text.ofString "\\u" ++ Text.hex 4 n

/-- The escapes with a letter. -/
def shortEscape? (c : CodePoint) : Option Text :=
  match c.val with
  | 0x22 => some "\\\""
  | 0x5C => some "\\\\"
  | 0x08 => some "\\b"
  | 0x09 => some "\\t"
  | 0x0A => some "\\n"
  | 0x0C => some "\\f"
  | 0x0D => some "\\r"
  | _ => none

/-- A code point inside a text. In ASCII, one above U+FFFF is the escapes of a surrogate pair. -/
def escape (ascii : Bool) (c : CodePoint) : Text :=
  match shortEscape? c with
  | some t => t
  | none =>
    if c.val < 0x20 then unitEscape c.val
    else if ascii && 0x7F ≤ c.val then
      if c.val < 0x10000 then unitEscape c.val
      else unitEscape (Units.highHalf c) ++ unitEscape (Units.lowHalf c)
    else [c]

/-- A text between double quotes. -/
def quote (ascii : Bool) (t : Text) : Text :=
  CodePoint.ofChar '"' :: (t.flatMap (escape ascii) ++ [CodePoint.ofChar '"'])

mutual

/-- The text of a value. -/
def render (ascii : Bool) : Json → Text
  | null => "null"
  | bool b => if b then "true" else "false"
  | int i => Text.ofInt i
  | float x => x.text .json
  | text t => quote ascii t
  | array items => CodePoint.ofChar '[' :: (renderItems ascii true items ++ [CodePoint.ofChar ']'])
  | object members =>
    CodePoint.ofChar '{' :: (renderMembers ascii true members ++ [CodePoint.ofChar '}'])

/-- The texts of items, each but the first after a comma. -/
def renderItems (ascii : Bool) (first : Bool) : List Json → Text
  | [] => []
  | x :: xs =>
    (if first then [] else [CodePoint.ofChar ',']) ++ render ascii x ++ renderItems ascii false xs

/-- The texts of members, each but the first after a comma. -/
def renderMembers (ascii : Bool) (first : Bool) : List (Text × Json) → Text
  | [] => []
  | (k, v) :: rest =>
    (if first then [] else [CodePoint.ofChar ',']) ++ quote ascii k ++ [CodePoint.ofChar ':']
      ++ render ascii v ++ renderMembers ascii false rest

end

end Json

end RavenBinding
