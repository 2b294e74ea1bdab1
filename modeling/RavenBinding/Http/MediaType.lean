import RavenBinding.Http.Percent
import RavenBinding.Number.Numeral

/-!
# Parameters of media types

A header that tells a media type may add parameters after semicolons. Their values may stand in
quotes. A long value may be cut into numbered parts, and a part whose name ends with a star holds
escapes, behind the name of a charset and a language.

## Main definitions

- `MediaType.parameter?`: the value of a parameter
- `MediaType.charset?`: the name of the charset
-/

namespace RavenBinding

namespace MediaType

/-- Work of `cut`: `piece` is the open piece, reversed, in which `inQuotes` tells whether a quote is
open, and `pieces` holds the finished ones, reversed. A quote behind a backslash opens and closes
nothing. -/
def cutLoop (piece : Text) (inQuotes : Bool) (pieces : List Text) : Text → List Text
  | [] => (piece.reverse :: pieces).reverse
  | c :: rest =>
    if c == CodePoint.ofChar ';' && !inQuotes then cutLoop [] false (piece.reverse :: pieces) rest
    else
      let isQuote := c == CodePoint.ofChar '"' && piece.head? != some (CodePoint.ofChar '\\')
      cutLoop (c :: piece) (inQuotes != isQuote) pieces rest

/-- The pieces of a header between semicolons that stand outside of quotes. -/
def cut (header : Text) : List Text := cutLoop [] false [] header

/-- A name in lower case and its value, without white space around them. -/
def readPiece (piece : Text) : Text × Text :=
  match Text.cut (CodePoint.ofChar '=') piece with
  | (name, value) =>
    ((name.trim CodePoint.isBlank).toLowerAscii, (value.getD []).trim CodePoint.isBlank)

/-- The text without backslashes that keep a quote or a backslash. -/
def dropBackslashes : Text → Text
  | c :: d :: rest =>
    if c == CodePoint.ofChar '\\' && (d == CodePoint.ofChar '\\' || d == CodePoint.ofChar '"') then
      d :: dropBackslashes rest
    else c :: dropBackslashes (d :: rest)
  | t => t

/-- A value without the quotes or angle brackets around it. -/
def unquote (value : Text) : Text :=
  let inner := (value.drop 1).dropLast
  let standsIn (first last : Char) : Bool :=
    1 < value.length && value.head? = some (CodePoint.ofChar first)
      && value.getLast? = some (CodePoint.ofChar last)
  if standsIn '"' '"' then dropBackslashes inner
  else if standsIn '<' '>' then inner
  else value

/-- A part of a value that is cut. -/
structure Part where
  /-- The number of the part; a value of one part needs none. -/
  number : Option Nat
  value : Text
  /-- The value holds escapes. -/
  isEscaped : Bool

/-- What the name of a part says besides the name of the parameter: its number and whether it holds
escapes. -/
def readPart? (wanted name value : Text) : Option Part :=
  let star := CodePoint.ofChar '*'
  if (wanted ++ [star]).isPrefixOf name then
    match name.drop (wanted.length + 1) with
    | [] => some ⟨none, value, true⟩
    | rest =>
      let isEscaped := rest.getLast? = some star
      let digits := if isEscaped then rest.dropLast else rest
      (Numeral.plainDigits? digits).map fun ds => ⟨some (Numeral.ofDigits ds), value, isEscaped⟩
  else none

/-- A part comes before another one; of one number, the order of the values counts. -/
def Part.le (a b : Part) : Bool :=
  if a.number = b.number then Text.le a.value b.value else a.number.getD 0 ≤ b.number.getD 0

/-- The value of some parts. Escapes are read one byte a character; with escapes, charset and
language come first, each with an apostrophe behind it. -/
def joinParts (parts : List Part) : Text :=
  let bytesText (t : Text) : Text :=
    (Percent.decodeBytes t).map fun b => CodePoint.ofNat b.toNat
  let joined := (parts.mergeSort Part.le).flatMap fun p =>
    if p.isEscaped then bytesText p.value else p.value
  if parts.any Part.isEscaped then
    match Text.cut (CodePoint.ofChar '\'') joined with
    | (_, none) => joined
    | (_, some rest) =>
      match Text.cut (CodePoint.ofChar '\'') rest with
      | (_, none) => joined
      | (_, some value) => value
  else joined

/-- The value of a parameter whose name is given in lower case. What comes before the first semicolon
may be a parameter too, but not a part of one. -/
def parameter? (wanted header : Text) : Option Text :=
  match (cut header).map readPiece with
  | [] => none
  | first :: rest =>
    match (first :: rest).find? fun p => p.1 == wanted with
    | some (_, value) => some (unquote value)
    | none =>
      match rest.filterMap fun p => readPart? wanted p.1 (unquote p.2) with
      | [] => none
      | parts => some (joinParts parts)

/-- The name of the charset; only a name in ASCII counts. -/
def charset? (header : Text) : Option Text :=
  (parameter? (Text.ofString "charset") header).filter Text.isAscii

end MediaType

end RavenBinding
