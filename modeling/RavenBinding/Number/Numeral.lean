import RavenBinding.Number.Binary64
import RavenBinding.Text.Digit

/-!
# Reading numerals

Integers and decimals are read from texts with white space around them, a sign, and single
underscores between digits. The stricter form of a decimal has ASCII digits and nothing else.

## Main definitions

- `Numeral.digits?`: a run of digits with single underscores between them
- `Numeral.readInt?`: an integer in the digits of any script
- `Numeral.float?`: a number with fraction and exponent, by a reader of digits
- `Numeral.readFloat?`: a number in the digits of any script
-/

namespace RavenBinding

namespace Numeral

/-- The value of an ASCII digit. -/
def asciiDigit? (c : CodePoint) : Option Nat :=
  if c.isDigit then some (c.val - 0x30) else none

/-- The number with the given decimal digits, the first one leading. -/
def ofDigits (digits : List Nat) : Nat := digits.foldl (fun n d => 10 * n + d) 0

/-- Work of `digits?`: `afterDigit` tells whether an underscore may follow. -/
def digitsLoop (digit? : CodePoint → Option Nat) (afterDigit : Bool) (found : List Nat) :
    Text → Option (List Nat)
  | [] => if afterDigit then some found.reverse else none
  | c :: rest =>
    match digit? c with
    | some d => digitsLoop digit? true (d :: found) rest
    | none =>
      if c == CodePoint.ofChar '_' && afterDigit then digitsLoop digit? false found rest
      else none

/-- The digits of a text that is made of digits and single underscores between them. -/
def digits? (digit? : CodePoint → Option Nat) (t : Text) : Option (List Nat) :=
  digitsLoop digit? false [] t

/-- Splits a sign off; the first part says whether it was a minus. -/
def sign : Text → Bool × Text
  | [] => (false, [])
  | c :: rest =>
    if c == CodePoint.ofChar '-' then (true, rest)
    else if c == CodePoint.ofChar '+' then (false, rest)
    else (false, c :: rest)

/-- The greatest number of digits of an integer that is read or written. -/
def maxDigits : Nat := 4300

/-- An integer in the digits of any script with white space around it; more digits than `maxDigits`
are refused. -/
def readInt? (t : Text) : Option Int :=
  let (negative, body) := sign (t.trim CodePoint.isBlank)
  match digits? CodePoint.digitValue? body with
  | none => none
  | some ds =>
    if maxDigits < ds.length then none
    else some (if negative then -(ofDigits ds : Int) else (ofDigits ds : Int))

/-- The digits of a text that is made of ASCII digits alone. -/
def plainDigits? (t : Text) : Option (List Nat) :=
  if t.isEmpty then none else t.mapM asciiDigit?

/-- The digits of any script, with single underscores between them. -/
def spacedDigits? (t : Text) : Option (List Nat) := digits? CodePoint.digitValue? t

/-- The names of what is infinite or not a number, in lower case. -/
def special? (negative : Bool) (body : Text) : Option Binary64 :=
  let name := body.toLowerAscii
  if name == Text.ofString "inf" || name == Text.ofString "infinity" then
    some (Binary64.infinity negative)
  else if name == Text.ofString "nan" then some Binary64.nan
  else none

/-- The exponent that follows a mantissa; without one it is zero. -/
def exponent? (digits? : Text → Option (List Nat)) : Option Text → Option Int
  | none => some 0
  | some t =>
    let (negative, body) := sign t
    (digits? body).map fun ds =>
      if negative then -(ofDigits ds : Int) else (ofDigits ds : Int)

/-- The first `e` of either case divides mantissa and exponent. -/
def cutExponent (t : Text) : Text × Option Text :=
  let isMark (c : CodePoint) := c == CodePoint.ofChar 'e' || c == CodePoint.ofChar 'E'
  match t.dropWhile fun c => !isMark c with
  | [] => (t, none)
  | _ :: rest => (t.takeWhile fun c => !isMark c, some rest)

/-- A decimal without sign: runs of digits with a point somewhere, and an exponent. A run before or
after the point may be missing, but not both. -/
def decimal? (digits? : Text → Option (List Nat)) (negative : Bool) (body : Text) :
    Option Binary64 := do
  let part? (t : Text) : Option (List Nat) := if t.isEmpty then some [] else digits? t
  let (mantissa, exponentText) := cutExponent body
  let (wholeText, partText) := Text.cut (CodePoint.ofChar '.') mantissa
  let whole ← part? wholeText
  let part ← part? (partText.getD [])
  let exponent ← exponent? digits? exponentText
  if whole.isEmpty && part.isEmpty then none
  else some (Binary64.ofDecimal negative (ofDigits (whole ++ part)) (exponent - part.length))

/-- A number with nothing around it, rounded to the nearest one that can be kept; its runs of digits
are read as given. -/
def float? (digits? : Text → Option (List Nat)) (t : Text) : Option Binary64 :=
  let (negative, body) := sign t
  match special? negative body with
  | some x => some x
  | none => decimal? digits? negative body

/-- A number in the digits of any script with white space around it. -/
def readFloat? (t : Text) : Option Binary64 := float? spacedDigits? (t.trim CodePoint.isBlank)

end Numeral

end RavenBinding
