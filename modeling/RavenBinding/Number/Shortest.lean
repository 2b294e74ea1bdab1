import RavenBinding.Number.Binary64
import RavenBinding.Text.Basic

/-!
# The shortest decimal that reads back

A finite number is written with the fewest significant digits that are read back as the same
number, and with the digits nearest to its value among those.

## Main definitions

- `Decimal`: a coefficient and a power of ten
- `Binary64.shortest`: the decimal that is written
- `FloatNotation`, `Binary64.text`: the layout of the digits
-/

namespace RavenBinding

/-- The number `coefficient * 10 ^ exponent`. -/
structure Decimal where
  coefficient : Nat
  exponent : Int
  deriving DecidableEq, Repr

namespace Binary64

/-- Whether `10 ^ e` is at most the ratio. -/
def powerLe (e : Int) (num den : Nat) : Bool :=
  if 0 ≤ e then den * Nat.pow 10 e.toNat ≤ num else den ≤ num * Nat.pow 10 (-e).toNat

/-- The exponent of the leading decimal digit of a positive ratio. -/
def leadingExponent (num den : Nat) : Int :=
  let guess := ((num.log2 : Int) - den.log2) * 30103 / 100000
  ([guess + 2, guess + 1, guess].find? fun e => powerLe e num den).getD (guess - 1)

/-- The ratio counted in units of `10 ^ e`. -/
def inUnits (e : Int) (num den : Nat) : Nat × Nat :=
  if 0 ≤ e then (num, den * Nat.pow 10 e.toNat) else (num * Nat.pow 10 (-e).toNat, den)

/-- Whether a decimal is read back as the positive number `x`. -/
def readsBack (x : Binary64) (d : Decimal) : Bool :=
  ofDecimal false d.coefficient d.exponent = { x with negative := false }

/-- The decimal in units of `10 ^ e` that is read back as `x`, the nearer one if both neighbours
of the value are, and the even one of two at the same distance. -/
def neighbour? (x : Binary64) (e : Int) : Option Decimal :=
  let (num, den) := inUnits e x.ratio.1 x.ratio.2
  let below : Decimal := ⟨num / den, e⟩
  let above : Decimal := ⟨num / den + 1, e⟩
  match x.readsBack below, x.readsBack above with
  | true, true => some (if roundDiv num den = num / den then below else above)
  | true, false => some below
  | false, true => some above
  | false, false => none

/-- The shortest decimal of a finite number other than zero. Seventeen digits always do. -/
def shortest (x : Binary64) : Decimal :=
  let lead := leadingExponent x.ratio.1 x.ratio.2
  ((List.range 17).findSome? fun (i : Nat) => neighbour? x (lead - i)).getD ⟨0, 0⟩

/-- Where positional notation ends and how exponents are written. -/
structure FloatNotation where
  /-- The least exponent of a leading digit that is written positionally. -/
  leastPositional : Int
  /-- The first larger exponent that is not. -/
  positionalBelow : Int
  /-- The least number of digits of an exponent. -/
  exponentDigits : Nat

/-- Exponents from -4 to 15 are positional, and others have a sign and at least two digits. -/
def FloatNotation.standard : FloatNotation := ⟨-4, 16, 2⟩

/-- The digits of a coefficient without trailing zeros. -/
def Decimal.digits (d : Decimal) : Text :=
  Text.trimRight (· == CodePoint.ofChar '0') (Text.ofNat d.coefficient)

/-- A positive decimal in positional or exponent notation. -/
def FloatNotation.layout (style : FloatNotation) (d : Decimal) : Text :=
  let all := Text.ofNat d.coefficient
  let lead : Int := d.exponent + all.length - 1
  let digits := Decimal.digits d
  let zeros (n : Int) : Text := List.replicate n.toNat (CodePoint.ofChar '0')
  if style.leastPositional ≤ lead && lead < style.positionalBelow then
    if lead < 0 then Text.ofString "0." ++ zeros (-lead - 1) ++ digits
    else
      let whole := digits.take (lead + 1).toNat
      let part := digits.drop (lead + 1).toNat
      whole ++ zeros (lead + 1 - whole.length) ++ Text.ofString "."
        ++ (if part.isEmpty then Text.ofString "0" else part)
  else
    digits.take 1 ++ (if digits.length ≤ 1 then [] else Text.ofString "." ++ digits.drop 1)
      ++ Text.ofString (if lead < 0 then "e-" else "e+")
      ++ Text.padZeros style.exponentDigits (Text.ofNat lead.natAbs)

/-- The spelling of infinity and of what is not a number. -/
structure FloatNames where
  infinity : Text
  nan : Text

/-- The names in quoted texts. -/
def FloatNames.plain : FloatNames := ⟨"inf", "nan"⟩

/-- The names in JSON texts. -/
def FloatNames.json : FloatNames := ⟨"Infinity", "NaN"⟩

/-- The text of a number: its shortest decimal, with the sign of a zero kept. -/
def text (names : FloatNames) (x : Binary64) : Text :=
  if x.isNan then names.nan
  else
    let magnitude :=
      if x.isInfinite then names.infinity
      else if x.isZero then Text.ofString "0.0"
      else FloatNotation.standard.layout x.shortest
    if x.negative then CodePoint.ofChar '-' :: magnitude else magnitude

end Binary64

end RavenBinding
