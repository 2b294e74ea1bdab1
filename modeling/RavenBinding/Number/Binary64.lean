/-!
# Binary floating point numbers of 64 bits

A number is kept by its three fields, so that every value of the type is one bit pattern and all
arithmetic on it is exact arithmetic on natural numbers. A ratio is rounded to the nearest number,
and a tie goes to the even significand.

## Main definitions

- `Binary64`: sign, biased exponent and fraction
- `Binary64.ofRatio`, `Binary64.ofDecimal`, `Binary64.ofInt`: correctly rounded conversions
- `Binary64.toInt?`, `Binary64.equal`: comparison by value
-/

namespace RavenBinding

/-- A binary floating point number: sign, exponent with bias 1023, and fraction. -/
structure Binary64 where
  negative : Bool
  exponent : Fin 2048
  fraction : Fin 0x10000000000000
  deriving DecidableEq, Repr

/-- The quotient rounded to the nearest integer; a tie goes to the even one. -/
def roundDiv (num den : Nat) : Nat :=
  let q := num / den
  let r := num % den
  if 2 * r < den then q
  else if den < 2 * r then q + 1
  else if q % 2 = 0 then q else q + 1

namespace Binary64

/-- Zero of either sign. -/
def zero (negative : Bool) : Binary64 := ⟨negative, 0, 0⟩

/-- Infinity of either sign. -/
def infinity (negative : Bool) : Binary64 := ⟨negative, 2047, 0⟩

/-- What is not a number. -/
def nan : Binary64 := ⟨false, 2047, 0x8000000000000⟩

/-- Not a number. -/
def isNan (x : Binary64) : Bool := x.exponent = 2047 && x.fraction != 0

/-- Infinite. -/
def isInfinite (x : Binary64) : Bool := x.exponent = 2047 && x.fraction = 0

/-- Neither infinite nor not a number. -/
def isFinite (x : Binary64) : Bool := x.exponent != 2047

/-- Zero of either sign. -/
def isZero (x : Binary64) : Bool := x.exponent = 0 && x.fraction = 0

/-- The integer significand of a finite number, with the leading bit of a normal one. -/
def significand (x : Binary64) : Nat :=
  if x.exponent = 0 then x.fraction.val else x.fraction.val + 0x10000000000000

/-- The power of two that the significand is a multiple of. -/
def scale (x : Binary64) : Int := (max x.exponent.val 1 : Nat) - 1075

/-- The magnitude of a finite number as a ratio. -/
def ratio (x : Binary64) : Nat × Nat :=
  if 0 ≤ x.scale then (x.significand * Nat.pow 2 x.scale.toNat, 1)
  else (x.significand, Nat.pow 2 (-x.scale).toNat)

/-- The number with a given sign, significand and scale, infinity if it is out of range. The
significand is at most `2 ^ 53`, and below `2 ^ 52` only at the least scale. -/
def ofScaled (negative : Bool) (significand : Nat) (scale : Int) : Binary64 :=
  let (significand, scale) :=
    if significand = 0x20000000000000 then (0x10000000000000, scale + 1) else (significand, scale)
  if scale + 1075 ≥ 2047 then infinity negative
  else if significand < 0x10000000000000 then ⟨negative, 0, Fin.ofNat _ significand⟩
  else ⟨negative, Fin.ofNat _ (scale + 1075).toNat, Fin.ofNat _ (significand - 0x10000000000000)⟩

/-- The ratio with a power of two divided out. -/
def scaledRatio (num den : Nat) (scale : Int) : Nat × Nat :=
  if 0 ≤ scale then (num, den * Nat.pow 2 scale.toNat) else (num * Nat.pow 2 (-scale).toNat, den)

/-- The number nearest to a ratio with the given sign. -/
def ofRatio (negative : Bool) (num den : Nat) : Binary64 :=
  if num = 0 then zero negative
  else
    let low : Int := max ((num.log2 : Int) - den.log2 - 53) (-1074)
    let (n, d) := scaledRatio num den low
    if n / d < 0x20000000000000 then ofScaled negative (roundDiv n d) low
    else
      let (n, d) := scaledRatio num den (low + 1)
      ofScaled negative (roundDiv n d) (low + 1)

/-- The number nearest to `coefficient * 10 ^ exponent` with the given sign. -/
def ofDecimal (negative : Bool) (coefficient : Nat) (exponent : Int) : Binary64 :=
  if coefficient = 0 then zero negative
  else if 400 < exponent then infinity negative
  else if exponent < -400 - (coefficient.log2 : Int) then zero negative
  else if 0 ≤ exponent then ofRatio negative (coefficient * Nat.pow 10 exponent.toNat) 1
  else ofRatio negative coefficient (Nat.pow 10 (-exponent).toNat)

/-- The number nearest to an integer; infinity if the integer is too large. -/
def ofInt (i : Int) : Binary64 := ofRatio (i < 0) i.natAbs 1

/-- The value as an integer, if it is one. -/
def toInt? (x : Binary64) : Option Int :=
  if x.isFinite then
    let (num, den) := x.ratio
    if num % den = 0 then
      some (if x.negative then -((num / den : Nat) : Int) else ((num / den : Nat) : Int))
    else none
  else none

/-- Equality of values: both zeros are equal, and what is not a number equals nothing. -/
def equal (x y : Binary64) : Bool :=
  if x.isNan || y.isNan then false
  else if x.isZero && y.isZero then true
  else x = y

end Binary64

end RavenBinding
