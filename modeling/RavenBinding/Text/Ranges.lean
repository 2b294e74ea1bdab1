import RavenBinding.Text.Basic

/-!
# Sets of code points given by ranges

Properties of code points are tables of ranges in ascending order. Looking up stops at the first
range that does not end before the code point.

## Main definitions

- `inRanges`: membership
- `SteppedRange`, `SteppedRange.anyHolds`: ranges in which not every code point counts
- `CaseRun`, `CaseRun.find?`: runs of code points that a case mapping moves by the same distance
-/

namespace RavenBinding

/-- The range in an ascending list that holds `n`. -/
def rangeOf? (n : Nat) : List (Nat × Nat) → Option (Nat × Nat)
  | [] => none
  | (first, last) :: rest =>
    if n < first then none else if n ≤ last then some (first, last) else rangeOf? n rest

/-- Whether one of the ranges of an ascending list holds `n`. -/
def inRanges (n : Nat) (ranges : List (Nat × Nat)) : Bool := (rangeOf? n ranges).isSome

/-- Every `step`-th code point from `first` to `last`. -/
structure SteppedRange where
  first : Nat
  last : Nat
  step : Nat

/-- Whether one of the ranges holds `n`. -/
def SteppedRange.anyHolds (n : Nat) (ranges : List SteppedRange) : Bool :=
  ranges.any fun range =>
    range.first ≤ n && n ≤ range.last && (n - range.first) % range.step = 0

/-- Every `step`-th code point from `first` to `last` is mapped to the one `shift` further. -/
structure CaseRun where
  first : Nat
  last : Nat
  step : Nat
  shift : Int

/-- Where the runs of an ascending list take `n`, if one of them holds it. -/
def CaseRun.find? (n : Nat) : List CaseRun → Option Nat
  | [] => none
  | run :: rest =>
    if n < run.first then none
    else if n ≤ run.last && (n - run.first) % run.step = 0 then some (n + run.shift).toNat
    else CaseRun.find? n rest

end RavenBinding
