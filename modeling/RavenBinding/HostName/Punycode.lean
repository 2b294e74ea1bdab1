import RavenBinding.Text.Basic

/-!
# Punycode

A text as ASCII characters: first those of its code points that are ASCII, then the others as a
list of steps. Going through all pairs of a code point and a place in the text, by code points first,
each step leads from one code point that is to be put in to the next. Steps are numbers with digits
of base 36 whose weights adapt to the steps before.

## Main definitions

- `Punycode.encode`, `Punycode.decode?`: the two directions
-/

namespace RavenBinding

namespace Punycode

/-- The digit of a number below 36. -/
def digit (n : Nat) : CodePoint :=
  CodePoint.ofNat (if n < 26 then 0x61 + n else 0x30 + (n - 26))

/-- The value of a digit. -/
def digitValue? (c : CodePoint) : Option Nat :=
  if c.isDigit then some (c.val - 0x30 + 26)
  else if c.isLetter then some (c.toLowerAscii.val - 0x61)
  else none

/-- The digits from this value on have another digit behind them; `place` is 36 for the first digit
and 36 more for each further one. -/
def threshold (place bias : Nat) : Nat :=
  if place ≤ bias then 1 else if bias + 26 ≤ place then 26 else place - bias

/-- Work of `adapt`. -/
def adaptLoop (delta divisions : Nat) : Nat × Nat :=
  if 455 < delta then adaptLoop (delta / 35) (divisions + 36) else (delta, divisions)
termination_by delta
decreasing_by omega

/-- The bias after a step: the steps before were about as great as this one. -/
def adapt (delta length : Nat) (first : Bool) : Nat :=
  let damped := if first then delta / 700 else delta / 2
  let (rest, divisions) := adaptLoop (damped + damped / length) 0
  divisions + 36 * rest / (rest + 38)

/-- Work of `stepDigits`; a number has fewer digits than it counts. -/
def stepDigitsLoop (digits place bias n : Nat) : Text :=
  let t := threshold place bias
  match digits with
  | 0 => [digit n]
  | digits + 1 =>
    if n < t then [digit n]
    else digit (t + (n - t) % (36 - t))
      :: stepDigitsLoop digits (place + 36) bias ((n - t) / (36 - t))

/-- The digits of a step. -/
def stepDigits (bias n : Nat) : Text := stepDigitsLoop n 36 bias n

/-- Where encoding stands: the code point that comes next at the earliest, the step so far, and how
many code points are written. -/
structure Encoder where
  next : Nat := 0x80
  delta : Nat := 0
  bias : Nat := 72
  written : Nat
  isFirst : Bool := true
  /-- The digits so far, reversed. -/
  digits : Text := []

/-- Goes through the places of a text for one code point. -/
def Encoder.scan (point : Nat) (e : Encoder) (c : CodePoint) : Encoder :=
  if c.val < point then { e with delta := e.delta + 1 }
  else if c.val = point then
    { e with
      digits := (stepDigits e.bias e.delta).reverse ++ e.digits
      bias := adapt e.delta (e.written + 1) e.isFirst
      delta := 0
      written := e.written + 1
      isFirst := false }
  else e

/-- Goes through the places of a text for the given code points in ascending order. -/
def Encoder.run (t : Text) (e : Encoder) (points : List Nat) : Encoder :=
  points.foldl (fun e point =>
    let e := { e with delta := e.delta + (point - e.next) * (e.written + 1) }
    let e := t.foldl (Encoder.scan point) e
    { e with delta := e.delta + 1, next := point + 1 }) e

/-- The code points of a text that are not ASCII, in ascending order. -/
def points (t : Text) : List Nat :=
  (((t.filter fun c => !c.isAscii).map Fin.val).mergeSort (· ≤ ·)).eraseDups

/-- A text in ASCII. -/
def encode (t : Text) : Text :=
  let basic := t.filter CodePoint.isAscii
  let encoder : Encoder := { written := basic.length }
  let digits := (encoder.run t (points t)).digits.reverse
  if basic.isEmpty then digits else basic ++ CodePoint.ofChar '-' :: digits

/-- Reads a step: its number, and what follows it. -/
def readStep? (bias place weight n : Nat) : Text → Option (Nat × Text)
  | [] => none
  | c :: rest =>
    match digitValue? c with
    | none => none
    | some d =>
      let t := threshold place bias
      if d < t then some (n + d * weight, rest)
      else readStep? bias (place + 36) (weight * (36 - t)) (n + d * weight) rest

/-- Where decoding stands: the last code point and the place behind it. -/
structure Decoder where
  text : Text
  point : Nat := 0x80
  place : Nat := 0
  bias : Nat := 72
  isFirst : Bool := true

/-- Takes a step: puts in the code point that it leads to. -/
def Decoder.take? (d : Decoder) (delta : Nat) : Option Decoder :=
  let places := d.text.length + 1
  let reached := d.place + delta
  let point := d.point + reached / places
  let place := reached % places
  if 0x10FFFF < point then none
  else some
    { text := d.text.take place ++ CodePoint.ofNat point :: d.text.drop place
      point := point
      place := place + 1
      bias := adapt delta places d.isFirst
      isFirst := false }

/-- Takes all steps; there are at most as many as digits. -/
def Decoder.run? (steps : Nat) (d : Decoder) (t : Text) : Option Text :=
  match steps, t with
  | _, [] => some d.text
  | 0, _ :: _ => none
  | steps + 1, t => do
    let (delta, rest) ← readStep? d.bias 36 1 0 t
    let d ← d.take? delta
    d.run? steps rest

/-- The text that was encoded. The last hyphen divides the ASCII characters from the steps. -/
def decode? (t : Text) : Option Text :=
  match Text.cutLast (CodePoint.ofChar '-') t with
  | (none, digits) => Decoder.run? t.length { text := [] } digits
  | (some basic, digits) => Decoder.run? t.length { text := basic } digits

end Punycode

end RavenBinding
