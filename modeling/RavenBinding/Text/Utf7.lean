import RavenBinding.Text.Units

/-!
# UTF-7

In UTF-7, ASCII characters stand for themselves. A plus sign begins a run of digits in base 64, whose
bits are units of UTF-16, and a minus sign ends the run.

## Main definitions

- `Utf7.decodeReplacing`: reading, with U+FFFD for what is out of order
-/

namespace RavenBinding

namespace Utf7

/-- The value of a digit in base 64. -/
def digit? (b : UInt8) : Option Nat :=
  let n := b.toNat
  if 0x41 ≤ n && n ≤ 0x5A then some (n - 0x41)
  else if 0x61 ≤ n && n ≤ 0x7A then some (n - 0x61 + 26)
  else if 0x30 ≤ n && n ≤ 0x39 then some (n - 0x30 + 52)
  else if n = 0x2B then some 62
  else if n = 0x2F then some 63
  else none

/-- A run of digits: the bits that make no unit yet, their number, and an open first half of a
pair. -/
structure Run where
  bits : Nat := 0
  width : Nat := 0
  high : Option CodePoint := none

/-- A run with one more digit, and the characters that are complete; `text` is reversed. -/
def Run.push (run : Run) (text : Text) (digit : Nat) : Run × Text :=
  let bits := run.bits * 64 + digit
  let width := run.width + 6
  if width < 16 then ({ run with bits := bits, width := width }, text)
  else
    let room := Nat.pow 2 (width - 16)
    let unit := CodePoint.ofNat (bits / room)
    let rest : Run := { bits := bits % room, width := width - 16 }
    match run.high with
    | some high =>
      if unit.isLowSurrogate then (rest, Units.pair high unit :: text)
      else if unit.isHighSurrogate then ({ rest with high := some unit }, high :: text)
      else (rest, unit :: high :: text)
    | none =>
      if unit.isHighSurrogate then ({ rest with high := some unit }, text)
      else (rest, unit :: text)

/-- A run may not end here: a digit too many is there, or bits that are not zero. -/
def Run.isOpen (run : Run) : Bool := 6 ≤ run.width || (0 < run.width && run.bits ≠ 0)

/-- Reads bytes outside of runs, or in one; `text` holds what was read, reversed. -/
def decodeLoop (text : Text) : Option Run → Bytes → Text
  | none, [] => text.reverse
  | some run, [] =>
    (if run.high.isSome || run.isOpen then CodePoint.replacement :: text else text).reverse
  | none, b :: rest =>
    if b.toNat = 0x2B then
      match rest with
      | [] => decodeLoop text (some {}) []
      | c :: after =>
        if c.toNat = 0x2D then decodeLoop (CodePoint.ofChar '+' :: text) none after
        else if (digit? c).isNone then decodeLoop (CodePoint.replacement :: text) none after
        else decodeLoop text (some {}) (c :: after)
    else if b.toNat < 0x80 then decodeLoop (CodePoint.ofNat b.toNat :: text) none rest
    else decodeLoop (CodePoint.replacement :: text) none rest
  | some run, b :: rest =>
    match digit? b with
    | some digit =>
      let (run, text) := run.push text digit
      decodeLoop text (some run) rest
    | none =>
      if run.isOpen then decodeLoop (CodePoint.replacement :: text) none rest
      else
        let text := match run.high with
          | some high => if b.toNat < 0x80 then high :: text else text
          | none => text
        if b.toNat = 0x2D then decodeLoop text none rest
        else if b.toNat < 0x80 then decodeLoop (CodePoint.ofNat b.toNat :: text) none rest
        else decodeLoop (CodePoint.replacement :: text) none rest

/-- The text of some bytes, with U+FFFD for what is out of order. -/
def decodeReplacing (bytes : Bytes) : Text := decodeLoop [] none bytes

end Utf7

end RavenBinding
