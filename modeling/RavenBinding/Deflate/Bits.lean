import RavenBinding.Text.Basic

/-!
# Streams of bits

Compressed data are read bit by bit, the lowest bit of each byte first. Reading stops where the bits
run out, or where they break a rule.

## Main definitions

- `Deflate.Problem`: the rules that can be broken
- `Deflate.Reader`, `Deflate.Reader.number`: reading bits
- `Deflate.takeBytes`: reading whole bytes
-/

namespace RavenBinding

namespace Deflate

/-- What is wrong with compressed data. -/
inductive Problem where
  | header
  | method
  | window
  | dictionary
  | headerFlags
  | headerChecksum
  | blockKind
  | storedLength
  | tooManySymbols
  | codeLengths
  | repetition
  | noEnd
  | literalCode
  | distanceCode
  | literal
  | distance
  | tooFarBack
  | checksum
  | length
  deriving DecidableEq, Repr

/-- Why reading stops. -/
inductive Halt where
  /-- The bits run out. -/
  | truncated
  | invalid (problem : Problem)
  deriving DecidableEq, Repr

/-- Bits in the order in which they are read. -/
abbrev Bits := List Bool

/-- Readers of bits. -/
abbrev Reader := StateT Bits (Except Halt)

/-- The bits of a byte. -/
def bitsOfByte (b : UInt8) : Bits := (List.range 8).map fun i => b.toNat.testBit i

/-- The bits of a byte string. -/
def bitsOf (bytes : Bytes) : Bits := bytes.flatMap bitsOfByte

/-- The number of some bits, the lowest one first. -/
def numberOf (bits : Bits) : Nat := bits.foldr (fun b n => b.toNat + 2 * n) 0

/-- The bits up to the next byte are left out; those of whole bytes follow. -/
def alignToByte (bits : Bits) : Bits := bits.drop (bits.length % 8)

/-- Work of `takeBytes`: `found` holds the bytes so far. -/
def takeBytesLoop (found : Array UInt8) : Nat → Bits → Array UInt8 × Bits
  | n + 1, a :: b :: c :: d :: e :: f :: g :: h :: rest =>
    takeBytesLoop (found.push (UInt8.ofNat (numberOf [a, b, c, d, e, f, g, h]))) n rest
  | _, rest => (found, rest)

/-- Appends at most `n` bytes of the bits to some bytes. -/
def takeBytes (found : Array UInt8) (n : Nat) (bits : Bits) : Array UInt8 × Bits :=
  takeBytesLoop found n bits

namespace Reader

/-- Stops for a reason. -/
def stop {α : Type} (halt : Halt) : Reader α := fun _ => .error halt

/-- Stops because a rule is broken. -/
def refuse {α : Type} (problem : Problem) : Reader α := stop (.invalid problem)

/-- The next bit. -/
def bit : Reader Bool := fun bits =>
  match bits with
  | [] => .error .truncated
  | b :: rest => .ok (b, rest)

/-- Work of `number`: `value` is the number of the bits so far, and `weight` that of the next bit. -/
def numberLoop (weight value : Nat) : Nat → Reader Nat
  | 0 => pure value
  | n + 1 => do
    let b ← bit
    numberLoop (2 * weight) (value + weight * b.toNat) n

/-- The number of the next bits. -/
def number (width : Nat) : Reader Nat := numberLoop 1 0 width

/-- Leaves out the bits up to the next byte. -/
def align : Reader Unit := fun bits => .ok ((), alignToByte bits)

end Reader

end Deflate

end RavenBinding
