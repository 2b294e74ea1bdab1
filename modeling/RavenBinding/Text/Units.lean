import RavenBinding.Text.Coding

/-!
# Texts in two and four byte units

A body may come in UTF-16 or UTF-32 of either byte order. Surrogates without a partner are let
pass; bytes that do not fill a unit, and numbers that are no code points, are refused.

## Main definitions

- `Units.joinPairs`: code points of a sequence of UTF-16 units
- `Units.decode16`, `Units.decode32`: the strict readers
- `Units.replacing16`, `Units.replacing32`: readers that put U+FFFD for what is no character
-/

namespace RavenBinding

namespace Units

/-- The order of bytes in a unit. -/
inductive ByteOrder where
  | little
  | big
  deriving DecidableEq, Repr

/-- The code point above U+FFFF of a surrogate pair. -/
def pair (high low : CodePoint) : CodePoint :=
  CodePoint.ofNat (0x10000 + (high.val - 0xD800) * 0x400 + (low.val - 0xDC00))

/-- The first half of the pair for a code point above U+FFFF. -/
def highHalf (c : CodePoint) : Nat := 0xD800 + (c.val - 0x10000) / 0x400

/-- The second half of the pair for a code point above U+FFFF. -/
def lowHalf (c : CodePoint) : Nat := 0xDC00 + (c.val - 0x10000) % 0x400

/-- Work of `joinPairs`: `text` holds what was read, reversed; an open high surrogate is its
head. -/
def joinPairsLoop : Text → Text → Text
  | [], text => text.reverse
  | u :: rest, high :: text =>
    if high.isHighSurrogate && u.isLowSurrogate then joinPairsLoop rest (pair high u :: text)
    else joinPairsLoop rest (u :: high :: text)
  | u :: rest, [] => joinPairsLoop rest [u]

/-- Replaces each surrogate pair in a sequence of units by its code point. -/
def joinPairs (units : Text) : Text := joinPairsLoop units []

/-- The value of a two byte unit. -/
def unit16 : ByteOrder → UInt8 → UInt8 → Nat
  | .little, a, b => a.toNat + b.toNat * 0x100
  | .big, a, b => a.toNat * 0x100 + b.toNat

/-- The value of a four byte unit. -/
def unit32 : ByteOrder → UInt8 → UInt8 → UInt8 → UInt8 → Nat
  | .little, a, b, c, d => a.toNat + b.toNat * 0x100 + c.toNat * 0x10000 + d.toNat * 0x1000000
  | .big, a, b, c, d => a.toNat * 0x1000000 + b.toNat * 0x10000 + c.toNat * 0x100 + d.toNat

/-- The name under which errors of two byte units are reported. -/
def encoding16 : ByteOrder → BodyEncoding
  | .little => .utf16le
  | .big => .utf16be

/-- The name under which errors of four byte units are reported. -/
def encoding32 : ByteOrder → BodyEncoding
  | .little => .utf32le
  | .big => .utf32be

/-- Reads two byte units; `position` bytes came before. -/
def decode16Loop (order : ByteOrder) (position : Nat) (units : Text) :
    Bytes → Except DecodeError Text
  | [] => .ok (joinPairs units.reverse)
  | [a] => .error ⟨encoding16 order, a, position, position + 1, .truncated⟩
  | a :: b :: rest =>
    decode16Loop order (position + 2) (CodePoint.ofNat (unit16 order a b) :: units) rest

/-- Reads UTF-16 after `position` bytes of byte order mark. -/
def decode16 (order : ByteOrder) (position : Nat) (bytes : Bytes) : Except DecodeError Text :=
  decode16Loop order position [] bytes

/-- Reads four byte units; `position` bytes came before. -/
def decode32Loop (order : ByteOrder) (position : Nat) (text : Text) :
    Bytes → Except DecodeError Text
  | [] => .ok text.reverse
  | a :: b :: c :: d :: rest =>
    if unit32 order a b c d < 0x110000 then
      decode32Loop order (position + 4) (CodePoint.ofNat (unit32 order a b c d) :: text) rest
    else .error ⟨encoding32 order, a, position, position + 4, .outOfRange⟩
  | a :: rest =>
    .error ⟨encoding32 order, a, position, position + 1 + rest.length, .truncated⟩

/-- Reads UTF-32 after `position` bytes of byte order mark. -/
def decode32 (order : ByteOrder) (position : Nat) (bytes : Bytes) : Except DecodeError Text :=
  decode32Loop order position [] bytes

/-- The two byte units of some bytes, and whether a byte is left over. -/
def units16 (order : ByteOrder) (found : Text) : Bytes → Text × Bool
  | [] => (found.reverse, false)
  | [_] => (found.reverse, true)
  | a :: b :: rest => units16 order (CodePoint.ofNat (unit16 order a b) :: found) rest

/-- Joins surrogate pairs and replaces surrogates without a partner; `text` holds what was read,
reversed. A first half at the end takes a byte that is left over with it. -/
def joinReplacing (left : Bool) (text : Text) : Text → Text
  | [] => (if left then CodePoint.replacement :: text else text).reverse
  | [u] =>
    if u.isHighSurrogate then (CodePoint.replacement :: text).reverse
    else joinReplacing left ((if u.isLowSurrogate then CodePoint.replacement else u) :: text) []
  | u :: v :: rest =>
    if u.isHighSurrogate && v.isLowSurrogate then joinReplacing left (pair u v :: text) rest
    else
      joinReplacing left ((if u.isSurrogate then CodePoint.replacement else u) :: text) (v :: rest)

/-- Reads UTF-16, with U+FFFD for what is no character. -/
def replacing16 (order : ByteOrder) (bytes : Bytes) : Text :=
  let (units, left) := units16 order [] bytes
  joinReplacing left [] units

/-- The character of a four byte unit, or U+FFFD. -/
def scalar32 (n : Nat) : CodePoint :=
  let c := CodePoint.ofNat n
  if c.isSurrogate then CodePoint.replacement else c

/-- Reads UTF-32, with U+FFFD for what is no character; `text` holds what was read, reversed. -/
def replacing32Loop (order : ByteOrder) (text : Text) : Bytes → Text
  | [] => text.reverse
  | a :: b :: c :: d :: rest => replacing32Loop order (scalar32 (unit32 order a b c d) :: text) rest
  | _ => (CodePoint.replacement :: text).reverse

/-- Reads UTF-32, with U+FFFD for what is no character. -/
def replacing32 (order : ByteOrder) (bytes : Bytes) : Text := replacing32Loop order [] bytes

end Units

end RavenBinding
