import RavenBinding.Text.Utf8

/-!
# Percent encoding

A component of a URL is written in ASCII: what is not allowed in it becomes the bytes of its UTF-8
encoding, each as a percent sign and two digits.

## Main definitions

- `Percent.encodeSegment`: one segment of a path, in which only unreserved characters stay
- `Percent.encodeComponent`: a component that may hold escapes already
- `Percent.decodeBytes`: the bytes that an encoded text stands for
-/

namespace RavenBinding

namespace Percent

/-- Letters, digits and the four marks that never need encoding. -/
def isUnreserved (c : CodePoint) : Bool :=
  c.isLetter || c.isDigit || c.val = 0x2D || c.val = 0x2E || c.val = 0x5F || c.val = 0x7E

/-- A byte as a percent sign and two upper-case digits. -/
def encodeByte (b : UInt8) : Text :=
  [CodePoint.ofChar '%', CodePoint.hexDigitUpper (b.toNat / 16),
    CodePoint.hexDigitUpper (b.toNat % 16)]

/-- A byte of a path segment. -/
def encodeSegmentByte (b : UInt8) : Text :=
  let c := CodePoint.ofNat b.toNat
  if isUnreserved c then [c] else encodeByte b

/-- A text as one segment of a path; the slash is encoded too. -/
def encodeSegment (t : Text) : Except EncodeError Text := do
  let bytes ← Utf8.encode t
  pure (bytes.flatMap encodeSegmentByte)

/-- A code point of a component: as it is if it is allowed, encoded if not. -/
def encodeUnless (safe : CodePoint → Bool) (c : CodePoint) : Text :=
  if isUnreserved c || safe c then [c] else (Utf8.encodeOne c).flatMap encodeByte

/-- A text as a component of a URL. A surrogate has no encoding; it is reported by itself, wherever
it stands. -/
def encodeComponent (safe : CodePoint → Bool) (t : Text) : Except EncodeError Text :=
  match t.find? CodePoint.isSurrogate with
  | some c => .error ⟨.utf8, c, 0, 1⟩
  | none => .ok (t.flatMap (encodeUnless safe))

/-- The bytes of an ASCII text with escapes; a percent sign without two digits stands for itself. -/
def decodeBytesLoop (found : Bytes) : Text → Bytes
  | [] => found.reverse
  | [c] => decodeBytesLoop (UInt8.ofNat c.val :: found) []
  | [c, d] => decodeBytesLoop (UInt8.ofNat c.val :: found) [d]
  | c :: d :: e :: rest =>
    if c == CodePoint.ofChar '%' then
      match d.hexValue?, e.hexValue? with
      | some m, some n => decodeBytesLoop (UInt8.ofNat (16 * m + n) :: found) rest
      | _, _ => decodeBytesLoop (UInt8.ofNat c.val :: found) (d :: e :: rest)
    else decodeBytesLoop (UInt8.ofNat c.val :: found) (d :: e :: rest)

/-- The bytes that an ASCII text with escapes stands for. -/
def decodeBytes (t : Text) : Bytes := decodeBytesLoop [] t

/-- The text that an ASCII text with escapes stands for, with U+FFFD for what is no UTF-8. -/
def decode (t : Text) : Text := Utf8.decodeReplacing (decodeBytes t)

end Percent

end RavenBinding
