/-!
# Text

A text is a list of code points. Lone surrogates are allowed, because keys, field names and
stored documents may hold them, and only some encodings refuse them.

## Main definitions

- `CodePoint`, `Text`, `Bytes`: the alphabets of keys, documents and wire data
- `Text.ofString`, `Text.ofNat`, `Text.ofInt`: literals and decimal numerals
- `Text.splitOn`, `Text.join`, `Text.trim`: cutting and joining
-/

namespace RavenBinding

/-- A Unicode code point, lone surrogates included. -/
abbrev CodePoint := Fin 0x110000

/-- A text is a sequence of code points. -/
abbrev Text := List CodePoint

/-- A byte string. -/
abbrev Bytes := List UInt8

namespace CodePoint

/-- The code point of a character. -/
def ofChar (c : Char) : CodePoint :=
  ⟨c.toNat, by
    have h : c.toNat.isValidChar := c.valid
    simp only [Nat.isValidChar] at h
    omega⟩

instance : Coe Char CodePoint := ⟨ofChar⟩

/-- The code point with a given number; numbers out of range give U+FFFD. -/
def ofNat (n : Nat) : CodePoint :=
  if h : n < 0x110000 then ⟨n, h⟩ else 0xFFFD

/-- The character U+FFFD, which stands for what cannot be decoded. -/
def replacement : CodePoint := 0xFFFD

/-- First half of a surrogate pair. -/
def isHighSurrogate (c : CodePoint) : Bool := 0xD800 ≤ c.val && c.val ≤ 0xDBFF

/-- Second half of a surrogate pair. -/
def isLowSurrogate (c : CodePoint) : Bool := 0xDC00 ≤ c.val && c.val ≤ 0xDFFF

/-- A surrogate is no character of its own. -/
def isSurrogate (c : CodePoint) : Bool := 0xD800 ≤ c.val && c.val ≤ 0xDFFF

/-- The code points below U+0080. -/
def isAscii (c : CodePoint) : Bool := c.val < 0x80

/-- The digits `0` to `9`. -/
def isDigit (c : CodePoint) : Bool := 0x30 ≤ c.val && c.val ≤ 0x39

/-- The ASCII letters. -/
def isLetter (c : CodePoint) : Bool :=
  (0x41 ≤ c.val && c.val ≤ 0x5A) || (0x61 ≤ c.val && c.val ≤ 0x7A)

/-- The value of an ASCII digit in base sixteen. -/
def hexValue? (c : CodePoint) : Option Nat :=
  if c.isDigit then some (c.val - 0x30)
  else if 0x41 ≤ c.val && c.val ≤ 0x46 then some (c.val - 0x41 + 10)
  else if 0x61 ≤ c.val && c.val ≤ 0x66 then some (c.val - 0x61 + 10)
  else none

/-- The digit of a number below sixteen, with `a` standing for ten. -/
def hexDigit (n : Nat) : CodePoint :=
  ofNat (if n < 10 then 0x30 + n else 0x61 + (n - 10))

/-- The digit of a number below sixteen, with `A` standing for ten. -/
def hexDigitUpper (n : Nat) : CodePoint :=
  ofNat (if n < 10 then 0x30 + n else 0x41 + (n - 10))

/-- Lower case of the ASCII letters; all else is kept. -/
def toLowerAscii (c : CodePoint) : CodePoint :=
  if 0x41 ≤ c.val && c.val ≤ 0x5A then ofNat (c.val + 0x20) else c

end CodePoint

namespace Text

/-- The code points of a string. -/
def ofString (s : String) : Text := s.toList.map CodePoint.ofChar

instance : Coe String Text := ⟨ofString⟩

/-- The decimal numeral of a natural number. -/
def ofNat (n : Nat) : Text := (Nat.toDigits 10 n).map CodePoint.ofChar

/-- The decimal numeral of an integer. -/
def ofInt : Int → Text
  | .ofNat n => ofNat n
  | .negSucc n => CodePoint.ofChar '-' :: ofNat (n + 1)

/-- No code point of the text is a surrogate. -/
def isScalar (t : Text) : Bool := t.all fun c => !c.isSurrogate

/-- Every code point is below U+0080. -/
def isAscii (t : Text) : Bool := t.all CodePoint.isAscii

/-- Lower case of the ASCII letters; all else is kept. -/
def toLowerAscii (t : Text) : Text := t.map CodePoint.toLowerAscii

/-- The text without the leading code points that satisfy `p`. -/
def trimLeft (p : CodePoint → Bool) (t : Text) : Text := t.dropWhile p

/-- The text without the trailing code points that satisfy `p`. -/
def trimRight (p : CodePoint → Bool) (t : Text) : Text := (t.reverse.dropWhile p).reverse

/-- The text without the leading and trailing code points that satisfy `p`. -/
def trim (p : CodePoint → Bool) (t : Text) : Text := trimRight p (trimLeft p t)

/-- The text before the first `sep`, and what follows it if there is one. -/
def cut (sep : CodePoint) (t : Text) : Text × Option Text :=
  match t.dropWhile (· != sep) with
  | [] => (t, none)
  | _ :: after => (t.takeWhile (· != sep), some after)

/-- The text before the last `sep`, if there is one, and what follows it. -/
def cutLast (sep : CodePoint) (t : Text) : Option Text × Text :=
  match cut sep t.reverse with
  | (_, none) => (none, t)
  | (after, some before) => (some before.reverse, after.reverse)

/-- Work of `splitOn`: `piece` holds the open piece and `pieces` the finished ones, reversed. -/
def splitOnLoop (sep : CodePoint) : Text → Text → List Text → List Text
  | [], piece, pieces => (piece.reverse :: pieces).reverse
  | c :: rest, piece, pieces =>
    if c == sep then splitOnLoop sep rest [] (piece.reverse :: pieces)
    else splitOnLoop sep rest (c :: piece) pieces

/-- The pieces of a text between occurrences of `sep`; there is always at least one. -/
def splitOn (sep : CodePoint) (t : Text) : List Text := splitOnLoop sep t [] []

/-- The texts in order with `sep` between neighbours. -/
def join (sep : Text) (ts : List Text) : Text := (ts.intersperse sep).flatten

/-- Spaces up to a width; a text that is wider already is kept. -/
def padRight (width : Nat) (t : Text) : Text :=
  t ++ List.replicate (width - t.length) (CodePoint.ofChar ' ')

/-- A numeral with zeros in front up to a width. -/
def padZeros (width : Nat) (t : Text) : Text :=
  List.replicate (width - t.length) (CodePoint.ofChar '0') ++ t

/-- The order of texts by their first different code point; a shorter text comes first. -/
def lt : Text → Text → Bool
  | [], [] => false
  | [], _ :: _ => true
  | _ :: _, [] => false
  | a :: s, b :: t => if a.val < b.val then true else if b.val < a.val then false else lt s t

/-- Less or equal in the order of texts. -/
def le (s t : Text) : Bool := !lt t s

/-- The code points as characters; a surrogate gives U+FFFD. -/
def toString (t : Text) : String := String.ofList (t.map fun c => Char.ofNat
  (if c.isSurrogate then 0xFFFD else c.val))

end Text

namespace CodePoint

theorem val_ofChar (c : Char) : (ofChar c).val = c.toNat := rfl

theorem ofNat_val (c : CodePoint) : ofNat c.val = c := by simp [ofNat]

theorem val_ofNat {n : Nat} (h : n < 0x110000) : (ofNat n).val = n := by simp [ofNat, h]

theorem isSurrogate_of_lt {c : CodePoint} (h : c.val < 0xD800) : c.isSurrogate = false := by
  simp only [isSurrogate, Bool.and_eq_false_iff, decide_eq_false_iff_not]
  omega

end CodePoint

namespace Text

theorem isScalar_cons (c : CodePoint) (t : Text) :
    isScalar (c :: t) = (!c.isSurrogate && isScalar t) := rfl

theorem isScalar_append (s t : Text) : isScalar (s ++ t) = (isScalar s && isScalar t) := by
  simp [isScalar]

theorem isScalar_iff {t : Text} : t.isScalar = true ↔ ∀ c ∈ t, c.isSurrogate = false := by
  simp [isScalar]

theorem isScalar_of_forall_lt {t : Text} (h : ∀ c ∈ t, c.val < 0xD800) : t.isScalar = true :=
  isScalar_iff.2 fun c hc => CodePoint.isSurrogate_of_lt (h c hc)

end Text

end RavenBinding
