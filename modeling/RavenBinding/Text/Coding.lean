import RavenBinding.Text.Basic

/-!
# What goes wrong between text and bytes

An encoding refuses a run of code points and a decoding refuses a run of bytes. Both say where the
run is, so that the message can name the first position or the first and the last one.

## Main definitions

- `EncodeError`, `DecodeError`: the cause and its place
- `EncodeError.message`, `DecodeError.message`: the wording
-/

namespace RavenBinding

/-- The encodings that refuse some code points. -/
inductive TextEncoding where
  | utf8
  | ascii
  deriving DecidableEq, Repr

/-- A run of code points, from `start` to just before `stop`, that an encoding cannot write. -/
structure EncodeError where
  encoding : TextEncoding
  /-- The first code point of the run. -/
  first : CodePoint
  start : Nat
  stop : Nat
  deriving DecidableEq, Repr

/-- The encodings of a JSON body. -/
inductive BodyEncoding where
  | utf8
  | utf16le
  | utf16be
  | utf32le
  | utf32be
  deriving DecidableEq, Repr

/-- Why a run of bytes stands for no character. -/
inductive DecodeReason where
  | invalidStart
  | invalidContinuation
  | unexpectedEnd
  | truncated
  | outOfRange
  deriving DecidableEq, Repr

/-- A run of bytes, from `start` to just before `stop`, that an encoding cannot read. -/
structure DecodeError where
  encoding : BodyEncoding
  /-- The first byte of the run. -/
  first : UInt8
  start : Nat
  stop : Nat
  reason : DecodeReason
  deriving DecidableEq, Repr

/-- The lower-case hexadecimal numeral of `n` with a fixed number of digits. -/
def Text.hex (digits n : Nat) : Text :=
  (List.range digits).map fun i => CodePoint.hexDigit (n / Nat.pow 16 (digits - 1 - i) % 16)

/-- The escape of a code point by its number, in two, four or eight digits as it needs. -/
def CodePoint.numericEscape (c : CodePoint) : Text :=
  if c.val < 0x100 then Text.ofString "\\x" ++ Text.hex 2 c.val
  else if c.val < 0x10000 then Text.ofString "\\u" ++ Text.hex 4 c.val
  else Text.ofString "\\U" ++ Text.hex 8 c.val

namespace TextEncoding

/-- The name of the encoding. -/
def name : TextEncoding → Text
  | utf8 => "utf-8"
  | ascii => "ascii"

/-- What the encoding refuses. -/
def refusal : TextEncoding → Text
  | utf8 => "surrogates not allowed"
  | ascii => "ordinal not in range(128)"

end TextEncoding

/-- One code point is shown by its escape, a longer run by its first and last position. -/
def EncodeError.message (e : EncodeError) : Text :=
  let place : Text :=
    if e.stop = e.start + 1 then
      Text.ofString "character '" ++ e.first.numericEscape ++ Text.ofString "' in position "
        ++ Text.ofNat e.start
    else
      Text.ofString "characters in position " ++ Text.ofNat e.start ++ Text.ofString "-"
        ++ Text.ofNat (e.stop - 1)
  Text.ofString "'" ++ e.encoding.name ++ Text.ofString "' codec can't encode " ++ place
    ++ Text.ofString ": " ++ e.encoding.refusal

namespace BodyEncoding

/-- The name of the encoding. -/
def name : BodyEncoding → Text
  | utf8 => "utf-8"
  | utf16le => "utf-16-le"
  | utf16be => "utf-16-be"
  | utf32le => "utf-32-le"
  | utf32be => "utf-32-be"

end BodyEncoding

/-- The wording of the reason. -/
def DecodeReason.text : DecodeReason → Text
  | invalidStart => "invalid start byte"
  | invalidContinuation => "invalid continuation byte"
  | unexpectedEnd => "unexpected end of data"
  | truncated => "truncated data"
  | outOfRange => "code point not in range(0x110000)"

/-- One byte is shown by its value, a longer run by its first and last position. -/
def DecodeError.message (e : DecodeError) : Text :=
  let place : Text :=
    if e.stop = e.start + 1 then
      Text.ofString "byte 0x" ++ Text.hex 2 e.first.toNat ++ Text.ofString " in position "
        ++ Text.ofNat e.start
    else
      Text.ofString "bytes in position " ++ Text.ofNat e.start ++ Text.ofString "-"
        ++ Text.ofNat (e.stop - 1)
  Text.ofString "'" ++ e.encoding.name ++ Text.ofString "' codec can't decode " ++ place
    ++ Text.ofString ": " ++ e.reason.text

/-- The first maximal run of code points that satisfy `bad`, as positions. -/
def Text.firstRun? (bad : CodePoint → Bool) (t : Text) : Option (CodePoint × Nat × Nat) :=
  let before := t.takeWhile fun c => !bad c
  match t.dropWhile fun c => !bad c with
  | [] => none
  | c :: rest =>
    some (c, before.length, before.length + 1 + (rest.takeWhile bad).length)

/-- A text as the bytes of its code points, refusing what is not below U+0080. -/
def Text.encodeAscii (t : Text) : Except EncodeError Bytes :=
  match Text.firstRun? (fun c => !c.isAscii) t with
  | some (c, start, stop) => .error ⟨.ascii, c, start, stop⟩
  | none => .ok (t.map fun c => UInt8.ofNat c.val)

namespace Text

theorem firstRun?_eq_none_iff {bad : CodePoint → Bool} {t : Text} :
    firstRun? bad t = none ↔ ∀ c ∈ t, bad c = false := by
  unfold firstRun?
  induction t with
  | nil => simp
  | cons c t ih =>
    by_cases h : bad c
    · simp [h]
    · simp only [h, List.dropWhile_cons, Bool.not_false, if_true, List.mem_cons, forall_eq_or_imp]
      rw [← and_iff_right (a := bad c = false) (b := ∀ c ∈ t, bad c = false)
        (by simpa using h)] at ih
      revert ih
      cases List.dropWhile (fun c => !bad c) t <;> simp [h]

theorem exists_encodeAscii {t : Text} (h : ∀ c ∈ t, c.isAscii = true) :
    ∃ bytes, t.encodeAscii = .ok bytes := by
  have hrun : t.firstRun? (fun c => !c.isAscii) = none :=
    firstRun?_eq_none_iff.2 fun c hc => by simp [h c hc]
  rw [encodeAscii, hrun]
  exact ⟨_, rfl⟩

end Text

end RavenBinding
