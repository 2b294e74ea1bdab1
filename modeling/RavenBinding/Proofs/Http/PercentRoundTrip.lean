import RavenBinding.Http.Percent
import RavenBinding.Proofs.Text.Utf8RoundTrip

/-!
# Reading back path segments

A text without surrogates that was encoded as a path segment is read back as it was. The encoded
segment holds nothing but unreserved characters and percent signs, so it has no slash, question mark
or number sign in it.

## Main statements

- `Percent.decode_quote`: reading what was written
- `Percent.mem_quote`: what an encoded segment is made of
- `Percent.quote_eq_iff`: texts with the same encoding are the same
-/

namespace RavenBinding

namespace Percent

/-- The encoding of a text as a segment, where surrogates are written like other numbers. -/
def quote (t : Text) : Text := (Utf8.encodeAll t).flatMap encodeSegmentByte

theorem encodeSegment_of_isScalar {t : Text} (h : t.isScalar = true) :
    encodeSegment t = .ok (quote t) := by
  rw [encodeSegment, Utf8.encode_of_isScalar h]
  rfl

theorem encodeSegment_of_not_isScalar {t : Text} (h : t.isScalar = false) :
    ∃ error, encodeSegment t = .error error := by
  obtain ⟨error, he⟩ := Utf8.encode_of_not_isScalar h
  exact ⟨error, by rw [encodeSegment, he]; rfl⟩

/-- A text that has an encoding as a segment has no surrogates. -/
theorem encodeSegment_eq_ok {t encoded : Text} (h : encodeSegment t = .ok encoded) :
    t.isScalar = true ∧ encoded = quote t := by
  cases hscalar : t.isScalar with
  | true =>
    rw [encodeSegment_of_isScalar hscalar] at h
    exact ⟨rfl, (Except.ok.inj h).symm⟩
  | false =>
    obtain ⟨error, he⟩ := encodeSegment_of_not_isScalar hscalar
    rw [he] at h
    cases h

/-! ### What an encoded segment is made of -/

/-- The characters of an encoded segment: unreserved ones and percent signs. -/
def IsSegmentCharacter (c : CodePoint) : Prop :=
  isUnreserved c = true ∨ c = CodePoint.ofChar '%'

theorem isUnreserved_hexDigitUpper {n : Nat} (h : n < 16) :
    isUnreserved (CodePoint.hexDigitUpper n) = true := by
  have hall : ∀ n : Fin 16, isUnreserved (CodePoint.hexDigitUpper n.val) = true := by decide
  exact hall ⟨n, h⟩

theorem hexValue?_hexDigitUpper {n : Nat} (h : n < 16) :
    (CodePoint.hexDigitUpper n).hexValue? = some n := by
  have hall : ∀ n : Fin 16, (CodePoint.hexDigitUpper n.val).hexValue? = some n.val := by decide
  exact hall ⟨n, h⟩

theorem mem_encodeByte {b : UInt8} {c : CodePoint} (h : c ∈ encodeByte b) :
    IsSegmentCharacter c := by
  have hb : b.toNat < 256 := b.toNat_lt
  simp only [encodeByte, List.mem_cons, List.not_mem_nil, or_false] at h
  rcases h with rfl | rfl | rfl
  · exact Or.inr rfl
  · exact Or.inl (isUnreserved_hexDigitUpper (by omega))
  · exact Or.inl (isUnreserved_hexDigitUpper (by omega))

theorem mem_encodeSegmentByte {b : UInt8} {c : CodePoint} (h : c ∈ encodeSegmentByte b) :
    IsSegmentCharacter c := by
  simp only [encodeSegmentByte] at h
  split at h
  · next hu =>
    rw [List.mem_singleton] at h
    exact Or.inl (h ▸ hu)
  · exact mem_encodeByte h

theorem mem_quote {t : Text} {c : CodePoint} (h : c ∈ quote t) : IsSegmentCharacter c := by
  obtain ⟨b, -, hc⟩ := List.mem_flatMap.1 h
  exact mem_encodeSegmentByte hc

theorem not_mem_quote {c : CodePoint} (hu : isUnreserved c = false)
    (hp : c ≠ CodePoint.ofChar '%') (t : Text) : c ∉ quote t := by
  intro h
  rcases mem_quote h with h | h
  · rw [hu] at h
    cases h
  · exact hp h

/-! ### Reading back -/

theorem decodeBytesLoop_cons_of_ne {c : CodePoint} (h : c ≠ CodePoint.ofChar '%') (found : Bytes)
    (rest : Text) :
    decodeBytesLoop found (c :: rest) = decodeBytesLoop (UInt8.ofNat c.val :: found) rest := by
  match rest with
  | [] => rfl
  | [_] => rfl
  | _ :: _ :: _ => rw [decodeBytesLoop, if_neg (by simpa using h)]

theorem decodeBytesLoop_escape {d e : CodePoint} {m n : Nat} (hd : d.hexValue? = some m)
    (he : e.hexValue? = some n) (found : Bytes) (rest : Text) :
    decodeBytesLoop found (CodePoint.ofChar '%' :: d :: e :: rest) =
      decodeBytesLoop (UInt8.ofNat (16 * m + n) :: found) rest := by
  rw [decodeBytesLoop, if_pos (beq_self_eq_true _), hd, he]

theorem decodeBytesLoop_encodeByte (b : UInt8) (found : Bytes) (rest : Text) :
    decodeBytesLoop found (encodeByte b ++ rest) = decodeBytesLoop (b :: found) rest := by
  have hb : b.toNat < 256 := b.toNat_lt
  have hsum : 16 * (b.toNat / 16) + b.toNat % 16 = b.toNat := by omega
  rw [encodeByte, List.cons_append, List.cons_append, List.cons_append, List.nil_append,
    decodeBytesLoop_escape (hexValue?_hexDigitUpper (by omega))
      (hexValue?_hexDigitUpper (by omega)), hsum, UInt8.ofNat_toNat]

theorem ne_percent_of_isUnreserved {c : CodePoint} (h : isUnreserved c = true) :
    c ≠ CodePoint.ofChar '%' := by
  rintro rfl
  revert h
  decide

theorem decodeBytesLoop_encodeSegmentByte (b : UInt8) (found : Bytes) (rest : Text) :
    decodeBytesLoop found (encodeSegmentByte b ++ rest) = decodeBytesLoop (b :: found) rest := by
  have hb : b.toNat < 256 := b.toNat_lt
  have hval : (CodePoint.ofNat b.toNat).val = b.toNat := CodePoint.val_ofNat (by omega)
  simp only [encodeSegmentByte]
  -- an unreserved byte stands for itself, any other one is escaped
  split
  · next hu =>
    rw [List.singleton_append, decodeBytesLoop_cons_of_ne (ne_percent_of_isUnreserved hu), hval,
      UInt8.ofNat_toNat]
  · exact decodeBytesLoop_encodeByte b found rest

theorem decodeBytesLoop_flatMap (bytes found : Bytes) :
    decodeBytesLoop found (bytes.flatMap encodeSegmentByte) = found.reverse ++ bytes := by
  induction bytes generalizing found with
  | nil => simp [decodeBytesLoop]
  | cons b bytes ih =>
    rw [List.flatMap_cons, decodeBytesLoop_encodeSegmentByte, ih]
    simp

theorem decodeBytes_quote (t : Text) : decodeBytes (quote t) = Utf8.encodeAll t := by
  rw [decodeBytes, quote, decodeBytesLoop_flatMap]
  rfl

/-- A segment without surrogates is read back as it was. -/
theorem decode_quote {t : Text} (h : t.isScalar = true) : decode (quote t) = t := by
  rw [decode, decodeBytes_quote, Utf8.decodeReplacing_encodeAll h]

theorem quote_eq_iff {s t : Text} (hs : s.isScalar = true) (ht : t.isScalar = true) :
    quote s = quote t ↔ s = t := by
  constructor
  · intro h
    rw [← decode_quote hs, h, decode_quote ht]
  · rintro rfl
    rfl

/-! ### Texts that need no encoding -/

theorem lt_of_isUnreserved {c : CodePoint} (h : isUnreserved c = true) : c.val < 0x80 := by
  simp only [isUnreserved, CodePoint.isLetter, CodePoint.isDigit, Bool.or_eq_true,
    Bool.and_eq_true, decide_eq_true_eq] at h
  omega

theorem quote_of_isUnreserved {t : Text} (h : ∀ c ∈ t, isUnreserved c = true) : quote t = t := by
  induction t with
  | nil => rfl
  | cons c t ih =>
    have hc := h c List.mem_cons_self
    have hlt := lt_of_isUnreserved hc
    have hone : Utf8.encodeOne c = [UInt8.ofNat c.val] := by
      rw [Utf8.encodeOne]
      exact if_pos hlt
    have hback : CodePoint.ofNat (UInt8.ofNat c.val).toNat = c := by
      rw [Utf8.toNat_ofNat_of_lt (by omega)]
      exact Fin.ext (CodePoint.val_ofNat c.isLt)
    have hbyte : encodeSegmentByte (UInt8.ofNat c.val) = [c] := by
      simp only [encodeSegmentByte, hback, hc, if_true]
    rw [quote, Utf8.encodeAll, List.flatMap_cons, hone, List.flatMap_append, List.flatMap_cons,
      List.flatMap_nil, List.append_nil, hbyte]
    exact congrArg (c :: ·) (ih fun d hd => h d (List.mem_cons_of_mem _ hd))

/-- A text of unreserved characters stands for itself. -/
theorem decode_of_isUnreserved {t : Text} (h : ∀ c ∈ t, isUnreserved c = true) : decode t = t := by
  have hscalar : t.isScalar = true := Text.isScalar_of_forall_lt fun c hc =>
    Nat.lt_trans (lt_of_isUnreserved (h c hc)) (by decide)
  have hquote := decode_quote hscalar
  rwa [quote_of_isUnreserved h] at hquote


theorem flatMap_encodeUnless_of_safe {safe : CodePoint → Bool} {t : Text}
    (h : ∀ c ∈ t, (isUnreserved c || safe c) = true) : t.flatMap (encodeUnless safe) = t := by
  induction t with
  | nil => rfl
  | cons c t ih =>
    rw [List.flatMap_cons, encodeUnless, if_pos (h c List.mem_cons_self),
      ih fun d hd => h d (List.mem_cons_of_mem _ hd)]
    rfl

/-- A component of allowed characters stays as it is. -/
theorem encodeComponent_of_safe {safe : CodePoint → Bool} {t : Text}
    (h : ∀ c ∈ t, (isUnreserved c || safe c) = true) (hs : t.isScalar = true) :
    encodeComponent safe t = .ok t := by
  have hf : t.find? CodePoint.isSurrogate = none := by
    rw [List.find?_eq_none]
    intro c hc
    simp [Text.isScalar_iff.1 hs c hc]
  rw [encodeComponent, hf, flatMap_encodeUnless_of_safe h]

end Percent

end RavenBinding
