import RavenBinding.Proofs.Text.Utf8RoundTrip

/-!
# Well-formed UTF-8

Bytes are well formed if they are cut into units of one to four bytes, each of which carries a
number that needs so many bytes, is no surrogate and is not above U+10FFFF. Well-formed bytes are
exactly the encodings of texts without surrogates.

## Main definitions

- `Utf8.Carries`: the number that the bytes of a unit carry
- `Utf8.IsUnit`: a unit that is not overlong, no surrogate, and in range
- `Utf8.WellFormed`: byte strings that are cut into such units

## Main statements

- `Utf8.wellFormed_iff`: well-formed bytes are the encodings of texts without surrogates
- `Utf8.encodeAll_decodeReplacing_eq_iff`: reading tolerantly and writing again keeps exactly the
  well-formed bytes
-/

namespace RavenBinding

namespace Utf8

/-- The number in the bytes of a unit: the low bits of the first byte, and six bits of each byte
that continues it. -/
inductive Carries : Bytes → Nat → Prop where
  | one {a : UInt8} : a.toNat < 0x80 → Carries [a] a.toNat
  | two {a b : UInt8} : 0xC0 ≤ a.toNat → a.toNat < 0xE0 → isContinuation b = true →
      Carries [a, b] ((a.toNat - 0xC0) * 0x40 + (b.toNat - 0x80))
  | three {a b c : UInt8} : 0xE0 ≤ a.toNat → a.toNat < 0xF0 → isContinuation b = true →
      isContinuation c = true →
      Carries [a, b, c] ((a.toNat - 0xE0) * 0x1000 + (b.toNat - 0x80) * 0x40 + (c.toNat - 0x80))
  | four {a b c d : UInt8} : 0xF0 ≤ a.toNat → a.toNat < 0xF8 → isContinuation b = true →
      isContinuation c = true → isContinuation d = true →
      Carries [a, b, c, d] ((a.toNat - 0xF0) * 0x40000 + (b.toNat - 0x80) * 0x1000
        + (c.toNat - 0x80) * 0x40 + (d.toNat - 0x80))

/-- The least number that needs so many bytes. -/
def least : Nat → Nat
  | 2 => 0x80
  | 3 => 0x800
  | 4 => 0x10000
  | _ => 0

/-- The bytes of one code point: not an overlong form, not a surrogate, not above U+10FFFF. -/
def IsUnit (u : Bytes) : Prop :=
  ∃ n, Carries u n ∧ least u.length ≤ n ∧ ¬(0xD800 ≤ n ∧ n ≤ 0xDFFF) ∧ n ≤ 0x10FFFF

/-- Units one after the other. -/
inductive WellFormed : Bytes → Prop where
  | nil : WellFormed []
  | append {u rest : Bytes} : IsUnit u → WellFormed rest → WellFormed (u ++ rest)

/-! ### One unit -/

theorem isContinuation_iff {b : UInt8} :
    isContinuation b = true ↔ 0x80 ≤ b.toNat ∧ b.toNat ≤ 0xBF := by
  simp [isContinuation]

theorem ofNat_eq_of_toNat {b : UInt8} {n : Nat} (h : n = b.toNat) : UInt8.ofNat n = b := by
  rw [h]
  exact UInt8.ofNat_toNat

/-- The six bits behind a place continue a code point. -/
theorem isContinuation_byte (n : Nat) :
    isContinuation (UInt8.ofNat (0x80 + n % 0x40)) = true := by
  rw [isContinuation_iff, toNat_ofNat_of_lt (by omega)]
  omega

theorem Carries.of_eq {u : Bytes} {m n : Nat} (h : Carries u m) (hn : m = n) : Carries u n := by
  subst hn
  exact h

theorem carries_one {c : CodePoint} (h : c.val < 0x80) :
    Carries (encodeOne c) c.val ∧ least (encodeOne c).length ≤ c.val := by
  have hone : encodeOne c = [UInt8.ofNat c.val] := by simp [encodeOne, h]
  have ha : (UInt8.ofNat c.val).toNat = c.val := toNat_ofNat_of_lt (by omega)
  rw [hone]
  exact ⟨(Carries.one (by omega)).of_eq ha, Nat.zero_le _⟩

theorem carries_two {c : CodePoint} (h1 : 0x80 ≤ c.val) (h2 : c.val < 0x800) :
    Carries (encodeOne c) c.val ∧ least (encodeOne c).length ≤ c.val := by
  have htwo : encodeOne c =
      [UInt8.ofNat (0xC0 + c.val / 0x40), UInt8.ofNat (0x80 + c.val % 0x40)] := by
    simp [encodeOne, Nat.not_lt.2 h1, h2]
  have ha : (UInt8.ofNat (0xC0 + c.val / 0x40)).toNat = 0xC0 + c.val / 0x40 :=
    toNat_ofNat_of_lt (by omega)
  have hb : (UInt8.ofNat (0x80 + c.val % 0x40)).toNat = 0x80 + c.val % 0x40 :=
    toNat_ofNat_of_lt (by omega)
  have hcarry := Carries.two (a := UInt8.ofNat (0xC0 + c.val / 0x40)) (by omega) (by omega)
    (isContinuation_byte c.val)
  rw [htwo]
  exact ⟨hcarry.of_eq (by omega), h1⟩

theorem carries_three {c : CodePoint} (h2 : 0x800 ≤ c.val) (h3 : c.val < 0x10000) :
    Carries (encodeOne c) c.val ∧ least (encodeOne c).length ≤ c.val := by
  obtain ⟨a, b, d, hthree, ha, hb, hd, -⟩ := exists_three h2 h3
  have hcarry := Carries.three (a := a) (b := b) (c := d) (by omega) (by omega)
    (isContinuation_iff.2 (by omega)) (isContinuation_iff.2 (by omega))
  rw [hthree]
  exact ⟨hcarry.of_eq (by omega), h2⟩

theorem carries_four {c : CodePoint} (h3 : 0x10000 ≤ c.val) :
    Carries (encodeOne c) c.val ∧ least (encodeOne c).length ≤ c.val := by
  have hc : c.val < 0x110000 := c.isLt
  have hfour : encodeOne c =
      [UInt8.ofNat (0xF0 + c.val / 0x40000), UInt8.ofNat (0x80 + c.val / 0x1000 % 0x40),
        UInt8.ofNat (0x80 + c.val / 0x40 % 0x40), UInt8.ofNat (0x80 + c.val % 0x40)] := by
    simp [encodeOne, show ¬c.val < 0x80 by omega, show ¬c.val < 0x800 by omega,
      show ¬c.val < 0x10000 by omega]
  have ha : (UInt8.ofNat (0xF0 + c.val / 0x40000)).toNat = 0xF0 + c.val / 0x40000 :=
    toNat_ofNat_of_lt (by omega)
  have hb : (UInt8.ofNat (0x80 + c.val / 0x1000 % 0x40)).toNat = 0x80 + c.val / 0x1000 % 0x40 :=
    toNat_ofNat_of_lt (by omega)
  have hd : (UInt8.ofNat (0x80 + c.val / 0x40 % 0x40)).toNat = 0x80 + c.val / 0x40 % 0x40 :=
    toNat_ofNat_of_lt (by omega)
  have he : (UInt8.ofNat (0x80 + c.val % 0x40)).toNat = 0x80 + c.val % 0x40 :=
    toNat_ofNat_of_lt (by omega)
  have hcarry := Carries.four (a := UInt8.ofNat (0xF0 + c.val / 0x40000)) (by omega) (by omega)
    (isContinuation_byte (c.val / 0x1000)) (isContinuation_byte (c.val / 0x40))
    (isContinuation_byte c.val)
  rw [hfour]
  exact ⟨hcarry.of_eq (by omega), h3⟩

/-- The encoding of a code point carries it, in as few bytes as it needs. -/
theorem carries_encodeOne (c : CodePoint) :
    Carries (encodeOne c) c.val ∧ least (encodeOne c).length ≤ c.val := by
  by_cases h1 : c.val < 0x80
  · exact carries_one h1
  · by_cases h2 : c.val < 0x800
    · exact carries_two (by omega) h2
    · by_cases h3 : c.val < 0x10000
      · exact carries_three (by omega) h3
      · exact carries_four (by omega)

/-- The encoding of a code point that is no surrogate is a unit. -/
theorem isUnit_encodeOne {c : CodePoint} (hs : c.isSurrogate = false) : IsUnit (encodeOne c) := by
  obtain ⟨hcarry, hleast⟩ := carries_encodeOne c
  have hc : c.val < 0x110000 := c.isLt
  have hns : ¬(0xD800 ≤ c.val ∧ c.val ≤ 0xDFFF) := by simpa [CodePoint.isSurrogate] using hs
  exact ⟨c.val, hcarry, hleast, hns, by omega⟩

/-- Bytes that carry a number and are not overlong are its encoding. -/
theorem encodeOne_of_carries {u : Bytes} {c : CodePoint} (h : Carries u c.val)
    (hleast : least u.length ≤ c.val) : encodeOne c = u := by
  generalize hn : c.val = n at h hleast
  cases h with
  | one ha =>
    simp only [encodeOne, hn, if_pos ha]
    rw [ofNat_eq_of_toNat rfl]
  | @two a b ha ha' hb =>
    have hb := isContinuation_iff.1 hb
    have hleast : 0x80 ≤ (a.toNat - 0xC0) * 0x40 + (b.toNat - 0x80) := hleast
    simp only [encodeOne, hn]
    rw [if_neg (by omega), if_pos (by omega), ofNat_eq_of_toNat (b := a) (by omega),
      ofNat_eq_of_toNat (b := b) (by omega)]
  | @three a b d ha ha' hb hd =>
    have hb := isContinuation_iff.1 hb
    have hd := isContinuation_iff.1 hd
    have hleast : 0x800 ≤ (a.toNat - 0xE0) * 0x1000 + (b.toNat - 0x80) * 0x40
        + (d.toNat - 0x80) := hleast
    simp only [encodeOne, hn]
    rw [if_neg (by omega), if_neg (by omega), if_pos (by omega), ofNat_eq_of_toNat (b := a) (by omega),
      ofNat_eq_of_toNat (b := b) (by omega), ofNat_eq_of_toNat (b := d) (by omega)]
  | @four a b d e ha ha' hb hd he =>
    have hb := isContinuation_iff.1 hb
    have hd := isContinuation_iff.1 hd
    have he := isContinuation_iff.1 he
    have hleast : 0x10000 ≤ (a.toNat - 0xF0) * 0x40000 + (b.toNat - 0x80) * 0x1000
        + (d.toNat - 0x80) * 0x40 + (e.toNat - 0x80) := hleast
    simp only [encodeOne, hn]
    rw [if_neg (by omega), if_neg (by omega), if_neg (by omega), ofNat_eq_of_toNat (b := a) (by omega),
      ofNat_eq_of_toNat (b := b) (by omega), ofNat_eq_of_toNat (b := d) (by omega), ofNat_eq_of_toNat (b := e) (by omega)]

/-- Every unit is the encoding of a code point that is no surrogate. -/
theorem exists_encodeOne {u : Bytes} (h : IsUnit u) :
    ∃ c : CodePoint, c.isSurrogate = false ∧ encodeOne c = u := by
  obtain ⟨n, hcarry, hleast, hns, hn⟩ := h
  refine ⟨⟨n, by omega⟩, ?_, encodeOne_of_carries hcarry hleast⟩
  simpa [CodePoint.isSurrogate] using hns

/-! ### Byte strings -/

theorem wellFormed_encodeAll {t : Text} (h : t.isScalar = true) : WellFormed (encodeAll t) := by
  induction t with
  | nil => exact .nil
  | cons c t ih =>
    have hc := Text.isScalar_iff.1 h
    have hunit := isUnit_encodeOne (hc c List.mem_cons_self)
    have hrest := ih (Text.isScalar_iff.2 fun d hd => hc d (List.mem_cons_of_mem _ hd))
    rw [encodeAll, List.flatMap_cons]
    exact .append hunit hrest

theorem exists_encodeAll {b : Bytes} (h : WellFormed b) :
    ∃ t : Text, t.isScalar = true ∧ encodeAll t = b := by
  induction h with
  | nil => exact ⟨[], rfl, rfl⟩
  | append hunit _ ih =>
    obtain ⟨c, hc, rfl⟩ := exists_encodeOne hunit
    obtain ⟨t, ht, rfl⟩ := ih
    refine ⟨c :: t, ?_, by rw [encodeAll, List.flatMap_cons]; rfl⟩
    rw [Text.isScalar_cons, hc, ht]
    rfl

/-- Well-formed bytes are the encodings of the texts without surrogates. -/
theorem wellFormed_iff {b : Bytes} :
    WellFormed b ↔ ∃ t : Text, t.isScalar = true ∧ encodeAll t = b := by
  refine ⟨exists_encodeAll, ?_⟩
  rintro ⟨t, ht, rfl⟩
  exact wellFormed_encodeAll ht

/-- Reading tolerantly and writing again keeps well-formed bytes, and no others. -/
theorem encodeAll_decodeReplacing_eq_iff {b : Bytes} :
    encodeAll (decodeReplacing b) = b ↔ WellFormed b := by
  constructor
  · intro h
    exact wellFormed_iff.2 ⟨decodeReplacing b, isScalar_decodeReplacing b, h⟩
  · intro h
    obtain ⟨t, ht, rfl⟩ := exists_encodeAll h
    rw [decodeReplacing_encodeAll ht]

end Utf8

end RavenBinding
