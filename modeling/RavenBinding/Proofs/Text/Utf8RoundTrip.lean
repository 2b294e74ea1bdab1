import RavenBinding.Text.Utf8

/-!
# Reading back UTF-8

The bytes of a text are cut into the encodings of its code points, so both readers give the text
back: the tolerant one where it holds no surrogate, the strict one always. What the tolerant reader
gives holds no surrogate, whatever the bytes.

## Main statements

- `Utf8.decodeReplacing_encodeAll`, `Utf8.decode_encodeAll`: reading what was written
- `Utf8.isScalar_decodeReplacing`: the tolerant reader gives no surrogate
- `Utf8.encode_of_isScalar`, `Utf8.encode_of_not_isScalar`: which texts have an encoding
-/

namespace RavenBinding

namespace Utf8

/-! ### The bytes of one code point -/

theorem toNat_ofNat_of_lt {n : Nat} (h : n < 256) : (UInt8.ofNat n).toNat = n := by
  rw [UInt8.toNat_ofNat']
  exact Nat.mod_eq_of_lt h

private theorem ofNat_eq_of_val {c : CodePoint} {n : Nat} (h : n = c.val) :
    CodePoint.ofNat n = c := by
  rw [h, CodePoint.ofNat_val]

/-- A reader of first pieces knows the encoding of a code point, whatever follows it. -/
def Knows (first : UInt8 → Bytes → Piece) (c : CodePoint) : Prop :=
  ∃ a more, encodeOne c = a :: more ∧
    ∀ rest, first a (more ++ rest) = .scalar c (more.length + 1)

theorem knows_one {c : CodePoint} (h : c.val < 0x80) : Knows firstPiece c := by
  refine ⟨UInt8.ofNat c.val, [], by simp [encodeOne, h], fun rest => ?_⟩
  have ha : (UInt8.ofNat c.val).toNat = c.val := toNat_ofNat_of_lt (by omega)
  have hl : leadLength (UInt8.ofNat c.val) = 1 := by simp only [leadLength, ha, if_pos h]
  simp only [firstPiece, hl, List.length_nil]
  rw [ofNat_eq_of_val ha]

theorem knows_two {c : CodePoint} (h1 : 0x80 ≤ c.val) (h2 : c.val < 0x800) :
    Knows firstPiece c := by
  refine ⟨UInt8.ofNat (0xC0 + c.val / 0x40), [UInt8.ofNat (0x80 + c.val % 0x40)],
    by simp [encodeOne, Nat.not_lt.2 h1, h2], fun rest => ?_⟩
  have ha : (UInt8.ofNat (0xC0 + c.val / 0x40)).toNat = 0xC0 + c.val / 0x40 :=
    toNat_ofNat_of_lt (by omega)
  have hb : (UInt8.ofNat (0x80 + c.val % 0x40)).toNat = 0x80 + c.val % 0x40 :=
    toNat_ofNat_of_lt (by omega)
  -- from here on the bytes matter by their numbers only
  generalize UInt8.ofNat (0xC0 + c.val / 0x40) = a at ha
  generalize UInt8.ofNat (0x80 + c.val % 0x40) = b at hb
  have hl : leadLength a = 2 := by
    simp only [leadLength, ha]
    rw [if_neg (by omega), if_neg (by omega), if_pos (by omega)]
  have hsecond : isSecond a b = true := by
    simp only [isSecond, ha, hb]
    split <;> simp <;> omega
  have htwo : two a b = c := by
    rw [two, ha, hb]
    exact ofNat_eq_of_val (by omega)
  simp [firstPiece, hl, hsecond, htwo]

/-- The three bytes of a code point by their numbers; surrogates have them too. -/
theorem exists_three {c : CodePoint} (h2 : 0x800 ≤ c.val) (h3 : c.val < 0x10000) :
    ∃ a b d, encodeOne c = [a, b, d] ∧ a.toNat = 0xE0 + c.val / 0x1000 ∧
      b.toNat = 0x80 + c.val / 0x40 % 0x40 ∧ d.toNat = 0x80 + c.val % 0x40 ∧ three a b d = c := by
  have ha : (UInt8.ofNat (0xE0 + c.val / 0x1000)).toNat = 0xE0 + c.val / 0x1000 :=
    toNat_ofNat_of_lt (by omega)
  have hb : (UInt8.ofNat (0x80 + c.val / 0x40 % 0x40)).toNat = 0x80 + c.val / 0x40 % 0x40 :=
    toNat_ofNat_of_lt (by omega)
  have hd : (UInt8.ofNat (0x80 + c.val % 0x40)).toNat = 0x80 + c.val % 0x40 :=
    toNat_ofNat_of_lt (by omega)
  refine ⟨_, _, _, ?_, ha, hb, hd, ?_⟩
  · simp [encodeOne, Nat.not_lt.2 h2, h3, show ¬c.val < 0x80 by omega]
  · rw [three, ha, hb, hd]
    exact ofNat_eq_of_val (by omega)

theorem knows_three {c : CodePoint} (h2 : 0x800 ≤ c.val) (h3 : c.val < 0x10000)
    (hs : c.isSurrogate = false) : Knows firstPiece c := by
  obtain ⟨a, b, d, hone, ha, hb, hd, hthree⟩ := exists_three h2 h3
  refine ⟨a, [b, d], hone, fun rest => ?_⟩
  have hns : ¬(0xD800 ≤ c.val ∧ c.val ≤ 0xDFFF) := by simpa [CodePoint.isSurrogate] using hs
  have hl : leadLength a = 3 := by
    simp only [leadLength, ha]
    rw [if_neg (by omega), if_neg (by omega), if_neg (by omega), if_pos (by omega)]
  -- the bounds behind 0xE0 and 0xED leave out long forms and surrogates
  have hsecond : isSecond a b = true := by
    simp only [isSecond, ha, hb]
    split <;> simp <;> omega
  have hcont : isContinuation d = true := by simp [isContinuation, hd]; omega
  simp [firstPiece, hl, hsecond, hcont, hthree]

theorem knows_four {c : CodePoint} (h3 : 0x10000 ≤ c.val) : Knows firstPiece c := by
  have hc : c.val < 0x110000 := c.isLt
  refine ⟨UInt8.ofNat (0xF0 + c.val / 0x40000),
    [UInt8.ofNat (0x80 + c.val / 0x1000 % 0x40), UInt8.ofNat (0x80 + c.val / 0x40 % 0x40),
      UInt8.ofNat (0x80 + c.val % 0x40)],
    by simp [encodeOne, show ¬c.val < 0x80 by omega, show ¬c.val < 0x800 by omega,
      show ¬c.val < 0x10000 by omega], fun rest => ?_⟩
  have ha : (UInt8.ofNat (0xF0 + c.val / 0x40000)).toNat = 0xF0 + c.val / 0x40000 :=
    toNat_ofNat_of_lt (by omega)
  have hb : (UInt8.ofNat (0x80 + c.val / 0x1000 % 0x40)).toNat = 0x80 + c.val / 0x1000 % 0x40 :=
    toNat_ofNat_of_lt (by omega)
  have hd : (UInt8.ofNat (0x80 + c.val / 0x40 % 0x40)).toNat = 0x80 + c.val / 0x40 % 0x40 :=
    toNat_ofNat_of_lt (by omega)
  have he : (UInt8.ofNat (0x80 + c.val % 0x40)).toNat = 0x80 + c.val % 0x40 :=
    toNat_ofNat_of_lt (by omega)
  generalize UInt8.ofNat (0xF0 + c.val / 0x40000) = a at ha
  generalize UInt8.ofNat (0x80 + c.val / 0x1000 % 0x40) = b at hb
  generalize UInt8.ofNat (0x80 + c.val / 0x40 % 0x40) = d at hd
  generalize UInt8.ofNat (0x80 + c.val % 0x40) = e at he
  have hl : leadLength a = 4 := by
    simp only [leadLength, ha]
    rw [if_neg (by omega), if_neg (by omega), if_neg (by omega), if_neg (by omega),
      if_pos (by omega)]
  have hsecond : isSecond a b = true := by
    simp only [isSecond, ha, hb]
    split <;> simp <;> omega
  have hcont : isContinuation d = true := by simp [isContinuation, hd]; omega
  have hlast : isContinuation e = true := by simp [isContinuation, he]; omega
  have hfour : four a b d e = c := by
    rw [four, ha, hb, hd, he]
    exact ofNat_eq_of_val (by omega)
  simp [firstPiece, hl, hsecond, hcont, hlast, hfour]

theorem knows_firstPiece {c : CodePoint} (hs : c.isSurrogate = false) : Knows firstPiece c := by
  by_cases h1 : c.val < 0x80
  · exact knows_one h1
  · by_cases h2 : c.val < 0x800
    · exact knows_two (by omega) h2
    · by_cases h3 : c.val < 0x10000
      · exact knows_three (by omega) h3 hs
      · exact knows_four (by omega)

/-- Bytes that start with the encoding of a surrogate are ill formed for the strict cut. -/
theorem surrogate?_eq_none_of_scalar {a : UInt8} {rest : Bytes} {c : CodePoint} {n : Nat}
    (h : firstPiece a rest = .scalar c n) : surrogate? a rest = none := by
  match rest with
  | [] => rfl
  | [b] => rfl
  | b :: d :: rest =>
    rw [surrogate?, if_neg]
    intro hs
    simp only [Bool.and_eq_true, decide_eq_true_eq] at hs
    obtain ⟨⟨⟨ha, hb⟩, hb'⟩, -⟩ := hs
    have hl : leadLength a = 3 := by simp [leadLength, ha]
    have hsecond : isSecond a b = false := by
      simp only [isSecond, ha]
      simp
      omega
    simp [firstPiece, hl, hsecond] at h

theorem knows_surrogate {c : CodePoint} (hs : c.isSurrogate = true) : Knows firstPieceLoose c := by
  have hr : 0xD800 ≤ c.val ∧ c.val ≤ 0xDFFF := by simpa [CodePoint.isSurrogate] using hs
  obtain ⟨a, b, d, hone, ha, hb, hd, hthree⟩ := exists_three (c := c) (by omega) (by omega)
  refine ⟨a, [b, d], hone, fun rest => ?_⟩
  have hfound : surrogate? a ([b, d] ++ rest) = some c := by
    rw [List.cons_append, List.cons_append, surrogate?, if_pos, hthree]
    simp only [isContinuation, ha, hb, hd, Bool.and_eq_true, decide_eq_true_eq]
    omega
  rw [firstPieceLoose, hfound]
  rfl

theorem knows_firstPieceLoose (c : CodePoint) : Knows firstPieceLoose c := by
  by_cases hs : c.isSurrogate = true
  · exact knows_surrogate hs
  · obtain ⟨a, more, he, hf⟩ := knows_firstPiece (by simpa using hs)
    refine ⟨a, more, he, fun rest => ?_⟩
    rw [firstPieceLoose, surrogate?_eq_none_of_scalar (hf rest)]
    exact hf rest

/-! ### The cut -/

section Cut

variable {first : UInt8 → Bytes → Piece}

theorem piecesLoop_eq (skip : Nat) (bytes : Bytes) (found : List Piece) :
    piecesLoop first skip bytes found = found.reverse ++ pieces first (bytes.drop skip) := by
  induction bytes generalizing skip found with
  | nil => cases skip <;> simp [piecesLoop, pieces]
  | cons a rest ih =>
    cases skip with
    | zero =>
      rw [List.drop_zero, pieces, piecesLoop, piecesLoop, ih, ih _ [_]]
      simp
    | succ skip =>
      rw [piecesLoop, ih]
      rfl

theorem pieces_cons (a : UInt8) (rest : Bytes) :
    pieces first (a :: rest) =
      first a rest :: pieces first (rest.drop ((first a rest).length - 1)) := by
  rw [pieces, piecesLoop, piecesLoop_eq]
  rfl

theorem pieces_encodeOne_append {c : CodePoint} (h : Knows first c) (rest : Bytes) :
    pieces first (encodeOne c ++ rest) =
      .scalar c (encodeOne c).length :: pieces first rest := by
  obtain ⟨a, more, he, hf⟩ := h
  rw [he, List.cons_append, pieces_cons, hf rest]
  simp [Piece.length]

/-- The pieces of an encoded text are the encodings of its code points. -/
theorem pieces_encodeAll {t : Text} (h : ∀ c ∈ t, Knows first c) :
    pieces first (encodeAll t) = t.map fun c => .scalar c (encodeOne c).length := by
  induction t with
  | nil => rfl
  | cons c t ih =>
    rw [encodeAll, List.flatMap_cons, pieces_encodeOne_append (h c List.mem_cons_self),
      List.map_cons]
    exact congrArg _ (ih fun d hd => h d (List.mem_cons_of_mem _ hd))

/-- Every piece is what the reader of first pieces makes of some place in the bytes. -/
theorem exists_first_of_mem_pieces {bytes : Bytes} {p : Piece} (h : p ∈ pieces first bytes) :
    ∃ a rest, p = first a rest := by
  -- the loop may start inside a piece, with other pieces found before
  suffices hl : ∀ (skip : Nat) (found : List Piece), p ∈ piecesLoop first skip bytes found →
      p ∈ found ∨ ∃ a rest, p = first a rest from (hl 0 [] h).resolve_left (by simp)
  clear h
  induction bytes with
  | nil =>
    intro skip found h
    exact Or.inl (by cases skip <;> simpa [piecesLoop] using h)
  | cons a rest ih =>
    intro skip found h
    cases skip with
    | succ skip => exact ih skip found h
    | zero =>
      rcases ih _ _ h with h | h
      · rcases List.mem_cons.1 h with h | h
        · exact Or.inr ⟨a, rest, h⟩
        · exact Or.inl h
      · exact Or.inr h

end Cut

/-! ### The readers -/

/-- The tolerant reader gives back a text without surrogates. -/
theorem decodeReplacing_encodeAll {t : Text} (h : t.isScalar = true) :
    decodeReplacing (encodeAll t) = t := by
  rw [decodeReplacing, pieces_encodeAll fun c hc => knows_firstPiece (Text.isScalar_iff.1 h c hc),
    List.map_map]
  exact List.map_id t

theorem readPiecesLoop_scalars (position : Nat) (found t : Text) (size : CodePoint → Nat) :
    readPiecesLoop position found (t.map fun c => .scalar c (size c)) =
      .ok (found.reverse ++ t) := by
  induction t generalizing position found with
  | nil => simp [readPiecesLoop]
  | cons c t ih =>
    rw [List.map_cons, readPiecesLoop, ih]
    simp

/-- The strict reader gives back every text. -/
theorem decode_encodeAll (t : Text) : decode (encodeAll t) = .ok t := by
  rw [decode, pieces_encodeAll fun c _ => knows_firstPieceLoose c, readPieces,
    readPiecesLoop_scalars]
  rfl

theorem isSurrogate_ofNat {n : Nat} (h : n < 0xD800 ∨ 0xDFFF < n) :
    (CodePoint.ofNat n).isSurrogate = false := by
  rw [CodePoint.ofNat]
  split
  · simp only [CodePoint.isSurrogate]
    simp
    omega
  · rfl

theorem leadLength_range (a : UInt8) :
    leadLength a = 0 ∨ leadLength a = 1 ∧ a.toNat < 0x80
      ∨ leadLength a = 2 ∧ 0xC2 ≤ a.toNat ∧ a.toNat < 0xE0
      ∨ leadLength a = 3 ∧ 0xE0 ≤ a.toNat ∧ a.toNat < 0xF0
      ∨ leadLength a = 4 ∧ 0xF0 ≤ a.toNat ∧ a.toNat < 0xF5 := by
  simp only [leadLength]
  split
  · omega
  · split
    · omega
    · split
      · omega
      · split
        · omega
        · split <;> omega

/-- A second byte continues a code point; behind some first bytes it is bounded more tightly. -/
theorem isSecond_range {a b : UInt8} (h : isSecond a b = true) :
    0x80 ≤ b.toNat ∧ b.toNat ≤ 0xBF ∧ (a.toNat = 0xED → b.toNat ≤ 0x9F)
      ∧ (a.toNat = 0xF0 → 0x90 ≤ b.toNat) := by
  simp only [isSecond] at h
  split at h <;> simp only [Bool.and_eq_true, decide_eq_true_eq] at h
  case h_5 _ _ hED hF0 _ =>
    exact ⟨h.1, h.2, fun he => (hED he).elim, fun he => (hF0 he).elim⟩
  all_goals exact ⟨by omega, by omega, fun he => by omega, fun he => by omega⟩

/-- A piece that stands for a code point does not stand for a surrogate. -/
theorem isSurrogate_of_firstPiece {a : UInt8} {rest : Bytes} {c : CodePoint} {n : Nat}
    (h : firstPiece a rest = .scalar c n) : c.isSurrogate = false := by
  have hlead := leadLength_range a
  unfold firstPiece at h
  split at h
  · cases h
  · next h1 =>
    obtain ⟨rfl, -⟩ := (Piece.scalar.injEq ..).mp h
    exact isSurrogate_ofNat (Or.inl (by omega))
  · next h0 h1 =>
    have h0 : leadLength a ≠ 0 := h0
    have h1 : leadLength a ≠ 1 := h1
    split at h
    · cases h
    · next b rest =>
      split at h
      · cases h
      · next hb =>
        have hb := isSecond_range (by simpa using hb)
        split at h
        · next h2 =>
          obtain ⟨rfl, -⟩ := (Piece.scalar.injEq ..).mp h
          exact isSurrogate_ofNat (Or.inl (by omega))
        · split at h
          · cases h
          · next d rest =>
            split at h
            · cases h
            · next hd =>
              have hd : 0x80 ≤ d.toNat ∧ d.toNat ≤ 0xBF := by
                simpa [isContinuation] using hd
              split at h
              · -- behind 0xED the second byte ends before the surrogates begin
                next h3 =>
                obtain ⟨rfl, -⟩ := (Piece.scalar.injEq ..).mp h
                exact isSurrogate_ofNat (by omega)
              · split at h
                · cases h
                · next e rest =>
                  split at h
                  · cases h
                  · obtain ⟨rfl, -⟩ := (Piece.scalar.injEq ..).mp h
                    exact isSurrogate_ofNat (Or.inr (by omega))

theorem isSurrogate_shown_firstPiece (a : UInt8) (rest : Bytes) :
    (firstPiece a rest).shown.isSurrogate = false := by
  cases h : firstPiece a rest with
  | scalar c n => exact isSurrogate_of_firstPiece h
  | illFormed n reason => rfl

/-- The tolerant reader gives no surrogate. -/
theorem isScalar_decodeReplacing (bytes : Bytes) : (decodeReplacing bytes).isScalar = true := by
  refine Text.isScalar_iff.2 fun c hc => ?_
  obtain ⟨p, hp, rfl⟩ := List.mem_map.1 hc
  obtain ⟨a, rest, rfl⟩ := exists_first_of_mem_pieces hp
  exact isSurrogate_shown_firstPiece a rest

theorem encode_of_isScalar {t : Text} (h : t.isScalar = true) : encode t = .ok (encodeAll t) := by
  have hn : Text.firstRun? CodePoint.isSurrogate t = none :=
    Text.firstRun?_eq_none_iff.2 (Text.isScalar_iff.1 h)
  rw [encode, hn]

theorem encode_of_not_isScalar {t : Text} (h : t.isScalar = false) :
    ∃ error, encode t = .error error := by
  cases hr : Text.firstRun? CodePoint.isSurrogate t with
  | none =>
    have hall : t.isScalar = true := Text.isScalar_iff.2 (Text.firstRun?_eq_none_iff.1 hr)
    rw [hall] at h
    cases h
  | some run =>
    obtain ⟨c, start, stop⟩ := run
    exact ⟨⟨.utf8, c, start, stop⟩, by rw [encode, hr]⟩

end Utf8

end RavenBinding
