import RavenBinding.Json.Body
import RavenBinding.Json.Bytes
import RavenBinding.Proofs.Json.RoundTrip
import RavenBinding.Proofs.Text.Utf8RoundTrip

/-!
# Reading back bodies

The text of a plain value holds no control characters and begins with a character of ASCII. In UTF-8
it is therefore never taken for another format, and the value is read back from its bytes.

## Main statements

- `BodyFormat.detect_of_ascii_head`: the format of bytes without zeros
- `Json.isWritten_of_mem_render`: the code points of a text that was written
- `Json.parseBody_render`: reading a body that was written
- `Json.exists_parseBody_texts`: reading a list of texts, whatever is in them
-/

namespace RavenBinding

/-- A text without surrogates has no pair of them. -/
theorem Text.unpaired_of_isScalar {t : Text} (h : t.isScalar = true) : t.Unpaired := by
  induction t with
  | nil => trivial
  | cons c t ih =>
    have ht : Text.isScalar t = true := (Bool.and_eq_true_iff.1 h).2
    cases t with
    | nil => trivial
    | cons d t =>
      refine ⟨fun ⟨hhigh, _⟩ => ?_, ih ht⟩
      have hc := Text.isScalar_iff.1 h c List.mem_cons_self
      simp only [CodePoint.isSurrogate, CodePoint.isHighSurrogate, Bool.and_eq_true,
        Bool.and_eq_false_iff, decide_eq_true_eq, decide_eq_false_iff_not] at hc hhigh
      omega

/-- Bytes without zeros that begin with a byte of ASCII are UTF-8 without a mark. -/
theorem BodyFormat.detect_of_ascii_head {bytes : Bytes} (hzero : ∀ b ∈ bytes, b ≠ 0)
    (hhead : ∀ b ∈ bytes.head?, b.toNat < 0x80) : detect bytes = .utf8 false := by
  cases bytes with
  | nil => rfl
  | cons a rest =>
    have ha : a.toNat < 0x80 := hhead a rfl
    have hmark : ∀ (m : UInt8) (ms : Bytes), 0x80 ≤ m.toNat ∨ m = 0 →
        (m :: ms).isPrefixOf (a :: rest) = false := by
      intro m ms hm
      have hne : (m == a) = false := by
        refine beq_eq_false_iff_ne.2 ?_
        rintro rfl
        rcases hm with hm | rfl
        · omega
        · exact hzero 0 List.mem_cons_self rfl
      rw [List.isPrefixOf, hne, Bool.false_and]
    -- without a mark, the format is told by the zeros among the first four bytes
    have hzeros : ofZeros (a :: rest) = .utf8 false := by
      have hfirst : ¬a = 0 := hzero a List.mem_cons_self
      match rest with
      | [] => rfl
      | [b] =>
        have hb : ¬b = 0 := hzero b (by simp)
        rw [ofZeros, if_neg hfirst, if_neg hb]
      | [_, _] => rfl
      | b :: _ :: _ :: _ =>
        have hb : ¬b = 0 := hzero b (by simp)
        rw [ofZeros, if_neg hfirst, if_neg hb]
    rw [detect, hmark 0x00 _ (Or.inr rfl), hmark 0xFF _ (Or.inl (by decide)),
      hmark 0xFE _ (Or.inl (by decide)), hmark 0xFF _ (Or.inl (by decide)),
      hmark 0xEF _ (Or.inl (by decide)), hzeros]
    rfl

namespace Utf8

/-- Only the first code point is encoded with a zero byte. -/
theorem ne_zero_of_mem_encodeAll {t : Text} (h : ∀ c ∈ t, c.val ≠ 0) {b : UInt8}
    (hb : b ∈ encodeAll t) : b ≠ 0 := by
  obtain ⟨c, hc, hb⟩ := List.mem_flatMap.1 hb
  have hne := h c hc
  have hlt := c.isLt
  have hpos : ∀ n : Nat, 0 < n → n < 256 → UInt8.ofNat n ≠ 0 := by
    intro n hn hlt he
    have := congrArg UInt8.toNat he
    rw [UInt8.toNat_ofNat', Nat.mod_eq_of_lt hlt] at this
    exact absurd this (by simpa using Nat.ne_of_gt hn)
  rw [encodeOne] at hb
  split at hb
  · rw [List.mem_singleton] at hb
    exact hb ▸ hpos _ (by omega) (by omega)
  · split at hb
    · simp only [List.mem_cons, List.not_mem_nil, or_false] at hb
      rcases hb with rfl | rfl
      · exact hpos _ (by omega) (by omega)
      · exact hpos _ (by omega) (by omega)
    · split at hb
      · simp only [List.mem_cons, List.not_mem_nil, or_false] at hb
        rcases hb with rfl | rfl | rfl
        · exact hpos _ (by omega) (by omega)
        · exact hpos _ (by omega) (by omega)
        · exact hpos _ (by omega) (by omega)
      · simp only [List.mem_cons, List.not_mem_nil, or_false] at hb
        rcases hb with rfl | rfl | rfl | rfl
        · exact hpos _ (by omega) (by omega)
        · exact hpos _ (by omega) (by omega)
        · exact hpos _ (by omega) (by omega)
        · exact hpos _ (by omega) (by omega)

end Utf8

namespace Json

variable {ascii : Bool} {depth : Nat}

/-- JSON text holds no control characters, and in ASCII only printable ones. -/
def IsWritten (ascii : Bool) (c : CodePoint) : Prop :=
  0x20 ≤ c.val ∧ (ascii = true → c.val < 0x7F)

theorem isWritten_of_isDigit {c : CodePoint} (h : c.isDigit = true) : IsWritten ascii c := by
  simp only [CodePoint.isDigit, Bool.and_eq_true, decide_eq_true_eq] at h
  exact ⟨by omega, fun _ => by omega⟩

theorem isWritten_of_mem_unitEscape {n : Nat} {d : CodePoint} (h : d ∈ unitEscape n) :
    IsWritten ascii d := by
  have hletter : ∀ c ∈ Text.ofString "\\u", IsWritten ascii c := by
    simp [Text.ofString, CodePoint.val_ofChar, IsWritten]
  have hdigit : ∀ m : Fin 16, 0x20 ≤ (CodePoint.hexDigit m).val ∧
      (CodePoint.hexDigit m).val < 0x7F := by decide
  rcases List.mem_append.1 h with h | h
  · exact hletter d h
  · obtain ⟨m, rfl⟩ := exists_hexDigit h
    exact ⟨(hdigit m).1, fun _ => (hdigit m).2⟩

theorem isWritten_of_mem_escape {c d : CodePoint} (h : d ∈ escape ascii c) :
    IsWritten ascii d := by
  rw [escape] at h
  cases hshort : shortEscape? c with
  | some e =>
    obtain ⟨-, u, rfl, ⟨hge, hlt, -⟩, -⟩ := exists_letter hshort
    simp only [hshort, List.mem_cons, List.not_mem_nil, or_false] at h
    rcases h with rfl | rfl
    · exact ⟨by decide, fun _ => by decide⟩
    · exact ⟨hge, fun _ => hlt⟩
  | none =>
    simp only [hshort] at h
    split at h
    · exact isWritten_of_mem_unitEscape h
    · split at h
      · split at h
        · exact isWritten_of_mem_unitEscape h
        · exact (List.mem_append.1 h).elim isWritten_of_mem_unitEscape isWritten_of_mem_unitEscape
      · next hcontrol hraw =>
        obtain rfl := List.mem_singleton.1 h
        simp only [Bool.and_eq_true, decide_eq_true_eq, not_and] at hraw
        exact ⟨Nat.not_lt.1 hcontrol, fun hascii => Nat.not_le.1 (hraw hascii)⟩

theorem isWritten_of_mem_quote {t : Text} {d : CodePoint} (h : d ∈ quote ascii t) :
    IsWritten ascii d := by
  simp only [quote, List.mem_cons, List.mem_append, List.not_mem_nil, or_false] at h
  rcases h with rfl | h | rfl
  · exact ⟨by decide, fun _ => by decide⟩
  · obtain ⟨c, -, h⟩ := List.mem_flatMap.1 h
    exact isWritten_of_mem_escape h
  · exact ⟨by decide, fun _ => by decide⟩

/-- The numeral of an integer is made of digits behind a minus. -/
theorem mem_ofInt {i : Int} {d : CodePoint} (h : d ∈ Text.ofInt i) :
    d = CodePoint.ofChar '-' ∨ d.isDigit = true := by
  cases i with
  | ofNat n => exact Or.inr (Text.isDigit_of_mem_ofNat h)
  | negSucc n =>
    rcases List.mem_cons.1 h with rfl | h
    · exact Or.inl rfl
    · exact Or.inr (Text.isDigit_of_mem_ofNat h)

theorem mem_renderItems {first : Bool} {items : List Json} {d : CodePoint}
    (h : d ∈ renderItems ascii first items) :
    d = CodePoint.ofChar ',' ∨ ∃ x ∈ items, d ∈ render ascii x := by
  induction items generalizing first with
  | nil => cases h
  | cons x xs ih =>
    rw [renderItems, List.mem_append, List.mem_append] at h
    rcases h with (h | h) | h
    · cases first with
      | true => cases h
      | false => exact Or.inl (List.mem_singleton.1 h)
    · exact Or.inr ⟨x, List.mem_cons_self, h⟩
    · rcases ih h with h | ⟨y, hy, h⟩
      · exact Or.inl h
      · exact Or.inr ⟨y, List.mem_cons_of_mem _ hy, h⟩

theorem mem_renderMembers {first : Bool} {members : List (Text × Json)} {d : CodePoint}
    (h : d ∈ renderMembers ascii first members) :
    d = CodePoint.ofChar ',' ∨ d = CodePoint.ofChar ':' ∨
      ∃ e ∈ members, d ∈ quote ascii e.1 ∨ d ∈ render ascii e.2 := by
  induction members generalizing first with
  | nil => cases h
  | cons e es ih =>
    rw [renderMembers, List.mem_append, List.mem_append, List.mem_append, List.mem_append] at h
    rcases h with (((h | h) | h) | h) | h
    · cases first with
      | true => cases h
      | false => exact Or.inl (List.mem_singleton.1 h)
    · exact Or.inr (Or.inr ⟨e, List.mem_cons_self, Or.inl h⟩)
    · exact Or.inr (Or.inl (List.mem_singleton.1 h))
    · exact Or.inr (Or.inr ⟨e, List.mem_cons_self, Or.inr h⟩)
    · rcases ih h with h | h | ⟨f, hf, h⟩
      · exact Or.inl h
      · exact Or.inr (Or.inl h)
      · exact Or.inr (Or.inr ⟨f, List.mem_cons_of_mem _ hf, h⟩)

/-- The text of a plain value holds no control characters, and in ASCII only printable ones. -/
theorem isWritten_of_mem_render {j : Json} (h : Plain ascii depth j) {d : CodePoint}
    (hd : d ∈ render ascii j) : IsWritten ascii d := by
  have hword : ∀ t ∈ [Text.ofString "null", Text.ofString "true", Text.ofString "false"],
      ∀ c ∈ t, IsWritten ascii c := by
    simp [Text.ofString, CodePoint.val_ofChar, IsWritten]
  have hmark : ∀ char ∈ ['[', ']', '{', '}', ',', ':', '-'],
      IsWritten ascii (CodePoint.ofChar char) := by
    simp [CodePoint.val_ofChar, IsWritten]
  induction h with
  | null => exact hword (Text.ofString "null") (by simp) d hd
  | bool depth b =>
    cases b with
    | true => exact hword (Text.ofString "true") (by simp) d hd
    | false => exact hword (Text.ofString "false") (by simp) d hd
  | int =>
    rcases mem_ofInt hd with rfl | hd
    · exact hmark _ (by simp)
    · exact isWritten_of_isDigit hd
  | text => exact isWritten_of_mem_quote hd
  | array inside ih =>
    simp only [render, List.mem_cons, List.mem_append, List.not_mem_nil, or_false] at hd
    rcases hd with rfl | hd | rfl
    · exact hmark _ (by simp)
    · rcases mem_renderItems hd with rfl | ⟨x, hx, hd⟩
      · exact hmark _ (by simp)
      · exact ih x hx hd
    · exact hmark _ (by simp)
  | object distinct unpaired inside ih =>
    simp only [render, List.mem_cons, List.mem_append, List.not_mem_nil, or_false] at hd
    rcases hd with rfl | hd | rfl
    · exact hmark _ (by simp)
    · rcases mem_renderMembers hd with rfl | rfl | ⟨e, he, hd | hd⟩
      · exact hmark _ (by simp)
      · exact hmark _ (by simp)
      · exact isWritten_of_mem_quote hd
      · exact ih e he hd
    · exact hmark _ (by simp)

/-- The text of a plain value begins in ASCII. -/
theorem head_render_lt {j : Json} (h : Plain ascii depth j) :
    ∃ c t, render ascii j = c :: t ∧ c.val < 0x80 := by
  cases h with
  | null => exact ⟨_, _, rfl, by decide⟩
  | bool depth b =>
    cases b with
    | true => exact ⟨_, _, rfl, by decide⟩
    | false => exact ⟨_, _, rfl, by decide⟩
  | int depth few =>
    obtain ⟨c, digits, hc, hi | hi⟩ := exists_ofInt _
    · refine ⟨c, digits, hi, ?_⟩
      simp only [CodePoint.isDigit, Bool.and_eq_true, decide_eq_true_eq] at hc
      omega
    · exact ⟨_, _, hi, by decide⟩
  | text => exact ⟨_, _, rfl, by decide⟩
  | array => exact ⟨_, _, rfl, by decide⟩
  | object => exact ⟨_, _, rfl, by decide⟩

theorem detect_encodeAll_render {j : Json} (h : Plain ascii depth j) :
    BodyFormat.detect (Utf8.encodeAll (render ascii j)) = .utf8 false := by
  refine BodyFormat.detect_of_ascii_head (fun b hb => ?_) (fun b hb => ?_)
  · refine Utf8.ne_zero_of_mem_encodeAll (fun c hc => ?_) hb
    have := (isWritten_of_mem_render h hc).1
    omega
  · obtain ⟨c, t, hc, hlt⟩ := head_render_lt h
    have hfirst : Utf8.encodeAll (render ascii j) = UInt8.ofNat c.val :: Utf8.encodeAll t := by
      rw [hc, Utf8.encodeAll, List.flatMap_cons, Utf8.encodeOne]
      simp only [if_pos hlt]
      rfl
    rw [hfirst] at hb
    obtain rfl := Option.some.inj hb
    rw [UInt8.toNat_ofNat', Nat.mod_eq_of_lt (by omega)]
    exact hlt

/-- A body that was written is read as its value. -/
theorem parseBody_render {j : Json} (h : Plain ascii depth j) (hd : depth ≤ Value.maxDepth) :
    parseBody (Utf8.encodeAll (render ascii j)) = .ok j := by
  rw [parseBody, detect_encodeAll_render h]
  simp only [BodyFormat.decode, Utf8.decode_encodeAll, parse_render h hd]

/-! ### Texts of any kind -/

theorem exists_renderItems_texts (first : Bool) (ts : List Text) :
    ∃ us : List Text, (∀ u ∈ us, Text.Unpaired u) ∧ (∀ t ∈ ts, Text.Unpaired t → t ∈ us) ∧
      renderItems true first (us.map Json.text) = renderItems true first (ts.map Json.text) := by
  induction ts generalizing first with
  | nil => exact ⟨[], by simp, by simp, rfl⟩
  | cons t ts ih =>
    have hitem : ∃ u : Text, u.Unpaired ∧ (Text.Unpaired t → u = t) ∧
        u.flatMap (escape true) = t.flatMap (escape true) := by
      by_cases ht : Text.Unpaired t
      · exact ⟨t, ht, fun _ => rfl, rfl⟩
      · obtain ⟨u, hu, hescape, -⟩ := exists_unpaired t
        exact ⟨u, hu, fun h => absurd h ht, hescape⟩
    obtain ⟨u, hu, hsame, hescape⟩ := hitem
    obtain ⟨us, hus, hkept, hrender⟩ := ih false
    have hquote : quote true u = quote true t := by rw [quote, quote, hescape]
    refine ⟨u :: us, by simpa using ⟨hu, hus⟩, fun s hs hunpaired => ?_, ?_⟩
    · rcases List.mem_cons.1 hs with rfl | hs
      · rw [hsame hunpaired]
        exact List.mem_cons_self
      · exact List.mem_cons_of_mem u (hkept s hs hunpaired)
    · simp only [List.map_cons, renderItems, render, hquote, hrender]

/-- Texts without a pair of surrogates that were written in ASCII are read as they are. -/
theorem parseBody_texts {ts : List Text} (h : ∀ t ∈ ts, Text.Unpaired t) :
    parseBody (Utf8.encodeAll (render true (.array (ts.map Json.text)))) =
      .ok (.array (ts.map Json.text)) := by
  have hplain : Plain true 1 (.array (ts.map Json.text)) := by
    refine .array fun x hx => ?_
    obtain ⟨t, ht, rfl⟩ := List.mem_map.1 hx
    exact .text 0 fun _ => h t ht
  exact parseBody_render hplain (by decide)

/-- Texts that were written in ASCII are read as texts, and stay as they are without a pair of
surrogates. -/
theorem exists_parseBody_texts (ts : List Text) :
    ∃ us : List Text, parseBody (Utf8.encodeAll (render true (.array (ts.map Json.text)))) =
      .ok (.array (us.map Json.text)) ∧ ∀ t ∈ ts, Text.Unpaired t → t ∈ us := by
  obtain ⟨us, hus, hkept, hrender⟩ := exists_renderItems_texts true ts
  have hsame : render true (.array (ts.map Json.text)) =
      render true (.array (us.map Json.text)) := by
    rw [render, render, hrender]
  refine ⟨us, ?_, hkept⟩
  rw [hsame]
  exact parseBody_texts hus

end Json

end RavenBinding
