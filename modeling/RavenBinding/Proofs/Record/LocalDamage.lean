import RavenBinding.Proofs.Record.Restored

/-!
# Damaged bytes in a field

A document keeps what a tolerant reader of UTF-8 sees in the bytes of a field. To such a reader, bytes
that do not go on with a code point end an ill-formed part just as the end of all bytes does. Damage
therefore stays where it is: the text of two byte strings is that of both together if the first one
is well formed, or the second one does not begin inside a code point.

## Main definitions

- `Utf8.StartsFresh`: bytes that do not begin inside a code point
- `Utf8.Piece.Alike`: pieces that cannot be told apart in what is read

## Main statements

- `Utf8.alike_firstPiece`: a piece does not depend on fresh bytes behind it
- `Utf8.decodeReplacing_append`: reading two byte strings together
- `Record.fieldText_damage_local`: the text of a field, piece by piece
-/

namespace RavenBinding

namespace Utf8

/-- The bytes do not begin with one that goes on with a code point. -/
def StartsFresh (b : Bytes) : Prop := ∀ c ∈ b.head?, isContinuation c = false

/-- Two pieces take as many bytes and are shown as one character. -/
def Piece.Alike (p q : Piece) : Prop := p.length = q.length ∧ p.shown = q.shown

theorem startsFresh_nil : StartsFresh [] := nofun

theorem startsFresh_cons {c : UInt8} {rest : Bytes} :
    StartsFresh (c :: rest) ↔ isContinuation c = false :=
  ⟨fun h => h c rfl, fun h _ hd => Option.some.inj hd ▸ h⟩

theorem Carries.startsFresh {u : Bytes} {n : Nat} (h : Carries u n) (rest : Bytes) :
    StartsFresh (u ++ rest) := by
  have hfirst : ∀ {a : UInt8}, a.toNat < 0x80 ∨ 0xC0 ≤ a.toNat → isContinuation a = false := by
    intro a ha
    rw [Bool.eq_false_iff, ne_eq, isContinuation_iff]
    omega
  cases h with
  | one ha => exact startsFresh_cons.2 (hfirst (Or.inl ha))
  | two ha => exact startsFresh_cons.2 (hfirst (Or.inr ha))
  | three ha => exact startsFresh_cons.2 (hfirst (Or.inr (by omega)))
  | four ha => exact startsFresh_cons.2 (hfirst (Or.inr (by omega)))

/-- Well-formed bytes begin with a code point. -/
theorem WellFormed.startsFresh {b : Bytes} (h : WellFormed b) : StartsFresh b := by
  cases h with
  | nil => exact startsFresh_nil
  | append hunit _ =>
    obtain ⟨n, hcarry, -⟩ := hunit
    exact hcarry.startsFresh _

/-! ### The first piece -/

/-- A byte that does not go on with a code point is no second byte either. -/
theorem isSecond_of_fresh {c : UInt8} (h : isContinuation c = false) (a : UInt8) :
    isSecond a c = false := by
  rw [Bool.eq_false_iff] at h ⊢
  intro hsecond
  obtain ⟨hge, hle, -⟩ := isSecond_range hsecond
  exact h (isContinuation_iff.2 ⟨hge, hle⟩)

/-- The first piece takes no more bytes than there are. -/
theorem length_firstPiece_le (a : UInt8) (rest : Bytes) :
    (firstPiece a rest).length ≤ rest.length + 1 := by
  unfold firstPiece
  repeat' split
  all_goals simp only [Piece.length, List.length_cons, List.length_nil]
  all_goals omega

/-- Fresh bytes behind a piece do not change what is read: where the piece is cut off, they are
refused as its next byte. -/
theorem alike_firstPiece (a : UInt8) (rest : Bytes) {b : Bytes} (h : StartsFresh b) :
    (firstPiece a rest).Alike (firstPiece a (rest ++ b)) := by
  cases b with
  | nil =>
    rw [List.append_nil]
    exact ⟨rfl, rfl⟩
  | cons c b =>
    have hc := startsFresh_cons.1 h
    have hsecond := isSecond_of_fresh hc a
    unfold firstPiece
    rcases leadLength a with _ | _ | n
    · exact ⟨rfl, rfl⟩
    · exact ⟨rfl, rfl⟩
    · -- on the bytes that the piece looks at, three at most
      rcases rest with _ | ⟨x, _ | ⟨y, _ | ⟨z, rest⟩⟩⟩
      · simp [hsecond, Piece.Alike, Piece.length, Piece.shown]
      · simp only [List.cons_append, List.nil_append, hc]
        split
        · exact ⟨rfl, rfl⟩
        · split
          · exact ⟨rfl, rfl⟩
          · exact ⟨rfl, rfl⟩
      · simp only [List.cons_append, List.nil_append, hc]
        split
        · exact ⟨rfl, rfl⟩
        · split
          · exact ⟨rfl, rfl⟩
          · split
            · exact ⟨rfl, rfl⟩
            · split
              · exact ⟨rfl, rfl⟩
              · exact ⟨rfl, rfl⟩
      · exact ⟨rfl, rfl⟩

/-! ### Reading -/

theorem decodeReplacing_cons (a : UInt8) (rest : Bytes) :
    decodeReplacing (a :: rest) = (firstPiece a rest).shown ::
      decodeReplacing (rest.drop ((firstPiece a rest).length - 1)) := by
  rw [decodeReplacing, pieces_cons, List.map_cons]
  rfl

/-- Well-formed bytes are read alike whatever follows them. -/
theorem decodeReplacing_encodeAll_append {t : Text} (h : t.isScalar = true) (rest : Bytes) :
    decodeReplacing (encodeAll t ++ rest) = t ++ decodeReplacing rest := by
  induction t with
  | nil => rfl
  | cons c t ih =>
    have hc := Text.isScalar_iff.1 h
    have ht := ih (Text.isScalar_iff.2 fun d hd => hc d (List.mem_cons_of_mem c hd))
    rw [encodeAll, List.flatMap_cons, List.append_assoc, decodeReplacing,
      pieces_encodeOne_append (knows_firstPiece (hc c List.mem_cons_self)), List.map_cons]
    exact congrArg (c :: ·) ht

/-- Any bytes are read alike whatever fresh bytes follow them. -/
theorem decodeReplacing_append_of_fresh (a : Bytes) {b : Bytes} (h : StartsFresh b) :
    decodeReplacing (a ++ b) = decodeReplacing a ++ decodeReplacing b := by
  -- on the length of the first bytes, of which each piece takes some away
  induction hn : a.length using Nat.strongRecOn generalizing a with
  | _ n ih =>
    cases a with
    | nil => rfl
    | cons x rest =>
      obtain ⟨hlength, hshown⟩ := alike_firstPiece x rest h
      have hle := length_firstPiece_le x rest
      have hdrop : (rest ++ b).drop ((firstPiece x rest).length - 1) =
          rest.drop ((firstPiece x rest).length - 1) ++ b :=
        List.drop_append_of_le_length (by omega)
      have hless : (rest.drop ((firstPiece x rest).length - 1)).length < n := by
        rw [List.length_drop]
        rw [List.length_cons] at hn
        omega
      rw [List.cons_append, decodeReplacing_cons, decodeReplacing_cons, ← hlength, ← hshown, hdrop,
        ih _ hless _ rfl, List.cons_append]

/-- Two byte strings are read together as one after the other, unless the first one is damaged and
the second one begins inside a code point. -/
theorem decodeReplacing_append {a b : Bytes} (h : WellFormed a ∨ StartsFresh b) :
    decodeReplacing (a ++ b) = decodeReplacing a ++ decodeReplacing b := by
  rcases h with h | h
  · obtain ⟨t, ht, rfl⟩ := exists_encodeAll h
    rw [decodeReplacing_encodeAll_append ht, decodeReplacing_encodeAll ht]
  · exact decodeReplacing_append_of_fresh a h

/-- Byte strings that begin with code points are read piece by piece. -/
theorem decodeReplacing_flatten {parts : List Bytes} (h : ∀ p ∈ parts, StartsFresh p) :
    decodeReplacing parts.flatten = parts.flatMap decodeReplacing := by
  have hfresh : ∀ {parts : List Bytes}, (∀ p ∈ parts, StartsFresh p) →
      StartsFresh parts.flatten := by
    intro parts h
    induction parts with
    | nil => exact startsFresh_nil
    | cons p parts ih =>
      cases p with
      | nil => exact ih fun q hq => h q (List.mem_cons_of_mem _ hq)
      | cons c p => exact startsFresh_cons.2 (startsFresh_cons.1 (h _ List.mem_cons_self))
  induction parts with
  | nil => rfl
  | cons p parts ih =>
    have hparts : ∀ q ∈ parts, StartsFresh q := fun q hq => h q (List.mem_cons_of_mem p hq)
    rw [List.flatten_cons, decodeReplacing_append_of_fresh p (hfresh hparts), ih hparts,
      List.flatMap_cons]

end Utf8

namespace Record

theorem mapM_fieldText_bytes (kind : BytesKind) (parts : List Bytes) :
    (parts.mapM fun p => fieldText (.bytes kind p)) = .ok (parts.map Utf8.decodeReplacing) := by
  induction parts with
  | nil => rfl
  | cons p parts ih =>
    rw [List.mapM_cons, ih, fieldText_bytes]
    rfl

/-- Damaged bytes of a field change no text but their own. The text of two byte strings together is
that of the one and then that of the other, if the first one is well formed or the second one does
not begin inside a code point. Well-formed bytes around any others therefore keep their text, and
bytes that are split where code points begin have their text piece by piece. -/
theorem fieldText_damage_local (kind : BytesKind) :
    (∀ a b : Bytes, Utf8.WellFormed a ∨ Utf8.StartsFresh b →
      ∃ s t, fieldText (.bytes kind a) = .ok s ∧ fieldText (.bytes kind b) = .ok t ∧
        fieldText (.bytes kind (a ++ b)) = .ok (s ++ t)) ∧
    (∀ before damaged after : Bytes, Utf8.WellFormed before → Utf8.WellFormed after →
      ∃ s m t, Utf8.encodeAll s = before ∧ Utf8.encodeAll t = after ∧
        fieldText (.bytes kind damaged) = .ok m ∧
        fieldText (.bytes kind (before ++ damaged ++ after)) = .ok (s ++ m ++ t)) ∧
    ∀ parts : List Bytes, (∀ p ∈ parts, Utf8.StartsFresh p) →
      ∃ texts, (parts.mapM fun p => fieldText (.bytes kind p)) = .ok texts ∧
        fieldText (.bytes kind parts.flatten) = .ok texts.flatten := by
  refine ⟨fun a b h => ?_, fun before damaged after hbefore hafter => ?_, fun parts h => ?_⟩
  · refine ⟨_, _, fieldText_bytes kind a, fieldText_bytes kind b, ?_⟩
    rw [fieldText_bytes, Utf8.decodeReplacing_append h]
  · have hfresh := hafter.startsFresh
    obtain ⟨s, hs, rfl⟩ := Utf8.exists_encodeAll hbefore
    obtain ⟨t, ht, rfl⟩ := Utf8.exists_encodeAll hafter
    refine ⟨s, _, t, rfl, rfl, fieldText_bytes kind damaged, ?_⟩
    rw [fieldText_bytes, Utf8.decodeReplacing_append_of_fresh _ hfresh,
      Utf8.decodeReplacing_encodeAll_append hs, Utf8.decodeReplacing_encodeAll ht]
  · refine ⟨_, mapM_fieldText_bytes kind parts, ?_⟩
    rw [fieldText_bytes, Utf8.decodeReplacing_flatten h, List.flatMap_def]

/-- A euro sign that is cut off in the middle is one replacement character, at the end and before
another letter. -/
theorem fieldText_damage_local_cut_off :
    fieldText (.bytes .bytearray [0x61, 0xE2, 0x82]) = .ok (Text.ofString "a\uFFFD") ∧
      Utf8.StartsFresh [0xC3, 0xA9] ∧
      ∃ s t, fieldText (.bytes .bytearray [0x61, 0xE2, 0x82]) = .ok s ∧
        fieldText (.bytes .bytearray [0xC3, 0xA9]) = .ok t ∧
        fieldText (.bytes .bytearray ([0x61, 0xE2, 0x82] ++ [0xC3, 0xA9])) = .ok (s ++ t) := by
  have hfresh : Utf8.StartsFresh [0xC3, 0xA9] := Utf8.startsFresh_cons.2 rfl
  exact ⟨rfl, hfresh, (fieldText_damage_local .bytearray).1 _ _ (Or.inr hfresh)⟩

end Record

end RavenBinding
