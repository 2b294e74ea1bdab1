import RavenBinding.Text.Basic

/-!
# Cutting and joining

A text that was joined from pieces comes apart into the same pieces, as long as no piece holds the
separator. A cut finds the separator that was put in, and nothing where there is none.
-/

namespace RavenBinding

namespace Text

variable {sep : CodePoint}

theorem splitOnLoop_of_not_mem {t : Text} (h : sep ∉ t) (piece : Text) (pieces : List Text) :
    splitOnLoop sep t piece pieces = pieces.reverse ++ [piece.reverse ++ t] := by
  induction t generalizing piece with
  | nil => simp [splitOnLoop]
  | cons c t ih =>
    have hc : (c == sep) = false := beq_eq_false_iff_ne.2 fun he => h (he ▸ List.mem_cons_self)
    rw [splitOnLoop, hc, if_neg Bool.false_ne_true, ih fun hm => h (List.mem_cons_of_mem _ hm)]
    simp

theorem splitOnLoop_append_cons {s : Text} (h : sep ∉ s) (t piece : Text) (pieces : List Text) :
    splitOnLoop sep (s ++ sep :: t) piece pieces =
      splitOnLoop sep t [] ((piece.reverse ++ s) :: pieces) := by
  induction s generalizing piece with
  | nil => simp [splitOnLoop]
  | cons c s ih =>
    have hc : (c == sep) = false := beq_eq_false_iff_ne.2 fun he => h (he ▸ List.mem_cons_self)
    rw [List.cons_append, splitOnLoop, hc, if_neg Bool.false_ne_true,
      ih fun hm => h (List.mem_cons_of_mem _ hm)]
    simp

/-- Finished pieces come first in what a split gives. -/
theorem splitOnLoop_pieces (t piece : Text) (pieces : List Text) :
    splitOnLoop sep t piece pieces = pieces.reverse ++ splitOnLoop sep t piece [] := by
  induction t generalizing piece pieces with
  | nil => simp [splitOnLoop]
  | cons c t ih =>
    by_cases hc : (c == sep) = true
    · rw [splitOnLoop, splitOnLoop, if_pos hc, if_pos hc, ih, ih _ [_]]
      simp
    · rw [splitOnLoop, splitOnLoop, if_neg hc, if_neg hc, ih]

theorem splitOn_of_not_mem {t : Text} (h : sep ∉ t) : splitOn sep t = [t] := by
  rw [splitOn, splitOnLoop_of_not_mem h]
  rfl

theorem splitOn_append_cons {s : Text} (h : sep ∉ s) (t : Text) :
    splitOn sep (s ++ sep :: t) = s :: splitOn sep t := by
  rw [splitOn, splitOnLoop_append_cons h, splitOnLoop_pieces]
  rfl

/-- What a text holds besides the separator stands in one of its pieces. -/
theorem mem_of_mem_splitOn {t : Text} {c : CodePoint} (hc : c ∈ t) (hne : c ≠ sep) :
    ∃ piece ∈ splitOn sep t, c ∈ piece := by
  -- the loop may hold a part of the current piece already
  suffices h : ∀ (piece : Text), (c ∈ piece ∨ c ∈ t) →
      ∃ found ∈ splitOnLoop sep t piece [], c ∈ found from h [] (Or.inr hc)
  clear hc
  induction t with
  | nil =>
    intro piece hc
    have hc : c ∈ piece := by simpa using hc
    exact ⟨piece.reverse, by simp [splitOnLoop], by simpa using hc⟩
  | cons d t ih =>
    intro piece hc
    by_cases hd : (d == sep) = true
    · rw [splitOnLoop, if_pos hd, splitOnLoop_pieces]
      have hd : d = sep := by simpa using hd
      rcases hc with hc | hc
      · exact ⟨piece.reverse, by simp, by simpa using hc⟩
      · obtain ⟨found, hf, hm⟩ := ih [] (Or.inr ((List.mem_cons.1 hc).resolve_left (hd ▸ hne)))
        exact ⟨found, by simp [hf], hm⟩
    · rw [splitOnLoop, if_neg hd]
      apply ih
      rcases hc with hc | hc
      · exact Or.inl (List.mem_cons_of_mem _ hc)
      · rcases List.mem_cons.1 hc with rfl | hc
        · exact Or.inl List.mem_cons_self
        · exact Or.inr hc

theorem cut_of_not_mem {t : Text} (h : sep ∉ t) : cut sep t = (t, none) := by
  have hd : (t ++ []).dropWhile (· != sep) = [] :=
    List.dropWhile_append_of_pos fun c hc => bne_iff_ne.2 fun he => h (he ▸ hc)
  rw [List.append_nil] at hd
  rw [cut, hd]

theorem cut_append_cons {s : Text} (h : sep ∉ s) (t : Text) :
    cut sep (s ++ sep :: t) = (s, some t) := by
  have hall : ∀ c ∈ s, (c != sep) = true := fun c hc => bne_iff_ne.2 fun he => h (he ▸ hc)
  rw [cut, List.dropWhile_append_of_pos hall, List.takeWhile_append_of_pos hall]
  simp

theorem cutLast_of_not_mem {t : Text} (h : sep ∉ t) : cutLast sep t = (none, t) := by
  rw [cutLast, cut_of_not_mem (by simpa using h)]

theorem cutLast_append_cons {t : Text} (h : sep ∉ t) (s : Text) :
    cutLast sep (s ++ sep :: t) = (some s, t) := by
  have hr : (s ++ sep :: t).reverse = t.reverse ++ sep :: s.reverse := by simp
  rw [cutLast, hr, cut_append_cons (by simpa using h)]
  simp

/-- A text that ends with something else is not trimmed. -/
theorem trimRight_of_getLast? {p : CodePoint → Bool} {t : Text}
    (h : ∀ c ∈ t.getLast?, p c = false) : t.trimRight p = t := by
  rw [List.getLast?_eq_head?_reverse] at h
  have hd : t.reverse.dropWhile p = t.reverse := by
    cases hr : t.reverse with
    | nil => rfl
    | cons c rest =>
      have hc : p c = false := h c (by rw [hr, List.head?_cons, Option.mem_some_iff])
      rw [List.dropWhile_cons, hc, if_neg Bool.false_ne_true]
  rw [trimRight, hd, List.reverse_reverse]

/-! ### Pieces -/

/-- A piece of a text is made of what the text holds. -/
theorem mem_of_mem_piece {t piece : Text} {c : CodePoint} (hp : piece ∈ splitOn sep t)
    (hc : c ∈ piece) : c ∈ t := by
  -- the same for a loop that holds a part of the current piece
  suffices h : ∀ current : Text, piece ∈ splitOnLoop sep t current [] → c ∈ current ∨ c ∈ t from
    (h [] hp).resolve_left List.not_mem_nil
  clear hp
  induction t with
  | nil =>
    intro current hp
    have he : piece = current.reverse := by simpa [splitOnLoop] using hp
    exact Or.inl (List.mem_reverse.1 (he ▸ hc))
  | cons d t ih =>
    intro current hp
    by_cases hd : (d == sep) = true
    · rw [splitOnLoop, if_pos hd, splitOnLoop_pieces, List.mem_append] at hp
      rcases hp with hp | hp
      · have he : piece = current.reverse := by simpa using hp
        exact Or.inl (List.mem_reverse.1 (he ▸ hc))
      · exact Or.inr (List.mem_cons_of_mem _ ((ih [] hp).resolve_left List.not_mem_nil))
    · rw [splitOnLoop, if_neg hd] at hp
      rcases ih _ hp with h | h
      · rcases List.mem_cons.1 h with rfl | h
        · exact Or.inr List.mem_cons_self
        · exact Or.inl h
      · exact Or.inr (List.mem_cons_of_mem _ h)

theorem join_cons_cons (separator s t : Text) (ts : List Text) :
    join separator (s :: t :: ts) = s ++ separator ++ join separator (t :: ts) := by
  simp [join]

theorem mem_of_mem_join {ts : List Text} {separator : Text} {c : CodePoint}
    (h : c ∈ join separator ts) : c ∈ separator ∨ ∃ t ∈ ts, c ∈ t := by
  induction ts with
  | nil => exact absurd h List.not_mem_nil
  | cons s ts ih =>
    cases ts with
    | nil =>
      have hs : c ∈ s := by simpa [join] using h
      exact Or.inr ⟨s, List.mem_cons_self, hs⟩
    | cons t ts =>
      rw [join_cons_cons, List.mem_append, List.mem_append] at h
      rcases h with (h | h) | h
      · exact Or.inr ⟨s, List.mem_cons_self, h⟩
      · exact Or.inl h
      · rcases ih h with h | ⟨u, hu, h⟩
        · exact Or.inl h
        · exact Or.inr ⟨u, List.mem_cons_of_mem _ hu, h⟩

/-- Joined pieces come apart again. -/
theorem splitOn_join {t : Text} {ts : List Text} (h : ∀ s ∈ t :: ts, sep ∉ s) :
    splitOn sep (join [sep] (t :: ts)) = t :: ts := by
  induction ts generalizing t with
  | nil =>
    have hj : join [sep] [t] = t := by simp [join]
    rw [hj, splitOn_of_not_mem (h t List.mem_cons_self)]
  | cons u ts ih =>
    rw [join_cons_cons, List.append_assoc, List.singleton_append,
      splitOn_append_cons (h t List.mem_cons_self),
      ih fun s hs => h s (List.mem_cons_of_mem _ hs)]

theorem splitOnLoop_ne_nil (t piece : Text) (pieces : List Text) :
    splitOnLoop sep t piece pieces ≠ [] := by
  rw [splitOnLoop_pieces]
  induction t generalizing piece with
  | nil => simp [splitOnLoop]
  | cons c t ih =>
    rw [splitOnLoop]
    split
    · rw [splitOnLoop_pieces]
      simp
    · exact ih (c :: piece)

theorem splitOn_ne_nil (t : Text) : splitOn sep t ≠ [] := splitOnLoop_ne_nil t [] []

/-- Pieces are joined to the text that they come from. -/
theorem join_splitOn (t : Text) : join [sep] (splitOn sep t) = t := by
  suffices h : ∀ piece : Text, join [sep] (splitOnLoop sep t piece []) = piece.reverse ++ t from
    h []
  induction t with
  | nil =>
    intro piece
    simp [splitOnLoop, join]
  | cons c t ih =>
    intro piece
    rw [splitOnLoop]
    split
    · next hc =>
      rw [splitOnLoop_pieces]
      obtain ⟨first, rest, hpieces⟩ := List.exists_cons_of_ne_nil (splitOnLoop_ne_nil t [] [])
      have hjoin := ih []
      rw [hpieces] at hjoin ⊢
      rw [List.reverse_singleton, List.singleton_append, join_cons_cons, hjoin, eq_of_beq hc]
      simp
    · rw [ih (c :: piece)]
      simp

/-- No piece holds what separates the pieces. -/
theorem not_mem_of_mem_splitOn {t piece : Text} (h : piece ∈ splitOn sep t) : sep ∉ piece := by
  suffices hloop : ∀ current : Text, sep ∉ current → piece ∈ splitOnLoop sep t current [] →
      sep ∉ piece from hloop [] List.not_mem_nil h
  clear h
  induction t with
  | nil =>
    intro current hcurrent hp
    rw [List.mem_singleton.1 hp]
    simpa using hcurrent
  | cons c t ih =>
    intro current hcurrent hp
    rw [splitOnLoop] at hp
    split at hp
    · rw [splitOnLoop_pieces] at hp
      rcases List.mem_append.1 hp with hp | hp
      · rw [List.reverse_singleton, List.mem_singleton] at hp
        rw [hp]
        simpa using hcurrent
      · exact ih [] List.not_mem_nil hp
    · next hc =>
      refine ih (c :: current) (fun hmem => ?_) hp
      rcases List.mem_cons.1 hmem with rfl | hmem
      · exact hc (beq_self_eq_true _)
      · exact hcurrent hmem

/-- A text is cut before and after one of its separators. -/
theorem splitOn_append (s t : Text) :
    splitOn sep (s ++ sep :: t) = splitOn sep s ++ splitOn sep t := by
  suffices h : ∀ piece : Text, splitOnLoop sep (s ++ sep :: t) piece [] =
      splitOnLoop sep s piece [] ++ splitOn sep t from h []
  induction s with
  | nil =>
    intro piece
    have hfirst : splitOnLoop sep ([] ++ sep :: t) piece [] =
        splitOnLoop sep t [] [piece.reverse] := by
      simp [splitOnLoop]
    rw [hfirst, splitOnLoop_pieces]
    rfl
  | cons c s ih =>
    intro piece
    rw [List.cons_append, splitOnLoop, splitOnLoop]
    split
    · rw [splitOnLoop_pieces, splitOnLoop_pieces s, List.append_assoc]
      exact congrArg (_ ++ ·) (ih [])
    · exact ih (c :: piece)

/-- A mapping of code points that keeps the separator maps the pieces. -/
theorem flatMap_join {f : CodePoint → Text} (h : f sep = [sep]) (ts : List Text) :
    (join [sep] ts).flatMap f = join [sep] (ts.map fun t => t.flatMap f) := by
  induction ts with
  | nil => rfl
  | cons t ts ih =>
    cases ts with
    | nil => simp [join]
    | cons u ts =>
      have hsep : [sep].flatMap f = [sep] := by rw [List.flatMap_singleton, h]
      rw [join_cons_cons, List.flatMap_append, List.flatMap_append, hsep, ih]
      exact (join_cons_cons _ _ _ _).symm

end Text

end RavenBinding
