import RavenBinding.Proofs.Http.PlainUrl
import RavenBinding.Server.State
import RavenBinding.Store.Client

/-!
# The paths of documents

Database and key are one segment each of the path of a document, whatever they hold. The one thing
that can still change the path is the removal of dot segments, and it does so for the keys `.` and
`..` alone, whose requests go to the collection and to the database.

## Main definitions

- `Store.segmentsOf`, `Store.pathOf`: the path of a key that can be encoded
- `Text.IsDotSegment`: the two texts that are taken for dot segments
- `Store.placeOf`: the segments that a request for a key arrives with

## Main statements

- `Store.documentPath_of_isScalar`: the path that the store builds
- `Store.removeDots_pathOf`: the path that is left of it without dot segments
- `Store.segments_placeOf`: the segments with which it arrives
-/

namespace RavenBinding

open Url

/-- The segments that a path without dot segments does not keep. -/
def Text.IsDotSegment (t : Text) : Prop := t = Text.ofString "." ∨ t = Text.ofString ".."

instance (t : Text) : Decidable t.IsDotSegment := inferInstanceAs (Decidable (_ ∨ _))

namespace Store

/-- The path of some segments, each of them encoded. -/
def pathText (segments : List Text) : Text :=
  Text.join [CodePoint.ofChar '/'] ([] :: segments.map Percent.quote)

/-- The segments of a document's path. -/
def segmentsOf (database key : Text) : List Text :=
  [Text.ofString "databases", database, Text.ofString "docs", key]

/-- The path of a document whose database and key can be encoded. -/
def pathOf (database key : Text) : Text :=
  Text.ofString "/databases/" ++ Percent.quote database ++ Text.ofString "/docs/"
    ++ Percent.quote key

/-- The segments with which a request for a key arrives: those of its document, but for the two keys
that are dot segments. -/
def placeOf (database key : Text) : List Text :=
  if key = Text.ofString "." then
    [Text.ofString "databases", database, Text.ofString "docs"]
  else if key = Text.ofString ".." then [Text.ofString "databases", database]
  else segmentsOf database key

theorem placeOf_ne_nil (database key : Text) : placeOf database key ≠ [] := by
  rw [placeOf]
  split
  · exact List.cons_ne_nil _ _
  · split
    · exact List.cons_ne_nil _ _
    · exact List.cons_ne_nil _ _

theorem placeOf_eq_iff {database key : Text} :
    placeOf database key = segmentsOf database key ↔ ¬key.IsDotSegment := by
  by_cases hone : key = Text.ofString "."
  · rw [placeOf, if_pos hone, Text.IsDotSegment]
    simp [segmentsOf, hone]
  · by_cases htwo : key = Text.ofString ".."
    · rw [placeOf, if_neg hone, if_pos htwo, Text.IsDotSegment]
      simp [segmentsOf, htwo]
    · rw [placeOf, if_neg hone, if_neg htwo, Text.IsDotSegment]
      simp [hone, htwo]

/-! ### Building the path -/

theorem documentPath_of_isScalar (s : Store) (operation : StoreOperation) {key : Text}
    (hd : s.database.isScalar = true) (hk : key.isScalar = true) :
    s.documentPath operation key = .ok (pathOf s.database key) := by
  rw [documentPath, Percent.encodeSegment_of_isScalar hd, Percent.encodeSegment_of_isScalar hk]
  rfl

/-- Without an encoding of the key there is no path, and the store says so. -/
theorem documentPath_of_not_isScalar (s : Store) (operation : StoreOperation) {key : Text}
    (hd : s.database.isScalar = true) (hk : key.isScalar = false) :
    ∃ error, s.documentPath operation key =
      .error (.store ⟨operation, .documentKey key error⟩) := by
  obtain ⟨error, he⟩ := Percent.encodeSegment_of_not_isScalar hk
  refine ⟨error, ?_⟩
  rw [documentPath, Percent.encodeSegment_of_isScalar hd, he]
  rfl

theorem quote_databases :
    Percent.quote (Text.ofString "databases") = Text.ofString "databases" := by decide

theorem quote_docs : Percent.quote (Text.ofString "docs") = Text.ofString "docs" := by decide

/-- Every segment is encoded; the fixed ones stay as they are. -/
theorem pathOf_eq (database key : Text) :
    pathOf database key = pathText (segmentsOf database key) := by
  simp only [pathText, segmentsOf, List.map_cons, List.map_nil, quote_databases, quote_docs, pathOf]
  rw [Text.join_cons_cons, Text.join_cons_cons, Text.join_cons_cons, Text.join_cons_cons]
  simp only [Text.join, List.intersperse, List.flatten_cons, List.flatten_nil, List.append_nil,
    List.append_assoc, List.nil_append]
  rfl

theorem slash_not_mem_quoted (segments : List Text) :
    ∀ s ∈ [] :: segments.map Percent.quote, CodePoint.ofChar '/' ∉ s := by
  intro s hs
  rcases List.mem_cons.1 hs with rfl | hs
  · exact List.not_mem_nil
  · obtain ⟨t, -, rfl⟩ := List.mem_map.1 hs
    exact Percent.not_mem_quote (by decide) (by decide) t

theorem isPathCharacter_of_mem_quote {t : Text} {c : CodePoint} (h : c ∈ Percent.quote t) :
    IsPathCharacter c := by
  rcases Percent.mem_quote h with h | rfl
  · rw [IsPathCharacter, h, Bool.true_or]
  · simp only [IsPathCharacter]
    decide

theorem isPlainPath_pathText (segments : List Text) : IsPlainPath (pathText segments) where
  characters := by
    intro c hc
    rcases Text.mem_of_mem_join hc with hc | ⟨s, hs, hc⟩
    · rw [List.mem_singleton.1 hc]
      exact IsPathCharacter.slash
    · rcases List.mem_cons.1 hs with rfl | hs
      · cases hc
      · obtain ⟨t, -, rfl⟩ := List.mem_map.1 hs
        exact isPathCharacter_of_mem_quote hc
  head := by
    cases segments with
    | nil => exact Or.inl rfl
    | cons s segments => exact Or.inr (by rw [pathText, List.map_cons, Text.join_cons_cons]; rfl)

theorem pathText_ne_nil {segments : List Text} (h : segments ≠ []) : pathText segments ≠ [] := by
  cases segments with
  | nil => exact absurd rfl h
  | cons s segments =>
    rw [pathText, List.map_cons, Text.join_cons_cons]
    exact List.cons_ne_nil _ _

/-- The path of a key begins with a single slash. -/
theorem exists_pathOf (database key : Text) :
    ∃ rest, pathOf database key = CodePoint.ofChar '/' :: CodePoint.ofChar 'd' :: rest := ⟨_, rfl⟩

/-- Segments come back from their path. -/
theorem segments_pathText {segments : List Text} (h : ∀ s ∈ segments, s.isScalar = true) :
    Server.segments (pathText segments) = segments := by
  -- the piece before the first slash is empty and is left out
  rw [Server.segments, pathText, Text.splitOn_join (slash_not_mem_quoted _), List.drop_succ_cons,
    List.drop_zero, List.map_map]
  exact (List.map_congr_left fun s hs => Percent.decode_quote (h s hs)).trans (List.map_id _)

/-! ### Dot segments -/

theorem quote_dot : Percent.quote (Text.ofString ".") = Text.ofString "." := by decide

theorem quote_dots : Percent.quote (Text.ofString "..") = Text.ofString ".." := by decide

/-- Only a dot segment is encoded as one. -/
theorem quote_eq_dot_iff {t : Text} (h : t.isScalar = true) :
    (Percent.quote t = Text.ofString "." ↔ t = Text.ofString ".") ∧
      (Percent.quote t = Text.ofString ".." ↔ t = Text.ofString "..") := by
  constructor
  · have := Percent.quote_eq_iff h (t := Text.ofString ".") (by decide)
    rwa [quote_dot] at this
  · have := Percent.quote_eq_iff h (t := Text.ofString "..") (by decide)
    rwa [quote_dots] at this

theorem removeDotsLoop_cons {found : List Text} {s : Text} {rest : List Text}
    (h : ¬s.IsDotSegment) :
    removeDotsLoop found (s :: rest) = removeDotsLoop (s :: found) rest := by
  have hone : ¬(s == Text.ofString ".") = true := fun he => h (Or.inl (by simpa using he))
  have htwo : ¬(s == Text.ofString "..") = true := fun he => h (Or.inr (by simpa using he))
  rw [removeDotsLoop, if_neg hone, if_neg htwo]

theorem not_isDotSegment_quote {t : Text} (hs : t.isScalar = true) (h : ¬t.IsDotSegment) :
    ¬(Percent.quote t).IsDotSegment := by
  have hquote := quote_eq_dot_iff hs
  rintro (he | he)
  · exact h (Or.inl (hquote.1.1 he))
  · exact h (Or.inr (hquote.2.1 he))

/-- Dot segments are removed from encoded segments as from the segments themselves. -/
theorem removeDotsLoop_map_quote {rest : List Text} (hrest : ∀ s ∈ rest, s.isScalar = true)
    (found : List Text) (hfound : ∀ s ∈ found, s.isScalar = true) :
    removeDotsLoop (found.map Percent.quote) (rest.map Percent.quote) =
      (removeDotsLoop found rest).map Percent.quote := by
  induction rest generalizing found with
  | nil => exact List.map_reverse.symm
  | cons s rest ih =>
    have hs := hrest s List.mem_cons_self
    have ih := @ih fun t ht => hrest t (List.mem_cons_of_mem s ht)
    by_cases hone : s = Text.ofString "."
    · rw [List.map_cons, hone, quote_dot]
      exact ih found hfound
    · by_cases htwo : s = Text.ofString ".."
      · rw [List.map_cons, htwo, quote_dots]
        -- the first empty segment is kept on both sides
        have hfirst : (found.map Percent.quote == [[]]) = (found == [[]]) := by
          rw [Bool.eq_iff_iff, beq_iff_eq, beq_iff_eq, List.map_eq_singleton_iff]
          constructor
          · rintro ⟨t, rfl, ht⟩
            rw [(Percent.quote_eq_iff (hfound t List.mem_cons_self) (t := []) rfl).1 ht]
          · rintro rfl
            exact ⟨[], rfl, rfl⟩
        show removeDotsLoop (if (found.map Percent.quote == [[]]) = true then _ else _) _ =
          (removeDotsLoop (if (found == [[]]) = true then _ else _) _).map _
        rw [hfirst]
        split
        · exact ih found hfound
        · rw [← List.map_drop]
          exact ih _ fun t ht => hfound t (List.mem_of_mem_drop ht)
      · have hplain : ¬s.IsDotSegment := fun h => h.elim hone htwo
        rw [List.map_cons, removeDotsLoop_cons (not_isDotSegment_quote hs hplain),
          removeDotsLoop_cons hplain, ← List.map_cons]
        refine ih _ fun t ht => ?_
        rcases List.mem_cons.1 ht with rfl | ht
        · exact hs
        · exact hfound t ht

/-- The empty segment before the first slash stays. -/
theorem exists_removeDotsLoop (segments : List Text) {found : List Text}
    (h : ∃ before, found = before ++ [[]]) :
    ∃ left, removeDotsLoop found segments = [] :: left := by
  induction segments generalizing found with
  | nil =>
    obtain ⟨before, rfl⟩ := h
    exact ⟨before.reverse, by rw [removeDotsLoop, List.reverse_append]; rfl⟩
  | cons s segments ih =>
    obtain ⟨before, rfl⟩ := h
    rw [removeDotsLoop]
    split
    · exact ih ⟨before, rfl⟩
    · split
      · cases before with
        | nil => exact ih ⟨[], rfl⟩
        | cons last before =>
          have hmore : ¬(last :: before ++ [[]] == [[]]) = true := by
            rw [beq_iff_eq]
            simp
          rw [if_neg hmore]
          exact ih ⟨before, rfl⟩
      · exact ih ⟨s :: before, rfl⟩

/-- What the segments of a document's path come to. -/
theorem removeDotsLoop_segmentsOf {database : Text} (hdot : ¬database.IsDotSegment) (key : Text) :
    removeDotsLoop [] ([] :: segmentsOf database key) = [] :: placeOf database key := by
  rw [segmentsOf, removeDotsLoop_cons (by decide), removeDotsLoop_cons (by decide),
    removeDotsLoop_cons hdot, removeDotsLoop_cons (by decide)]
  -- the last segment is dropped, drops the one before it, or stays
  by_cases hone : key = Text.ofString "."
  · rw [placeOf, if_pos hone, hone]
    rfl
  · by_cases htwo : key = Text.ofString ".."
    · rw [placeOf, if_neg hone, if_pos htwo, htwo]
      rfl
    · rw [placeOf, if_neg hone, if_neg htwo, removeDotsLoop_cons fun h => h.elim hone htwo]
      rfl

theorem isScalar_of_mem_segmentsOf {database key s : Text} (hd : database.isScalar = true)
    (hk : key.isScalar = true) (h : s ∈ segmentsOf database key) : s.isScalar = true := by
  have hfirst : (Text.ofString "databases").isScalar = true := by decide
  have hthird : (Text.ofString "docs").isScalar = true := by decide
  have hall : ∀ t : Text, t ∈ segmentsOf database key → t.isScalar = true := by
    simp [segmentsOf, hd, hk, hfirst, hthird]
  exact hall s h

/-- What is left of the path of some segments without its dot segments. -/
theorem removeDots_pathText {segments left : List Text}
    (hscalar : ∀ s ∈ segments, s.isScalar = true)
    (h : removeDotsLoop [] ([] :: segments) = [] :: left) :
    removeDots (pathText segments) = pathText left := by
  have hall : ∀ s : Text, s ∈ [] :: segments → s.isScalar = true := by
    intro s hs
    rcases List.mem_cons.1 hs with rfl | hs
    · rfl
    · exact hscalar s hs
  have hloop := removeDotsLoop_map_quote hall [] (fun _ hs => absurd hs List.not_mem_nil)
  rw [h] at hloop
  simp only [removeDots]
  rw [pathText, Text.splitOn_join (slash_not_mem_quoted _)]
  exact congrArg (Text.join [CodePoint.ofChar '/']) hloop

theorem removeDots_pathOf_eq {database key : Text} (hd : database.isScalar = true)
    (hk : key.isScalar = true) {segments : List Text}
    (h : removeDotsLoop [] ([] :: segmentsOf database key) = [] :: segments) :
    removeDots (pathOf database key) = pathText segments := by
  rw [pathOf_eq]
  exact removeDots_pathText (fun s hs => isScalar_of_mem_segmentsOf hd hk hs) h

/-- A request for a key goes to the path of some segments, whatever the names are. -/
theorem exists_removeDots_pathOf {database key : Text} (hd : database.isScalar = true)
    (hk : key.isScalar = true) :
    ∃ segments, removeDots (pathOf database key) = pathText segments := by
  obtain ⟨segments, hleft⟩ := exists_removeDotsLoop (segmentsOf database key) ⟨[], rfl⟩
  exact ⟨segments, removeDots_pathOf_eq hd hk hleft⟩

/-- The path that a request for a key goes to. -/
theorem removeDots_pathOf {database key : Text} (hd : database.isScalar = true)
    (hdot : ¬database.IsDotSegment) (hk : key.isScalar = true) :
    removeDots (pathOf database key) = pathText (placeOf database key) :=
  removeDots_pathOf_eq hd hk (removeDotsLoop_segmentsOf hdot key)

theorem isScalar_of_mem_left {database key s : Text} (hd : database.isScalar = true)
    (hk : key.isScalar = true) {segments : List Text}
    (h : removeDotsLoop [] ([] :: segmentsOf database key) = [] :: segments)
    (hs : s ∈ segments) : s.isScalar = true := by
  have hmem : s ∈ removeDotsLoop [] ([] :: segmentsOf database key) := by
    rw [h]
    exact List.mem_cons_of_mem _ hs
  rcases List.mem_cons.1 ((mem_removeDotsLoop hmem).resolve_left List.not_mem_nil) with rfl | hmem
  · rfl
  · exact isScalar_of_mem_segmentsOf hd hk hmem

theorem isScalar_of_mem_placeOf {database key s : Text} (hd : database.isScalar = true)
    (hk : key.isScalar = true) (h : s ∈ placeOf database key) : s.isScalar = true := by
  apply isScalar_of_mem_segmentsOf hd hk
  rw [placeOf] at h
  split at h
  · exact List.mem_of_mem_take (i := 3) h
  · split at h
    · exact List.mem_of_mem_take (i := 2) h
    · exact h

/-- A request for a key arrives with the segments of its place. -/
theorem segments_placeOf {database key : Text} (hd : database.isScalar = true)
    (hk : key.isScalar = true) :
    Server.segments (pathText (placeOf database key)) = placeOf database key :=
  segments_pathText fun _ hs => isScalar_of_mem_placeOf hd hk hs

end Store

end RavenBinding
