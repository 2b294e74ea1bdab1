import RavenBinding.Proofs.Store.DocumentPath

/-!
# Settled URLs

A URL that was read has a settled path: it holds nothing that is to be encoded and no dot segments,
so that reading it once more changes nothing. The URL that a session starts with is settled, and its
path, or its query if it has one, ends with a slash.

## Main definitions

- `Url.IsSettledPath`, `Url.IsSettled`: a path that stays as it is, and a URL with one
- `Url.sentPath`: the path with which a URL is requested
- `Url.IsBase`: the URLs that sessions start with

## Main statements

- `Url.isSettledPath_of_encoded`: a path is settled when it was read
- `Url.IsSettled.withRawPath_eq_ok`, `Url.IsSettled.withQuery_eq_ok`: other paths and queries
- `Session.isBase_of_open?`: the URL of a session
-/

namespace RavenBinding

theorem Utf8.encodeOne_ne_nil (c : CodePoint) : encodeOne c ≠ [] := by
  simp only [encodeOne]
  split
  · exact List.cons_ne_nil _ _
  · split
    · exact List.cons_ne_nil _ _
    · split
      · exact List.cons_ne_nil _ _
      · exact List.cons_ne_nil _ _

namespace Url

/-! ### Paths -/

/-- The path has neither dot segments nor anything that is to be encoded. -/
structure IsSettledPath (path : Text) : Prop where
  characters : ∀ c ∈ path, IsPathCharacter c
  segments : ∀ s ∈ Text.splitOn (CodePoint.ofChar '/') path, ¬s.IsDotSegment

theorem removeDotsLoop_append {segments : List Text} (h : ∀ s ∈ segments, ¬s.IsDotSegment)
    (found rest : List Text) :
    removeDotsLoop found (segments ++ rest) = removeDotsLoop (segments.reverse ++ found) rest := by
  induction segments generalizing found with
  | nil => rfl
  | cons s segments ih =>
    rw [List.cons_append, Store.removeDotsLoop_cons (h s List.mem_cons_self),
      ih fun t ht => h t (List.mem_cons_of_mem s ht)]
    simp

theorem not_dot_of_mem_removeDotsLoop {found segments : List Text} {s : Text}
    (hfound : ∀ t ∈ found, ¬t.IsDotSegment) (h : s ∈ removeDotsLoop found segments) :
    ¬s.IsDotSegment := by
  induction segments generalizing found with
  | nil => exact hfound s (List.mem_reverse.1 h)
  | cons t segments ih =>
    by_cases hone : t = Text.ofString "."
    · rw [hone] at h
      exact ih hfound h
    · by_cases htwo : t = Text.ofString ".."
      · rw [htwo] at h
        change s ∈ removeDotsLoop (if (found == [[]]) = true then found else found.drop 1) segments
          at h
        refine ih (fun u hu => ?_) h
        split at hu
        · exact hfound u hu
        · exact hfound u (List.mem_of_mem_drop hu)
      · have hplain : ¬t.IsDotSegment := fun h => h.elim hone htwo
        rw [Store.removeDotsLoop_cons hplain] at h
        refine ih (fun u hu => ?_) h
        rcases List.mem_cons.1 hu with rfl | hu
        · exact hplain
        · exact hfound u hu

theorem IsSettledPath.removeDots_eq {path : Text} (h : IsSettledPath path) :
    removeDots path = path := by
  have hloop := removeDotsLoop_append h.segments [] []
  rw [List.append_nil, List.append_nil, removeDotsLoop, List.reverse_reverse] at hloop
  simp only [removeDots, hloop]
  exact Text.join_splitOn path

theorem encodeComponent_of_characters {path : Text} (h : ∀ c ∈ path, IsPathCharacter c) :
    Percent.encodeComponent isPathSafe path = .ok path :=
  Percent.encodeComponent_of_safe h
    (Text.isScalar_of_forall_lt fun c hc => Nat.lt_trans (h c hc).bounds.2.1 (by decide))

/-- A settled path stays when it is read once more. -/
theorem IsSettledPath.reread_eq {path : Text} (h : IsSettledPath path) :
    Percent.encodeComponent isPathSafe (removeDots path) = .ok path := by
  rw [h.removeDots_eq, encodeComponent_of_characters h.characters]

/-! ### What encoding leaves -/

theorem isPathCharacter_of_isSegmentCharacter {c : CodePoint} (h : Percent.IsSegmentCharacter c) :
    IsPathCharacter c := by
  rcases h with h | rfl
  · rw [IsPathCharacter, h, Bool.true_or]
  · simp only [IsPathCharacter]
    decide

theorem isPathCharacter_of_mem_encodeUnless {c d : CodePoint}
    (h : d ∈ Percent.encodeUnless isPathSafe c) : IsPathCharacter d := by
  rw [Percent.encodeUnless] at h
  split at h
  · next hsafe =>
    rw [List.mem_singleton.1 h]
    exact hsafe
  · obtain ⟨b, -, hd⟩ := List.mem_flatMap.1 h
    exact isPathCharacter_of_isSegmentCharacter (Percent.mem_encodeByte hd)

theorem percent_mem_encodeUnless {c : CodePoint} (h : ¬IsPathCharacter c) :
    CodePoint.ofChar '%' ∈ Percent.encodeUnless isPathSafe c := by
  rw [Percent.encodeUnless, if_neg (show ¬(_ || _) = true from h)]
  obtain ⟨b, rest, hbytes⟩ := List.exists_cons_of_ne_nil (Utf8.encodeOne_ne_nil c)
  rw [hbytes, List.flatMap_cons]
  exact List.mem_append_left _ List.mem_cons_self

theorem eq_slash_of_mem_encodeUnless {c : CodePoint}
    (h : CodePoint.ofChar '/' ∈ Percent.encodeUnless isPathSafe c) : c = CodePoint.ofChar '/' := by
  rw [Percent.encodeUnless] at h
  split at h
  · exact (List.mem_singleton.1 h).symm
  · obtain ⟨b, -, hd⟩ := List.mem_flatMap.1 h
    rcases Percent.mem_encodeByte hd with hunreserved | hpercent
    · exact absurd hunreserved (by decide)
    · exact absurd hpercent (by decide)

/-- Encoding makes no dot segment. -/
theorem isDotSegment_of_encoded {s : Text}
    (h : Text.IsDotSegment (s.flatMap (Percent.encodeUnless isPathSafe))) : s.IsDotSegment := by
  by_cases hall : ∀ c ∈ s, IsPathCharacter c
  · rwa [Percent.flatMap_encodeUnless_of_safe hall] at h
  · obtain ⟨c, hrest⟩ := Classical.not_forall.1 hall
    obtain ⟨hc, hunsafe⟩ := Classical.not_imp.1 hrest
    have hpercent : CodePoint.ofChar '%' ∈ s.flatMap (Percent.encodeUnless isPathSafe) :=
      List.mem_flatMap.2 ⟨c, hc, percent_mem_encodeUnless hunsafe⟩
    rcases h with h | h
    · rw [h] at hpercent
      exact absurd hpercent (by decide)
    · rw [h] at hpercent
      exact absurd hpercent (by decide)

theorem encodeComponent_eq_ok {safe : CodePoint → Bool} {t encoded : Text}
    (h : Percent.encodeComponent safe t = .ok encoded) :
    encoded = t.flatMap (Percent.encodeUnless safe) := by
  rw [Percent.encodeComponent] at h
  split at h
  · cases h
  · exact (Except.ok.inj h).symm

/-- A path without its dot segments is settled when it is encoded. -/
theorem isSettledPath_of_encoded {raw path : Text}
    (h : Percent.encodeComponent isPathSafe (removeDots raw) = .ok path) : IsSettledPath path := by
  obtain rfl := encodeComponent_eq_ok h
  constructor
  · intro c hc
    obtain ⟨d, -, hcd⟩ := List.mem_flatMap.1 hc
    exact isPathCharacter_of_mem_encodeUnless hcd
  · have hslash : Percent.encodeUnless isPathSafe (CodePoint.ofChar '/') =
        [CodePoint.ofChar '/'] := by decide
    generalize hleft : removeDotsLoop [] (Text.splitOn (CodePoint.ofChar '/') raw) = left
    have hplain : ∀ s ∈ left, ¬s.IsDotSegment := fun s hs =>
      not_dot_of_mem_removeDotsLoop (fun _ ht => absurd ht List.not_mem_nil) (hleft ▸ hs)
    have hpieces : ∀ s ∈ left, CodePoint.ofChar '/' ∉ s := fun s hs =>
      Text.not_mem_of_mem_splitOn ((mem_removeDotsLoop (hleft ▸ hs)).resolve_left List.not_mem_nil)
    simp only [removeDots, hleft]
    rw [Text.flatMap_join hslash]
    cases left with
    | nil =>
      intro s hs
      rw [List.mem_singleton.1 hs]
      decide
    | cons first rest =>
      have hmapped : ∀ s ∈ (first :: rest).map
          (fun t => t.flatMap (Percent.encodeUnless isPathSafe)), CodePoint.ofChar '/' ∉ s := by
        intro s hs hmem
        obtain ⟨t, ht, rfl⟩ := List.mem_map.1 hs
        obtain ⟨c, hc, hcs⟩ := List.mem_flatMap.1 hmem
        rw [eq_slash_of_mem_encodeUnless hcs] at hc
        exact hpieces t ht hc
      intro s hs
      rw [List.map_cons, Text.splitOn_join hmapped, ← List.map_cons] at hs
      obtain ⟨t, ht, rfl⟩ := List.mem_map.1 hs
      exact fun h => hplain t ht (isDotSegment_of_encoded h)

/-! ### URLs -/

/-- What is known of the URL that some components come to. -/
theorem ofParts_eq_ok {parts : Parts} {url : Url} (h : ofParts parts = .ok url)
    (hscheme : parts.scheme ≠ []) :
    url.scheme ≠ [] ∧
      Percent.encodeComponent isPathSafe (removeDots parts.path) = .ok url.path ∧
      encodeOptional isQuerySafe parts.query = .ok url.query := by
  rw [ofParts] at h
  obtain ⟨userinfo, -, h⟩ := Attempt.bind_eq_ok_iff.1 h
  obtain ⟨host, -, h⟩ := Attempt.bind_eq_ok_iff.1 h
  obtain ⟨port, -, h⟩ := Attempt.bind_eq_ok_iff.1 h
  obtain ⟨-, -, h⟩ := Attempt.bind_eq_ok_iff.1 h
  obtain ⟨path, hpath, h⟩ := Attempt.bind_eq_ok_iff.1 h
  obtain ⟨query, hquery, h⟩ := Attempt.bind_eq_ok_iff.1 h
  obtain ⟨fragment, -, h⟩ := Attempt.bind_eq_ok_iff.1 h
  obtain rfl := Except.ok.inj h
  have hgiven : (!parts.scheme.isEmpty) = true := by
    rw [List.isEmpty_eq_false_iff.2 hscheme]
    rfl
  rw [hgiven, Bool.true_or, if_pos rfl] at hpath
  refine ⟨fun hnil => hscheme ?_, Attempt.mapError_eq_ok_iff.1 hpath,
    Attempt.mapError_eq_ok_iff.1 hquery⟩
  exact List.map_eq_nil_iff.1 hnil

/-- The URL has a scheme, and its path is settled. -/
structure IsSettled (url : Url) : Prop where
  scheme : url.scheme ≠ []
  path : IsSettledPath url.path

theorem isSettled_of_ofParts {parts : Parts} {url : Url} (h : ofParts parts = .ok url)
    (hscheme : parts.scheme ≠ []) : url.IsSettled := by
  obtain ⟨hkept, hpath, -⟩ := ofParts_eq_ok h hscheme
  exact ⟨hkept, isSettledPath_of_encoded hpath⟩

theorem ofParts_of_reread {parts : Parts} {url : Url} (h : reread parts = .ok url) :
    ofParts parts = .ok url := by
  obtain ⟨-, -, hparts⟩ := Attempt.bind_eq_ok_iff.1 h
  exact hparts

theorem isSettled_of_parse {t : Text} {url : Url} (h : parse t = .ok url)
    (hscheme : (split t).scheme ≠ []) : url.IsSettled := by
  rw [parse] at h
  split at h
  · cases h
  · split at h
    · cases h
    · exact isSettled_of_ofParts h hscheme

variable {url url' : Url}

/-- What is known of a URL with another path and query. -/
theorem IsSettled.withRawPath_eq_ok (hurl : url.IsSettled) {raw : Text}
    (h : url.withRawPath raw = .ok url') :
    url'.IsSettled ∧
      Percent.encodeComponent isPathSafe (removeDots (Text.cut (CodePoint.ofChar '?') raw).1) =
        .ok url'.path ∧
      encodeOptional isQuerySafe (Text.cut (CodePoint.ofChar '?') raw).2 = .ok url'.query := by
  have hparts := ofParts_of_reread h
  obtain ⟨-, hpath, hquery⟩ := ofParts_eq_ok hparts hurl.scheme
  exact ⟨isSettled_of_ofParts hparts hurl.scheme, hpath, hquery⟩

/-- A settled path stays when the URL gets another query. -/
theorem IsSettled.withQuery_eq_ok (hurl : url.IsSettled) {query : Text}
    (h : url.withQuery query = .ok url') :
    url'.IsSettled ∧ url'.path = url.path ∧
      encodeOptional isQuerySafe (some query) = .ok url'.query := by
  have hparts := ofParts_of_reread h
  obtain ⟨-, hpath, hquery⟩ := ofParts_eq_ok hparts hurl.scheme
  refine ⟨isSettled_of_ofParts hparts hurl.scheme, ?_, hquery⟩
  change Percent.encodeComponent isPathSafe (removeDots url.path) = _ at hpath
  exact (Except.ok.inj (hurl.path.reread_eq.symm.trans hpath)).symm

/-! ### Paths that are sent -/

/-- The path with which the URL is requested. -/
def sentPath (url : Url) : Text := if url.path.isEmpty then Text.ofString "/" else url.path

theorem rawPath_eq (url : Url) :
    url.rawPath = url.sentPath ++ url.query.elim [] fun q => CodePoint.ofChar '?' :: q := by
  rw [rawPath, sentPath]
  cases url.query with
  | none => rfl
  | some q => rfl

theorem rawPath_of_no_query (hq : url.query = none) : url.rawPath = url.sentPath := by
  rw [rawPath_eq, hq]
  exact List.append_nil _

theorem sentPath_ne_nil (url : Url) : url.sentPath ≠ [] := by
  rw [sentPath]
  split
  · exact List.cons_ne_nil _ _
  · next hpath => exact fun hnil => hpath (by rw [hnil]; rfl)

theorem IsSettledPath.sentPath (h : IsSettledPath url.path) : IsSettledPath url.sentPath := by
  rw [Url.sentPath]
  split
  · exact ⟨by simpa [Text.ofString] using IsPathCharacter.slash, by decide⟩
  · exact h

theorem not_mem_of_characters {path : Text} (h : ∀ c ∈ path, IsPathCharacter c) :
    CodePoint.ofChar '?' ∉ path := fun hmem => (h _ hmem).bounds.2.2.1 rfl

theorem IsSettledPath.append {s t : Text} (hs : IsSettledPath s) (ht : IsSettledPath t) :
    IsSettledPath (s ++ CodePoint.ofChar '/' :: t) := by
  constructor
  · intro c hc
    rcases List.mem_append.1 hc with hc | hc
    · exact hs.characters c hc
    · rcases List.mem_cons.1 hc with rfl | hc
      · exact IsPathCharacter.slash
      · exact ht.characters c hc
  · intro piece hpiece
    rw [Text.splitOn_append] at hpiece
    rcases List.mem_append.1 hpiece with hpiece | hpiece
    · exact hs.segments piece hpiece
    · exact ht.segments piece hpiece

/-! ### Paths and queries that are added to -/

theorem cut_rawPath_of_none (h : IsSettledPath url.path) (hq : url.query = none) {t : Text}
    (ht : CodePoint.ofChar '?' ∉ t) :
    Text.cut (CodePoint.ofChar '?') (url.rawPath ++ t) = (url.sentPath ++ t, none) := by
  rw [rawPath_of_no_query hq]
  refine Text.cut_of_not_mem fun hmem => ?_
  rcases List.mem_append.1 hmem with hmem | hmem
  · exact not_mem_of_characters h.sentPath.characters hmem
  · exact ht hmem

theorem cut_rawPath_of_some (h : IsSettledPath url.path) {q : Text} (hq : url.query = some q)
    (t : Text) :
    Text.cut (CodePoint.ofChar '?') (url.rawPath ++ t) = (url.sentPath, some (q ++ t)) := by
  have hraw : url.rawPath ++ t = url.sentPath ++ CodePoint.ofChar '?' :: (q ++ t) := by
    rw [rawPath_eq, hq, List.append_assoc]
    rfl
  rw [hraw]
  exact Text.cut_append_cons (not_mem_of_characters h.sentPath.characters) _

/-- A settled URL whose path, or query if it has one, ends with a slash. -/
structure IsBase (url : Url) : Prop where
  settled : url.IsSettled
  last : url.rawPath.getLast? = some (CodePoint.ofChar '/')

end Url

/-! ### Sessions -/

open Url

namespace Session

theorem isBase_of_withTrailingSlash {url url' : Url} (hurl : url.IsSettled)
    (h : withTrailingSlash url = .ok url') : url'.IsBase := by
  rw [withTrailingSlash] at h
  split at h
  · next hlast =>
    obtain rfl := Except.ok.inj h
    exact ⟨hurl, hlast⟩
  · obtain ⟨hsettled, hpath, hquery⟩ := hurl.withRawPath_eq_ok h
    refine ⟨hsettled, ?_⟩
    cases hq : url.query with
    | none =>
      -- the slash is added to the path
      have hslash : IsSettledPath (url.sentPath ++ Text.ofString "/") :=
        hurl.path.sentPath.append ⟨nofun, by decide⟩
      rw [cut_rawPath_of_none hurl.path hq (by decide)] at hpath hquery
      dsimp only at hpath hquery
      rw [hslash.reread_eq] at hpath
      have hnone : url'.query = none := (Except.ok.inj hquery).symm
      have hraw : url'.rawPath = url.sentPath ++ Text.ofString "/" := by
        rw [rawPath_eq, hnone, Url.sentPath, ← Except.ok.inj hpath]
        simp [Text.ofString]
      rw [hraw]
      exact List.getLast?_concat
    | some q =>
      rw [cut_rawPath_of_some hurl.path hq] at hquery
      obtain ⟨encoded, hencoded, hsome⟩ := Attempt.bind_eq_ok_iff.1 hquery
      have hslash : Percent.encodeUnless isQuerySafe (CodePoint.ofChar '/') =
          [CodePoint.ofChar '/'] := by decide
      have hend : encoded = q.flatMap (Percent.encodeUnless isQuerySafe) ++
          [CodePoint.ofChar '/'] := by
        rw [encodeComponent_eq_ok hencoded, List.flatMap_append]
        exact congrArg (_ ++ ·) ((List.flatMap_singleton _ _).trans hslash)
      have hraw : url'.rawPath = (url'.sentPath ++ CodePoint.ofChar '?' ::
          q.flatMap (Percent.encodeUnless isQuerySafe)) ++ [CodePoint.ofChar '/'] := by
        rw [rawPath_eq, ← Except.ok.inj hsome, hend, List.append_assoc]
        rfl
      rw [hraw]
      exact List.getLast?_concat

/-- A text that begins as supported URLs do has a scheme, also without its trailing slashes. -/
theorem scheme_split_ne_nil {t : Text} (h : (Text.ofString "http://").isPrefixOf t = true) :
    (split (t.trimRight (· == CodePoint.ofChar '/'))).scheme ≠ [] := by
  obtain ⟨rest, rfl⟩ := List.isPrefixOf_iff_prefix.1 h
  have htrimmed : ∃ left, Text.trimRight (· == CodePoint.ofChar '/')
      (Text.ofString "http://" ++ rest) = Text.ofString "http" ++ CodePoint.ofChar ':' :: left := by
    have hsplit : Text.ofString "http://" ++ rest =
        Text.ofString "http:" ++ (Text.ofString "//" ++ rest) := rfl
    rw [hsplit, Text.trimRight, List.reverse_append, List.dropWhile_append]
    split
    · exact ⟨[], by decide⟩
    · exact ⟨_, by rw [List.reverse_append, List.reverse_reverse]; rfl⟩
  obtain ⟨left, hleft⟩ := htrimmed
  have hcut : Text.cut (CodePoint.ofChar ':')
      (Text.ofString "http" ++ CodePoint.ofChar ':' :: left) =
        (Text.ofString "http", some left) := Text.cut_append_cons (by decide) left
  have hscheme : cutScheme (Text.ofString "http" ++ CodePoint.ofChar ':' :: left) =
      (Text.ofString "http", left) := by
    rw [cutScheme, hcut]
    rfl
  rw [hleft, split, hscheme]
  exact List.cons_ne_nil _ _

/-- A session that was opened on a supported URL starts with a URL to whose path or query can be
added. -/
theorem isBase_of_open? {t : Text} {timeout : Timeout} {session : Session}
    (h : open? (t.trimRight (· == CodePoint.ofChar '/')) timeout = .ok session)
    (hscheme : (Text.ofString "http://").isPrefixOf t = true) : session.base.IsBase := by
  obtain ⟨url, hparse, hrest⟩ := Attempt.bind_eq_ok_iff.1 h
  obtain ⟨base, hbase, hsession⟩ := Attempt.bind_eq_ok_iff.1 hrest
  rw [← Except.ok.inj hsession]
  exact isBase_of_withTrailingSlash (isSettled_of_parse hparse (scheme_split_ne_nil hscheme)) hbase

end Session

end RavenBinding
