import RavenBinding.Http.Session
import RavenBinding.Proofs.Attempt
import RavenBinding.Proofs.Http.PlainHost

/-!
# Plain base URLs

A plain URL is `http://` with a plain host and maybe a plain port. A session opens on it, and the
path of a request replaces the empty one of the base. Nothing else of the URL changes, and of the
path only the dot segments.

## Main definitions

- `PlainUrl`: the URL as it is written
- `PlainUrl.url`: the URL as a session keeps it
- `Url.IsPlainPath`, `Url.IsPlainQuery`: paths and queries that need no encoding

## Main statements

- `PlainUrl.open?_eq`: a session opens on a plain URL
- `PlainUrl.withRawPath_eq`, `PlainUrl.withQuery_eq`: what a path in place of the empty one gives,
  and a query after it
- `PlainUrl.resolve_eq`, `PlainUrl.resolve_of_long`: the URL of a request
-/

namespace RavenBinding

open Url

/-- A URL of the form `http://<host>[:<port>]`. -/
structure PlainUrl where
  host : PlainHost
  port : Option PlainPort
  /-- The whole URL fits the limit. -/
  short : host.text.length + (port.elim 0 fun q => q.digits.length + 1) + 7 ≤ maxLength

namespace PlainUrl

/-- What follows the host. -/
def portText (p : PlainUrl) : Text :=
  match p.port with
  | none => []
  | some q => CodePoint.ofChar ':' :: q.digits

/-- Host and port as they are written. -/
def authority (p : PlainUrl) : Text := p.host.text ++ p.portText

/-- The URL as it is written. -/
def text (p : PlainUrl) : Text := Text.ofString "http://" ++ p.authority

/-- The port as it is kept. -/
def keptPort (p : PlainUrl) : Option Nat := p.port.bind PlainPort.kept

/-- The URL as a session keeps it. -/
def url (p : PlainUrl) : Url :=
  ⟨Text.ofString "http", [], p.host.bare, p.keptPort.map Int.ofNat, [], none, none⟩

theorem length_authority (p : PlainUrl) : p.authority.length + 7 ≤ maxLength := by
  have h := p.short
  rw [authority, List.length_append, portText]
  cases hp : p.port with
  | none =>
    rw [hp] at h
    exact h
  | some q =>
    rw [hp] at h
    simpa [Nat.add_assoc] using h

/-- What follows the host is nothing, or a colon and the digits of the port. -/
theorem portText_cases (p : PlainUrl) :
    p.portText = [] ∨ ∃ q : PlainPort, p.portText = CodePoint.ofChar ':' :: q.digits := by
  rw [portText]
  cases p.port with
  | none => exact Or.inl rfl
  | some q => exact Or.inr ⟨q, rfl⟩

theorem isInAuthority_of_mem {p : PlainUrl} {c : CodePoint} (h : c ∈ p.authority) :
    IsInAuthority c := by
  rcases List.mem_append.1 h with h | h
  · exact PlainHost.isInAuthority_of_mem_text h
  · rcases p.portText_cases with hp | ⟨q, hp⟩
    · rw [hp] at h
      cases h
    · rw [hp] at h
      rcases List.mem_cons.1 h with rfl | h
      · simp only [IsInAuthority]; decide
      · exact PlainPort.isInAuthority_of_mem h

/-! ### Reading the authority -/

theorem head?_portText (p : PlainUrl) : ∀ c ∈ p.portText.head?, c = CodePoint.ofChar ':' := by
  intro c h
  rcases p.portText_cases with hp | ⟨q, hp⟩
  · rw [hp] at h
    cases h
  · rw [hp] at h
    exact (Option.some.inj h).symm

theorem not_bracket_of_mem_portText {p : PlainUrl} {c : CodePoint} (h : c ∈ p.portText) :
    c ≠ CodePoint.ofChar '[' ∧ c ≠ CodePoint.ofChar ']' := by
  rcases p.portText_cases with hp | ⟨q, hp⟩
  · rw [hp] at h
    cases h
  · rw [hp] at h
    rcases List.mem_cons.1 h with rfl | h
    · decide
    · constructor
      · rintro rfl
        exact PlainPort.not_mem_digits (by decide) h
      · rintro rfl
        exact PlainPort.not_mem_digits (by decide) h

theorem readPort_portText (p : PlainUrl) :
    readPort (Text.ofString "http") (p.portText.drop 1) = .ok (p.keptPort.map Int.ofNat) := by
  rw [portText, keptPort]
  cases p.port with
  | none => rfl
  | some q => exact q.readPort_eq

/-- The URL in its final form. -/
def settled (p : PlainUrl) : PlainUrl where
  host := p.host.settled
  port := p.port.bind fun q =>
    if q.number = 80 then none else some (.ofNumber q.number q.number_lt)
  short := by
    have h := p.short
    rw [PlainHost.length_text_settled]
    cases hp : p.port with
    | none =>
      rw [hp] at h
      exact h
    | some q =>
      rw [hp] at h
      have hlen := PlainPort.length_ofNumber q
      simp only [Option.elim_some] at h
      by_cases hn : q.number = 80
      · simp only [Option.bind_some, if_pos hn, Option.elim_none]
        omega
      · simp only [Option.bind_some, if_neg hn, Option.elim_some]
        omega

theorem authority_url (p : PlainUrl) : p.url.authority = p.settled.authority := by
  have hhost := p.host.bracketed_bare
  have hnet : p.url.netloc = p.settled.authority := by
    -- the hosts agree, so only the ports are left
    refine (congrArg (· ++ _) hhost).trans (congrArg (p.settled.host.text ++ ·) ?_)
    simp only [url, keptPort, portText, settled]
    cases p.port with
    | none => rfl
    | some q =>
      simp only [Option.bind_some, PlainPort.kept]
      by_cases hn : q.number = 80
      · simp only [if_pos hn, Option.map_none]
      · simp only [if_neg hn, Option.map_some]
        rfl
  rw [Url.authority, hnet]
  rfl

theorem url_settled (p : PlainUrl) : p.settled.url = p.url := by
  have hport : p.settled.keptPort = p.keptPort := by
    simp only [keptPort, settled]
    cases p.port with
    | none => rfl
    | some q =>
      simp only [Option.bind_some, PlainPort.kept]
      by_cases hn : q.number = 80
      · simp only [if_pos hn, Option.bind_none]
      · simp only [if_neg hn, Option.bind_some, PlainPort.kept, PlainPort.number_ofNumber]
  rw [url, url, hport]
  exact congrArg (fun host => (⟨Text.ofString "http", [], host, _, [], none, none⟩ : Url))
    p.host.bare_settled

end PlainUrl

/-! ### Paths -/

/-- What the path of a URL may hold as it is. -/
def Url.IsPathCharacter (c : CodePoint) : Prop := (Percent.isUnreserved c || isPathSafe c) = true

theorem Url.IsPathCharacter.bounds {c : CodePoint} (h : IsPathCharacter c) :
    0x20 < c.val ∧ c.val < 0x7F ∧ c.val ≠ 0x3F ∧ c.val ≠ 0x23 := by
  simp only [IsPathCharacter, Percent.isUnreserved, isPathSafe, graphicExcept, CodePoint.isLetter,
    CodePoint.isDigit, Bool.or_eq_true, Bool.and_eq_true, decide_eq_true_eq] at h
  simp at h
  omega

/-- A path that needs no encoding: it is empty or begins with a slash. -/
structure Url.IsPlainPath (path : Text) : Prop where
  characters : ∀ c ∈ path, IsPathCharacter c
  head : path.isEmpty = true ∨ path.head? = some (CodePoint.ofChar '/')

namespace Url

theorem mem_removeDotsLoop {found segments : List Text} {s : Text}
    (h : s ∈ removeDotsLoop found segments) : s ∈ found ∨ s ∈ segments := by
  induction segments generalizing found with
  | nil => exact Or.inl (List.mem_reverse.1 h)
  | cons t segments ih =>
    rw [removeDotsLoop] at h
    split at h
    · exact (ih h).imp_right (List.mem_cons_of_mem _)
    · split at h
      · rcases ih h with h | h
        · left
          split at h
          · exact h
          · exact List.mem_of_mem_drop h
        · exact Or.inr (List.mem_cons_of_mem _ h)
      · rcases ih h with h | h
        · rcases List.mem_cons.1 h with rfl | h
          · exact Or.inr List.mem_cons_self
          · exact Or.inl h
        · exact Or.inr (List.mem_cons_of_mem _ h)

/-- A path without its dot segments is made of slashes and what it held before. -/
theorem mem_removeDots {path : Text} {c : CodePoint} (h : c ∈ removeDots path) :
    c = CodePoint.ofChar '/' ∨ c ∈ path := by
  rcases Text.mem_of_mem_join h with h | ⟨s, hs, h⟩
  · exact Or.inl (List.mem_singleton.1 h)
  · have hp := (mem_removeDotsLoop hs).resolve_left List.not_mem_nil
    exact Or.inr (Text.mem_of_mem_piece hp h)

theorem IsPathCharacter.slash : IsPathCharacter (CodePoint.ofChar '/') := by
  simp only [IsPathCharacter]
  decide

/-- Such a path stays as it is but for its dot segments. -/
theorem IsPlainPath.encodeComponent_removeDots {path : Text} (h : IsPlainPath path) :
    Percent.encodeComponent isPathSafe (removeDots path) = .ok (removeDots path) := by
  have hall : ∀ c ∈ removeDots path, IsPathCharacter c := by
    intro c hc
    rcases mem_removeDots hc with rfl | hc
    · exact IsPathCharacter.slash
    · exact h.characters c hc
  have hscalar : Text.isScalar (removeDots path) = true :=
    Text.isScalar_of_forall_lt fun c hc => Nat.lt_trans (hall c hc).bounds.2.1 (by decide)
  exact Percent.encodeComponent_of_safe hall hscalar

/-! ### Queries -/

/-- A query that needs no encoding; there may be none. -/
def IsPlainQuery (query : Option Text) : Prop := ∀ t ∈ query, ∀ c ∈ t, isQuerySafe c = true

theorem isPlainQuery_none : IsPlainQuery none := fun _ h => absurd h (by simp)

theorem bounds_of_isQuerySafe {c : CodePoint} (h : isQuerySafe c = true) :
    0x20 < c.val ∧ c.val < 0x7F ∧ c.val ≠ 0x23 := by
  simp only [isQuerySafe, graphicExcept, Bool.and_eq_true, decide_eq_true_eq] at h
  simp at h
  omega

theorem IsPlainQuery.encodeOptional_eq {query : Option Text} (h : IsPlainQuery query) :
    encodeOptional isQuerySafe query = .ok query := by
  cases query with
  | none => rfl
  | some t =>
    have hsafe : ∀ c ∈ t, isQuerySafe c = true := h t rfl
    have hscalar : t.isScalar = true := Text.isScalar_of_forall_lt fun c hc =>
      Nat.lt_trans (bounds_of_isQuerySafe (hsafe c hc)).2.1 (by decide)
    rw [encodeOptional, Percent.encodeComponent_of_safe
      (fun c hc => by rw [hsafe c hc, Bool.or_true]) hscalar]
    rfl

end Url

namespace PlainUrl

/-- Reading a plain authority with a plain path and query. -/
theorem ofParts_eq (p : PlainUrl) {path : Text} (h : IsPlainPath path) {query : Option Text}
    (hq : IsPlainQuery query) :
    ofParts ⟨Text.ofString "http", p.authority, path, query, none⟩ =
      .ok { p.url with path := removeDots path, query := query } := by
  have hat : CodePoint.ofChar '@' ∉ p.authority := fun hm => (isInAuthority_of_mem hm).2.2.2.2.2 rfl
  have hcut : cutHost p.authority = (p.host.text, p.portText.drop 1) :=
    p.host.cutHost_append p.head?_portText
      fun hb => (not_bracket_of_mem_portText hb).2 rfl
  have hauthority : (!([] : Text).isEmpty || !p.host.bare.isEmpty
      || (p.keptPort.map Int.ofNat).isSome) = true := by
    simp [p.host.bare_ne_nil]
  have hscheme : (!(Text.ofString "http").isEmpty) = true := rfl
  -- the path is checked before its dot segments are removed
  have hcheck : checkPath true true path = .ok () := by
    rw [checkPath, if_pos rfl, if_pos]
    rw [Bool.or_eq_true]
    rcases h.head with h | h
    · exact Or.inl h
    · exact Or.inr (decide_eq_true h)
  have hnone : Percent.encodeComponent isUserinfoSafe [] = .ok [] := rfl
  have hfragment : encodeOptional isFragmentSafe none = .ok none := rfl
  simp only [ofParts, Text.cutLast_of_not_mem hat, hcut, Option.getD_none, hnone,
    p.host.readHost_eq, p.readPort_portText, hscheme, Bool.true_or, if_true,
    h.encodeComponent_removeDots, hq.encodeOptional_eq, hfragment]
  simp only [Attempt.mapError_ok, bind, Except.bind, hauthority, hcheck]
  rfl

/-! ### Opening a session -/

theorem firstRun?_isControl {t : Text} (h : ∀ c ∈ t, 0x20 < c.val ∧ c.val < 0x7F) :
    Text.firstRun? isControl t = none := by
  refine Text.firstRun?_eq_none_iff.2 fun c hc => ?_
  have := h c hc
  simp [isControl]
  omega

theorem graphic_of_mem_text {p : PlainUrl} {c : CodePoint} (h : c ∈ p.text) :
    0x20 < c.val ∧ c.val < 0x7F := by
  have hscheme : ∀ c ∈ Text.ofString "http://", 0x20 < c.val ∧ c.val < 0x7F := by
    simp [Text.ofString, CodePoint.val_ofChar]
  rcases List.mem_append.1 h with h | h
  · exact hscheme c h
  · exact ⟨(isInAuthority_of_mem h).1, (isInAuthority_of_mem h).2.1⟩

theorem length_text (p : PlainUrl) : p.text.length ≤ maxLength := by
  have h := p.length_authority
  rw [text, List.length_append]
  change 7 + p.authority.length ≤ maxLength
  omega

/-- A plain URL does not end with a slash. -/
theorem trimRight_text (p : PlainUrl) : p.text.trimRight (· == CodePoint.ofChar '/') = p.text := by
  have hne : p.authority ≠ [] := List.append_ne_nil_of_left_ne_nil p.host.text_ne_nil _
  refine Text.trimRight_of_getLast? fun c hc => ?_
  have hmem : c ∈ p.authority := by
    rw [text, List.getLast?_append, List.getLast?_eq_some_getLast hne, Option.some_or,
      Option.mem_some_iff] at hc
    exact hc ▸ List.getLast_mem hne
  exact beq_eq_false_iff_ne.2 fun he => (isInAuthority_of_mem hmem).2.2.2.1 (he ▸ rfl)

theorem cutScheme_text (p : PlainUrl) (path : Text) :
    cutScheme (p.text ++ path) =
      (Text.ofString "http", Text.ofString "//" ++ (p.authority ++ path)) := by
  have ht : p.text ++ path = Text.ofString "http" ++ CodePoint.ofChar ':' ::
      (Text.ofString "//" ++ (p.authority ++ path)) := by
    rw [text, List.append_assoc]
    rfl
  have hcolon : CodePoint.ofChar ':' ∉ Text.ofString "http" := by decide
  have hcut := Text.cut_append_cons hcolon (Text.ofString "//" ++ (p.authority ++ path))
  rw [cutScheme, ht, hcut]
  rfl

/-- An authority of a plain URL ends where a path or a query begins. -/
theorem cutAuthority_text (p : PlainUrl) {rest : Text}
    (h : ∀ c ∈ rest.head?, c.val = 0x2F ∨ c.val = 0x3F) :
    cutAuthority (Text.ofString "//" ++ (p.authority ++ rest)) = (p.authority, rest) := by
  have hall : ∀ c ∈ p.authority,
      (!(c.val = 0x2F || c.val = 0x3F || c.val = 0x23 : Bool)) = true := by
    intro c hc
    have hb := isInAuthority_of_mem hc
    simp [hb.2.2.1, hb.2.2.2.1, hb.2.2.2.2.1]
  have hslash : (CodePoint.ofChar '/').val = 0x2F := rfl
  change cutAuthority (CodePoint.ofChar '/' :: CodePoint.ofChar '/' :: (p.authority ++ rest)) = _
  simp only [cutAuthority, hslash, decide_true, Bool.and_self, if_true]
  rw [List.takeWhile_append_of_pos hall, List.dropWhile_append_of_pos hall]
  cases rest with
  | nil => simp
  | cons c rest =>
    have hends : (!(c.val = 0x2F || c.val = 0x3F || c.val = 0x23 : Bool)) = false := by
      rcases h c rfl with hc | hc
      · simp [hc]
      · simp [hc]
    rw [List.takeWhile_cons, List.dropWhile_cons, hends]
    exact Prod.ext (List.append_nil _) rfl

/-- The authority of a plain URL with something after it. -/
theorem authority_split (p : PlainUrl) {rest : Text}
    (h : ∀ c ∈ rest.head?, c.val = 0x2F ∨ c.val = 0x3F) :
    (split (p.text ++ rest)).authority = p.authority := by
  simp only [split, p.cutScheme_text rest, p.cutAuthority_text h]

theorem isPlainPath_nil : IsPlainPath [] where
  characters _ h := absurd h List.not_mem_nil
  head := Or.inl rfl

theorem parse_text (p : PlainUrl) : parse p.text = .ok p.url := by
  have hsplit : split p.text = ⟨Text.ofString "http", p.authority, [], none, none⟩ := by
    have hscheme := p.cutScheme_text []
    have hauthority := @cutAuthority_text p [] (by simp)
    rw [List.append_nil] at hscheme
    simp only [split, hscheme, hauthority]
    rfl
  rw [parse, if_neg (Nat.not_lt.2 p.length_text),
    firstRun?_isControl fun c hc => graphic_of_mem_text hc]
  exact (congrArg ofParts hsplit).trans (p.ofParts_eq isPlainPath_nil isPlainQuery_none)

/-- A session opens on a plain URL. -/
theorem open?_eq (p : PlainUrl) (timeout : Timeout) :
    Session.open? p.text timeout = .ok { base := p.url, timeout := timeout } := by
  rw [Session.open?, p.parse_text]
  rfl

/-! ### The URL of a request -/

theorem checkComponent_of_graphic {name : String} {t : Text} (hl : t.length ≤ maxLength)
    (h : ∀ c ∈ t, 0x20 < c.val ∧ c.val < 0x7F) : checkComponent name t = .ok () := by
  rw [checkComponent, if_neg (Nat.not_lt.2 hl), firstRun?_isControl h]

/-- The components of a plain URL, read once more with another path and query. -/
theorem reread_eq (p : PlainUrl) {path : Text} (h : IsPlainPath path)
    (hl : path.length ≤ maxLength) {query : Option Text} (hq : IsPlainQuery query)
    (hlq : (query.getD []).length ≤ maxLength) :
    reread { p.url.parts with path := path, query := query } =
      .ok { p.url with path := removeDots path, query := query } := by
  -- the URL is written and read once more, so its authority is the settled one
  have hparts : { p.url.parts with path := path, query := query } =
      (⟨Text.ofString "http", p.settled.authority, path, query, none⟩ : Parts) := by
    rw [← p.authority_url]
    rfl
  have hauthority : checkComponent "authority" p.settled.authority = .ok () := by
    have hl := p.settled.length_authority
    exact checkComponent_of_graphic (by omega)
      fun c hc => ⟨(isInAuthority_of_mem hc).1, (isInAuthority_of_mem hc).2.1⟩
  have hpath : checkComponent "path" path = .ok () :=
    checkComponent_of_graphic hl
      fun c hc => ⟨(h.characters c hc).bounds.1, (h.characters c hc).bounds.2.1⟩
  have hquery : checkComponent "query" (query.getD []) = .ok () := by
    refine checkComponent_of_graphic hlq fun c hc => ?_
    cases query with
    | none => cases hc
    | some t => exact ⟨(bounds_of_isQuerySafe (hq t rfl c hc)).1,
        (bounds_of_isQuerySafe (hq t rfl c hc)).2.1⟩
  have hcheck : checkComponents ⟨Text.ofString "http", p.settled.authority, path, query, none⟩ =
      .ok () := by
    simp only [checkComponents, hauthority, hpath, hquery]
    rfl
  rw [hparts, reread, hcheck]
  exact (p.settled.ofParts_eq h hq).trans (by rw [p.url_settled])

/-- The URL with a path in place of the empty one. -/
theorem withRawPath_eq (p : PlainUrl) {path : Text} (h : IsPlainPath path)
    (hl : path.length ≤ maxLength) :
    p.url.withRawPath path = .ok { p.url with path := removeDots path } := by
  have hquery : CodePoint.ofChar '?' ∉ path := fun hm => (h.characters _ hm).bounds.2.2.1 rfl
  rw [withRawPath, Text.cut_of_not_mem hquery]
  exact p.reread_eq h hl isPlainQuery_none (Nat.zero_le _)

/-- The URL with a query after its path. -/
theorem withQuery_eq (p : PlainUrl) {path query : Text} (h : IsPlainPath path)
    (hl : path.length ≤ maxLength) (hq : IsPlainQuery (some query))
    (hlq : query.length ≤ maxLength) :
    ({ p.url with path := path } : Url).withQuery query =
      .ok { p.url with path := removeDots path, query := some query } :=
  p.reread_eq h hl hq hlq

theorem rawPath_url (p : PlainUrl) : p.url.rawPath = Text.ofString "/" := rfl

/-- The URL of a path, which begins with a single slash. -/
theorem resolve_eq (p : PlainUrl) {session : Session} (hs : session.base = p.url) {path : Text}
    (h : IsPlainPath (CodePoint.ofChar '/' :: path))
    (hl : (CodePoint.ofChar '/' :: path).length ≤ maxLength)
    (hhead : path.head? ≠ some (CodePoint.ofChar '/')) :
    session.resolve (CodePoint.ofChar '/' :: path) =
      .ok { p.url with path := removeDots (CodePoint.ofChar '/' :: path) } := by
  have htrim : Text.trimLeft (· == CodePoint.ofChar '/') (CodePoint.ofChar '/' :: path) = path := by
    rw [Text.trimLeft, List.dropWhile_cons, if_pos (beq_self_eq_true _)]
    cases path with
    | nil => rfl
    | cons c path =>
      have hc : (c == CodePoint.ofChar '/') = false :=
        beq_eq_false_iff_ne.2 fun he => hhead (congrArg some he)
      rw [List.dropWhile_cons, hc, if_neg Bool.false_ne_true]
  rw [Session.resolve, if_neg (Nat.not_lt.2 hl), htrim, hs, rawPath_url]
  exact p.withRawPath_eq h hl

theorem resolve_of_long {session : Session} {path : Text} (hl : maxLength < path.length) :
    session.resolve path = .error (.invalid .tooLong) := by
  rw [Session.resolve, if_pos hl]

/-- The local server at its usual port. -/
def localhost : PlainUrl where
  host := .name (Text.ofString "localhost") (by decide) (List.all_eq_true.1 (by decide))
    (by decide) (fun h => absurd h (by decide))
  port := some ⟨Text.ofString "10301", List.all_eq_true.1 (by decide), by decide, by decide⟩
  short := by decide

end PlainUrl

end RavenBinding
