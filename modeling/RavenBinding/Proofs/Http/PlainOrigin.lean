import RavenBinding.Proofs.Http.PlainUrl

/-!
# Requests to plain URLs

A request to a plain URL with a path and a query of its own has an origin, so its cookies can be
chosen, and its host reads back.

## Main statements

- `PlainUrl.text_url`: the text of a plain URL with a path and a query
- `PlainUrl.exists_origin`: the origin of a request
- `PlainUrl.exists_readableHost`: the host as it reads
-/

namespace RavenBinding

open Url

/-- A text with a colon is no address of four numbers. -/
theorem Address.isVersion4_of_colon {t : Text} (h : CodePoint.ofChar ':' ∈ t) :
    isVersion4 t = false := by
  obtain ⟨piece, hp, hm⟩ := Text.mem_of_mem_splitOn h (show _ ≠ CodePoint.ofChar '.' by decide)
  cases hv : isVersion4 t with
  | false => rfl
  | true =>
    simp only [isVersion4, Bool.and_eq_true, List.all_eq_true] at hv
    have hoctet := hv.2 piece hp
    simp only [isOctet, Bool.and_eq_true, List.all_eq_true] at hoctet
    exact absurd (hoctet.1.1.2 _ hm) (by decide)

namespace PlainUrl

/-! ### The origin -/

/-- A query after its mark; there may be none. -/
def marked : Option Text → Text
  | none => []
  | some query => CodePoint.ofChar '?' :: query

/-- What a path and a query come to in the text of a URL. -/
def tail (path : Text) (query : Option Text) : Text := path ++ marked query

/-- A plain URL with a path and a query is written as host and port in their final form and what
follows them. -/
theorem text_url (p : PlainUrl) (path : Text) (query : Option Text) :
    ({ p.url with path := path, query := query } : Url).text =
      p.settled.text ++ tail path query := by
  have hauthority : ({ p.url with path := path, query := query } : Url).authority =
      p.settled.authority := p.authority_url
  have hne : ¬p.settled.authority.isEmpty = true := by
    rw [authority, List.isEmpty_iff]
    exact fun h => p.settled.host.text_ne_nil (List.append_eq_nil_iff.1 h).1
  rw [Url.text, hauthority, if_neg hne, text, tail]
  change Text.ofString "http" ++ Text.ofString ":" ++ (Text.ofString "//" ++ p.settled.authority)
    ++ path ++ _ ++ [] = _
  rw [List.append_nil, ← List.append_assoc, List.append_assoc _ path]
  cases query with
  | none => rfl
  | some query => rfl

/-- Path and query begin where an authority ends. -/
theorem head?_tail {path : Text} (h : IsPlainPath path) (query : Option Text) :
    ∀ c ∈ (tail path query).head?, c.val = 0x2F ∨ c.val = 0x3F := by
  intro c hc
  rw [tail] at hc
  cases path with
  | nil =>
    cases query with
    | none => cases hc
    | some q => exact Or.inr (by rw [← Option.some.inj hc]; rfl)
  | cons d path =>
    obtain rfl : d = CodePoint.ofChar '/' := by
      rcases h.head with h | h
      · cases h
      · exact Option.some.inj h
    exact Or.inl (by rw [← Option.some.inj hc]; rfl)

/-- The square brackets in the authority of a plain URL hold an address of groups. -/
theorem checkAuthority_eq (p : PlainUrl) : Origin.checkAuthority p.authority = .ok () := by
  cases hhost : p.host with
  | name host hne hc hn hm =>
    -- neither a name nor a port holds a bracket
    have hno : ∀ c ∈ p.authority, c ≠ CodePoint.ofChar '[' ∧ c ≠ CodePoint.ofChar ']' := by
      intro c hmem
      rw [authority, hhost] at hmem
      rcases List.mem_append.1 hmem with h | h
      · have hb := (hc c h).bounds
        exact ⟨fun he => hb.2.2.1 (he ▸ rfl), fun he => hb.2.2.2 (he ▸ rfl)⟩
      · exact not_bracket_of_mem_portText h
    have hopen : CodePoint.ofChar '[' ∉ p.authority := fun h => (hno _ h).1 rfl
    have hclose : CodePoint.ofChar ']' ∉ p.authority := fun h => (hno _ h).2 rfl
    rw [Origin.checkAuthority, Text.cut_of_not_mem hopen, Text.cut_of_not_mem hclose]
  | groups address hv hc =>
    have hclose : CodePoint.ofChar ']' ∉ address := fun h => (hc _ h).bounds.2.2.2.1 rfl
    have htext : p.authority = CodePoint.ofChar '[' ::
        (address ++ CodePoint.ofChar ']' :: p.portText) := by
      rw [authority, hhost]
      simp [PlainHost.text]
    have hopened : Text.cut (CodePoint.ofChar '[') p.authority =
        ([], some (address ++ CodePoint.ofChar ']' :: p.portText)) := by
      rw [htext]
      exact Text.cut_append_cons (s := []) List.not_mem_nil _
    have hclosed : Text.cut (CodePoint.ofChar ']') p.authority =
        (CodePoint.ofChar '[' :: address, some p.portText) := by
      rw [htext]
      refine Text.cut_append_cons (s := CodePoint.ofChar '[' :: address) ?_ p.portText
      intro h
      rcases List.mem_cons.1 h with h | h
      · exact absurd h (by decide)
      · exact hclose h
    -- the brackets hold no address of a later version and none of four numbers
    have hlater : ¬address.head? = some (CodePoint.ofChar 'v') := fun h =>
      (hc _ (List.mem_of_head? h)).bounds.2.2.2.2.1 rfl
    have hfour : Address.isVersion4 address = false :=
      Address.isVersion4_of_colon (PlainHost.colon_mem hv hc)
    rw [Origin.checkAuthority, hopened, hclosed]
    simp only [Text.cut_append_cons hclose, Origin.checkBracketed, if_neg hlater, hfour, hv]
    rfl

/-- A request to a plain URL with a plain path and a plain query has an origin, whatever its headers
are. -/
theorem exists_origin (p : PlainUrl) {path : Text} (h : IsPlainPath path) {query : Option Text}
    (hq : IsPlainQuery query) (headers : Headers) :
    ∃ origin,
      Origin.ofRequest { p.url with path := path, query := query } headers = .ok origin := by
  have hmark : CodePoint.ofChar '#' ∉ p.settled.text ++ tail path query := by
    intro hm
    rcases List.mem_append.1 hm with hm | hm
    · rcases List.mem_append.1 hm with hm | hm
      · revert hm
        decide
      · exact (isInAuthority_of_mem hm).2.2.1 rfl
    · rcases List.mem_append.1 hm with hm | hm
      · exact (h.characters _ hm).bounds.2.2.2 rfl
      · cases query with
        | none => cases hm
        | some q =>
          rcases List.mem_cons.1 hm with hm | hm
          · exact absurd hm (by decide)
          · exact (bounds_of_isQuerySafe (hq q rfl _ hm)).2.2 rfl
  have hscheme : Text.cut (CodePoint.ofChar ':') (p.settled.text ++ tail path query) =
      (Text.ofString "http",
        some (Text.ofString "//" ++ (p.settled.authority ++ tail path query))) := by
    have ht : p.settled.text ++ tail path query = Text.ofString "http" ++ CodePoint.ofChar ':' ::
        (Text.ofString "//" ++ (p.settled.authority ++ tail path query)) := by
      rw [text, List.append_assoc]
      rfl
    rw [ht]
    exact Text.cut_append_cons (by decide) _
  have hsplit : Origin.cutScheme? (p.settled.text ++ tail path query) =
      some (Text.ofString "http",
        Text.ofString "//" ++ (p.settled.authority ++ tail path query)) := by
    rw [Origin.cutScheme?, Text.cutLast_of_not_mem hmark]
    simp only [Option.getD_none, hscheme]
    rfl
  rw [Origin.ofRequest, text_url, Origin.withoutEmptyFragment, Text.cutLast_of_not_mem hmark]
  simp only [hsplit, p.settled.authority_split (head?_tail h query), p.settled.checkAuthority_eq]
  exact ⟨_, rfl⟩

/-! ### The host -/

theorem mark_not_isPrefixOf_groups {address : Text} (hc : ∀ c ∈ address, IsAddressCharacter c) :
    HostName.mark.isPrefixOf address = false := by
  cases hp : HostName.mark.isPrefixOf address with
  | false => rfl
  | true =>
    have hx : CodePoint.ofChar 'x' ∈ address :=
      (List.isPrefixOf_iff_prefix.1 hp).subset (by decide)
    exact absurd rfl (hc _ hx).bounds.2.2.2.2.2

/-- The host of a plain URL reads back, whatever its path is. -/
theorem exists_readableHost (p : PlainUrl) (path : Text) :
    ∃ host, ({ p.url with path := path } : Url).readableHost = .ok host := by
  change ∃ host, (if HostName.mark.isPrefixOf p.host.bare then HostName.toUnicode p.host.bare
    else .ok p.host.bare) = .ok host
  cases p.host with
  | name host hne hc hn hm =>
    by_cases hmark : HostName.mark.isPrefixOf host.toLowerAscii = true
    · obtain ⟨t, ht⟩ := hm hmark
      exact ⟨t, (if_pos hmark).trans ht⟩
    · exact ⟨_, if_neg hmark⟩
  | groups address hv hc =>
    refine ⟨address, if_neg ?_⟩
    rw [PlainHost.bare, mark_not_isPrefixOf_groups hc]
    exact Bool.false_ne_true

end PlainUrl

end RavenBinding
