import RavenBinding.Proofs.Store.Arrival
import RavenBinding.Proofs.Store.SettledUrl

/-!
# The paths of two records

A request goes to the normal form of the path that the store builds. Where database and key are not
dot segments, that is the path of a document, and both names can be read from it. Otherwise it is
the path of no document. So two records never have one document in common.

## Main definitions

- `Url.normalPath`: the form in which a URL with a host keeps its path
- `Store.IsRequestPath`: where the requests for a record go
- `Store.IsDocumentPath`: the paths of documents

## Main statements

- `Store.isRequestPath_removeDots`: the path of every record
- `Store.records_never_alias`: the paths of two records
-/

namespace RavenBinding

open Url

/-! ### Normal forms -/

namespace Url

/-- The form in which a URL with a host keeps its path. -/
def normalPath (path : Text) : Except EncodeError Text :=
  Percent.encodeComponent isPathSafe (removeDots path)

end Url

namespace Store

/-- The path has the four segments of a document. -/
def IsDocumentPath (path database key : Text) : Prop :=
  Text.splitOn (CodePoint.ofChar '/') path =
    [[], Text.ofString "databases", database, Text.ofString "docs", key]

/-- The path that the requests for a record go to. -/
structure IsRequestPath (p : PlainUrl) (s : Store) (key path : Text) : Prop where
  /-- It is the normal form of the path that the store builds. -/
  normal (operation : StoreOperation) :
    ∃ built, s.documentPath operation key = .ok built ∧ normalPath built = .ok path
  /-- Every request on the URL goes there. -/
  requested {α : Type} (x : DocumentExchange α) {session : Session} {request : Request} :
    session.base = p.url → x.request? s session key = .ok request →
      request.url = { p.url with path := path }
  /-- There is a request unless the path is too long, or headers or content cannot be written. -/
  requests {α : Type} (x : DocumentExchange α) {session : Session} :
    session.base = p.url → (pathOf s.database key).length ≤ maxLength →
      (x.askAt (pathOf s.database key)).IsWritable →
        ∃ request, x.request? s session key = .ok request

variable {s s' : Store} {key key' : Text}

/-- The requests for a record go to the path of its names without dot segments. -/
theorem isRequestPath_removeDots (p : PlainUrl) (hd : s.database.isScalar = true)
    (hk : key.isScalar = true) : s.IsRequestPath p key (removeDots (pathOf s.database key)) where
  normal operation := by
    have hplain := isPlainPath_pathText (segmentsOf s.database key)
    rw [← pathOf_eq] at hplain
    exact ⟨_, s.documentPath_of_isScalar operation hd hk, hplain.encodeComponent_removeDots⟩
  requested _ _ _ hb h := (DocumentExchange.url_of_request hb h).1
  requests x _ hb hl hw := by
    obtain ⟨request, -, hrequest, -⟩ := x.exists_request_of_scalar hb hd hk hl hw
    exact ⟨request, hrequest⟩

/-- The segments of the path of some texts. -/
theorem splitOn_pathText (segments : List Text) :
    Text.splitOn (CodePoint.ofChar '/') (pathText segments) = [] :: segments.map Percent.quote :=
  Text.splitOn_join (slash_not_mem_quoted segments)

/-- A record has the path of a document if neither of its names is a dot segment. -/
theorem isDocumentPath_removeDots (hd : s.database.isScalar = true) (hk : key.isScalar = true)
    (hdot : ¬s.database.IsDotSegment) (hplain : ¬key.IsDotSegment) :
    IsDocumentPath (removeDots (pathOf s.database key)) (Percent.quote s.database)
      (Percent.quote key) := by
  rw [IsDocumentPath, removeDots_pathOf hd hdot hk, placeOf_eq_iff.2 hplain, splitOn_pathText]
  simp only [segmentsOf, List.map_cons, List.map_nil, quote_databases, quote_docs]

/-- A record that has the path of a document has its own names there. -/
theorem names_of_isDocumentPath (hd : s.database.isScalar = true) (hk : key.isScalar = true)
    {x y : Text} (h : IsDocumentPath (removeDots (pathOf s.database key)) x y) :
    Percent.decode x = s.database ∧ Percent.decode y = key := by
  rcases isPlain_or_stray s.database key with ⟨hdot, hplain⟩ | ⟨segments, hleft, hstray⟩
  · have hown := (isDocumentPath_removeDots hd hk hdot hplain).symm.trans h
    simp only [List.cons.injEq, true_and, and_true] at hown
    obtain ⟨rfl, rfl⟩ := hown
    exact ⟨Percent.decode_quote hd, Percent.decode_quote hk⟩
  · -- too few segments are left
    rw [IsDocumentPath, removeDots_pathOf_eq hd hk hleft, splitOn_pathText] at h
    have hlength := congrArg List.length h
    have hfew := hstray.few
    simp only [List.length_cons, List.length_map, List.length_nil] at hlength
    omega

/-- No two records alias. The requests for two records go to different paths, unless these are paths
of no document; and the path of a record is one of a document whose names decode to those of the
record, unless one of them is a dot segment. -/
theorem records_never_alias (p : PlainUrl) (hd : s.database.isScalar = true)
    (hk : key.isScalar = true) (hd' : s'.database.isScalar = true) (hk' : key'.isScalar = true) :
    ∃ path path', s.IsRequestPath p key path ∧ s'.IsRequestPath p key' path' ∧
      ((s.database, key) ≠ (s'.database, key') → ∀ x y, IsDocumentPath path x y → path' ≠ path) ∧
      (¬s.database.IsDotSegment → ¬key.IsDotSegment →
        ∃ x y, IsDocumentPath path x y ∧
          Percent.decode x = s.database ∧ Percent.decode y = key) := by
  refine ⟨_, _, isRequestPath_removeDots p hd hk, isRequestPath_removeDots p hd' hk', ?_, ?_⟩
  · intro hne x y hx heq
    obtain ⟨hx₁, hy₁⟩ := names_of_isDocumentPath hd hk hx
    rw [← heq] at hx
    obtain ⟨hx₂, hy₂⟩ := names_of_isDocumentPath hd' hk' hx
    exact hne (Prod.ext (hx₁.symm.trans hx₂) (hy₁.symm.trans hy₂))
  · intro hdot hplain
    exact ⟨_, _, isDocumentPath_removeDots hd hk hdot hplain, Percent.decode_quote hd,
      Percent.decode_quote hk⟩

/-- A slash in a key is not taken for one that was encoded before. -/
theorem slash_and_escape_differ :
    ∃ path path', Store.localhost.IsRequestPath PlainUrl.localhost (Text.ofString "a/b") path ∧
      Store.localhost.IsRequestPath PlainUrl.localhost (Text.ofString "a%2Fb") path' ∧
      (∃ x y, IsDocumentPath path x y) ∧ path' ≠ path := by
  obtain ⟨path, path', hpath, hpath', hdistinct, hdocument⟩ :=
    @records_never_alias Store.localhost Store.localhost (Text.ofString "a/b")
      (Text.ofString "a%2Fb") PlainUrl.localhost (by decide) (by decide) (by decide) (by decide)
  obtain ⟨x, y, hxy, -⟩ := hdocument (by decide) (by decide)
  exact ⟨path, path', hpath, hpath', ⟨x, y, hxy⟩, hdistinct (by decide) x y hxy⟩

end Store

end RavenBinding
