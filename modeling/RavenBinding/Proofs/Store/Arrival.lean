import RavenBinding.Proofs.Store.ServerExchange

/-!
# Where requests arrive

The name of a database may be a dot segment as well as a key may. On a plain URL, each request for a
document arrives at the document or at a place where there is none. What the server answers there is
the same whatever it holds.

## Main definitions

- `Request.IsStray`: the requests that arrive at no document
- `DocumentExchange.IsBlind`: the operations that the server has no part in

## Main statements

- `Store.isPlain_or_stray`: what is left of the segments of a document
- `Server.answer_of_stray`: the answers to stray requests
- `DocumentExchange.stray_or_addressed`: where the request of an operation arrives
- `DocumentExchange.blind_or_addressed`: an operation is blind or reaches its document
-/

namespace RavenBinding

open Url

/-! ### Stray segments -/

namespace Store

/-- Segments that are neither those of a document nor those under which databases are created. -/
structure IsStray (segments : List Text) : Prop where
  few : segments.length < 4
  head : segments.head? ≠ some (Text.ofString "admin")

theorem isStray_cons {first : Text} (hfirst : first ≠ Text.ofString "admin") {rest : List Text}
    (hrest : rest.length < 3) : IsStray (first :: rest) where
  few := Nat.succ_lt_succ hrest
  head := by simpa using hfirst

/-- The last segment drops itself, drops the one before it as well, or stays. -/
theorem removeDotsLoop_last {found : List Text} (hfound : found ≠ [[]]) (last : Text) :
    removeDotsLoop found [last] = found.reverse ∨
      removeDotsLoop found [last] = (found.drop 1).reverse ∨
      removeDotsLoop found [last] = (last :: found).reverse := by
  by_cases hone : last = Text.ofString "."
  · rw [hone]
    exact Or.inl rfl
  · by_cases htwo : last = Text.ofString ".."
    · have hkept : ¬(found == [[]]) = true := by rwa [beq_iff_eq]
      rw [htwo]
      refine Or.inr (Or.inl ?_)
      show removeDotsLoop (if (found == [[]]) = true then _ else _) [] = _
      rw [if_neg hkept]
      rfl
    · rw [removeDotsLoop_cons fun h => h.elim hone htwo]
      exact Or.inr (Or.inr rfl)

/-- Of the segments of a document all are left, or few are. -/
theorem isPlain_or_stray (database key : Text) :
    (¬database.IsDotSegment ∧ ¬key.IsDotSegment) ∨
      ∃ segments, removeDotsLoop [] ([] :: segmentsOf database key) = [] :: segments ∧
        IsStray segments := by
  by_cases hdot : database.IsDotSegment
  · right
    rcases hdot with rfl | rfl
    · have hlast := removeDotsLoop_last
        (show [Text.ofString "docs", Text.ofString "databases", []] ≠ [[]] by decide) key
      rcases hlast with h | h | h <;>
        exact ⟨_, h, isStray_cons (by decide) (by simp)⟩
    · -- the first segment is dropped as well
      have hlast := removeDotsLoop_last (show [Text.ofString "docs", []] ≠ [[]] by decide) key
      rcases hlast with h | h | h
      · exact ⟨_, h, isStray_cons (by decide) (by simp)⟩
      · exact ⟨_, h, by decide, by decide⟩
      · exact ⟨_, h, isStray_cons (by decide) (by simp)⟩
  · by_cases hkey : key.IsDotSegment
    · right
      rw [removeDotsLoop_segmentsOf hdot]
      refine ⟨placeOf database key, rfl, ?_⟩
      rcases hkey with rfl | rfl
      · exact isStray_cons (by decide) (by simp)
      · exact isStray_cons (by decide) (by simp)
    · exact Or.inl ⟨hdot, hkey⟩

end Store

/-! ### Stray requests -/

/-- The request arrives, without a query, with stray segments. -/
structure Request.IsStray (request : Request) : Prop where
  unqueried : (Text.cut (CodePoint.ofChar '?') request.url.rawPath).2 = none
  segments : Store.IsStray request.segments

/-- A stray request is answered in one way. -/
theorem Server.answer_of_stray {request : Request} (h : request.IsStray) :
    ∃ r : Response, r.IsOrdinary ∧ ∀ server : Server, server.answer request = (r, server) := by
  obtain ⟨hquery, hfew, hhead⟩ := h
  rw [Request.segments] at hfew hhead
  simp only [answer, hquery]
  generalize (Text.cut (CodePoint.ofChar '?') request.url.rawPath).1 = path at hfew hhead ⊢
  -- what is not supported is said in words
  have hplain : ∀ t : Text, ∃ r : Response, r.IsOrdinary ∧
      ∀ server : Server, (plain 400 t, server) = (r, server) :=
    fun t => ⟨_, Response.isOrdinary_nil 400 (Utf8.encodeAll t), fun server => rfl⟩
  -- databases are listed on pages, and no page is asked for
  have hpage : ∀ server : Server,
      sliceList (queryNumber [] "start") (queryNumber [] "start" + queryNumber [] "pageSize")
        server.names = [] := fun server => rfl
  simp only [respond.eq_def]
  rcases hsegments : segments path with _ | ⟨a, _ | ⟨b, _ | ⟨c, _ | ⟨d, rest⟩⟩⟩⟩
  · cases request.method <;> exact hplain _
  · cases request.method with
    | get =>
      by_cases ha : (a == Text.ofString "databases") = true
      · simp only [ha, if_true, Option.getD_none, hpage]
        exact ⟨_, Response.isOrdinary_nil 200 _, fun server => rfl⟩
      · simp only [ha]
        exact hplain _
    | put => exact hplain _
    | delete => exact hplain _
  · cases request.method <;> exact hplain _
  · have ha : (a == Text.ofString "admin") = false := by
      rw [hsegments] at hhead
      simpa using hhead
    cases request.method with
    | get => exact hplain _
    | put =>
      simp only [ha, Bool.false_and]
      exact hplain _
    | delete => exact hplain _
  · rw [hsegments] at hfew
    simp at hfew
    omega

namespace PlainUrl

variable {p : PlainUrl} {session : Session}

theorem isStray_place {request : Request} {segments : List Text} (h : Store.IsStray segments)
    (hscalar : ∀ s : Text, s ∈ segments → s.isScalar = true)
    (hurl : request.url = p.place segments) : request.IsStray := by
  by_cases hne : segments = []
  · -- of the empty path the slash is left
    have hcut : Text.cut (CodePoint.ofChar '?') request.url.rawPath = (Text.ofString "/", none) := by
      rw [hurl, hne]
      show Text.cut (CodePoint.ofChar '?') (Text.ofString "/") = _
      exact Text.cut_of_not_mem (by decide)
    refine ⟨by rw [hcut], ?_⟩
    rw [Request.segments, hcut]
    exact ⟨by decide, by decide⟩
  · have hcut := p.cut_rawPath_place hne
    rw [← hurl] at hcut
    refine ⟨by rw [hcut], ?_⟩
    rw [Request.segments, hcut, Store.segments_pathText hscalar]
    exact h

end PlainUrl

namespace DocumentExchange

variable {α : Type} {x : DocumentExchange α} {p : PlainUrl} {s : Store} {session : Session}
  {key : Text}

/-- The operation ends in one way and leaves the server as it is, whatever the server holds. -/
def IsBlind (x : DocumentExchange α) (s : Store) (session : Session) (key : Text) : Prop :=
  ∃ ending, ∀ w : World, w.replies = [] →
    x.ending s session key w.replyTo = (ending, session) ∧
      (x.after s session key w).server = w.server ∧ (x.after s session key w).replies = []

theorem isBlind_of_error {f : Failure} (h : x.request? s session key = .error f) :
    x.IsBlind s session key := by
  refine ⟨.error f, fun w hw => ⟨ending_of_no_request h w.replyTo, ?_, ?_⟩⟩
  · rw [after, h]
  · rw [after, h]
    exact hw

theorem isBlind_of_stray {request : Request} {segments : List Text}
    (h : x.request? s session key = .ok request) (hurl : request.url = p.place segments)
    (hstray : request.IsStray) : x.IsBlind s session key := by
  obtain ⟨r, hr, hanswer⟩ := Server.answer_of_stray hstray
  obtain ⟨ask, hask, hbuild⟩ := request?_eq_ok_iff.1 h
  refine ⟨(x.endingOf session ask request (.response r)).1, fun w hw => ?_⟩
  have hreply : w.replyTo request = .response r := by
    rw [World.replyTo_of_no_replies hw, hanswer]
  refine ⟨?_, ?_, ?_⟩
  · have hsession := session_of_response h hreply
    rw [PlainUrl.receive_eq hurl hr session] at hsession
    refine Prod.ext ?_ hsession
    rw [ending_of_request hask hbuild, hreply]
  · rw [after, h]
    simp only [World.exchange_of_no_replies hw, hanswer]
  · rw [after, h]
    simp only [World.exchange_of_no_replies hw, hw]

theorem isScalar_of_request {request : Request} (h : x.request? s session key = .ok request) :
    s.database.isScalar = true ∧ key.isScalar = true := by
  obtain ⟨ask, hask, -⟩ := request?_eq_ok_iff.1 h
  obtain ⟨path, hpath, -⟩ := Attempt.bind_eq_ok_iff.1 hask
  rw [Store.documentPath] at hpath
  cases hd : s.database.isScalar with
  | false =>
    obtain ⟨error, he⟩ := Percent.encodeSegment_of_not_isScalar hd
    rw [he] at hpath
    cases hpath
  | true =>
    cases hk : key.isScalar with
    | false =>
      obtain ⟨error, he⟩ := Percent.encodeSegment_of_not_isScalar hk
      rw [Percent.encodeSegment_of_isScalar hd, he] at hpath
      cases hpath
    | true => exact ⟨rfl, rfl⟩

/-- The path of a request is not too long. -/
theorem length_pathOf_of_request {x : DocumentExchange α} {request : Request}
    (h : x.request? s session key = .ok request) :
    (Store.pathOf s.database key).length ≤ maxLength := by
  obtain ⟨hd, hk⟩ := isScalar_of_request h
  refine Nat.le_of_not_lt fun hlong => ?_
  have hnone : ∃ error, x.request? s session key = .error (.store error) :=
    x.request?_of_long hd hk hlong
  obtain ⟨error, herror⟩ := hnone
  rw [h] at herror
  cases herror

/-- The request of an operation on a plain URL goes to the path of its key without dot segments. -/
theorem url_of_request (hb : session.base = p.url) {x : DocumentExchange α} {request : Request}
    (h : x.request? s session key = .ok request) :
    request.url = { p.url with path := removeDots (Store.pathOf s.database key) } ∧
      (x.askAt (Store.pathOf s.database key)).body? = .ok request.body := by
  obtain ⟨hd, hk⟩ := isScalar_of_request h
  have hl := length_pathOf_of_request h
  rw [x.request?_of_scalar hd hk] at h
  obtain ⟨url, given, shown, body, hresolve, -, -, hbody, -, hmade⟩ :=
    (Session.request_eq_ok_iff rfl).1 (Store.buildRequest_eq_ok_iff.1 h)
  rw [hmade]
  exact ⟨Except.ok.inj (hresolve.symm.trans (PlainUrl.resolve_pathOf_eq hb hl)), hbody⟩

/-- The request of an operation on a plain URL is stray, or it arrives at the document of its key. -/
theorem stray_or_addressed (hb : session.base = p.url) {x : DocumentExchange α} {request : Request}
    (h : x.request? s session key = .ok request) :
    (∃ segments, request.url = p.place segments ∧ request.IsStray) ∨
      (s.database.isScalar = true ∧ ¬s.database.IsDotSegment ∧ Store.IsAddress s.database key ∧
        request.segments = Store.segmentsOf s.database key ∧
        (x.askAt (Store.pathOf s.database key)).body? = .ok request.body) := by
  obtain ⟨hd, hk⟩ := isScalar_of_request h
  obtain ⟨hpath, hbody⟩ := url_of_request hb h
  rcases Store.isPlain_or_stray s.database key with ⟨hdot, hplain⟩ | ⟨segments, hleft, hstray⟩
  · have hurl : request.url = p.place (Store.placeOf s.database key) := by
      rw [hpath, Store.removeDots_pathOf hd hdot hk]
      rfl
    refine Or.inr ⟨hd, hdot, ⟨hk, hplain, length_pathOf_of_request h⟩, ?_, hbody⟩
    rw [PlainUrl.segments_place hd hk hurl, Store.placeOf_eq_iff.2 hplain]
  · have hurl : request.url = p.place segments := by
      rw [hpath, Store.removeDots_pathOf_eq hd hk hleft]
      rfl
    have hscalar : ∀ t : Text, t ∈ segments → t.isScalar = true :=
      fun t ht => Store.isScalar_of_mem_left hd hk hleft ht
    exact Or.inl ⟨segments, hurl, PlainUrl.isStray_place hstray hscalar hurl⟩

/-- On a plain URL an operation is blind, or it reaches the document of its key. -/
theorem blind_or_addressed (hb : session.base = p.url) (x : DocumentExchange α) (key : Text) :
    x.IsBlind s session key ∨
      (s.database.isScalar = true ∧ ¬s.database.IsDotSegment ∧ Store.IsAddress s.database key ∧
        ∃ body, (x.askAt (Store.pathOf s.database key)).body? = .ok body) := by
  cases hrequest : x.request? s session key with
  | error f => exact Or.inl (isBlind_of_error hrequest)
  | ok request =>
    rcases stray_or_addressed hb hrequest with ⟨segments, hurl, hstray⟩ | ⟨hd, hdot, hk, -, hbody⟩
    · exact Or.inl (isBlind_of_stray hrequest hurl hstray)
    · exact Or.inr ⟨hd, hdot, hk, request.body, hbody⟩

end DocumentExchange

end RavenBinding
