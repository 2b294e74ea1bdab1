import RavenBinding.Proofs.Http.SessionRequest
import RavenBinding.Proofs.Store.Acceptance
import RavenBinding.Proofs.Store.DocumentPath

/-!
# Requests to a plain URL

On a plain URL an operation on a document has a request as soon as its key, its headers and its
content can be written. The request goes to the place of the key, and a plain response to it can be
received.

## Main definitions

- `Request.segments`: the segments with which a request arrives
- `PlainUrl.place`, `PlainUrl.queried`: the URL of some segments, and with a query
- `Response.IsOrdinary`: a response without headers that matter

## Main statements

- `DocumentExchange.exists_request`: the request of an operation on a plain URL
- `PlainUrl.segments_place`: the segments with which it arrives
- `PlainUrl.receive_of_query`, `PlainUrl.receive_eq`: an ordinary response to it is received as it is
-/

namespace RavenBinding

open Url StoreAction

/-- The segments with which a request arrives at a server. -/
def Request.segments (request : Request) : List Text :=
  Server.segments (Text.cut (CodePoint.ofChar '?') request.url.rawPath).1

namespace PlainUrl

/-- The URL with the path of some segments. -/
def place (p : PlainUrl) (segments : List Text) : Url :=
  { p.url with path := Store.pathText segments }

/-- The URL with the path of some segments and a query. -/
def queried (p : PlainUrl) (segments : List Text) (query : Option Text) : Url :=
  { p.url with path := Store.pathText segments, query := query }

variable {p : PlainUrl} {session : Session}

/-- The path of a key is taken without its dot segments. -/
theorem resolve_pathOf_eq (hb : session.base = p.url) {database key : Text}
    (hl : (Store.pathOf database key).length ≤ maxLength) :
    session.resolve (Store.pathOf database key) =
      .ok { p.url with path := removeDots (Store.pathOf database key) } := by
  have hplain := Store.isPlainPath_pathText (Store.segmentsOf database key)
  obtain ⟨rest, hrest⟩ := Store.exists_pathOf database key
  rw [← Store.pathOf_eq] at hplain
  rw [hrest] at hplain hl ⊢
  exact p.resolve_eq hb hplain hl (by simp; decide)

/-- The path of a key is taken to the path of some segments, whatever the names are. -/
theorem exists_resolve_pathOf (hb : session.base = p.url) {database key : Text}
    (hd : database.isScalar = true) (hk : key.isScalar = true)
    (hl : (Store.pathOf database key).length ≤ maxLength) :
    ∃ segments, session.resolve (Store.pathOf database key) = .ok (p.place segments) := by
  obtain ⟨segments, hleft⟩ := Store.exists_removeDots_pathOf hd hk
  exact ⟨segments, by rw [resolve_pathOf_eq hb hl, place, hleft]⟩

theorem resolve_pathOf (hb : session.base = p.url) {database key : Text}
    (hd : database.isScalar = true) (hdot : ¬database.IsDotSegment) (hk : key.isScalar = true)
    (hl : (Store.pathOf database key).length ≤ maxLength) :
    session.resolve (Store.pathOf database key) = .ok (p.place (Store.placeOf database key)) := by
  rw [resolve_pathOf_eq hb hl, place, Store.removeDots_pathOf hd hdot hk]

/-- The cookies of a request to a plain URL with a plain query can be chosen. -/
theorem exists_cookies_of_query (p : PlainUrl) (session : Session) (segments : List Text)
    {query : Option Text} (hq : IsPlainQuery query) (given : Headers) :
    ∃ shown, session.withCookies (p.queried segments query) given = .ok shown := by
  obtain ⟨origin, horigin⟩ := p.exists_origin (Store.isPlainPath_pathText segments) hq given
  rw [Session.withCookies]
  -- the origin is asked for only if there are cookies to choose from
  by_cases hempty : session.cookies.isEmpty = true
  · exact ⟨given, if_pos hempty⟩
  · rw [if_neg hempty, queried, horigin]
    simp only [bind, Except.bind]
    cases session.cookies.header? origin with
    | none => exact ⟨given, rfl⟩
    | some text => exact ⟨_, rfl⟩

theorem exists_cookies (p : PlainUrl) (session : Session) (segments : List Text)
    (given : Headers) :
    ∃ shown, session.withCookies (p.place segments) given = .ok shown :=
  p.exists_cookies_of_query session segments isPlainQuery_none given

/-- A request to a plain URL is built as soon as its headers and its content can be written. -/
theorem exists_request (p : PlainUrl) (ask : Ask) {segments : List Text}
    (hquery : ask.query = none) (hresolve : session.resolve ask.path = .ok (p.place segments))
    (hw : ask.IsWritable) :
    ∃ request, session.request ask = .ok request ∧ request.method = ask.method ∧
      request.url = p.place segments ∧ ask.body? = .ok request.body := by
  obtain ⟨⟨given, hgiven⟩, body, hbody⟩ := hw
  obtain ⟨shown, hshown⟩ := p.exists_cookies session segments given
  obtain ⟨host, hhost⟩ := p.exists_readableHost (Store.pathText segments)
  refine ⟨_, (Session.request_eq_ok_iff hquery).2
    ⟨_, given, shown, body, hresolve, hgiven, hshown, hbody, Or.inr ⟨host, hhost⟩, rfl⟩, rfl, rfl,
    hbody⟩

/-- Content that cannot be written keeps a request from being built. -/
theorem request_of_unwritable (p : PlainUrl) {ask : Ask} {segments : List Text}
    (hquery : ask.query = none) (hheaders : ask.headers = [])
    (hresolve : session.resolve ask.path = .ok (p.place segments)) {error : EncodeError}
    (hbody : ask.body? = .error (.encoding error)) :
    session.request ask = .error (.url (.encoding error)) := by
  obtain ⟨shown, hshown⟩ := p.exists_cookies session segments []
  have hgiven : Session.encodeHeaders ask.headers = .ok [] := by
    rw [hheaders]
    rfl
  rw [Session.request_eq hquery, hresolve, hgiven, hbody]
  -- the cookies are chosen before the content is written
  change (Except.mapError _ (session.withCookies _ _) >>= _) = _
  rw [hshown]
  rfl

/-- The path of some segments is the whole of a request's path, which has no query. -/
theorem cut_rawPath_place (p : PlainUrl) {segments : List Text} (h : segments ≠ []) :
    Text.cut (CodePoint.ofChar '?') (p.place segments).rawPath = (Store.pathText segments, none) := by
  have hplain := Store.isPlainPath_pathText segments
  have hquery : CodePoint.ofChar '?' ∉ Store.pathText segments :=
    fun hm => (hplain.characters _ hm).bounds.2.2.1 rfl
  have hne : ¬(Store.pathText segments).isEmpty = true := by
    rw [List.isEmpty_iff]
    exact Store.pathText_ne_nil h
  have hraw : (p.place segments).rawPath = Store.pathText segments :=
    (congrArg (· ++ []) (if_neg hne)).trans (List.append_nil _)
  rw [hraw, Text.cut_of_not_mem hquery]

/-- A request for a key arrives with the segments of its place. -/
theorem segments_place {request : Request} {database key : Text}
    (hd : database.isScalar = true) (hk : key.isScalar = true)
    (h : request.url = p.place (Store.placeOf database key)) :
    request.segments = Store.placeOf database key := by
  rw [Request.segments, h, p.cut_rawPath_place (Store.placeOf_ne_nil database key),
    Store.segments_placeOf hd hk]

end PlainUrl

/-- A response whose headers can be read and neither change its body, nor set cookies, nor name
another place. -/
structure Response.IsOrdinary (r : Response) : Prop where
  written : ∃ given, Session.encodeHeaders r.headers = .ok given
  names : ∀ h ∈ r.headers, h.1.toLowerAscii ≠ Text.ofString "content-encoding" ∧
    h.1.toLowerAscii ≠ Text.ofString "set-cookie" ∧
    h.1.toLowerAscii ≠ (Text.ofString "Location").toLowerAscii

namespace Response

variable {r : Response}

theorem IsOrdinary.filter_eq_nil (r : Response) {name : Text}
    (h : ∀ e ∈ r.headers, e.1.toLowerAscii ≠ name) :
    (r.headers.filter fun e => e.1.toLowerAscii == name) = [] :=
  List.filter_eq_nil_iff.2 fun e he hb => h e he (eq_of_beq hb)

theorem IsOrdinary.decoded_eq (h : r.IsOrdinary) : r.decoded = .ok r := by
  have hcodings : r.codings = [] := by
    rw [codings, filter_eq_nil r fun e he => (h.names e he).1]
    rfl
  rw [decoded, hcodings]
  rfl

theorem IsOrdinary.receive_cookies (h : r.IsOrdinary) (jar : CookieJar) (origin : Origin) :
    jar.receive origin r.headers = jar := by
  rw [CookieJar.receive, filter_eq_nil r fun e he => (h.names e he).2.1]
  rfl

theorem IsOrdinary.checkRedirect_eq (h : r.IsOrdinary) (jar : CookieJar) (request : Request) :
    Session.checkRedirect jar request r = .ok () := by
  have hlocation : r.header? "Location" = none := by
    rw [header?, Headers.get?, filter_eq_nil r fun e he => (h.names e he).2.2]
  rw [Session.checkRedirect, hlocation]

theorem isOrdinary_nil (status : Nat) (body : Bytes) :
    (⟨status, [], body⟩ : Response).IsOrdinary where
  written := ⟨[], rfl⟩
  names := by simp

end Response

/-- An ordinary response to a request to a plain URL with a plain query is received as it is, and the
session stays. -/
theorem PlainUrl.receive_of_query {p : PlainUrl} {request : Request} {segments : List Text}
    {query : Option Text} (hq : IsPlainQuery query)
    (hurl : request.url = p.queried segments query) {r : Response}
    (h : r.IsOrdinary) (session : Session) : session.receive request r = (.ok r, session) := by
  obtain ⟨given, hgiven⟩ := h.written
  have horigin : ∃ origin, Origin.ofRequest request.url request.headers = .ok origin := by
    rw [hurl]
    exact p.exists_origin (Store.isPlainPath_pathText segments) hq request.headers
  obtain ⟨origin, horigin⟩ := horigin
  rw [Session.receive_eq hgiven h.decoded_eq horigin, h.receive_cookies, h.checkRedirect_eq]
  rfl

theorem PlainUrl.receive_eq {p : PlainUrl} {request : Request} {segments : List Text}
    (hurl : request.url = p.place segments) {r : Response} (h : r.IsOrdinary) (session : Session) :
    session.receive request r = (.ok r, session) :=
  receive_of_query isPlainQuery_none hurl h session

namespace DocumentExchange

variable {α : Type}

theorem request?_of_scalar {s : Store} {session : Session} {key : Text} (x : DocumentExchange α)
    (hd : s.database.isScalar = true) (hk : key.isScalar = true) :
    x.request? s session key =
      Store.buildRequest session x.operation (x.askAt (Store.pathOf s.database key)) := by
  rw [request?, ask?, s.documentPath_of_isScalar x.operation hd hk]
  rfl

/-- The request of an operation on a plain URL. -/
theorem exists_request {p : PlainUrl} {session : Session} (hb : session.base = p.url) {s : Store}
    {key : Text} (hd : s.database.isScalar = true) (hdot : ¬s.database.IsDotSegment)
    (hk : key.isScalar = true) (hl : (Store.pathOf s.database key).length ≤ maxLength)
    (x : DocumentExchange α) (hw : (x.askAt (Store.pathOf s.database key)).IsWritable) :
    ∃ request, x.request? s session key = .ok request ∧ request.method = x.method ∧
      request.url = p.place (Store.placeOf s.database key) ∧
      (x.askAt (Store.pathOf s.database key)).body? = .ok request.body := by
  obtain ⟨request, hrequest, hmethod, hurl, hbody⟩ :=
    p.exists_request (x.askAt (Store.pathOf s.database key)) rfl
      (PlainUrl.resolve_pathOf hb hd hdot hk hl) hw
  refine ⟨request, ?_, hmethod, hurl, hbody⟩
  rw [x.request?_of_scalar hd hk]
  exact Store.buildRequest_eq_ok_iff.2 hrequest

/-- The request of an operation on a plain URL goes to some segments, whatever the names are. -/
theorem exists_request_of_scalar {p : PlainUrl} {session : Session} (hb : session.base = p.url)
    {s : Store} {key : Text} (hd : s.database.isScalar = true) (hk : key.isScalar = true)
    (hl : (Store.pathOf s.database key).length ≤ maxLength) (x : DocumentExchange α)
    (hw : (x.askAt (Store.pathOf s.database key)).IsWritable) :
    ∃ request segments, x.request? s session key = .ok request ∧ request.method = x.method ∧
      request.url = p.place segments := by
  obtain ⟨segments, hresolve⟩ := PlainUrl.exists_resolve_pathOf hb hd hk hl
  obtain ⟨request, hrequest, hmethod, hurl, -⟩ :=
    p.exists_request (x.askAt (Store.pathOf s.database key)) rfl hresolve hw
  refine ⟨request, segments, ?_, hmethod, hurl⟩
  rw [x.request?_of_scalar hd hk]
  exact Store.buildRequest_eq_ok_iff.2 hrequest

/-- Without headers and content that can be written there is no request. -/
theorem isWritable_of_request {s : Store} {session : Session} {key : Text} {request : Request}
    (x : DocumentExchange α) (h : x.request? s session key = .ok request) (path : Text) :
    (x.askAt path).IsWritable := by
  obtain ⟨ask, hask, hbuild⟩ := request?_eq_ok_iff.1 h
  obtain ⟨found, rfl⟩ := exists_path hask
  obtain ⟨url, given, shown, body, -, hgiven, -, hbody, -⟩ :=
    (Session.request_eq_ok_iff rfl).1 (Store.buildRequest_eq_ok_iff.1 hbuild)
  exact ⟨⟨given, hgiven⟩, body, hbody⟩

/-- A request that can be built is sent, and nothing else is. -/
theorem sent_perform (x : DocumentExchange α) {s : Store} {session : Session}
    (hs : s.session = some session) (key : Text) (w : World) :
    ((x.perform key).exec s w).2.sent =
      match x.request? s session key with
      | .error _ => w.sent
      | .ok request => request :: w.sent := by
  obtain ⟨events, hexec⟩ := x.exec_perform hs key w
  rw [hexec, after]
  cases x.request? s session key with
  | error f => rfl
  | ok request => exact World.sent_exchange w request

end DocumentExchange

/-- A session on the local server. -/
def Session.localhost : Session where
  base := PlainUrl.localhost.url
  timeout := .unlimited

theorem Session.base_localhost : Session.localhost.base = PlainUrl.localhost.url := rfl

/-- A store of the local server with an open session. -/
def Store.localhost : Store where
  url := PlainUrl.localhost.text
  database := "YCSB"
  timeout := .unlimited
  session := some Session.localhost

end RavenBinding
