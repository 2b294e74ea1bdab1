import RavenBinding.Proofs.Binding.Provisioning
import RavenBinding.Proofs.Json.ReadBounds
import RavenBinding.Proofs.Json.Written
import RavenBinding.Proofs.Store.ServerExchange
import RavenBinding.Proofs.Text.Scalar

/-!
# Listing and creating databases

On a plain URL the listing of databases and the creation of one reach the server. The listing brings
back a page of names, in whatever size it is asked for. The creation adds a database whose name is
missing. It is not sent if a text of the definition holds a lone surrogate.

## Main definitions

- `Server.page`, `Server.listing`: the names on the first page, and the response that lists them
- `Store.IsListing`, `Adapter.IsCreation`: the requests for a listing and for a creation
- `Settings.IsWritable`: the definition of the database can be written

## Main statements

- `Store.exists_listing`: the request for a listing, its answer and its acceptance
- `Server.exists_databaseNames`, `Server.databaseNames_listing`: the names come back
- `Adapter.exists_creation`, `Adapter.exists_creation_error`: the request to create the database
-/

namespace RavenBinding

open Url

namespace Server

/-- The names on the first page of a listing. -/
def page (server : Server) (pageSize : Int) : List Text := sliceList 0 pageSize server.names

/-- The response that lists a page. -/
def listing (server : Server) (pageSize : Int) : Response :=
  ⟨200, [], jsonBody (.array ((server.page pageSize).map Json.text))⟩

theorem mapM_display_texts (names : List Text) :
    (names.map Json.text).mapM (fun item => ((Value.ofJson item).display).mapError Failure.fault) =
      .ok names := by
  induction names with
  | nil => rfl
  | cons name names ih =>
    rw [List.map_cons, List.mapM_cons, ih]
    rfl

theorem databaseNames_of_texts {server : Server} {pageSize : Int} {names : List Text}
    (h : Json.parseBody (server.listing pageSize).body = .ok (.array (names.map Json.text))) :
    databaseNames (server.listing pageSize) = .ok names := by
  rw [databaseNames, readBody, h]
  exact mapM_display_texts names

/-- The names of a listing come back as texts, whatever they hold, and those without surrogates as
they are. -/
theorem exists_databaseNames (server : Server) (pageSize : Int) :
    ∃ names, databaseNames (server.listing pageSize) = .ok names ∧
      ∀ name ∈ server.page pageSize, name.isScalar = true → name ∈ names := by
  obtain ⟨names, hparse, hkept⟩ := Json.exists_parseBody_texts (server.page pageSize)
  exact ⟨names, databaseNames_of_texts hparse, fun name hname hscalar =>
    hkept name hname (Text.unpaired_of_isScalar hscalar)⟩

end Server

/-- A response that reports no error is accepted, and the session stays. -/
theorem PlainUrl.acceptReply_eq {p : PlainUrl} {request : Request} {segments : List Text}
    {query : Option Text} (hq : IsPlainQuery query)
    (hurl : request.url = p.queried segments query) {r : Response}
    (h : r.IsOrdinary) (hok : r.isError = false) (session : Session) (operation : StoreOperation)
    (ask : Ask) :
    Store.acceptReply session operation ask false request (.response r) = (.ok r, session) := by
  rw [Store.acceptReply, receive_of_query hq hurl h]
  simp [Attempt.mapError_ok, Except.bind, Store.acceptStatus, hok]

/-! ### Integers in a query -/

theorem Url.isQuerySafe_of_isUnreserved {c : CodePoint} (h : Percent.isUnreserved c = true) :
    isQuerySafe c = true := by
  simp only [Percent.isUnreserved, CodePoint.isLetter, CodePoint.isDigit, Bool.or_eq_true,
    Bool.and_eq_true, decide_eq_true_eq] at h
  simp only [isQuerySafe, graphicExcept, Bool.and_eq_true, decide_eq_true_eq]
  simp
  omega

namespace Text

theorem isUnreserved_of_mem_ofInt {i : Int} {c : CodePoint} (h : c ∈ ofInt i) :
    Percent.isUnreserved c = true := by
  have hdigit : ∀ n, c ∈ ofNat n → Percent.isUnreserved c = true := by
    intro n hc
    rw [Percent.isUnreserved, isDigit_of_mem_ofNat hc]
    simp
  cases i with
  | ofNat n => exact hdigit n h
  | negSucc n =>
    rcases List.mem_cons.1 h with rfl | h
    · decide
    · exact hdigit _ h

theorem natAbs_lt_of_few {i : Int} (few : tooManyDigits i = false) :
    i.natAbs < Nat.pow 10 Numeral.maxDigits :=
  Nat.lt_of_not_le (of_decide_eq_false few)

theorem length_ofInt_le {i : Int} (few : tooManyDigits i = false) :
    (ofInt i).length ≤ Numeral.maxDigits + 1 := by
  have hlt := natAbs_lt_of_few few
  cases i with
  | ofNat n => exact Nat.le_succ_of_le ((length_ofNat_le_iff (by decide)).2 hlt)
  | negSucc n => exact Nat.succ_le_succ ((length_ofNat_le_iff (by decide)).2 hlt)

end Text

/-! ### The listing -/

namespace Store

variable {p : PlainUrl} {session : Session} {pageSize : Int}

/-- The query of a listing. -/
def listingQuery (pageSize : Int) : Text :=
  Text.ofString "pageSize=" ++ Text.ofInt pageSize ++ Text.ofString "&start=0"

/-- The URL of a listing. -/
def listingUrl (p : PlainUrl) (pageSize : Int) : Url :=
  p.queried [Text.ofString "databases"] (some (listingQuery pageSize))

theorem queryText_listing (few : tooManyDigits pageSize = false) :
    Session.queryText [(Text.ofString "pageSize", pageSize), (Text.ofString "start", 0)] =
      .ok (listingQuery pageSize) := by
  have hstart : tooManyDigits 0 = false := @Json.tooManyDigits_of_few [] (by simp) (by decide) false
  rw [Session.queryText, if_neg (by simp [few, hstart]), listingQuery]
  simp only [List.map_cons, List.map_nil, Text.join_cons_cons]
  simp only [Text.join, List.intersperse, List.flatten_cons, List.flatten_nil, List.append_assoc]
  rfl

theorem isPlainQuery_listing (pageSize : Int) : IsPlainQuery (some (listingQuery pageSize)) := by
  have hfirst : ∀ c ∈ Text.ofString "pageSize=", isQuerySafe c = true :=
    List.all_eq_true.1 (by decide)
  have hlast : ∀ c ∈ Text.ofString "&start=0", isQuerySafe c = true :=
    List.all_eq_true.1 (by decide)
  intro t ht c hc
  obtain rfl := Option.some.inj ht
  rcases List.mem_append.1 hc with hc | hc
  · rcases List.mem_append.1 hc with hc | hc
    · exact hfirst c hc
    · exact isQuerySafe_of_isUnreserved (Text.isUnreserved_of_mem_ofInt hc)
  · exact hlast c hc

theorem length_listingQuery_le (few : tooManyDigits pageSize = false) :
    (listingQuery pageSize).length ≤ maxLength := by
  have hlen := Text.length_ofInt_le few
  have hfirst : (Text.ofString "pageSize=").length = 9 := rfl
  have hlast : (Text.ofString "&start=0").length = 8 := rfl
  rw [listingQuery, List.length_append, List.length_append, hfirst, hlast]
  simp only [Numeral.maxDigits, maxLength] at hlen ⊢
  omega

/-! ### Reading the query -/

theorem entries_listingQuery (pageSize : Int) :
    Text.splitOn (CodePoint.ofChar '&') (listingQuery pageSize) =
      [Text.ofString "pageSize=" ++ Text.ofInt pageSize, Text.ofString "start=0"] := by
  have hand : CodePoint.ofChar '&' ∉ Text.ofString "pageSize=" ++ Text.ofInt pageSize := by
    intro h
    rcases List.mem_append.1 h with h | h
    · revert h
      decide
    · exact absurd (Text.isUnreserved_of_mem_ofInt h) (by decide)
  have hquery : listingQuery pageSize = (Text.ofString "pageSize=" ++ Text.ofInt pageSize) ++
      CodePoint.ofChar '&' :: Text.ofString "start=0" := rfl
  rw [hquery, Text.splitOn_append_cons hand, Text.splitOn_of_not_mem (by decide)]

theorem cut_pageSize (pageSize : Int) :
    Text.cut (CodePoint.ofChar '=') (Text.ofString "pageSize=" ++ Text.ofInt pageSize) =
      (Text.ofString "pageSize", some (Text.ofInt pageSize)) :=
  Text.cut_append_cons (s := Text.ofString "pageSize") (by decide) _

theorem queryNumber_pageSize (few : tooManyDigits pageSize = false) :
    Server.queryNumber (listingQuery pageSize) "pageSize" = pageSize := by
  have hkey : (Percent.decode (Text.ofString "pageSize") == Text.ofString "pageSize") = true := by
    decide
  have hvalue : Numeral.readInt? (Percent.decode (Text.ofInt pageSize)) = some pageSize := by
    rw [Percent.decode_of_isUnreserved fun c hc => Text.isUnreserved_of_mem_ofInt hc,
      Numeral.readInt?_ofInt (Text.natAbs_lt_of_few few)]
  simp only [Server.queryNumber, entries_listingQuery, List.findSome?_cons, cut_pageSize, hkey,
    if_true, hvalue]
  rfl

theorem queryNumber_start (pageSize : Int) :
    Server.queryNumber (listingQuery pageSize) "start" = 0 := by
  have hkey : (Percent.decode (Text.ofString "pageSize") == Text.ofString "start") = false := by
    decide
  simp only [Server.queryNumber, entries_listingQuery, List.findSome?_cons, cut_pageSize, hkey]
  rfl

/-! ### Its request -/

theorem resolve_listing (hb : session.base = p.url) :
    session.resolve (Text.ofString "/databases") = .ok (p.place [Text.ofString "databases"]) := by
  have hplain : IsPlainPath (Text.ofString "/databases") :=
    isPlainPath_pathText [Text.ofString "databases"]
  exact p.resolve_eq hb hplain (by decide) (by decide)

/-- The request for a listing. -/
structure IsListing (p : PlainUrl) (pageSize : Int) (request : Request) : Prop where
  method : request.method = .get
  url : request.url = listingUrl p pageSize

theorem exists_listing_request (hb : session.base = p.url)
    (few : tooManyDigits pageSize = false) :
    ∃ request, session.request (listingAsk pageSize) = .ok request ∧
      IsListing p pageSize request := by
  have hcookies : ∃ shown, session.withCookies (listingUrl p pageSize) [] = .ok shown :=
    p.exists_cookies_of_query session _ (isPlainQuery_listing pageSize) []
  obtain ⟨shown, hshown⟩ := hcookies
  obtain ⟨host, hhost⟩ := p.exists_readableHost (pathText [Text.ofString "databases"])
  have hresolve : session.resolve (listingAsk pageSize).path = _ := resolve_listing hb
  have hgiven : Session.encodeHeaders (listingAsk pageSize).headers = .ok [] := rfl
  have hbody : (listingAsk pageSize).body? = .ok [] := rfl
  have hqueried : Session.queried (p.place [Text.ofString "databases"])
      (listingAsk pageSize).query = .ok (listingUrl p pageSize) := by
    have hurl := p.withQuery_eq (isPlainPath_pathText [Text.ofString "databases"]) (by decide)
      (isPlainQuery_listing pageSize) (length_listingQuery_le few)
    rw [listingAsk, Session.queried, queryText_listing few]
    exact congrArg (Except.mapError RequestError.url) hurl
  refine ⟨⟨.get, listingUrl p pageSize,
    Session.completeHeaders (listingUrl p pageSize) shown false, [], session.timeout⟩, ?_,
    ⟨rfl, rfl⟩⟩
  rw [Session.request_steps, hresolve, hgiven]
  simp only [Attempt.mapError_ok, bind, Except.bind, hqueried, Session.complete, hshown, hbody]
  exact (Session.checkHost_eq_ok_iff _ _ _ _).2 ⟨Or.inr ⟨host, hhost⟩, rfl⟩

theorem IsListing.answer_eq {request : Request} (h : IsListing p pageSize request)
    (few : tooManyDigits pageSize = false) (server : Server) :
    server.answer request = (server.listing pageSize, server) := by
  have hcut : Text.cut (CodePoint.ofChar '?') request.url.rawPath =
      (Text.ofString "/databases", some (listingQuery pageSize)) := by
    rw [h.url]
    show Text.cut _
      (Text.ofString "/databases" ++ CodePoint.ofChar '?' :: listingQuery pageSize) = _
    exact Text.cut_append_cons (by decide) _
  have hsegments : Server.segments (Text.ofString "/databases") =
      [Text.ofString "databases"] := by decide
  rw [Server.answer]
  simp only [hcut, h.method, Option.getD_some, Server.respond.eq_def, hsegments, beq_self_eq_true,
    if_true, queryNumber_start, queryNumber_pageSize few, Int.zero_add]
  rfl

/-- A listing is asked for with its page size and answered with the page, which is accepted. -/
theorem exists_listing (hb : session.base = p.url) (few : tooManyDigits pageSize = false) :
    ∃ request, buildRequest session .listDatabases (listingAsk pageSize) = .ok request ∧
      IsListing p pageSize request ∧
      ∀ server : Server, server.answer request = (server.listing pageSize, server) ∧
        acceptReply session .listDatabases (listingAsk pageSize) false request
          (.response (server.listing pageSize)) = (.ok (server.listing pageSize), session) := by
  obtain ⟨request, hrequest, hlisting⟩ := exists_listing_request hb few
  exact ⟨request, buildRequest_eq_ok_iff.2 hrequest, hlisting, fun server =>
    ⟨hlisting.answer_eq few server, PlainUrl.acceptReply_eq (isPlainQuery_listing pageSize)
      hlisting.url (Response.isOrdinary_nil 200 _) rfl session _ _⟩⟩

end Store

/-! ### The creation -/

namespace Settings

/-- No text in the settings of the database holds a lone surrogate. -/
def IsWritable (s : Settings) : Prop := ∀ e ∈ s.databaseSettings, e.2.isScalar = true

instance (s : Settings) : Decidable s.IsWritable :=
  inferInstanceAs (Decidable (∀ e ∈ s.databaseSettings, e.2.isScalar = true))

end Settings

namespace Adapter

variable {p : PlainUrl} {session : Session} {settings : Settings}

/-- The definition of the database as JSON. -/
def definitionJson (settings : Settings) : Json :=
  .object [(Text.ofString "Id", .text settings.database),
    (Text.ofString "Settings", .object (FieldMap.mapValues Json.text settings.databaseSettings)),
    (Text.ofString "SecuredSettings", .object []), (Text.ofString "Disabled", .bool false)]

theorem toValue_definition (settings : Settings) :
    (definition settings).toValue = Value.ofJson (definitionJson settings) := rfl

theorem plain_definitionJson (settings : Settings) :
    Json.Plain false 2 (definitionJson settings) := by
  have hnames : [Text.ofString "Id", Text.ofString "Settings", Text.ofString "SecuredSettings",
      Text.ofString "Disabled"].Nodup := by decide
  have hsettings : [Text.ofString "Raven/ActiveBundles", Text.ofString "Raven/DataDir",
      Text.ofString "Raven/AnonymousAccess", Text.ofString "Raven/StorageEngine"].Nodup := by decide
  refine .object hnames nofun (List.forall_mem_cons.2 ⟨.text 1 nofun, ?_⟩)
  refine List.forall_mem_cons.2 ⟨.object hsettings nofun fun e he => ?_, ?_⟩
  · obtain ⟨f, -, rfl⟩ := List.mem_map.1 he
    exact .text 0 nofun
  · refine List.forall_mem_cons.2 ⟨.object List.nodup_nil nofun nofun, ?_⟩
    exact List.forall_mem_cons.2 ⟨.bool 1 false, nofun⟩

theorem isScalar_definitionJson (hd : settings.database.isScalar = true) :
    (definitionJson settings).isScalar = true ↔ settings.IsWritable := by
  simp only [definitionJson, Settings.IsWritable, Settings.databaseSettings, FieldMap.mapValues,
    List.map_cons, List.map_nil, Json.isScalar, Json.membersScalar, Text.isScalar_ofString, hd,
    List.forall_mem_cons, Bool.true_and, Bool.and_true, Bool.and_eq_true]
  simp

theorem exists_body_definition (hd : settings.database.isScalar = true) (hw : settings.IsWritable) :
    ∃ body, Json.requestBody (definition settings).toValue = .ok body := by
  rw [toValue_definition]
  exact ⟨_, Json.requestBody_ofJson (plain_definitionJson settings) (by decide)
    ((isScalar_definitionJson hd).2 hw)⟩

theorem exists_body_definition_error (hd : settings.database.isScalar = true)
    (hw : ¬settings.IsWritable) :
    ∃ error, Json.requestBody (definition settings).toValue = .error (.encoding error) := by
  rw [toValue_definition]
  exact Json.exists_requestBody_ofJson_error (plain_definitionJson settings) (by decide)
    (Bool.eq_false_iff.2 fun h => hw ((isScalar_definitionJson hd).1 h))

end Adapter

namespace Store

variable {p : PlainUrl} {session : Session} {database : Text}

/-- The path under which a database is created. -/
def creationPath (database : Text) : Text :=
  Text.ofString "/admin/databases/" ++ Percent.quote database

/-- The segments of this path. -/
def creationSegments (database : Text) : List Text :=
  [Text.ofString "admin", Text.ofString "databases", database]

theorem creationPath_eq (database : Text) :
    creationPath database = pathText (creationSegments database) := by
  have hadmin : Percent.quote (Text.ofString "admin") = Text.ofString "admin" := by decide
  simp only [pathText, creationSegments, List.map_cons, List.map_nil, hadmin, quote_databases,
    creationPath, Text.join_cons_cons]
  simp only [Text.join, List.intersperse, List.flatten_cons, List.flatten_nil, List.append_nil,
    List.append_assoc, List.nil_append]
  rfl

theorem isScalar_of_mem_creationSegments (hd : database.isScalar = true) :
    ∀ s ∈ creationSegments database, s.isScalar = true := by
  simp [creationSegments, hd, Text.isScalar_ofString]

theorem resolve_creationPath (hb : session.base = p.url) (hd : database.isScalar = true)
    (hdot : ¬database.IsDotSegment) (hl : (creationPath database).length ≤ maxLength) :
    session.resolve (creationPath database) = .ok (p.place (creationSegments database)) := by
  have hplain : IsPlainPath (creationPath database) := by
    rw [creationPath_eq]
    exact isPlainPath_pathText _
  have hleft : removeDots (creationPath database) = pathText (creationSegments database) := by
    rw [creationPath_eq]
    refine removeDots_pathText (isScalar_of_mem_creationSegments hd) ?_
    rw [creationSegments, removeDotsLoop_cons (by decide), removeDotsLoop_cons (by decide),
      removeDotsLoop_cons (by decide), removeDotsLoop_cons hdot]
    rfl
  have hstart : ∃ rest, creationPath database =
      CodePoint.ofChar '/' :: CodePoint.ofChar 'a' :: rest := ⟨_, rfl⟩
  obtain ⟨rest, hrest⟩ := hstart
  rw [PlainUrl.place, ← hleft]
  rw [hrest] at hplain hl ⊢
  exact p.resolve_eq hb hplain hl (by simp; decide)

/-- A request under the path of a database creates it if it is missing. -/
theorem answer_creation {request : Request} (hmethod : request.method = .put)
    (hurl : request.url = p.place (creationSegments database)) (hd : database.isScalar = true)
    (server : Server) :
    server.answer request = (⟨200, [], []⟩, server.addDatabase database) := by
  have hne : creationSegments database ≠ [] := List.cons_ne_nil _ _
  have hcut := p.cut_rawPath_place hne
  have hsegments : Server.segments (pathText (creationSegments database)) =
      [Text.ofString "admin", Text.ofString "databases", database] :=
    segments_pathText (isScalar_of_mem_creationSegments hd)
  rw [Server.answer]
  simp only [hurl, hcut, hmethod, Server.respond.eq_def, hsegments, beq_self_eq_true, Bool.and_self,
    if_true]

end Store

namespace Adapter

/-- What is asked for to create the database of some settings. -/
def creationAsk (settings : Settings) : Ask :=
  Store.creationAsk (definition settings) (Percent.quote settings.database)

/-- The request to create it. -/
structure IsCreation (p : PlainUrl) (settings : Settings) (request : Request) : Prop where
  method : request.method = .put
  url : request.url = p.place (Store.creationSegments settings.database)
  body : Json.requestBody (definition settings).toValue = .ok request.body

section Creation

variable {p : PlainUrl} {session : Session} {settings : Settings} (hb : session.base = p.url)
  (hd : settings.database.isScalar = true) (hdot : ¬settings.database.IsDotSegment)
  (hl : (Store.creationPath settings.database).length ≤ maxLength)

include hb hd hdot hl

/-- The creation is asked for under the path of the database, and adds it if it is missing. -/
theorem exists_creation (hw : settings.IsWritable) :
    ∃ request, Store.buildRequest session .createDatabase (creationAsk settings) = .ok request ∧
      IsCreation p settings request ∧
      ∀ server : Server,
        server.answer request = (⟨200, [], []⟩, server.addDatabase settings.database) ∧
          Store.acceptReply session .createDatabase (creationAsk settings) false request
            (.response ⟨200, [], []⟩) = (.ok ⟨200, [], []⟩, session) := by
  obtain ⟨body, hbody⟩ := exists_body_definition hd hw
  obtain ⟨request, hrequest, hmethod, hurl, hsent⟩ := p.exists_request (creationAsk settings) rfl
    (Store.resolve_creationPath hb hd hdot hl) ⟨⟨[], rfl⟩, body, hbody⟩
  exact ⟨request, Store.buildRequest_eq_ok_iff.2 hrequest, ⟨hmethod, hurl, hsent⟩, fun server =>
    ⟨Store.answer_creation hmethod hurl hd server, PlainUrl.acceptReply_eq isPlainQuery_none hurl
      (Response.isOrdinary_nil 200 []) rfl session _ _⟩⟩

/-- A definition that cannot be written is not sent. -/
theorem exists_creation_error (hw : ¬settings.IsWritable) :
    ∃ error, Store.buildRequest session .createDatabase (creationAsk settings) =
      .error (.store error) := by
  obtain ⟨error, hbody⟩ := exists_body_definition_error hd hw
  have hrequest : session.request (creationAsk settings) = .error (.url (.encoding error)) :=
    p.request_of_unwritable rfl rfl (Store.resolve_creationPath hb hd hdot hl) hbody
  rw [Store.buildRequest, hrequest]
  exact ⟨_, rfl⟩

end Creation

end Adapter

end RavenBinding
