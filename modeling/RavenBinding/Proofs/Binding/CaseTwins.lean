import RavenBinding.Proofs.Binding.SetUp
import RavenBinding.Proofs.Binding.SharedCalls
import RavenBinding.Proofs.Binding.SharedProvisioning
import RavenBinding.Proofs.Store.BaseUrl
import RavenBinding.Proofs.Text.CaseFolding

/-!
# Databases that differ in case only

Whether the database is there is looked up without regard to case, but on one page of the listing
only. On any URL, an adapter that is set up adds no database to the server but the one of its
settings, and only after it has seen a first page without one of that name in any case. So names
that differ not only in case stay so, unless the first page hides such a name.

## Main definitions

- `Adapter.Ensures`: what making sure of the database may do to a server
- `Server.HasDistinctNames`: names of which no two differ in case only
- `Settings.HidesTwin`: the name is there in another case only, and not on the first page

## Main statements

- `Server.answer_put_cases`: what writing does to a server
- `Adapter.server_ensured`, `Adapter.server_setUp`: no more is done to it on any URL
- `Adapter.setUp_keeps_names_distinct`: names that differ not only in case stay so
-/

namespace RavenBinding

open Url AdapterAction

/-! ### What requests do to a server -/

namespace Server

variable {server : Server} {request : Request}

theorem answer_get (h : request.method = .get) : (server.answer request).2 = server := by
  obtain ⟨query, hanswer⟩ := answer_eq server request
  rw [hanswer, h, respond.eq_def]
  dsimp only
  split
  · split
    · rfl
    · rfl
  · next hmethod _ => cases hmethod
  · split
    · split
      · rfl
      · next documents _ =>
        rw [answerDocument]
        split
        · rfl
        · rfl
    · rfl
  · rfl

theorem names_answerDocument_put {database key : Text} {documents : Documents}
    (hosted : server.databases.get? database = some documents) (body : Bytes) :
    (server.answerDocument .put database key documents body).2.names = server.names := by
  have hmem : database ∈ server.databases.keys := by
    by_contra hnot
    rw [FieldMap.get?_eq_none_iff.2 hnot] at hosted
    cases hosted
  exact (FieldMap.keys_insert server.databases database _).1 hmem

theorem answer_put_cases (h : request.method = .put) :
    (server.answer request).2 = server ∨
      (∃ name, request.segments = Store.creationSegments name ∧
        (server.answer request).2 = server.addDatabase name) ∨
      ∃ database key, request.segments = Store.segmentsOf database key ∧
        (server.answer request).2.names = server.names := by
  obtain ⟨query, hanswer⟩ := answer_eq server request
  rw [hanswer, h, Request.segments, respond.eq_def]
  dsimp only
  split
  · next hmethod _ => cases hmethod
  · next first second name _ hsegments =>
    split
    · next hfixed =>
      rw [Bool.and_eq_true, beq_iff_eq, beq_iff_eq] at hfixed
      obtain ⟨rfl, rfl⟩ := hfixed
      exact Or.inr (Or.inl ⟨name, hsegments, rfl⟩)
    · exact Or.inl rfl
  · next first database third key hsegments =>
    split
    · next hfixed =>
      rw [Bool.and_eq_true, beq_iff_eq, beq_iff_eq] at hfixed
      obtain ⟨rfl, rfl⟩ := hfixed
      split
      · exact Or.inl rfl
      · next documents hosted =>
        exact Or.inr (Or.inr ⟨database, key, hsegments, names_answerDocument_put hosted _⟩)
    · exact Or.inl rfl
  · exact Or.inl rfl

/-- There is nothing to get at a place of three segments. -/
theorem isError_of_three (h : request.method = .get) (hthree : request.segments.length = 3) :
    (server.answer request).1.isError = true := by
  obtain ⟨query, hanswer⟩ := answer_eq server request
  rw [Request.segments] at hthree
  rw [hanswer, h, respond.eq_def]
  dsimp only
  split
  · next hsegments =>
    rw [hsegments] at hthree
    cases hthree
  · next hmethod _ => cases hmethod
  · next hsegments =>
    rw [hsegments] at hthree
    cases hthree
  · rfl

end Server

/-! ### Names that are listed -/

theorem Adapter.isScalar_of_sameName {a b : Text} (h : sameName a b = true)
    (hb : b.isScalar = true) : a.isScalar = true := by
  rw [← Text.isScalar_caseFold, eq_of_beq h, Text.isScalar_caseFold, hb]

namespace Store

variable {session session' : Session} {operation : StoreOperation} {ask : Ask} {w : World}

/-- Without prepared replies a question is not sent, or the server answers it. -/
theorem answer_of_server (hw : w.replies = []) (session : Session) (operation : StoreOperation)
    (ask : Ask) :
    ((∃ f, answer session operation ask w = (.error f, session, w)) ∨
      ∃ request, session.request ask = .ok request ∧
        (answer session operation ask w).2.1.base = session.base ∧
        (answer session operation ask w).2.2.replies = [] ∧
        (answer session operation ask w).2.2.server = (w.server.answer request).2 ∧
        ∀ response, (answer session operation ask w).1 = .ok response →
          (w.server.answer request).1.isError = false ∧
            (w.server.answer request).1.decoded = .ok response) := by
  cases hbuild : buildRequest session operation ask with
  | error f => exact Or.inl ⟨f, answer_of_error hbuild w⟩
  | ok request =>
    refine Or.inr ⟨request, buildRequest_eq_ok_iff.1 hbuild, ?_⟩
    rw [answer_of_ok hbuild, World.replyTo_of_no_replies hw, World.exchange_of_no_replies hw]
    refine ⟨base_acceptReply _ _ _ _ _ _, hw, rfl, fun response hresponse => ?_⟩
    obtain ⟨r, hr, hreceive, hstatus⟩ := (acceptReply_eq_ok_iff ..).1 hresponse
    obtain rfl := Reply.response.inj hr
    have hsame := Session.status_of_receive hreceive
    refine ⟨?_, Session.decoded_of_receive hreceive⟩
    rcases hstatus with hallow | hok
    · cases hallow
    · rwa [Response.isError, hsame] at hok

end Store

namespace Adapter

variable {settings : Settings} {session session' : Session} {w w' : World} {names : List Text}

/-- A listing leaves the server as it is. -/
theorem server_listed (hw : w.replies = []) (settings : Settings) (session : Session) :
    (listed settings session w).2.1.base = session.base ∧
      (listed settings session w).2.2.replies = [] ∧
      (listed settings session w).2.2.server = w.server := by
  rcases Store.answer_of_server hw session .listDatabases
    (Store.listingAsk settings.databasePageSize) with ⟨f, hunsent⟩ | ⟨request, hrequest, hbase,
      hreplies, hserver, -⟩
  · rw [listed, hunsent]
    exact ⟨rfl, hw, rfl⟩
  · have hget : request.method = .get := (Session.request_eq_ok hrequest).1
    exact ⟨hbase, hreplies, hserver.trans (Server.answer_get hget)⟩

/-- Names come from a response of the server to a request. -/
theorem exists_request_of_listed (hw : w.replies = [])
    (h : listed settings session w = (.ok names, session', w')) :
    ∃ request response, session.request (Store.listingAsk settings.databasePageSize) = .ok request ∧
      (w.server.answer request).1.isError = false ∧
      (w.server.answer request).1.decoded = .ok response ∧
      databaseNames response = .ok names := by
  obtain ⟨response, hresponse, hnames⟩ := Attempt.bind_eq_ok_iff.1 (congrArg Prod.fst h)
  rcases Store.answer_of_server hw session .listDatabases
    (Store.listingAsk settings.databasePageSize) with ⟨f, hunsent⟩ | ⟨request, hrequest, -, -, -,
      haccepted⟩
  · rw [hunsent] at hresponse
    cases hresponse
  · obtain ⟨hok, hdecoded⟩ := haccepted response hresponse
    exact ⟨request, response, hrequest, hok, hdecoded, hnames⟩

/-! ### Both questions -/

/-- What making sure of the database may do to a server: nothing; after a first page without the
name in any case, adding the database; or, if the URL leads elsewhere, writing a document. -/
inductive Ensures (settings : Settings) (session : Session) (server : Server) : Server → Prop where
  | nothing : Ensures settings session server server
  | added (unlisted : ∀ name ∈ server.page settings.databasePageSize,
      sameName name settings.database = false) :
    Ensures settings session server (server.addDatabase settings.database)
  | written {server' : Server} (names : server'.names = server.names)
    (elsewhere : session.base.rawPath ≠ Text.ofString "/") :
    Ensures settings session server server'

section Provisioning

variable (hw : w.replies = []) (hbase : session.base.IsBase)

include hw hbase in
/-- What is listed at the place of the databases has the names of the page. -/
theorem mem_of_listed (h : listed settings session w = (.ok names, session', w'))
    (hq : session.base.query = none) (hfolder : Store.folderOf session.base = []) {name : Text}
    (hname : name ∈ w.server.page settings.databasePageSize) (hscalar : name.isScalar = true) :
    name ∈ names := by
  obtain ⟨request, response, hrequest, -, hdecoded, hnames⟩ := exists_request_of_listed hw h
  have hsegments := Store.segments_of_listing hbase hq hrequest
  rw [hfolder, List.nil_append] at hsegments
  rw [Store.answer_of_listing hbase hrequest hsegments] at hdecoded
  have hsame : response = w.server.listing settings.databasePageSize :=
    Except.ok.inj (hdecoded.symm.trans (Response.isOrdinary_nil 200 _).decoded_eq)
  obtain ⟨found, hfound, hkept⟩ := w.server.exists_databaseNames settings.databasePageSize
  rw [hsame, hfound] at hnames
  rw [← Except.ok.inj hnames]
  exact hkept name hname hscalar

include hw hbase in
/-- After a listing that brought back names, only the database of the settings can be added. -/
theorem segments_of_addition (h : listed settings session w = (.ok names, session', w'))
    (hsame : session'.base = session.base) (hd : settings.database.isScalar = true)
    {creation : Request} (hcreation : session'.request (creationAsk settings) = .ok creation)
    {name : Text} (hsegments : creation.segments = Store.creationSegments name) :
    session.base.query = none ∧ Store.folderOf session.base = [] ∧ name = settings.database := by
  obtain ⟨request, response, hrequest, hok, -, -⟩ := exists_request_of_listed hw h
  have hget : request.method = .get := (Session.request_eq_ok hrequest).1
  -- nothing is listed at a place of three segments
  have hthree : request.segments.length ≠ 3 := fun hthree => by
    rw [Server.isError_of_three hget hthree] at hok
    cases hok
  have hbase' : session'.base.IsBase := hsame ▸ hbase
  cases hq : session.base.query with
  | some q =>
    have hplace := Store.segments_of_query hbase' (hsame ▸ hq) hcreation
    rw [hsame, ← Store.segments_of_query hbase hq hrequest, hsegments] at hplace
    exact absurd (congrArg List.length hplace.symm) hthree
  | none =>
    have hlisting := Store.segments_of_listing hbase hq hrequest
    have harrives := Store.segments_of_creation hbase' (hsame ▸ hq) hd hcreation
    rw [hsame, hsegments] at harrives
    generalize Store.folderOf session.base = folder at hlisting harrives ⊢
    rcases harrives with harrives | harrives | harrives
    · have hlength := congrArg List.length harrives
      simp only [Store.creationSegments, List.length_append, List.length_cons] at hlength
      obtain rfl : folder = [] := List.eq_nil_of_length_eq_zero (by omega)
      simpa [Store.creationSegments] using harrives
    · -- the segment before `databases` would have to be that itself
      have hlength := congrArg List.length harrives
      simp only [Store.creationSegments, List.length_append, List.length_cons,
        List.length_nil] at hlength
      obtain ⟨first, rfl⟩ := List.length_eq_one_iff.1 (show folder.length = 1 by omega)
      rw [Store.creationSegments, List.cons_append, List.nil_append] at harrives
      exact absurd (List.cons.inj (List.cons.inj harrives).2).1 (by decide)
    · have hlength := congrArg List.length harrives
      simp only [Store.creationSegments, List.length_append, List.length_cons] at hlength
      refine absurd ?_ hthree
      rw [hlisting, List.length_append]
      exact hlength.symm

omit hw in
include hbase in
/-- Without a path of the URL no document is where the creation arrives. -/
theorem segments_ne_of_rawPath (hraw : session.base.rawPath = Text.ofString "/")
    (hd : settings.database.isScalar = true) {creation : Request}
    (hcreation : session.request (creationAsk settings) = .ok creation) (database key : Text) :
    creation.segments ≠ Store.segmentsOf database key := by
  obtain ⟨hq, hfolder⟩ := Store.folderOf_of_rawPath hraw
  have harrives := Store.segments_of_creation hbase hq hd hcreation
  rw [hfolder, List.nil_append, List.nil_append, List.nil_append] at harrives
  intro hsegments
  rw [hsegments] at harrives
  rcases harrives with harrives | harrives | harrives
  · exact absurd (congrArg List.length harrives)
      (by simp [Store.segmentsOf, Store.creationSegments])
  · exact absurd (congrArg List.length harrives) (by simp [Store.segmentsOf])
  · exact absurd (congrArg List.length harrives) (by simp [Store.segmentsOf])

omit hbase in
include hw in
/-- A creation is not sent, or the server answers it. -/
theorem server_created (settings : Settings) (session : Session) :
    (created settings session w).2.2.server = w.server ∨
      ∃ creation, settings.database.isScalar = true ∧
        session.request (creationAsk settings) = .ok creation ∧ creation.method = .put ∧
        (created settings session w).2.2.server = (w.server.answer creation).2 := by
  rw [created]
  cases hname : Percent.encodeSegment settings.database with
  | error error => exact Or.inl rfl
  | ok quoted =>
    obtain ⟨hd, rfl⟩ := Percent.encodeSegment_eq_ok hname
    rcases Store.answer_of_server hw session .createDatabase (creationAsk settings) with
      ⟨f, hunsent⟩ | ⟨creation, hcreation, -, -, hserver, -⟩
    · exact Or.inl (congrArg (·.2.2.server) hunsent)
    · exact Or.inr ⟨creation, hd, hcreation, (Session.request_eq_ok hcreation).1, hserver⟩

include hw hbase in
/-- On any URL, making sure of the database does no more. -/
theorem server_ensured (settings : Settings) :
    Ensures settings session w.server (ensured settings session w).2.2.server := by
  obtain ⟨hsame, hreplies, hserver⟩ := server_listed hw settings session
  rcases h : listed settings session w with ⟨f | names, session', w'⟩
  · rw [h] at hserver
    rw [ensured_of_error h]
    exact hserver ▸ .nothing
  · rw [h] at hsame hreplies hserver
    dsimp only at hsame hreplies hserver
    cases hlisted : isListed settings names with
    | true =>
      rw [ensured_of_listed h hlisted]
      exact hserver ▸ .nothing
    | false =>
      rw [ensured_of_missing h hlisted]
      rcases server_created hreplies settings session' with hunsent |
        ⟨creation, hd, hcreation, hput, hcreated⟩
      · rw [hunsent, hserver]
        exact .nothing
      · rw [hcreated, hserver]
        rcases w.server.answer_put_cases hput with hkept | ⟨name, hsegments, hadded⟩ |
          ⟨database, key, hsegments, hnames⟩
        · rw [hkept]
          exact .nothing
        · obtain ⟨hq, hfolder, rfl⟩ :=
            segments_of_addition hw hbase h hsame hd hcreation hsegments
          rw [hadded]
          refine .added fun name hname => Bool.eq_false_iff.2 fun htwin => ?_
          have hlist := mem_of_listed hw hbase h hq hfolder hname (isScalar_of_sameName htwin hd)
          rw [isListed, List.any_eq_false] at hlisted
          exact hlisted name hlist htwin
        · have hbase' : session'.base.IsBase := hsame ▸ hbase
          refine .written hnames fun hraw => ?_
          exact segments_ne_of_rawPath hbase' (hsame ▸ hraw) hd hcreation database key hsegments

end Provisioning

/-! ### Setting up -/

theorem Connects.server_eq {settings : Settings} {result : Except Failure Store} {w w' : World}
    (h : Connects settings w result w') :
    w'.server = w.server ∨ ∃ session, session? settings = .ok session ∧
      w'.server = (ensured settings session w.opening).2.2.server := by
  cases h with
  | unreadable _ => exact Or.inl rfl
  | unwritten _ => exact Or.inl rfl
  | ready opened provided _ => exact Or.inr ⟨_, opened, by rw [provided]; rfl⟩
  | refused opened failed _ _ => exact Or.inr ⟨_, opened, by rw [failed]; rfl⟩
  | unclosed opened failed _ _ => exact Or.inr ⟨_, opened, by rw [failed]; rfl⟩
  | abandoned opened failed _ _ => exact Or.inr ⟨_, opened, by rw [failed]; rfl⟩

theorem Connects.ensures {settings : Settings} {result : Except Failure Store} {w w' : World}
    (h : Connects settings w result w') (hw : w.replies = [])
    (hurl : settings.hasValidUrl = true) :
    w'.server = w.server ∨ ∃ session, session? settings = .ok session ∧
      Ensures settings session w.server w'.server := by
  refine h.server_eq.imp_right fun ⟨session, hsession, hserver⟩ => ⟨session, hsession, ?_⟩
  have hopening : w.opening.replies = [] := hw
  rw [hserver]
  exact server_ensured hopening (Session.isBase_of_open? hsession hurl) settings

/-- On any URL, setting up does no more to the server than making sure of the database may do. -/
theorem server_setUp {w : World} (hw : w.replies = []) (env : Environment) (a : Adapter) :
    (exec (setUp env) a w).2.server = w.server ∨
      ∃ settings session, Settings.ofProperties a.properties env = .ok settings ∧
        session? settings = .ok session ∧
        Ensures settings session w.server (exec (setUp env) a w).2.server := by
  have h := setsUp env a w
  generalize (exec (setUp env) a w).1.1 = result at h
  generalize (exec (setUp env) a w).1.2 = a' at h
  generalize (exec (setUp env) a w).2 = w' at h ⊢
  cases h with
  | misconfigured _ => exact Or.inl rfl
  | unsupported _ _ => exact Or.inl rfl
  | failed read url connected =>
    exact (connected.ensures hw url).imp_right fun ⟨session, hopen, hensures⟩ =>
      ⟨_, session, read, hopen, hensures⟩
  | ready read url connected =>
    exact (connected.ensures hw url).imp_right fun ⟨session, hopen, hensures⟩ =>
      ⟨_, session, read, hopen, hensures⟩

end Adapter

/-! ### Names in any case -/

/-- No two names of the databases are equal but for case. -/
def Server.HasDistinctNames (server : Server) : Prop :=
  server.names.Pairwise fun a b => Adapter.sameName a b = false

instance (server : Server) : Decidable server.HasDistinctNames :=
  inferInstanceAs (Decidable (List.Pairwise _ _))

/-- The database is there in another case only, and the first page does not show it. -/
structure Settings.HidesTwin (settings : Settings) (server : Server) : Prop where
  missing : settings.database ∉ server.names
  twin : ∃ name ∈ server.names, Adapter.sameName name settings.database = true
  unlisted : ∀ name ∈ server.page settings.databasePageSize,
    Adapter.sameName name settings.database = false

namespace Adapter

section Ensures

variable {settings : Settings} {session : Session} {server server' : Server}

/-- Where the database is there in any case, its names stay if the first page hides none. -/
theorem Ensures.names_eq (h : Ensures settings session server server')
    (hvisible : ¬settings.HidesTwin server)
    (htwin : ∃ name ∈ server.names, sameName name settings.database = true) :
    server'.names = server.names ∧
      (session.base.rawPath = Text.ofString "/" → server' = server) := by
  cases h with
  | nothing => exact ⟨rfl, fun _ => rfl⟩
  | added unlisted =>
    by_cases hmem : settings.database ∈ server.names
    · rw [Server.addDatabase_of_mem hmem]
      exact ⟨rfl, fun _ => rfl⟩
    · exact absurd ⟨hmem, htwin, unlisted⟩ hvisible
  | written names elsewhere => exact ⟨names, fun hraw => absurd hraw elsewhere⟩

theorem Ensures.hasDistinctNames (h : Ensures settings session server server')
    (hdistinct : server.HasDistinctNames) (hvisible : ¬settings.HidesTwin server) :
    server'.HasDistinctNames := by
  by_cases htwin : ∃ name ∈ server.names, sameName name settings.database = true
  · rwa [Server.HasDistinctNames, (h.names_eq hvisible htwin).1]
  · have hother : ∀ name ∈ server.names, sameName name settings.database = false :=
      fun name hname => Bool.eq_false_iff.2 fun hsame => htwin ⟨name, hname, hsame⟩
    cases h with
    | nothing => exact hdistinct
    | added _ =>
      have hmissing : settings.database ∉ server.names := fun hmem =>
        htwin ⟨settings.database, hmem, beq_self_eq_true _⟩
      rw [Server.HasDistinctNames, Server.names_addDatabase_of_not_mem hmissing]
      refine List.pairwise_append.2 ⟨hdistinct, List.pairwise_singleton _ _, ?_⟩
      intro name hname added hadded
      rw [List.mem_singleton.1 hadded]
      exact hother name hname
    | written names _ => rwa [Server.HasDistinctNames, names]

end Ensures

/-- Setting up an adapter, however it ends, leaves names that differ not only in case, unless the
database is there in another case only and the first page of the listing hides it. If the database
is there in any case, the names stay; and without a path or a query of the URL so does all the
server holds. -/
theorem setUp_keeps_names_distinct (env : Environment) (a : Adapter) {w : World}
    (hw : w.replies = []) (hdistinct : w.server.HasDistinctNames)
    (hvisible : ∀ settings, Settings.ofProperties a.properties env = .ok settings →
      ¬settings.HidesTwin w.server) :
    let server := (exec (setUp env) a w).2.server
    server.HasDistinctNames ∧
      ∀ settings, Settings.ofProperties a.properties env = .ok settings →
        (∃ name ∈ w.server.names, sameName name settings.database = true) →
        server.names = w.server.names ∧
          ((∀ session, session? settings = .ok session →
            session.base.rawPath = Text.ofString "/") → server = w.server) := by
  intro server
  rcases server_setUp hw env a with hsame | ⟨settings, session, hread, hopen, hensures⟩
  · refine ⟨?_, fun settings _ _ => ⟨congrArg Server.names hsame, fun _ => hsame⟩⟩
    change (exec (setUp env) a w).2.server.HasDistinctNames
    rwa [hsame]
  · refine ⟨hensures.hasDistinctNames hdistinct (hvisible settings hread), ?_⟩
    intro settings' hread' htwin
    obtain rfl := Except.ok.inj (hread.symm.trans hread')
    obtain ⟨hnames, hserver⟩ := hensures.names_eq (hvisible settings hread) htwin
    exact ⟨hnames, fun hbare => hserver (hbare session hopen)⟩

/-- The name is there in lower case and is listed, so that nothing is added. -/
theorem setUp_keeps_names_distinct_listed :
    let server := Server.ofNames [Text.ofString "System", Text.ofString "ycsb"]
    (exec (setUp {}) (create []) { server := server }).2.server = server ∧
      server.HasDistinctNames := by
  intro server
  have hread : Settings.ofProperties (create []).properties {} = .ok Settings.default := rfl
  have hvisible : ¬Settings.default.HidesTwin server := fun h =>
    absurd (h.unlisted (Text.ofString "ycsb") (by decide)) (by decide +kernel)
  have hopen : (session? Settings.default).map (fun session => session.base.rawPath) =
      .ok (Text.ofString "/") := by decide +kernel
  have hbare : ∀ session, session? Settings.default = .ok session →
      session.base.rawPath = Text.ofString "/" := by
    intro session hsession
    rw [hsession] at hopen
    exact Except.ok.inj hopen
  obtain ⟨hdistinct, hkept⟩ := setUp_keeps_names_distinct {} (create []) (w := { server := server })
    rfl (by decide +kernel) fun settings hsettings => by
      rwa [← Except.ok.inj (hread.symm.trans hsettings)]
  obtain ⟨-, hserver⟩ := hkept Settings.default hread
    ⟨Text.ofString "ycsb", by decide, by decide +kernel⟩
  have hsame : (exec (setUp {}) (create []) { server := server }).2.server = server :=
    hserver hbare
  rw [hsame] at hdistinct
  exact ⟨hsame, hdistinct⟩

/-- With a page of one name, the second one is hidden and its twin is added. On a URL that leads to
a document, the creation replaces this document. -/
theorem setUp_adds_hidden_twin :
    (let env : Environment :=
      { processEntries := [(Text.ofString "RAVENDB_DATABASE_PAGE_SIZE", Text.ofString "1")] }
    let server := Server.ofNames [Text.ofString "System", Text.ofString "ycsb"]
    let server' := (exec (setUp env) (create []) { server := server }).2.server
    server.HasDistinctNames ∧
      server'.names = [Text.ofString "System", Text.ofString "ycsb", Text.ofString "YCSB"] ∧
      ¬server'.HasDistinctNames) ∧
    (let url := Text.ofString "http://localhost:10301/databases/YCSB/docs/user0?"
    let env : Environment := { processEntries := [(Text.ofString "RAVENDB_URL", url)] }
    let document : StoredDocument := ⟨Utf8.encodeAll (Text.ofString "[]"), 0⟩
    let server : Server :=
      { databases := [(Text.ofString "System", []),
          (Text.ofString "YCSB", [(Text.ofString "user0", document)])] }
    let server' := (exec (setUp env) (create []) { server := server }).2.server
    server.HasDistinctNames ∧ server'.names = server.names ∧ server' ≠ server) := by
  decide +kernel

end Adapter

end RavenBinding
