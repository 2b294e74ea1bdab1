import RavenBinding.Proofs.Binding.Lifecycle
import RavenBinding.Proofs.Interaction.Interference
import RavenBinding.Proofs.Store.Arrival

/-!
# Calls among others

A call of an adapter on a plain URL may write or delete a document of its database. Whatever is
replied to it, and whatever the server holds, its requests add no database and remove none, and the
adapter stays on its URL.

## Main definitions

- `Request.KeepsDatabases`: the requests whose answers leave the databases there
- `Adapter.IsOnPlainUrl`: an adapter that holds a store is ready, with a session on a plain URL

## Main statements

- `DocumentExchange.keepsDatabases`: the requests of operations on documents
- `AdapterCall.respects`: a call among others
-/

namespace RavenBinding

open AdapterAction

/-! ### The session -/

theorem Session.base_receive (s : Session) (request : Request) (response : Response) :
    (s.receive request response).2.base = s.base := by
  rw [receive]
  dsimp only
  split
  · rfl
  · rfl

theorem Store.base_acceptReply (session : Session) (operation : StoreOperation) (ask : Ask)
    (allow : Bool) (request : Request) (reply : Reply) :
    (acceptReply session operation ask allow request reply).2.base = session.base := by
  cases reply with
  | fault f =>
    rw [acceptReply]
    split
    · rfl
    · rfl
  | response r => exact session.base_receive request r

/-- An operation leaves the URL of its session, whatever is replied. -/
theorem DocumentExchange.base_ending {α : Type} (x : DocumentExchange α) (s : Store)
    (session : Session) (key : Text) (replyTo : Request → Reply) :
    (x.ending s session key replyTo).2.base = session.base := by
  cases hrequest : x.request? s session key with
  | error f => rw [x.ending_of_no_request hrequest]
  | ok request =>
    obtain ⟨ask, hask, hbuild⟩ := request?_eq_ok_iff.1 hrequest
    rw [ending_of_request hask hbuild]
    exact Store.base_acceptReply _ _ _ _ _ _

theorem RecordCall.base_outcome (call : RecordCall) (settings : Settings) (store : Store)
    (session : Session) (replyTo : Request → Reply) :
    (call.outcome settings store session replyTo).2.base = session.base := by
  cases call with
  | read table key fields result => exact DocumentExchange.base_ending _ store session key replyTo
  | insert table key values =>
    rw [outcome]
    cases Record.document values with
    | error f => rfl
    | ok document => exact DocumentExchange.base_ending _ store session key replyTo
  | delete table key => exact DocumentExchange.base_ending _ store session key replyTo

/-! ### The server -/

/-- The answer to the request leaves the databases there, whatever they hold. -/
def Request.KeepsDatabases (request : Request) : Prop :=
  ∀ server : Server, (server.answer request).2.names = server.names

namespace Server

variable {server : Server} {database key : Text} {documents : Documents}

theorem names_insert_of_get? (hosted : server.databases.get? database = some documents)
    (documents' : Documents) (number : Nat) :
    ({ databases := server.databases.insert database documents', nextNumber := number } :
      Server).names = server.names :=
  (FieldMap.keys_insert _ _ _).1 (List.mem_map_of_mem (FieldMap.mem_of_get? hosted))

theorem names_answerDocument (hosted : server.databases.get? database = some documents)
    (method : Method) (body : Bytes) :
    (server.answerDocument method database key documents body).2.names = server.names := by
  cases method with
  | get =>
    rw [answerDocument]
    split
    · rfl
    · rfl
  | put => exact names_insert_of_get? hosted _ _
  | delete => exact names_insert_of_get? hosted _ _

theorem keepsDatabases_of_segments {request : Request}
    (h : request.segments = Store.segmentsOf database key) : request.KeepsDatabases := by
  intro server
  cases hosted : server.databases.get? database with
  | some documents =>
    rw [answer_of_segments h hosted]
    exact names_answerDocument hosted request.method request.body
  | none =>
    -- the database that is missing is not created
    obtain ⟨query, hanswer⟩ := answer_eq server request
    have hsegments : Server.segments (Text.cut (CodePoint.ofChar '?') request.url.rawPath).1 =
        [Text.ofString "databases", database, Text.ofString "docs", key] := h
    rw [hanswer, respond.eq_def]
    simp only [hsegments, hosted]
    cases request.method <;> rfl

theorem keepsDatabases_of_stray {request : Request} (h : request.IsStray) :
    request.KeepsDatabases := by
  obtain ⟨r, -, hanswer⟩ := answer_of_stray h
  intro server
  rw [hanswer]

end Server

/-- On a plain URL, an operation on a document leaves the databases there. -/
theorem DocumentExchange.keepsDatabases {α : Type} {x : DocumentExchange α} {p : PlainUrl}
    {s : Store} {session : Session} (hb : session.base = p.url) {key : Text} {request : Request}
    (h : x.request? s session key = .ok request) : request.KeepsDatabases := by
  rcases stray_or_addressed hb h with ⟨-, -, hstray⟩ | ⟨-, -, -, hsegments, -⟩
  · exact Server.keepsDatabases_of_stray hstray
  · exact Server.keepsDatabases_of_segments hsegments

theorem RecordCall.keepsDatabases {call : RecordCall} {p : PlainUrl} {store : Store}
    {session : Session} (hb : session.base = p.url) {request : Request}
    (h : call.request? store session = .ok request) : request.KeepsDatabases := by
  cases call with
  | read table key fields result => exact DocumentExchange.keepsDatabases hb h
  | insert table key values =>
    obtain ⟨document, -, h⟩ := Attempt.bind_eq_ok_iff.1 h
    exact DocumentExchange.keepsDatabases hb h
  | delete table key => exact DocumentExchange.keepsDatabases hb h

/-! ### Calls -/

/-- An adapter that holds a store is ready, and its session is on a plain URL. -/
def Adapter.IsOnPlainUrl (a : Adapter) : Prop :=
  ∀ store, a.store? = some store → ∃ (p : PlainUrl) (settings : Settings) (session : Session),
    a.Ready settings store session ∧ session.base = p.url

theorem Adapter.isOnPlainUrl_holding (a : Adapter) (settings : Settings) {store : Store}
    {session : Session} {p : PlainUrl} (hs : store.session = some session)
    (hb : session.base = p.url) : (a.holding settings store).IsOnPlainUrl := by
  intro held hheld
  obtain rfl := Option.some.inj hheld
  exact ⟨p, settings, session, ⟨rfl, rfl, rfl, hs⟩, hb⟩

/-- What a call leaves of its adapter. -/
def Adapter.IsKept {α : Type} (a : Adapter) (ended : α × Adapter) : Prop :=
  ended.2.IsOnPlainUrl ∧ ended.2.properties = a.properties

theorem RecordCall.respects {a : Adapter} (h : a.IsOnPlainUrl) (call : RecordCall) :
    (call.perform.run a).Respects Request.KeepsDatabases a.IsKept := by
  refine Program.respects_of_run _ 0 [] [] fun server replies => ?_
  cases hstore : a.store? with
  | none =>
    have hexec := Adapter.exec_perform_of_no_store hstore call ⟨server, replies, none, 0, [], []⟩
    rw [exec] at hexec
    rw [hexec]
    exact ⟨⟨h, rfl⟩, List.forall_mem_nil _⟩
  | some store =>
    obtain ⟨p, settings, session, hready, hb⟩ := h store hstore
    obtain ⟨events, hexec⟩ := call.exec_perform hready ⟨server, replies, none, 0, [], []⟩
    rw [exec] at hexec
    rw [hexec]
    refine ⟨⟨Adapter.isOnPlainUrl_holding a settings rfl
      ((call.base_outcome settings store session _).trans hb), rfl⟩, fun request hsent => ?_⟩
    rw [World.showing, after] at hsent
    cases hrequest : call.request? store session with
    | error f =>
      rw [hrequest] at hsent
      exact absurd hsent List.not_mem_nil
    | ok asked =>
      rw [hrequest, World.sent_exchange, List.mem_singleton] at hsent
      rw [hsent]
      exact RecordCall.keepsDatabases hb hrequest

/-- The requests of a call leave the databases there, and the call leaves its adapter on the URL,
whatever is replied. -/
theorem AdapterCall.respects {a : Adapter} (h : a.IsOnPlainUrl) (c : AdapterCall) :
    (c.perform.run a).Respects Request.KeepsDatabases a.IsKept := by
  cases c with
  | record call =>
    rw [perform, StateT.run_bind]
    exact (call.respects h).bind fun _ hkept => hkept
  | update table key values => exact ⟨h, rfl⟩
  | scan table startKey count fields result => exact ⟨h, rfl⟩

end RavenBinding
