import RavenBinding.Proofs.Binding.SetUp
import RavenBinding.Proofs.Store.CallFailures

/-!
# What an error of a store tells about its call

An error of a store names the operation that was called. It has the status of the response that the
call could use, and a cause unless such a response reports an error or holds a value of the wrong
form. A response that came back may be of no use: its body cannot be decoded, or it redirects to a
place that cannot be read. Its status is then not told.

## Main definitions

- `StoreCall.sent?`, `StoreCall.arrived?`, `StoreCall.usable?`: the request of a call, the response
  to it, and what the call can use of that
- `StoreCall.Refuses`, `StoreCall.Raised`: the places where a call raises an error of the store
- `StoreError.Tells`: what an error says of a call
- `ClientCall`: a call of an operation, opening the session included

## Main statements

- `StoreCall.raised_of_ending`: there is no other place
- `ClientCall.error_tells_provenance`: what an error tells, and when it withholds a status
-/

namespace RavenBinding

open StoreAction

/-! ### Steps of a call -/

namespace Session

variable {session : Session} {request : Request} {r received : Response}

/-- What a session can use of a reply: a response with its body decoded, unless that or the place
that it redirects to cannot be read. -/
def usable? (session : Session) (request : Request) : Reply → Option Response
  | .response r => (session.receive request r).1.toOption
  | .fault _ => none

theorem usable?_response_iff :
    session.usable? request (.response r) = some received ↔
      (session.receive request r).1 = .ok received := Attempt.toOption_eq_some_iff

/-- A response that was received has headers in order. -/
theorem headers_of_receive (h : (session.receive request r).1 = .ok received) :
    ∃ headers, encodeHeaders r.headers = .ok headers := by
  cases hheaders : encodeHeaders r.headers with
  | ok headers => exact ⟨headers, rfl⟩
  | error e =>
    rw [receive] at h
    simp only [hheaders] at h
    cases h

end Session

namespace Store

variable {session : Session} {operation : StoreOperation} {ask : Ask} {allow : Bool}
  {error : StoreError}

theorem exists_of_buildRequest_store (h : buildRequest session operation ask = .error (.store error)) :
    ∃ cause, error = ⟨operation, .exchange ask.method ask.path cause⟩ := by
  obtain ⟨refusal, -, hrefusal⟩ := Attempt.mapError_eq_error_iff.1 h
  cases refusal with
  | url failure =>
    cases failure with
    | invalid problem => exact ⟨_, (Failure.store.inj hrefusal).symm⟩
    | encoding problem => exact ⟨_, (Failure.store.inj hrefusal).symm⟩
  | json fault => cases hrefusal
  | origin problem => cases hrefusal
  | host problem => cases hrefusal

theorem exists_of_responseFailure_store {refusal : ResponseError}
    (h : responseFailure operation ask refusal = .store error) :
    ∃ cause, error = ⟨operation, .exchange ask.method ask.path cause⟩ := by
  cases refusal with
  | headers problem => exact ⟨_, (Failure.store.inj h).symm⟩
  | coding f => exact ⟨_, (Failure.store.inj h).symm⟩
  | location problem => exact ⟨_, (Failure.store.inj h).symm⟩
  | redirect failure =>
    cases failure with
    | invalid problem => exact ⟨_, (Failure.store.inj h).symm⟩
    | encoding problem => exact ⟨_, (Failure.store.inj h).symm⟩
  | origin problem => cases h
  | host problem => cases h

/-- Without a session nothing is sent. -/
theorem exec_send_closed {s : Store} (hs : s.session = none) (operation : StoreOperation)
    (ask : Ask) (allow : Bool) (w : World) :
    (send operation ask allow).exec s w = ((.error .sessionClosed, s), w) := by
  rw [send, exec_bind_ok (exec_store s w)]
  simp only [hs]
  rfl

/-- A status is refused in words if it is refused by the store. -/
theorem exists_of_acceptStatus_store {r : Response}
    (h : acceptStatus operation ask allow r = .error (.store error)) :
    r.isError = true ∧ ∃ t, error = ⟨operation, .status ask.method ask.path r.status t⟩ := by
  rw [acceptStatus] at h
  split at h
  · cases h
  · split at h
    · next hfailed =>
      refine ⟨hfailed, ?_⟩
      cases htext : r.text with
      | error f =>
        rw [htext] at h
        cases h
      | ok t =>
        rw [htext] at h
        exact ⟨t, (Failure.store.inj (Except.error.inj h)).symm⟩
    · cases h

end Store

/-- A body that the store refuses cannot be read. -/
theorem exists_of_readBody_store {operation : StoreOperation} {r : Response} {error : StoreError}
    (h : readBody operation r = .error (.store error)) :
    ∃ unread, Json.parseBody r.body = .error unread ∧
      error = ⟨operation, .body r.status unread⟩ := by
  obtain ⟨unread, hread, hunread⟩ := Attempt.mapError_eq_error_iff.1 h
  refine ⟨unread, hread, ?_⟩
  cases hfault : unread.fault? with
  | some f =>
    rw [hfault] at hunread
    cases hunread
  | none =>
    rw [hfault] at hunread
    exact (Failure.store.inj hunread).symm

/-- The details of an error are the operation and the status that it has. -/
theorem StoreError.exists_shown (error : StoreError) :
    ∃ shown : BindingError, (Failure.store error).bindingError? = some shown ∧
      shown.details.get? (.text (Text.ofString "operation")) =
        some (.text error.operation.name) ∧
      shown.details.get? (.text (Text.ofString "status_code")) =
        error.status?.map (fun status => .int status) ∧
      shown.statusCode = (error.status?.map fun status => .int status).getD .none := by
  refine ⟨_, rfl, ?_, ?_⟩
  · rw [details, FieldMap.get?, Value.beq_text, if_pos BEq.rfl]
  · rw [details, FieldMap.get?, Value.beq_text, if_neg (by decide)]
    cases error.status? with
    | none => exact ⟨rfl, rfl⟩
    | some status => exact ⟨by rw [FieldMap.get?, Value.beq_text, if_pos BEq.rfl]; rfl, rfl⟩

/-- An error says of an operation what came of the response of use, if there is one: its status, and
a cause unless it reports an error or its body holds what the operation does not take. -/
structure StoreError.Tells (error : StoreError) (operation : StoreOperation) (takes : Json → Bool)
    (usable : Option Response) : Prop where
  named : error.operation = operation
  status : error.status? = usable.map Response.status
  caused : error.cause?.isSome = true ↔ usable = none ∨
    ∃ received unread, usable = some received ∧ received.isError = false ∧
      Json.parseBody received.body = .error unread
  uncaused : error.cause? = none ↔ ∃ received, usable = some received ∧
    (received.isError = true ∨ ∃ j, Json.parseBody received.body = .ok j ∧ takes j = false)

/-! ### Questions to the server -/

/-- The response that comes back in a reply. A reply whose headers are not in ASCII is none. -/
def Reply.arrived? : Reply → Option Response
  | .response r => (Session.encodeHeaders r.headers).toOption.map fun _ => r
  | .fault _ => none

namespace StoreCall

/-- The request that a call sends, with the session that sends it. -/
def sent? (call : StoreCall) (s : Store) : Option (Session × Request) := do
  let ask ← (call.ask? s).toOption
  let session ← s.session
  let request ← (session.request ask).toOption
  pure (session, request)

/-- The response that comes back. -/
def arrived? (call : StoreCall) (s : Store) (replyTo : Request → Reply) : Option Response := do
  let (_, request) ← call.sent? s
  (replyTo request).arrived?

/-- What the call can use of the reply. -/
def usable? (call : StoreCall) (s : Store) (replyTo : Request → Reply) : Option Response := do
  let (session, request) ← call.sent? s
  session.usable? request (replyTo request)

/-- The value in a body has the form that the call looks for. -/
def takes : StoreCall → Json → Bool
  | names _ _, .array _ => true
  | get _, .object _ => true
  | names _ _, _ | get _, _ => false
  | create _, _ | put _ _ _ _, _ | delete _ _, _ => true

/-- What a call holds against a response that reports no error. -/
inductive Refuses (call : StoreCall) (received : Response) : StoreError → Prop where
  /-- The body cannot be read. -/
  | body {unread : BodyError} (read : Json.parseBody received.body = .error unread) :
    Refuses call received ⟨call.operation, .body received.status unread⟩
  /-- The body is no listing of databases. -/
  | listing {j : Json} (read : Json.parseBody received.body = .ok j)
    (form : call.takes j = false) :
    Refuses call received ⟨call.operation, .listing received.status⟩
  /-- The body is no document. -/
  | document {key : Text} {j : Json} (read : Json.parseBody received.body = .ok j)
    (form : call.takes j = false) :
    Refuses call received ⟨call.operation, .document received.status key⟩

/-- The places where a call raises an error of the store. -/
inductive Raised (call : StoreCall) (s : Store) (replyTo : Request → Reply) : StoreError → Prop where
  /-- The key, or the name of the database, has no encoding. -/
  | key {key : Text} {unencoded : EncodeError} (nothing : call.usable? s replyTo = none) :
    Raised call s replyTo ⟨call.operation, .documentKey key unencoded⟩
  /-- The request could not be built, or no response of use came back. -/
  | exchange {method : Method} {path : Text} {cause : StoreCause}
    (nothing : call.usable? s replyTo = none) :
    Raised call s replyTo ⟨call.operation, .exchange method path cause⟩
  /-- The response reports an error. -/
  | status {method : Method} {path text : Text} {received : Response}
    (usable : call.usable? s replyTo = some received) (failed : received.isError = true) :
    Raised call s replyTo ⟨call.operation, .status method path received.status text⟩
  /-- The response does not hold what the call looks for. -/
  | refused {received : Response} {error : StoreError}
    (usable : call.usable? s replyTo = some received) (accepted : received.isError = false)
    (refuses : call.Refuses received error) : Raised call s replyTo error

variable {call : StoreCall} {s : Store} {session : Session} {ask : Ask} {request : Request}
  {replyTo : Request → Reply} {w : World} {error : StoreError}

theorem sent?_of_request (hs : s.session = some session) (hask : call.ask? s = .ok ask)
    (hrequest : session.request ask = .ok request) : call.sent? s = some (session, request) := by
  rw [sent?, hask, hs]
  show ((session.request ask).toOption.bind fun request => some (session, request)) = _
  rw [hrequest]
  rfl

theorem usable?_of_sent (h : call.sent? s = some (session, request)) :
    call.usable? s replyTo = session.usable? request (replyTo request) := by
  rw [usable?, h]
  rfl

/-- A response of use has come back, and has its status. -/
theorem exists_arrived_of_usable {received : Response}
    (h : call.usable? s replyTo = some received) :
    ∃ r, call.arrived? s replyTo = some r ∧ received.status = r.status := by
  cases hsent : call.sent? s with
  | none =>
    rw [usable?, hsent] at h
    cases h
  | some sent =>
    obtain ⟨session, request⟩ := sent
    rw [usable?_of_sent hsent] at h
    cases hreply : replyTo request with
    | fault f =>
      rw [hreply] at h
      cases h
    | response r =>
      rw [hreply] at h
      have hreceived := Session.usable?_response_iff.1 h
      obtain ⟨headers, hheaders⟩ := Session.headers_of_receive hreceived
      refine ⟨r, ?_, Session.status_of_receive hreceived⟩
      rw [arrived?, hsent]
      show (replyTo request).arrived? = some r
      rw [hreply, Reply.arrived?, hheaders]
      rfl

/-! ### Where errors are raised -/

/-- Only the key of a document makes an error of the store before anything is asked for. -/
theorem exists_of_ask?_store (h : call.ask? s = .error (.store error)) :
    ∃ key unencoded, error = ⟨call.operation, .documentKey key unencoded⟩ := by
  have hexchange : ∀ {α : Type} (x : DocumentExchange α) (key : Text),
      x.ask? s key = .error (.store error) →
        ∃ key unencoded, error = ⟨x.operation, .documentKey key unencoded⟩ := by
    intro α x key hask
    obtain ⟨unencoded, herror⟩ := DocumentExchange.exists_of_ask_error hask
    exact ⟨key, unencoded, Failure.store.inj herror⟩
  cases call with
  | names pageSize start => cases h
  | create definition =>
    rcases Attempt.bind_eq_error_iff.1 h with hname | ⟨name, -, hname⟩
    · obtain ⟨unencoded, -, herror⟩ := Attempt.mapError_eq_error_iff.1 hname
      cases herror
    · cases hname
  | get key => exact hexchange (Store.getExchange key) key h
  | put key etag document metadata =>
    exact hexchange (Store.putExchange key (headersOf etag metadata) document) key h
  | delete key etag => exact hexchange (Store.deleteExchange etag) key h

theorem refuses_of_readBody {received : Response}
    (h : readBody call.operation received = .error (.store error)) :
    call.Refuses received error := by
  obtain ⟨unread, hread, rfl⟩ := exists_of_readBody_store h
  exact .body hread

theorem refuses_of_listing {pageSize start : Int} {received : Response}
    (h : (names pageSize start).finish received = .error (.store error)) :
    (names pageSize start).Refuses received error := by
  rcases Attempt.bind_eq_error_iff.1 (Attempt.map_eq_error_iff.1 h) with hbody | ⟨j, hj, hnames⟩
  · exact refuses_of_readBody hbody
  · have hread := Attempt.mapError_eq_ok_iff.1 hj
    cases j with
    | array items =>
      -- an item that cannot be shown raises a fault
      obtain ⟨item, -, hitem⟩ := Attempt.exists_of_mapM_error hnames
      obtain ⟨f, -, hfault⟩ := Attempt.mapError_eq_error_iff.1 hitem
      cases hfault
    | null | bool | int | float | text | object =>
      obtain rfl := Failure.store.inj (Except.error.inj hnames)
      exact .listing hread rfl

theorem refuses_of_document {key : Text} {received : Response}
    (h : Document.ofResponse key received = .error (.store error)) :
    (get key).Refuses received error := by
  rcases Attempt.bind_eq_error_iff.1 h with hbody | ⟨j, hj, hform⟩
  · exact @refuses_of_readBody (get key) error received hbody
  · have hread := Attempt.mapError_eq_ok_iff.1 hj
    cases j with
    | object members => cases hform
    | null | bool | int | float | text | array =>
      obtain rfl := Failure.store.inj (Except.error.inj hform)
      exact .document hread rfl

/-- A response that the store refuses cannot be read, or holds a value of the wrong form. -/
theorem refuses_of_finish {received : Response}
    (h : call.finish received = .error (.store error)) : call.Refuses received error := by
  cases call with
  | names pageSize start => exact refuses_of_listing h
  | create definition => cases h
  | get key =>
    have hget : (Store.getExchange key).finish received = .error (.store error) :=
      Attempt.map_eq_error_iff.1 h
    by_cases hfound : received.isNotFound = true
    · have hnone : (Store.getExchange key).finish received = .ok none := if_pos hfound
      rw [hnone] at hget
      cases hget
    · have hsome : (Store.getExchange key).finish received =
          (Document.ofResponse key received).map some := if_neg hfound
      rw [hsome] at hget
      exact refuses_of_document (Attempt.map_eq_error_iff.1 hget)
  | put key etag document metadata =>
    have hput := Attempt.map_eq_error_iff.1 h
    rw [PutResult.ofResponse] at hput
    by_cases hempty : received.body.isEmpty = true
    · simp only [if_pos hempty] at hput
      cases hput
    · simp only [if_neg hempty] at hput
      rcases Attempt.bind_eq_error_iff.1 hput with hbody | ⟨j, hj, hform⟩
      · exact refuses_of_readBody hbody
      · cases j with
        | null | bool | int | float | text | array | object => cases hform
  | delete key etag => cases h

/-- A response of use that the store does not accept reports an error or is refused. -/
theorem raised_of_received {received : Response} (hgot : call.usable? s replyTo = some received)
    (h : (Store.acceptStatus call.operation ask call.allowsMissing received >>= call.finish) =
      .error (.store error)) : call.Raised s replyTo error := by
  rcases Attempt.bind_eq_error_iff.1 h with hstatus | ⟨found, hstatus, hfinish⟩
  · obtain ⟨hfailed, t, rfl⟩ := Store.exists_of_acceptStatus_store hstatus
    exact .status hgot hfailed
  · obtain ⟨rfl, hmissing | haccepted⟩ := (Store.acceptStatus_eq_ok_iff _ _ _ _ _).1 hstatus
    · rw [finish_of_missing hmissing] at hfinish
      cases hfinish
    · exact .refused hgot haccepted (refuses_of_finish hfinish)

/-- A request that cannot be built is not sent. -/
theorem raised_of_unbuilt {refusal : RequestError} (hs : s.session = some session)
    (hask : call.ask? s = .ok ask) (hrequest : session.request ask = .error refusal)
    (h : Store.buildRequest session call.operation ask = .error (.store error)) :
    call.Raised s replyTo error := by
  obtain ⟨cause, rfl⟩ := Store.exists_of_buildRequest_store h
  refine .exchange ?_
  rw [usable?, sent?, hask, hs]
  show ((session.request ask).toOption.bind _).bind _ = none
  rw [hrequest]
  rfl

/-- An error of the store is raised in one of the places. -/
theorem raised_of_ending (hs : s.session = some session)
    (h : call.ending s session replyTo = .error (.store error)) : call.Raised s replyTo error := by
  rcases Attempt.bind_eq_error_iff.1 h with hask | ⟨ask, hask, hasked⟩
  · obtain ⟨key, unencoded, rfl⟩ := exists_of_ask?_store hask
    refine .key ?_
    rw [usable?, sent?, hask]
    rfl
  · cases hrequest : session.request ask with
    | error refusal =>
      obtain ⟨f, hbuild, -⟩ := Store.exists_buildRequest_error call.operation hrequest
      rw [Store.asked, hbuild] at hasked
      obtain rfl := Except.error.inj hasked
      exact raised_of_unbuilt hs hask hrequest hbuild
    | ok request =>
      have husable := @usable?_of_sent call s session request replyTo
        (sent?_of_request hs hask hrequest)
      rw [Store.asked_of_request hrequest] at hasked
      cases hreply : replyTo request with
      | fault f =>
        rw [hreply] at husable hasked
        rw [Store.acceptReply] at hasked
        split at hasked
        · obtain rfl := Failure.store.inj (Except.error.inj hasked)
          exact .exchange husable
        · cases hasked
      | response r =>
        rw [hreply] at husable hasked
        cases hreceive : (session.receive request r).1 with
        | error refusal =>
          rw [Store.acceptReply_of_refused hreceive] at hasked
          obtain ⟨cause, rfl⟩ := Store.exists_of_responseFailure_store (Except.error.inj hasked)
          exact .exchange (husable.trans (by rw [Session.usable?, hreceive]; rfl))
        | ok received =>
          rw [Store.acceptReply_of_received hreceive] at hasked
          exact raised_of_received
            (husable.trans (Session.usable?_response_iff.2 hreceive)) hasked

/-- Without a session nothing is asked. -/
theorem raised_of_closed (hs : s.session = none)
    (h : (call.perform.exec s w).1.1 = .error (.store error)) : call.Raised s w.replyTo error := by
  rw [perform_eq, exec_bind_ok (exec_store s w)] at h
  cases hask : call.ask? s with
  | error f =>
    rw [hask, exec_bind_error (exec_ofExcept _ _ _)] at h
    obtain rfl := Except.error.inj h
    obtain ⟨key, unencoded, rfl⟩ := exists_of_ask?_store hask
    refine .key ?_
    rw [usable?, sent?, hask]
    rfl
  | ok ask =>
    rw [hask, exec_bind_ok (exec_ofExcept _ _ _),
      exec_bind_error (Store.exec_send_closed hs call.operation ask call.allowsMissing w)] at h
    cases h

theorem raised (h : (call.perform.exec s w).1.1 = .error (.store error)) :
    call.Raised s w.replyTo error := by
  cases hs : s.session with
  | none => exact raised_of_closed hs h
  | some session => exact raised_of_ending hs (ending_exec hs call w ▸ h)

theorem Raised.tells (h : call.Raised s replyTo error) :
    error.Tells call.operation call.takes (call.usable? s replyTo) := by
  cases h with
  | key nothing =>
    constructor
    all_goals simp [nothing, StoreError.status?, StoreError.cause?]
  | exchange nothing =>
    constructor
    all_goals simp [nothing, StoreError.status?, StoreError.cause?]
  | status usable failed =>
    constructor
    all_goals simp [usable, failed, StoreError.status?, StoreError.cause?]
  | refused usable accepted refuses =>
    cases refuses with
    | body read =>
      constructor
      all_goals simp [usable, accepted, read, StoreError.status?, StoreError.cause?]
    | listing read form =>
      constructor
      all_goals simp [usable, read, form, StoreError.status?, StoreError.cause?]
    | document read form =>
      constructor
      all_goals simp [usable, read, form, StoreError.status?, StoreError.cause?]

/-- A call sends its request and no other one. -/
theorem sent_perform (call : StoreCall) (s : Store) (w : World) :
    (call.perform.exec s w).2.sent = ((call.sent? s).map Prod.snd).toList ++ w.sent := by
  have hfinish : ∀ (x : StoreAction Response) (s : Store) (w : World),
      ((x >>= fun r => ofExcept (call.finish r)).exec s w).2 = (x.exec s w).2 := by
    intro x s w
    rw [exec_bind]
    rcases x.exec s w with ⟨⟨f | r, s'⟩, w'⟩
    · rfl
    · exact congrArg Prod.snd (exec_ofExcept _ _ _)
  rw [perform_eq, exec_bind_ok (exec_store s w), sent?]
  cases call.ask? s with
  | error f =>
    rw [exec_bind_error (exec_ofExcept _ _ _)]
    rfl
  | ok ask =>
    rw [exec_bind_ok (exec_ofExcept _ _ _), hfinish]
    cases hs : s.session with
    | none =>
      rw [Store.exec_send_closed hs]
      rfl
    | some session =>
      show _ = (((session.request ask).toOption.bind
        fun request => some (session, request)).map Prod.snd).toList ++ w.sent
      cases hrequest : session.request ask with
      | error refusal =>
        obtain ⟨f, hbuild, -⟩ := Store.exists_buildRequest_error call.operation hrequest
        obtain ⟨events, hsend⟩ := Store.exec_send_error call.allowsMissing hs hbuild w
        rw [hsend]
        rfl
      | ok request =>
        obtain ⟨events, hsend⟩ := Store.exec_send_ok call.allowsMissing hs
          (Store.buildRequest_eq_ok_iff.2 hrequest) w
        rw [hsend]
        exact World.sent_exchange w request

end StoreCall

/-! ### Calls of all operations -/

/-- A call of an operation of a store, with whatever arguments it takes. -/
inductive ClientCall where
  | opening
  | names (pageSize start : Int)
  | create (definition : DatabaseDefinition)
  | get (key : Text)
  | put (key : Text) (etag : Option Text) (document : Value) (metadata : FieldMap Text Value)
  | delete (key : Text) (etag : Option Text)

namespace ClientCall

/-- Performs the call; what it returns does not matter here. -/
def perform : ClientCall → StoreAction Unit
  | opening => Store.openSession
  | names pageSize start => do
    let _ ← Store.databaseNames pageSize start
    pure ()
  | create definition => Store.createDatabase definition
  | get key => do
    let _ ← Store.get key
    pure ()
  | put key etag document metadata => do
    let _ ← Store.put key etag document metadata
    pure ()
  | delete key etag => Store.delete key etag

/-- The operation that is called. -/
def operation : ClientCall → StoreOperation
  | opening => .openSession
  | names _ _ => .listDatabases
  | create _ => .createDatabase
  | get _ => .get
  | put _ _ _ _ => .put
  | delete _ _ => .delete

/-- The question to the server, if there is one: metadata have to have a text for that. -/
def question? : ClientCall → Option StoreCall
  | opening => none
  | names pageSize start => some (.names pageSize start)
  | create definition => some (.create definition)
  | get key => some (.get key)
  | put key etag document metadata =>
    (Store.putHeaders etag metadata).toOption.map fun headers => .put key none document headers
  | delete key etag => some (.delete key etag)

/-- The request that the call sends. -/
def request? (call : ClientCall) (s : Store) : Option Request :=
  call.question?.bind fun question => (question.sent? s).map Prod.snd

/-- The response that comes back. -/
def arrived? (call : ClientCall) (s : Store) (replyTo : Request → Reply) : Option Response :=
  call.question?.bind fun question => question.arrived? s replyTo

/-- The response that comes back and is of use: its body is decoded, and if it redirects, the place
can be read. -/
def usable? (call : ClientCall) (s : Store) (replyTo : Request → Reply) : Option Response :=
  call.question?.bind fun question => question.usable? s replyTo

/-- The value in a body has the form that the question to the server looks for, if there is one. -/
def takes (call : ClientCall) (j : Json) : Bool :=
  call.question?.all fun question => question.takes j

variable {call : ClientCall} {s : Store} {w : World} {question : StoreCall} {error : StoreError}

theorem perform_of_question (h : call.question? = some question) :
    call.perform = question.perform ∧ call.operation = question.operation ∧
      call.takes = question.takes := by
  have htakes : call.takes = question.takes := funext fun j => by
    rw [takes, h, Option.all_some]
  cases call with
  | opening => cases h
  | put key etag document metadata =>
    cases hheaders : Store.putHeaders etag metadata with
    | error f =>
      rw [question?, hheaders] at h
      cases h
    | ok headers =>
      rw [question?, hheaders] at h
      obtain rfl := Option.some.inj h
      refine ⟨?_, rfl, htakes⟩
      rw [perform, StoreCall.perform, Store.put_eq hheaders,
        Store.put_eq (StoreCall.putHeaders_text none headers)]
      rfl
  | names | create | get | delete =>
    obtain rfl := Option.some.inj h
    exact ⟨rfl, rfl, htakes⟩

/-- A call without a question sends nothing, and has an error of the store only if the URL of the
server cannot be read. -/
theorem exec_of_no_question (h : call.question? = none) (s : Store) (w : World) :
    (call.perform.exec s w).2.sent = w.sent ∧
      ∀ error, (call.perform.exec s w).1.1 = .error (.store error) →
        ∃ url unread, error = ⟨call.operation, .serverUrl url unread⟩ := by
  cases call with
  | opening =>
    cases hs : s.session with
    | some session =>
      rw [perform, Store.exec_openSession_of_open hs]
      exact ⟨rfl, fun error herror => by cases herror⟩
    | none =>
      rw [perform]
      cases hopen : Session.open? s.url s.timeout with
      | ok session =>
        obtain ⟨events, hexec⟩ := Store.exec_openSession hs hopen w
        rw [hexec]
        exact ⟨rfl, fun error herror => by cases herror⟩
      | error failure =>
        cases failure with
        | invalid unread =>
          rw [Store.exec_openSession_of_invalid hs hopen]
          refine ⟨rfl, fun error herror => ?_⟩
          exact ⟨_, _, (Failure.store.inj (Except.error.inj herror)).symm⟩
        | encoding unencoded =>
          rw [Store.exec_openSession_of_encoding hs hopen]
          exact ⟨rfl, fun error herror => by cases herror⟩
  | put key etag document metadata =>
    cases hheaders : Store.putHeaders etag metadata with
    | ok headers =>
      rw [question?, hheaders] at h
      cases h
    | error f =>
      rw [perform, exec_bind_error (Store.exec_put_error hheaders key document s w)]
      exact ⟨rfl, fun error herror => by cases herror⟩
  | names | create | get | delete => cases h

/-- A response comes back that is of no use. -/
def Loses (call : ClientCall) (s : Store) (replyTo : Request → Reply) : Prop :=
  ∃ r, call.arrived? s replyTo = some r ∧ call.usable? s replyTo = none

/-- The status of a response of use is that of the response that came back. -/
theorem status_usable_eq_arrived_iff {replyTo : Request → Reply} :
    (call.usable? s replyTo).map Response.status = (call.arrived? s replyTo).map Response.status ↔
      ¬call.Loses s replyTo := by
  cases husable : call.usable? s replyTo with
  | none =>
    rw [Loses, husable]
    cases call.arrived? s replyTo with
    | none => simp
    | some r => simp
  | some received =>
    have harrived : ∃ r, call.arrived? s replyTo = some r ∧ received.status = r.status := by
      obtain ⟨question, hquestion, hreceived⟩ := Option.bind_eq_some_iff.1 husable
      obtain ⟨r, hr, hstatus⟩ := StoreCall.exists_arrived_of_usable hreceived
      exact ⟨r, Option.bind_eq_some_iff.2 ⟨question, hquestion, hr⟩, hstatus⟩
    obtain ⟨r, hr, hstatus⟩ := harrived
    simp [Loses, husable, hr, hstatus]

/-- A call sends its request and no other one, and an error of the store tells what came of it. -/
theorem sent_and_tells (h : (call.perform.exec s w).1.1 = .error (.store error)) :
    (call.perform.exec s w).2.sent = (call.request? s).toList ++ w.sent ∧
      error.Tells call.operation call.takes (call.usable? s w.replyTo) := by
  cases hquestion : call.question? with
  | none =>
    obtain ⟨hsent, herror⟩ := exec_of_no_question hquestion s w
    obtain ⟨url, unread, rfl⟩ := herror error h
    have hnothing : call.usable? s w.replyTo = none := by rw [usable?, hquestion]; rfl
    constructor
    · rw [hsent, request?, hquestion]
      rfl
    · constructor
      all_goals simp [hnothing, StoreError.status?, StoreError.cause?]
  | some question =>
    obtain ⟨hperform, hoperation, htakes⟩ := perform_of_question hquestion
    have husable : call.usable? s w.replyTo = question.usable? s w.replyTo := by
      rw [usable?, hquestion]
      rfl
    have hrequest : call.request? s = (question.sent? s).map Prod.snd := by
      rw [request?, hquestion]
      rfl
    rw [hperform] at h ⊢
    rw [husable, hrequest, hoperation, htakes]
    exact ⟨question.sent_perform s w, (StoreCall.raised h).tells⟩

/-- A call sends one request at most. An error of the store that it raises shows the operation and
the status of the response that was of use, if there was one. This is the status of the response
that came back, or none if none did, exactly unless that response was of no use. The error has a
cause exactly if there was no response of use or its body cannot be read, and none exactly if there
was one that reports an error or holds a value of the wrong form. -/
theorem error_tells_provenance (call : ClientCall) (s : Store) (w : World)
    (h : (call.perform.exec s w).1.1 = .error (.store error)) :
    (call.perform.exec s w).2.sent = (call.request? s).toList ++ w.sent ∧
    (∃ shown : BindingError, (Failure.store error).bindingError? = some shown ∧
      shown.details.get? (.text (Text.ofString "operation")) = some (.text call.operation.name) ∧
      shown.details.get? (.text (Text.ofString "status_code")) =
        error.status?.map (fun status => .int status) ∧
      shown.statusCode = (error.status?.map fun status => .int status).getD .none) ∧
    error.status? = (call.usable? s w.replyTo).map Response.status ∧
    (error.status? = (call.arrived? s w.replyTo).map Response.status ↔
      ¬call.Loses s w.replyTo) ∧
    (error.cause?.isSome = true ↔ call.usable? s w.replyTo = none ∨
      ∃ received unread, call.usable? s w.replyTo = some received ∧ received.isError = false ∧
        Json.parseBody received.body = .error unread) ∧
    (error.cause? = none ↔ ∃ received, call.usable? s w.replyTo = some received ∧
      (received.isError = true ∨
        ∃ j, Json.parseBody received.body = .ok j ∧ call.takes j = false)) := by
  obtain ⟨hsent, htells⟩ := sent_and_tells h
  obtain ⟨shown, hshown, hnamed, hdetails⟩ := error.exists_shown
  refine ⟨hsent, ⟨shown, hshown, htells.named ▸ hnamed, hdetails⟩, htells.status, ?_,
    htells.caused, htells.uncaused⟩
  rw [htells.status]
  exact status_usable_eq_arrived_iff

/-- A document that is no object has the status of its response, and no cause. -/
theorem error_tells_provenance_array :
    let call := get (Text.ofString "k")
    let w := World.answering ⟨200, [], Utf8.encodeAll (Text.ofString "[]")⟩
    ∃ error, (call.perform.exec Store.localhost w).1.1 = .error (.store error) ∧
      error.status? = (call.usable? Store.localhost w.replyTo).map Response.status ∧
      (error.cause? = none ↔ ∃ received, call.usable? Store.localhost w.replyTo = some received ∧
        (received.isError = true ∨
          ∃ j, Json.parseBody received.body = .ok j ∧ call.takes j = false)) := by
  intro call w
  have hraised : (call.perform.exec Store.localhost w).1.1 =
      .error (.store ⟨.get, .document 200 (Text.ofString "k")⟩) := by
    show ((StoreCall.get (Text.ofString "k")).perform.exec Store.localhost w).1.1 = _
    rw [StoreCall.ending_exec rfl]
    rfl
  obtain ⟨-, -, hstatus, -, -, hcause⟩ := error_tells_provenance call Store.localhost w hraised
  exact ⟨_, hraised, hstatus, hcause⟩

/-- The status of a response whose body is not coded as it says is withheld. -/
theorem withholds_status_of_coded :
    let call := get (Text.ofString "k")
    let r : Response := ⟨200, [(Text.ofString "Content-Encoding", Text.ofString "gzip")],
      Utf8.encodeAll (Text.ofString "[]")⟩
    let w := World.answering r
    ∃ error, (call.perform.exec Store.localhost w).1.1 = .error (.store error) ∧
      call.arrived? Store.localhost w.replyTo = some r ∧ error.status? = none := by
  intro call r w
  have hraised : ∃ error, (StoreCall.get (Text.ofString "k")).ending Store.localhost
      Session.localhost w.replyTo = .error (.store error) ∧ error.status? = none := ⟨_, rfl, rfl⟩
  obtain ⟨error, hending, hstatus⟩ := hraised
  refine ⟨error, ?_, rfl, hstatus⟩
  show ((StoreCall.get (Text.ofString "k")).perform.exec Store.localhost w).1.1 = _
  rw [StoreCall.ending_exec rfl]
  exact hending

end ClientCall

end RavenBinding
