import RavenBinding.Proofs.Interaction.Run

/-!
# Operations on one document

Getting, putting and deleting a document are one exchange each: a path, a request if one can be
built, its reply, and what the operation makes of the response. An exchange sends its request once
or not at all, and its ending is a function of the store and of the reply.

## Main definitions

- `DocumentExchange`: the parts in which the operations differ
- `DocumentExchange.request?`, `DocumentExchange.ending`: the request and the ending
- `DocumentExchange.after`: the world after it

## Main statements

- `Store.get_eq`, `Store.put_eq`, `Store.delete_eq`: the operations are exchanges
- `DocumentExchange.exec_perform`: what an exchange comes to
-/

namespace RavenBinding

open StoreAction

/-- An operation on one document. -/
structure DocumentExchange (α : Type) where
  operation : StoreOperation
  method : Method
  headers : FieldMap Text Text := []
  content : Option Value := none
  /-- A response that nothing was found is no failure. -/
  allowNotFound : Bool := false
  /-- What is made of a response that was accepted. -/
  finish : Response → Except Failure α

namespace DocumentExchange

variable {α : Type}

/-- What is asked for at a path. -/
def askAt (x : DocumentExchange α) (path : Text) : Ask :=
  { method := x.method, path := path, headers := x.headers, content := x.content }

/-- The operation on a store. -/
def perform (x : DocumentExchange α) (key : Text) : StoreAction α := do
  let s ← store
  let path ← ofExcept (s.documentPath x.operation key)
  let response ← Store.send x.operation (x.askAt path) x.allowNotFound
  ofExcept (x.finish response)

/-- What is asked for. -/
def ask? (x : DocumentExchange α) (s : Store) (key : Text) : Except Failure Ask := do
  let path ← s.documentPath x.operation key
  pure (x.askAt path)

/-- The request, if there is one. -/
def request? (x : DocumentExchange α) (s : Store) (session : Session) (key : Text) :
    Except Failure Request := do
  let ask ← x.ask? s key
  Store.buildRequest session x.operation ask

/-- How the operation ends under a reply to its request, and the session then. -/
def endingOf (x : DocumentExchange α) (session : Session) (ask : Ask) (request : Request)
    (reply : Reply) : Except Failure α × Session :=
  let (accepted, session) :=
    Store.acceptReply session x.operation ask x.allowNotFound request reply
  (accepted.bind x.finish, session)

/-- How the operation ends, and the session then. -/
def ending (x : DocumentExchange α) (s : Store) (session : Session) (key : Text)
    (replyTo : Request → Reply) : Except Failure α × Session :=
  match x.ask? s key with
  | .error f => (.error f, session)
  | .ok ask =>
    match Store.buildRequest session x.operation ask with
    | .error f => (.error f, session)
    | .ok request => x.endingOf session ask request (replyTo request)

/-- The world after the operation. -/
def after (x : DocumentExchange α) (s : Store) (session : Session) (key : Text) (w : World) :
    World :=
  match x.request? s session key with
  | .error _ => w
  | .ok request => (w.exchange request).2

end DocumentExchange

namespace Store

/-- The store with a session. -/
def holding (s : Store) (session : Session) : Store := { s with session := some session }

theorem holding_eq_self {s : Store} {session : Session} (h : s.session = some session) :
    s.holding session = s := by
  rw [holding, ← h]

/-- Getting the document under a key. -/
def getExchange (key : Text) : DocumentExchange (Option Document) where
  operation := .get
  method := .get
  allowNotFound := true
  finish response :=
    if response.isNotFound then .ok none else (Document.ofResponse key response).map some

/-- Storing a document under a key. -/
def putExchange (key : Text) (headers : FieldMap Text Text) (document : Value) :
    DocumentExchange PutResult where
  operation := .put
  method := .put
  headers := headers
  content := some document
  finish := PutResult.ofResponse key

/-- Deleting the document under a key. -/
def deleteExchange (etag : Option Text) : DocumentExchange Unit where
  operation := .delete
  method := .delete
  headers :=
    match etag with
    | none => []
    | some etag => [(preconditionHeader, etag)]
  allowNotFound := true
  finish _ := .ok ()

theorem get_eq (key : Text) : get key = (getExchange key).perform key := by
  have hfinish : ∀ response : Response,
      (if response.isNotFound then pure none
        else do
          let document ← ofExcept (Document.ofResponse key response)
          pure (some document) : StoreAction (Option Document)) =
        ofExcept ((getExchange key).finish response) := by
    intro response
    simp only [getExchange]
    by_cases h : response.isNotFound = true
    · rw [if_pos h, if_pos h]
      rfl
    · rw [if_neg h, if_neg h]
      cases Document.ofResponse key response with
      | ok document => rfl
      | error f => rfl
  simp only [get, DocumentExchange.perform, hfinish]
  rfl

theorem put_eq {etag : Option Text} {metadata : FieldMap Text Value} {headers : FieldMap Text Text}
    (h : putHeaders etag metadata = .ok headers) (key : Text) (document : Value) :
    put key etag document metadata = (putExchange key headers document).perform key := by
  rw [put, h]
  rfl

/-- Metadata without a text keep a document from being put. -/
theorem exec_put_error {etag : Option Text} {metadata : FieldMap Text Value} {f : Fault}
    (h : putHeaders etag metadata = .error f) (key : Text) (document : Value) (s : Store)
    (w : World) : (put key etag document metadata).exec s w = ((.error (.fault f), s), w) := by
  rw [put, h]
  rfl

theorem delete_eq (key : Text) (etag : Option Text) :
    delete key etag = (deleteExchange etag).perform key := rfl

/-! ### Sending -/

variable {s : Store} {session : Session} {operation : StoreOperation} {ask : Ask} (allow : Bool)

theorem exec_logStep (step message : Text) (s : Store) (w : World) :
    ∃ events, (logStep step message).exec s w = ((.ok (), s), w.showing events) :=
  ⟨_, exec_ofProgram _ s w⟩

/-- Without a request nothing is sent. -/
theorem exec_send_error (hs : s.session = some session) {f : Failure}
    (h : buildRequest session operation ask = .error f) (w : World) :
    ∃ events, (send operation ask allow).exec s w = ((.error f, s), w.showing events) := by
  obtain ⟨events, hlog⟩ := exec_logStep (Text.ofString "_send")
    (ask.method.name ++ Text.ofString " " ++ ask.path) s w
  refine ⟨events, ?_⟩
  rw [send, exec_bind_ok (exec_store s w)]
  simp only [hs]
  rw [exec_bind_ok hlog, h]
  exact exec_bind_error (exec_ofExcept _ _ _) _

/-- A request is sent once; the session keeps what its reply sets. -/
theorem exec_send_ok (hs : s.session = some session) {request : Request}
    (h : buildRequest session operation ask = .ok request) (w : World) :
    ∃ events, (send operation ask allow).exec s w =
      (((acceptReply session operation ask allow request (w.replyTo request)).1,
        s.holding (acceptReply session operation ask allow request (w.replyTo request)).2),
        (w.exchange request).2.showing events) := by
  obtain ⟨events, hlog⟩ := exec_logStep (Text.ofString "_send")
    (ask.method.name ++ Text.ofString " " ++ ask.path) s w
  have hask : (ofProgram (Program.ask request)).exec s (w.showing events) =
      ((.ok (w.replyTo request), s), (w.exchange request).2.showing events) := by
    rw [exec_ofProgram]
    change ((Except.ok ((w.showing events).exchange request).1, s),
      ((w.showing events).exchange request).2) = _
    rw [World.exchange_showing]
  refine ⟨events, ?_⟩
  rw [send, exec_bind_ok (exec_store s w)]
  simp only [hs]
  rw [exec_bind_ok hlog, h, exec_bind_ok (exec_ofExcept _ _ _), exec_bind_ok hask]
  exact (exec_bind_ok (exec_replace _ _ _) _).trans (exec_ofExcept _ _ _)

end Store

namespace DocumentExchange

variable {α : Type}

/-- An exchange ends as its reply says, with the session and the world that the reply leaves. -/
theorem exec_perform (x : DocumentExchange α) {s : Store} {session : Session}
    (hs : s.session = some session) (key : Text) (w : World) :
    ∃ events, (x.perform key).exec s w =
      (((x.ending s session key w.replyTo).1,
        s.holding (x.ending s session key w.replyTo).2),
        (x.after s session key w).showing events) := by
  -- without a path or a request, the session and the world stay as they are
  have hself := Store.holding_eq_self hs
  rw [perform, exec_bind_ok (exec_store s w), ending, after, request?]
  cases hpath : s.documentPath x.operation key with
  | error f =>
    refine ⟨w.shown, ?_⟩
    have hask : x.ask? s key = .error f := by rw [ask?, hpath]; rfl
    rw [exec_bind_error (exec_ofExcept _ _ _), hask]
    simp only [hself]
    rfl
  | ok path =>
    have hask : x.ask? s key = .ok (x.askAt path) := by
      rw [ask?, hpath]
      rfl
    rw [exec_bind_ok (exec_ofExcept _ _ _), hask]
    cases hrequest : Store.buildRequest session x.operation (x.askAt path) with
    | error f =>
      obtain ⟨events, hsend⟩ := Store.exec_send_error x.allowNotFound hs hrequest w
      refine ⟨events, ?_⟩
      rw [exec_bind_error hsend]
      simp only [bind, Except.bind, hrequest, hself]
    | ok request =>
      obtain ⟨events, hsend⟩ := Store.exec_send_ok x.allowNotFound hs hrequest w
      refine ⟨events, ?_⟩
      -- the reply decides the session, whether the response is accepted or not
      simp only [bind, Except.bind, hrequest, endingOf]
      rcases haccept : Store.acceptReply session x.operation (x.askAt path) x.allowNotFound request
        (w.replyTo request) with ⟨accepted, after⟩
      rw [haccept] at hsend
      cases accepted with
      | error f => exact exec_bind_error hsend _
      | ok response => exact (exec_bind_ok hsend _).trans (exec_ofExcept _ _ _)

end DocumentExchange

end RavenBinding
