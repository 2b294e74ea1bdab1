import RavenBinding.Proofs.Binding.Provisioning
import RavenBinding.Proofs.FieldMap

/-!
# Calls of a store

Each of the five operations of a store asks one question at most: it says what it asks for, asks it,
and makes something of the response. How a call ends is a function of the store, of its session and
of the reply.

## Main definitions

- `Store.asked`: how one question ends
- `StoreCall`: a call of one of the operations
- `StoreCall.ask?`, `StoreCall.finish`: what it asks for, and what it makes of the response
- `StoreCall.ending`: how it ends

## Main statements

- `StoreCall.perform_eq`: a call is one question
- `StoreCall.ending_exec`: a call that is performed ends so
-/

namespace RavenBinding

open StoreAction

namespace StoreAction

variable {α β : Type}

theorem ending_bind_ofExcept (x : StoreAction α) (f : α → Except Failure β) (s : Store)
    (w : World) :
    ((x >>= fun a => ofExcept (f a)).exec s w).1.1 = (x.exec s w).1.1.bind f := by
  rw [exec_bind]
  rcases x.exec s w with ⟨⟨ending, s'⟩, w'⟩
  cases ending with
  | ok a => exact congrArg (fun p => p.1.1) (exec_ofExcept (f a) s' w')
  | error e => rfl

theorem ofExcept_bind_unit (x : Except Failure α) :
    ((ofExcept x : StoreAction α) >>= fun _ => pure ()) = ofExcept (x.map fun _ => ()) := by
  cases x with
  | error f => rfl
  | ok a => rfl

end StoreAction

namespace Store

/-- How a question ends under the replies to requests. -/
def asked (session : Session) (operation : StoreOperation) (ask : Ask) (allow : Bool)
    (replyTo : Request → Reply) : Except Failure Response :=
  match buildRequest session operation ask with
  | .error f => .error f
  | .ok request => (acceptReply session operation ask allow request (replyTo request)).1

variable {s : Store} {session : Session} {operation : StoreOperation} {ask : Ask} {allow : Bool}
  {replyTo : Request → Reply}

theorem asked_of_request {request : Request} (h : session.request ask = .ok request) :
    asked session operation ask allow replyTo =
      (acceptReply session operation ask allow request (replyTo request)).1 := by
  rw [asked, buildRequest_eq_ok_iff.2 h]

theorem ending_send (hs : s.session = some session) (operation : StoreOperation) (ask : Ask)
    (allow : Bool) (w : World) :
    ((send operation ask allow).exec s w).1.1 = asked session operation ask allow w.replyTo := by
  cases h : buildRequest session operation ask with
  | error f =>
    obtain ⟨events, hsend⟩ := exec_send_error allow hs h w
    rw [hsend, asked, h]
  | ok request =>
    obtain ⟨events, hsend⟩ := exec_send_ok allow hs h w
    rw [hsend, asked, h]

end Store

/-- An exchange asks the question that it has for a key. -/
theorem DocumentExchange.perform_eq {α : Type} (x : DocumentExchange α) (key : Text) :
    x.perform key = (do
      let s ← store
      let ask ← ofExcept (x.ask? s key)
      let response ← Store.send x.operation ask x.allowNotFound
      ofExcept (x.finish response)) := by
  rw [perform]
  refine bind_congr fun s => ?_
  rw [ask?]
  cases s.documentPath x.operation key with
  | error f => rfl
  | ok path => rfl

/-- A call of an operation of a store. -/
inductive StoreCall where
  | names (pageSize start : Int)
  | create (definition : DatabaseDefinition)
  | get (key : Text)
  | put (key : Text) (etag : Option Text) (document : Value) (metadata : FieldMap Text Text)
  | delete (key : Text) (etag : Option Text)

namespace StoreCall

/-- Performs the call; what it returns does not matter here. -/
def perform : StoreCall → StoreAction Unit
  | names pageSize start => do
    let _ ← Store.databaseNames pageSize start
    pure ()
  | create definition => Store.createDatabase definition
  | get key => do
    let _ ← Store.get key
    pure ()
  | put key etag document metadata => do
    let _ ← Store.put key etag document (FieldMap.mapValues .text metadata)
    pure ()
  | delete key etag => Store.delete key etag

/-- The operation that the call is of. -/
def operation : StoreCall → StoreOperation
  | names _ _ => .listDatabases
  | create _ => .createDatabase
  | get _ => .get
  | put _ _ _ _ => .put
  | delete _ _ => .delete

/-- A response that nothing was found is no failure of the call. -/
def allowsMissing : StoreCall → Bool
  | get _ | delete _ _ => true
  | names _ _ | create _ | put _ _ _ _ => false

/-- The headers of a write. -/
def headersOf (etag : Option Text) (metadata : FieldMap Text Text) : FieldMap Text Text :=
  match etag with
  | none => metadata
  | some etag => metadata.insert Store.preconditionHeader etag

/-- The question for the names on a page of the listing. -/
def pageAsk (pageSize start : Int) : Ask where
  method := .get
  path := Text.ofString "/databases"
  query := some [(Text.ofString "pageSize", pageSize), (Text.ofString "start", start)]

/-- What the call asks for. -/
def ask? (s : Store) : StoreCall → Except Failure Ask
  | names pageSize start => .ok (pageAsk pageSize start)
  | create definition => do
    let name ← (Percent.encodeSegment definition.id).mapError .encoding
    pure (Store.creationAsk definition name)
  | get key => (Store.getExchange key).ask? s key
  | put key etag document metadata =>
    (Store.putExchange key (headersOf etag metadata) document).ask? s key
  | delete key etag => (Store.deleteExchange etag).ask? s key

/-- What the call makes of a response that was accepted. -/
def finish : StoreCall → Response → Except Failure Unit
  | names _ _, r => (databaseNames r).map fun _ => ()
  | get key, r => ((Store.getExchange key).finish r).map fun _ => ()
  | put key _ _ _, r => (PutResult.ofResponse key r).map fun _ => ()
  | create _, _ | delete _ _, _ => .ok ()

/-- How the call ends under the replies to requests. -/
def ending (call : StoreCall) (s : Store) (session : Session) (replyTo : Request → Reply) :
    Except Failure Unit :=
  (call.ask? s).bind fun ask =>
    (Store.asked session call.operation ask call.allowsMissing replyTo).bind call.finish

theorem putHeaders_text (etag : Option Text) (metadata : FieldMap Text Text) :
    Store.putHeaders etag (FieldMap.mapValues .text metadata) = .ok (headersOf etag metadata) := by
  have hshown : ∀ metadata : FieldMap Text Text,
      ((FieldMap.mapValues Value.text metadata).mapM fun e => do
        let shown ← e.2.display
        pure (e.1, shown) : Except Fault (List (Text × Text))) = .ok metadata := by
    intro metadata
    induction metadata with
    | nil => rfl
    | cons e metadata ih =>
      show (((e.1, Value.text e.2) :: FieldMap.mapValues Value.text metadata).mapM _) = _
      rw [List.mapM_cons, ih]
      rfl
  rw [Store.putHeaders, hshown]
  cases etag with
  | none => rfl
  | some etag => rfl

/-- A call says what it asks for, asks it, and makes something of the response. -/
theorem perform_eq (call : StoreCall) :
    call.perform = (do
      let s ← store
      let ask ← ofExcept (call.ask? s)
      let response ← Store.send call.operation ask call.allowsMissing
      ofExcept (call.finish response)) := by
  have hexchange : ∀ {α : Type} (x : DocumentExchange α) (key : Text),
      (x.perform key >>= fun _ => pure ()) = (do
        let s ← store
        let ask ← ofExcept (x.ask? s key)
        let response ← Store.send x.operation ask x.allowNotFound
        ofExcept ((x.finish response).map fun _ => ())) := by
    intro α x key
    simp only [x.perform_eq, bind_assoc, ofExcept_bind_unit]
  cases call with
  | names pageSize start =>
    show ((Store.send .listDatabases (pageAsk pageSize start) >>= fun response =>
      ofExcept (databaseNames response)) >>= fun _ => pure ()) = _
    simp only [bind_assoc, ofExcept_bind_unit]
    rfl
  | create definition =>
    have hcreate : Store.createDatabase definition =
        (ofExcept ((Percent.encodeSegment definition.id).mapError .encoding) >>= fun name =>
          Store.send .createDatabase (Store.creationAsk definition name) >>= fun _ => pure ()) := rfl
    rw [perform, hcreate]
    simp only [ask?]
    cases Percent.encodeSegment definition.id with
    | error error => rfl
    | ok name => rfl
  | get key =>
    rw [perform, Store.get_eq]
    exact hexchange (Store.getExchange key) key
  | put key etag document metadata =>
    rw [perform, Store.put_eq (putHeaders_text etag metadata)]
    exact hexchange (Store.putExchange key (headersOf etag metadata) document) key
  | delete key etag =>
    rw [perform, Store.delete_eq]
    exact (Store.deleteExchange etag).perform_eq key

/-- A call that is performed while a session is open ends as the reply to its question says. -/
theorem ending_exec {s : Store} {session : Session} (hs : s.session = some session)
    (call : StoreCall) (w : World) :
    (call.perform.exec s w).1.1 = call.ending s session w.replyTo := by
  rw [perform_eq, exec_bind_ok (exec_store s w), ending]
  cases call.ask? s with
  | error f =>
    rw [exec_bind_error (exec_ofExcept _ _ _)]
    rfl
  | ok ask =>
    rw [exec_bind_ok (exec_ofExcept _ _ _), ending_bind_ofExcept, Store.ending_send hs]
    rfl

end StoreCall

end RavenBinding
