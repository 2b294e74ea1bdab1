import RavenBinding.Proofs.Binding.Operations
import RavenBinding.Proofs.Http.SessionRequest
import RavenBinding.Proofs.Record.Stored

/-!
# Calls without a request

A call of a ready adapter that has no request reports an error, or raises the fault of a value that
is no byte string or of a place that nobody can tell. None of these is a run-time error, so a
run-time error without a request means that the adapter is not ready.

## Main definitions

- `Failure.isRuntimeError`: the failures that are raised as run-time errors

## Main statements

- `Record.kind_of_document_error`: the faults of values that are no byte strings
- `RecordCall.not_isRuntimeError`: a call without a request raises no run-time error
-/

namespace RavenBinding

/-- The failure is raised as a run-time error. -/
def Failure.isRuntimeError : Failure → Bool
  | .sessionClosed | .notInitialized => true
  | .fault f => f.kind.isRuntimeError
  | .json error => error.fault.kind.isRuntimeError
  | _ => false

/-! ### Values that are no byte strings -/

namespace Value

theorem kind_of_toByte_error {v : Value} {f : Fault} (h : v.toByte = .error f) :
    f.kind.isRuntimeError = false := by
  have hrange : ∀ i : Int, (if 0 ≤ i ∧ i < 256 then .ok (UInt8.ofNat i.toNat)
      else .error ⟨.valueError, "bytes must be in range(0, 256)"⟩ : Except Fault UInt8) =
      .error f → f.kind.isRuntimeError = false := by
    intro i hi
    split at hi
    · cases hi
    · obtain rfl := Except.error.inj hi
      rfl
  cases v with
  | bool b => exact hrange _ h
  | int i => exact hrange i h
  | _ =>
    obtain rfl := Except.error.inj h
    rfl

theorem kind_of_zeros_error {i : Int} {f : Fault} (h : zeros i = .error f) :
    f.kind.isRuntimeError = false := by
  rw [zeros] at h
  split at h
  · obtain rfl := Except.error.inj h
    rfl
  · split at h
    · obtain rfl := Except.error.inj h
      rfl
    · cases h

theorem kind_of_toByteString_error {v : Value} {f : Fault} (h : v.toByteString = .error f) :
    f.kind.isRuntimeError = false := by
  rw [toByteString.eq_def] at h
  split at h
  · cases h
  · exact kind_of_zeros_error h
  · exact kind_of_zeros_error h
  · obtain ⟨x, -, hx⟩ := Attempt.exists_of_mapM_error h
    exact kind_of_toByte_error hx
  · obtain ⟨x, -, hx⟩ := Attempt.exists_of_mapM_error h
    exact kind_of_toByte_error hx
  · obtain rfl := Except.error.inj h
    rfl

end Value

/-- A record without a document holds a value of a wrong type or range. -/
theorem Record.kind_of_document_error {values : FieldMap Text Value} {f : Fault}
    (h : Record.document values = .error f) : f.kind.isRuntimeError = false := by
  rcases Attempt.bind_eq_error_iff.1 h with h | ⟨_, -, ⟨⟩⟩
  obtain ⟨e, -, he⟩ := Attempt.exists_of_mapM_error h
  rcases Attempt.bind_eq_error_iff.1 he with he | ⟨_, -, ⟨⟩⟩
  rw [Record.fieldText.eq_def] at he
  split at he
  · cases he
  · rcases Attempt.bind_eq_error_iff.1 he with he | ⟨_, -, ⟨⟩⟩
    exact Value.kind_of_toByteString_error he

/-! ### Requests that cannot be built -/

theorem OriginProblem.kind_fault (problem : OriginProblem) :
    problem.fault.kind.isRuntimeError = false := by
  cases problem with
  | _ => rfl

theorem LabelProblem.kind_fault (problem : LabelProblem) :
    problem.fault.kind.isRuntimeError = false := by
  cases problem with
  | _ => rfl

namespace DocumentExchange

variable {α : Type} {x : DocumentExchange α} {s : Store} {session : Session} {key : Text}

/-- Unless its content lacks a JSON form, an operation without a request raises no run-time error. -/
theorem not_isRuntimeError {f : Failure} (h : x.request? s session key = .error f)
    (hbody : ∀ path fault, (x.askAt path).body? ≠ .error (.json fault)) :
    f.isRuntimeError = false := by
  rcases Attempt.bind_eq_error_iff.1 h with hask | ⟨ask, hask, hbuild⟩
  · obtain ⟨error, rfl⟩ := exists_of_ask_error hask
    rfl
  · obtain ⟨path, rfl⟩ := exists_path hask
    obtain ⟨error, hrequest, rfl⟩ := Attempt.mapError_eq_error_iff.1 hbuild
    cases error with
    | url failure =>
      cases failure with
      | invalid error => rfl
      | encoding error => rfl
    | json fault =>
      rcases Session.json_of_request hrequest with ⟨query, ⟨⟩, -⟩ | hwritten
      exact absurd hwritten (hbody path fault)
    | origin problem => exact problem.kind_fault
    | host problem => exact problem.kind_fault

end DocumentExchange

theorem Record.requestBody_ne_json (document : FieldMap Text Text) (fault : JsonFault) :
    Json.requestBody (textMap document) ≠ .error (.json fault) := by
  rw [Json.requestBody, toJson?_textMap]
  intro h
  obtain ⟨error, -, ⟨⟩⟩ := Attempt.mapError_eq_error_iff.1 h

/-- A call without a request ends with a status, or raises something other than a run-time error. -/
theorem RecordCall.not_isRuntimeError {call : RecordCall} {settings : Settings} {store : Store}
    {session : Session} {f g : Failure} (h : call.request? store session = .error f)
    {replyTo : Request → Reply}
    (hstatus : (call.outcome settings store session replyTo).1.status = .error g) :
    g.isRuntimeError = false := by
  -- a failure of the store is reported as a status, and any other is passed on
  have hpassed : ∀ {f : Failure}, f.isRuntimeError = false → ∀ {α : Type} {status},
      status = Adapter.writeStatus (.error f : Except Failure α) → status = .error g →
      g.isRuntimeError = false := by
    rintro f hf α _ rfl hg
    cases f with
    | store error => cases hg
    | _ =>
      obtain rfl := Except.error.inj hg
      exact hf
  cases call with
  | read table key fields result =>
    have hf := DocumentExchange.not_isRuntimeError h fun _ _ => by rintro ⟨⟩
    rw [outcome_read (DocumentExchange.ending_of_no_request h replyTo)] at hstatus
    refine hpassed hf (α := Unit) ?_ hstatus
    cases f with
    | _ => rfl
  | insert table key values =>
    cases hd : Record.document values with
    | error fault =>
      rw [outcome, hd] at hstatus
      obtain rfl := Except.error.inj hstatus
      exact Record.kind_of_document_error hd
    | ok document =>
      rw [request?_insert hd] at h
      have hf := DocumentExchange.not_isRuntimeError h fun _ => Record.requestBody_ne_json document
      rw [outcome_insert hd (DocumentExchange.ending_of_no_request h replyTo)] at hstatus
      exact hpassed hf rfl hstatus
  | delete table key =>
    have hf := DocumentExchange.not_isRuntimeError h fun _ _ => by rintro ⟨⟩
    rw [outcome_delete (DocumentExchange.ending_of_no_request h replyTo)] at hstatus
    exact hpassed hf rfl hstatus

end RavenBinding
