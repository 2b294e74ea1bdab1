import RavenBinding.Proofs.Attempt
import RavenBinding.Proofs.Store.Exchange

/-!
# Replies that are accepted

An operation on a document succeeds exactly if its request could be built, the reply is a response
that can be received, its status reports no error (or that nothing was found, where that is
allowed), and the operation can use its body.

## Main statements

- `Store.acceptReply_eq_ok_iff`: the replies that an operation accepts
- `DocumentExchange.ending_eq_ok_iff`: the exchanges that succeed
- `Document.exists_ofResponse_iff`, `PutResult.exists_ofResponse_iff`: the bodies that can be used
-/

namespace RavenBinding

namespace Session

variable {session : Session} {request : Request} {r : Response}

/-- A response whose headers and body are in order sets its cookies and may redirect. -/
theorem receive_eq {headers : Headers} {decoded : Response} {origin : Origin}
    (hheaders : encodeHeaders r.headers = .ok headers) (hdecoded : r.decoded = .ok decoded)
    (horigin : Origin.ofRequest request.url request.headers = .ok origin) :
    session.receive request r =
      ((checkRedirect (session.cookies.receive origin decoded.headers) request decoded).map
        fun _ => decoded,
        { session with cookies := session.cookies.receive origin decoded.headers }) := by
  rw [receive]
  simp only [hheaders, hdecoded, horigin]
  rfl

/-- What was received is the response with its body decoded. -/
theorem decoded_of_receive {received : Response}
    (h : (session.receive request r).1 = .ok received) : r.decoded = .ok received := by
  cases hheaders : encodeHeaders r.headers with
  | error e =>
    rw [receive] at h
    simp only [hheaders] at h
    cases h
  | ok headers =>
    cases hdecoded : r.decoded with
    | error f =>
      rw [receive] at h
      simp only [hheaders, hdecoded] at h
      cases h
    | ok decoded =>
      cases horigin : Origin.ofRequest request.url request.headers with
      | error e =>
        rw [receive] at h
        simp only [hheaders, hdecoded, horigin] at h
        cases h
      | ok origin =>
        rw [receive_eq hheaders hdecoded horigin] at h
        cases hcheck : checkRedirect (session.cookies.receive origin decoded.headers) request
          decoded with
        | error e =>
          rw [hcheck] at h
          cases h
        | ok _ =>
          rw [hcheck] at h
          obtain rfl := Except.ok.inj h
          rfl

/-- What was received has the status of the response. -/
theorem status_of_receive {received : Response}
    (h : (session.receive request r).1 = .ok received) : received.status = r.status := by
  have hdecoded := decoded_of_receive h
  rw [Response.decoded] at hdecoded
  obtain ⟨body, -, hbody⟩ := Attempt.bind_eq_ok_iff.1 hdecoded
  obtain rfl := Except.ok.inj hbody
  rfl

end Session

namespace Store

theorem buildRequest_eq_ok_iff {session : Session} {operation : StoreOperation} {ask : Ask}
    {request : Request} :
    buildRequest session operation ask = .ok request ↔ session.request ask = .ok request :=
  Attempt.mapError_eq_ok_iff

theorem acceptStatus_eq_ok_iff (operation : StoreOperation) (ask : Ask) (allow : Bool)
    (r accepted : Response) :
    acceptStatus operation ask allow r = .ok accepted ↔
      accepted = r ∧ ((allow && r.isNotFound) = true ∨ r.isError = false) := by
  rw [acceptStatus]
  by_cases hallow : (allow && r.isNotFound) = true
  · rw [if_pos hallow]
    constructor
    · intro h
      exact ⟨(Except.ok.inj h).symm, Or.inl hallow⟩
    · rintro ⟨rfl, -⟩
      rfl
  · rw [if_neg hallow]
    by_cases herror : r.isError = true
    · rw [if_pos herror]
      constructor
      · intro h
        cases htext : r.text with
        | error f =>
          rw [htext] at h
          cases h
        | ok t =>
          rw [htext] at h
          cases h
      · rintro ⟨-, h | h⟩
        · exact absurd h hallow
        · exact absurd herror (by simp [h])
    · rw [if_neg herror]
      constructor
      · intro h
        exact ⟨(Except.ok.inj h).symm, Or.inr (by simpa using herror)⟩
      · rintro ⟨rfl, -⟩
        rfl

/-- What was received is judged by its status. -/
theorem acceptReply_of_received {session : Session} {request : Request} {r received : Response}
    (h : (session.receive request r).1 = .ok received) (operation : StoreOperation) (ask : Ask)
    (allow : Bool) :
    (acceptReply session operation ask allow request (.response r)).1 =
      acceptStatus operation ask allow received := by
  rw [acceptReply]
  simp only [h]
  rfl

/-- A response of no use is a failure of its own. -/
theorem acceptReply_of_refused {session : Session} {request : Request} {r : Response}
    {error : ResponseError} (h : (session.receive request r).1 = .error error)
    (operation : StoreOperation) (ask : Ask) (allow : Bool) :
    (acceptReply session operation ask allow request (.response r)).1 =
      .error (responseFailure operation ask error) := by
  rw [acceptReply]
  simp only [h]
  rfl

theorem acceptReply_eq_ok_iff (session : Session) (operation : StoreOperation) (ask : Ask)
    (allow : Bool) (request : Request) (reply : Reply) (accepted : Response) :
    (acceptReply session operation ask allow request reply).1 = .ok accepted ↔
      ∃ r, reply = .response r ∧ (session.receive request r).1 = .ok accepted ∧
        ((allow && accepted.isNotFound) = true ∨ accepted.isError = false) := by
  cases reply with
  | fault f =>
    constructor
    · intro h
      rw [acceptReply] at h
      split at h
      · cases h
      · cases h
    · rintro ⟨r, h, -⟩
      cases h
  | response r =>
    cases hreceive : (session.receive request r).1 with
    | error e =>
      rw [acceptReply_of_refused hreceive]
      constructor
      · intro h
        cases h
      · rintro ⟨s, hs, h, -⟩
        obtain rfl := Reply.response.inj hs
        rw [hreceive] at h
        cases h
    | ok received =>
      rw [acceptReply_of_received hreceive, acceptStatus_eq_ok_iff]
      constructor
      · rintro ⟨rfl, h⟩
        exact ⟨r, rfl, hreceive, h⟩
      · rintro ⟨s, hs, h, hstatus⟩
        obtain rfl := Reply.response.inj hs
        obtain rfl := Except.ok.inj (hreceive.symm.trans h)
        exact ⟨rfl, hstatus⟩

end Store

namespace DocumentExchange

variable {α : Type} {x : DocumentExchange α} {s : Store} {session : Session} {key : Text}
  {replyTo : Request → Reply}

/-- What is asked for is asked for at some path. -/
theorem exists_path {ask : Ask} (h : x.ask? s key = .ok ask) : ∃ path, ask = x.askAt path := by
  obtain ⟨path, -, hask⟩ := Attempt.bind_eq_ok_iff.1 h
  exact ⟨path, (Except.ok.inj hask).symm⟩

/-- A key without a path is a failure of the store. -/
theorem exists_of_ask_error {f : Failure} (h : x.ask? s key = .error f) :
    ∃ error, f = .store ⟨x.operation, .documentKey key error⟩ := by
  rcases Attempt.bind_eq_error_iff.1 h with hpath | ⟨path, -, ⟨⟩⟩
  obtain ⟨error, -, rfl⟩ := Attempt.mapError_eq_error_iff.1 hpath
  exact ⟨error, rfl⟩

theorem request?_eq_ok_iff {request : Request} :
    x.request? s session key = .ok request ↔
      ∃ ask, x.ask? s key = .ok ask ∧
        Store.buildRequest session x.operation ask = .ok request :=
  Attempt.bind_eq_ok_iff

theorem endingOf_eq (ask : Ask) (request : Request) (reply : Reply) :
    x.endingOf session ask request reply =
      ((Store.acceptReply session x.operation ask x.allowNotFound request reply).1.bind x.finish,
        (Store.acceptReply session x.operation ask x.allowNotFound request reply).2) := rfl

theorem ending_of_ask_error {f : Failure} (h : x.ask? s key = .error f) :
    x.ending s session key replyTo = (.error f, session) := by
  rw [ending, h]

/-- An operation without a request fails. -/
theorem ending_of_no_request {f : Failure} (h : x.request? s session key = .error f)
    (replyTo : Request → Reply) : x.ending s session key replyTo = (.error f, session) := by
  rw [ending]
  rcases Attempt.bind_eq_error_iff.1 h with hask | ⟨ask, hask, hbuild⟩
  · rw [hask]
  · rw [hask]
    simp only [hbuild]

theorem ending_of_request {ask : Ask} {request : Request} (hask : x.ask? s key = .ok ask)
    (h : Store.buildRequest session x.operation ask = .ok request) :
    x.ending s session key replyTo = x.endingOf session ask request (replyTo request) := by
  rw [ending, hask]
  simp only [h]

/-- An accepted response is what the operation makes of it. -/
theorem ending_of_accepted {request : Request} {r accepted : Response}
    (hrequest : x.request? s session key = .ok request) (hr : replyTo request = .response r)
    (hreceive : (session.receive request r).1 = .ok accepted)
    (hstatus : (x.allowNotFound && accepted.isNotFound) = true ∨ accepted.isError = false) :
    (x.ending s session key replyTo).1 = x.finish accepted := by
  obtain ⟨ask, hask, hbuild⟩ := request?_eq_ok_iff.1 hrequest
  rw [ending_of_request hask hbuild, endingOf_eq]
  change Except.bind _ _ = _
  rw [(Store.acceptReply_eq_ok_iff _ _ _ _ _ _ _).2 ⟨r, hr, hreceive, hstatus⟩]
  rfl

/-- An operation succeeds with what it makes of an accepted response. -/
theorem ending_eq_ok_iff {result : α} :
    (x.ending s session key replyTo).1 = .ok result ↔
      ∃ request r accepted, x.request? s session key = .ok request ∧
        replyTo request = .response r ∧ (session.receive request r).1 = .ok accepted ∧
        ((x.allowNotFound && accepted.isNotFound) = true ∨ accepted.isError = false) ∧
        x.finish accepted = .ok result := by
  constructor
  · intro h
    cases hask : x.ask? s key with
    | error f =>
      rw [ending_of_ask_error hask] at h
      cases h
    | ok ask =>
      cases hbuild : Store.buildRequest session x.operation ask with
      | error f =>
        rw [ending, hask] at h
        simp only [hbuild] at h
        cases h
      | ok request =>
        rw [ending_of_request hask hbuild, endingOf_eq] at h
        obtain ⟨accepted, haccept, hfinish⟩ := Attempt.bind_eq_ok_iff.1 h
        obtain ⟨r, hr, hreceive, hstatus⟩ := (Store.acceptReply_eq_ok_iff _ _ _ _ _ _ _).1 haccept
        exact ⟨request, r, accepted, request?_eq_ok_iff.2 ⟨ask, hask, hbuild⟩, hr, hreceive,
          hstatus, hfinish⟩
  · rintro ⟨request, r, accepted, hrequest, hr, hreceive, hstatus, hfinish⟩
    rw [ending_of_accepted hrequest hr hreceive hstatus]
    exact hfinish

end DocumentExchange

/-! ### Bodies -/

/-- A document is found in a response that does not say that nothing was found. -/
theorem Store.finish_getExchange_iff {key : Text} {r : Response} {document : Document} :
    (Store.getExchange key).finish r = .ok (some document) ↔
      r.isNotFound = false ∧ Document.ofResponse key r = .ok document := by
  change (if r.isNotFound = true then (.ok none : Except Failure (Option Document))
    else (Document.ofResponse key r).map some) = .ok (some document) ↔ _
  by_cases hnot : r.isNotFound = true
  · rw [if_pos hnot]
    constructor
    · intro h
      cases Except.ok.inj h
    · rintro ⟨h, -⟩
      exact absurd hnot (by simp [h])
  · rw [if_neg hnot, Attempt.map_eq_ok_iff]
    constructor
    · rintro ⟨found, h, hfound⟩
      obtain rfl := Option.some.inj hfound
      exact ⟨by simpa using hnot, h⟩
    · rintro ⟨-, h⟩
      exact ⟨document, h, rfl⟩

/-- A body that cannot be read is a failure of the store. -/
theorem Document.ofResponse_of_error {key : Text} {r : Response} {error : BodyError}
    (h : Json.parseBody r.body = .error error) (hfault : error.fault? = none) :
    Document.ofResponse key r = .error (.store ⟨.get, .body r.status error⟩) := by
  rw [ofResponse, readBody, h, Attempt.mapError_error, hfault]
  rfl

/-- A body that is nested too deeply is none. -/
theorem Document.ofResponse_of_fault {key : Text} {r : Response} {error : BodyError} {f : Fault}
    (h : Json.parseBody r.body = .error error) (hfault : error.fault? = some f) :
    Document.ofResponse key r = .error (.fault f) := by
  rw [ofResponse, readBody, h, Attempt.mapError_error, hfault]
  rfl

theorem Document.ofResponse_of_object (key : Text) {r : Response} {members : List (Text × Json)}
    (h : Json.parseBody r.body = .ok (.object members)) :
    ∃ document, Document.ofResponse key r = .ok document ∧
      document.fields = FieldMap.erase members metadataKey := by
  rw [ofResponse, readBody, h]
  exact ⟨_, rfl, rfl⟩

/-- A body that holds no object is no document. -/
theorem Document.ofResponse_of_not_object {key : Text} {r : Response} {j : Json}
    (h : Json.parseBody r.body = .ok j) (hj : ∀ members, j ≠ .object members) :
    Document.ofResponse key r = .error (.store ⟨.get, .document r.status key⟩) := by
  rw [ofResponse, readBody, h]
  cases j with
  | object members => exact absurd rfl (hj members)
  | _ => rfl

theorem Document.exists_ofResponse_iff {key : Text} {r : Response} {fields : FieldMap Text Json} :
    (∃ document, Document.ofResponse key r = .ok document ∧ document.fields = fields) ↔
      ∃ members, Json.parseBody r.body = .ok (.object members) ∧
        FieldMap.erase members metadataKey = fields := by
  constructor
  · rintro ⟨document, hdocument, rfl⟩
    cases hbody : Json.parseBody r.body with
    | error e =>
      rw [ofResponse, readBody, hbody] at hdocument
      cases hdocument
    | ok j =>
      by_cases hj : ∃ members, j = .object members
      · obtain ⟨members, rfl⟩ := hj
        obtain ⟨document', h, hfields⟩ := ofResponse_of_object key hbody
        obtain rfl := Except.ok.inj (hdocument.symm.trans h)
        exact ⟨members, rfl, hfields.symm⟩
      · rw [ofResponse_of_not_object hbody fun members hm => hj ⟨members, hm⟩] at hdocument
        cases hdocument
  · rintro ⟨members, h, rfl⟩
    exact ofResponse_of_object key h

theorem PutResult.exists_ofResponse_iff {key : Text} {r : Response} :
    (∃ result, PutResult.ofResponse key r = .ok result) ↔
      r.body = [] ∨ ∃ j, Json.parseBody r.body = .ok j := by
  rw [ofResponse]
  cases hempty : r.body with
  | nil => exact ⟨fun _ => Or.inl rfl, fun _ => ⟨_, rfl⟩⟩
  | cons b rest =>
    -- any value will do, also one that is no object
    simp only [List.isEmpty_cons, Bool.false_eq_true, if_false, readBody, hempty, reduceCtorEq,
      false_or]
    cases hbody : Json.parseBody (b :: rest) with
    | error e =>
      constructor
      · rintro ⟨_, h⟩
        cases h
      · rintro ⟨_, h⟩
        cases h
    | ok j =>
      refine ⟨fun _ => ⟨j, rfl⟩, fun _ => ?_⟩
      cases j with
      | object members => exact ⟨_, rfl⟩
      | _ => exact ⟨_, rfl⟩

/-- A body that is nested too deeply makes no receipt. -/
theorem PutResult.ofResponse_of_fault (key : Text) {r : Response} {error : BodyError} {f : Fault}
    (h : Json.parseBody r.body = .error error) (hfault : error.fault? = some f) :
    PutResult.ofResponse key r = .error (.fault f) := by
  have hsome : ¬r.body.isEmpty = true := by
    intro hempty
    rw [List.isEmpty_iff.1 hempty] at h
    obtain rfl := Except.error.inj h
    cases hfault
  rw [ofResponse]
  simp only [if_neg hsome]
  rw [readBody, h, Attempt.mapError_error, hfault]
  rfl

/-- A receipt is made of a response, or its body cannot be read, or is nested too deeply. -/
theorem PutResult.ofResponse_cases (key : Text) (r : Response) :
    (∃ result, PutResult.ofResponse key r = .ok result) ∨
    (∃ error, PutResult.ofResponse key r = .error (.store error)) ∨
    ∃ error f, Json.parseBody r.body = .error error ∧ error.fault? = some f := by
  by_cases hempty : r.body.isEmpty = true
  · exact Or.inl (exists_ofResponse_iff.2 (Or.inl (List.isEmpty_iff.1 hempty)))
  · cases hbody : Json.parseBody r.body with
    | ok j => exact Or.inl (exists_ofResponse_iff.2 (Or.inr ⟨j, hbody⟩))
    | error error =>
      cases hdeep : error.fault? with
      | some f => exact Or.inr (Or.inr ⟨error, f, rfl, hdeep⟩)
      | none =>
        refine Or.inr (Or.inl ⟨⟨.put, .body r.status error⟩, ?_⟩)
        rw [ofResponse]
        simp only [if_neg hempty]
        rw [readBody, hbody, Attempt.mapError_error, hdeep]
        rfl

end RavenBinding
