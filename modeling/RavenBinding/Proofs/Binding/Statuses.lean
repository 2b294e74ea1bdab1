import RavenBinding.Proofs.Binding.Operations
import RavenBinding.Proofs.Store.PlainRequest

/-!
# Operations that report success

An operation on a record reports success exactly if its reply can be received, its status is none of
those that report errors, and the operation can use its body. So a status below 200, a redirect that
nobody follows, and a status from 600 on are taken for successes too.

## Main definitions

- `RecordCall.Confirms`: the replies that say that a call was carried out
- `RecordCall.Uses`: the bodies that a call can use

## Main statements

- `RecordCall.reports_ok_iff`: the calls that report success
- `RecordCall.reports_unconfirmed_ok_iff`: those of them without a reply that says so
-/

namespace RavenBinding

open AdapterAction

/-- An adapter with the default settings that holds a store of the local server. -/
def Adapter.localhost : Adapter where
  properties := []
  settings? := some Settings.default
  store? := some Store.localhost
  isInitialized := true

theorem Adapter.ready_localhost :
    Adapter.localhost.Ready Settings.default Store.localhost Session.localhost where
  settings_eq := rfl
  store_eq := rfl
  initialized := rfl
  session := rfl

/-- A world whose server gives a response to the first request. -/
def World.answering (r : Response) : World where
  server := Server.ofNames []
  replies := [some (.response r)]

namespace RecordCall

/-- The call deletes. -/
def deletes : RecordCall → Bool
  | delete _ _ => true
  | _ => false

/-- The reply says that the call was carried out: by a status of success, or because there was
nothing to delete. -/
def Confirms (call : RecordCall) : Reply → Prop
  | .response r =>
    (200 ≤ r.status ∧ r.status ≤ 299) ∨ (call.deletes = true ∧ r.status = 404)
  | .fault _ => False

/-- The call can use the body of a response: a read wants an object whose members can all be read
back, an insert any value or nothing, and a delete does not look. -/
def Uses (settings : Settings) : RecordCall → Response → Prop
  | read _ _ fields _, r =>
    ∃ members, Json.parseBody r.body = .ok (.object members) ∧
      ∀ m ∈ Adapter.membersSought settings fields members, m.2.isReadable = true
  | insert _ _ _, r => r.body = [] ∨ ∃ j, Json.parseBody r.body = .ok j
  | delete _ _, _ => True

/-- The call takes a response that was received for a success. -/
def Accepts (call : RecordCall) (settings : Settings) (received : Response) : Prop :=
  ((call.deletes && received.isNotFound) = true ∨ received.isError = false) ∧
    call.Uses settings received

variable {settings : Settings} {store : Store} {session : Session} {replyTo : Request → Reply}

theorem writeStatus_eq_ok_iff {α : Type} {ending : Except Failure α} :
    Adapter.writeStatus ending = .ok .ok ↔ ∃ result, ending = .ok result := by
  cases ending with
  | ok result => exact ⟨fun _ => ⟨result, rfl⟩, fun _ => rfl⟩
  | error f =>
    constructor
    · intro h
      cases f with
      | store error => exact absurd (Except.ok.inj h) (by decide)
      | _ => cases h
    · rintro ⟨_, h⟩
      cases h

/-- A read that succeeds found a document. -/
theorem exists_document_of_ok {fields : Option (List Text)} {result : ResultMap}
    {ending : Except Failure (Option Document)}
    (h : (Adapter.readOutcome settings fields result ending).status = .ok .ok) :
    ∃ document, ending = .ok (some document) := by
  cases ending with
  | error f =>
    cases f with
    | store error => exact absurd (Except.ok.inj h) (by decide)
    | _ => cases h
  | ok found =>
    cases found with
    | none => exact absurd (Except.ok.inj h) (by decide)
    | some document => exact ⟨document, rfl⟩

/-- A read succeeds with an object that can be read back. -/
theorem readOutcome_eq_ok_iff {key : Text} {fields : Option (List Text)} {result : ResultMap} :
    (Adapter.readOutcome settings fields result
      ((Store.getExchange key).ending store session key replyTo).1).status = .ok .ok ↔
      ∃ request r received, (Store.getExchange key).request? store session key = .ok request ∧
        replyTo request = .response r ∧ (session.receive request r).1 = .ok received ∧
        received.isError = false ∧ ∃ members, Json.parseBody received.body = .ok (.object members) ∧
          ∀ m ∈ Adapter.membersSought settings fields members, m.2.isReadable = true := by
  constructor
  · intro h
    obtain ⟨document, hending⟩ := exists_document_of_ok h
    obtain ⟨request, r, received, hrequest, hreply, hreceive, hstatus, hfinish⟩ :=
      DocumentExchange.ending_eq_ok_iff.1 hending
    obtain ⟨hfound, hdocument⟩ := Store.finish_getExchange_iff.1 hfinish
    obtain ⟨members, hbody, hfields⟩ := Document.exists_ofResponse_iff.1 ⟨document, hdocument, rfl⟩
    obtain ⟨status, hread, -, hbad⟩ :=
      Adapter.exists_readOutcome settings fields result hbody hfields.symm
    rw [hending, hread] at h
    refine ⟨request, r, received, hrequest, hreply, hreceive, ?_, members, hbody, ?_⟩
    · exact hstatus.resolve_left (by simp [hfound])
    · intro m hm
      cases hreadable : m.2.isReadable with
      | true => rfl
      | false =>
        obtain ⟨error, he⟩ := hbad ⟨m, hm, hreadable⟩
        exact absurd (he.symm.trans h) (by rintro ⟨⟩)
  · rintro ⟨request, r, received, hrequest, hreply, hreceive, hstatus, members, hbody, hreadable⟩
    obtain ⟨document, hdocument, hfields⟩ := Document.ofResponse_of_object key hbody
    have hfound : received.isNotFound = false := by
      refine decide_eq_false fun h404 => ?_
      rw [Response.isError, h404] at hstatus
      cases hstatus
    have hending : ((Store.getExchange key).ending store session key replyTo).1 =
        .ok (some document) :=
      DocumentExchange.ending_eq_ok_iff.2 ⟨request, r, received, hrequest, hreply, hreceive,
        Or.inr hstatus, Store.finish_getExchange_iff.2 ⟨hfound, hdocument⟩⟩
    obtain ⟨status, hread, hall, -⟩ :=
      Adapter.exists_readOutcome settings fields result hbody hfields
    rw [hending, hread]
    exact hall hreadable

/-- A call reports success exactly if its request is answered by a response that it accepts. -/
theorem reports_ok_iff (call : RecordCall) :
    (call.outcome settings store session replyTo).1.status = .ok .ok ↔
      ∃ request r received, call.request? store session = .ok request ∧
        replyTo request = .response r ∧ (session.receive request r).1 = .ok received ∧
        call.Accepts settings received := by
  cases call with
  | read table key fields result =>
    -- a read does not take a missing document for a success
    have h404 : ∀ received : Response,
        (RecordCall.read table key fields result).Accepts settings received ↔
          received.isError = false ∧ ∃ members,
            Json.parseBody received.body = .ok (.object members) ∧
            ∀ m ∈ Adapter.membersSought settings fields members, m.2.isReadable = true := by
      intro received
      simp [Accepts, Uses, deletes]
    simp only [h404]
    exact readOutcome_eq_ok_iff
  | insert table key values =>
    -- a record without a document has no request, and its insert raises
    cases hd : Record.document values with
    | error f =>
      rw [outcome, request?, hd]
      constructor
      · rintro ⟨⟩
      · rintro ⟨_, _, _, ⟨⟩, _⟩
    | ok document =>
      rw [outcome, hd, request?_insert hd]
      refine writeStatus_eq_ok_iff.trans ?_
      constructor
      · rintro ⟨result, h⟩
        obtain ⟨request, r, received, hrequest, hreply, hreceive, hstatus, hfinish⟩ :=
          DocumentExchange.ending_eq_ok_iff.1 h
        exact ⟨request, r, received, hrequest, hreply, hreceive, hstatus,
          PutResult.exists_ofResponse_iff.1 ⟨result, hfinish⟩⟩
      · rintro ⟨request, r, received, hrequest, hreply, hreceive, hstatus, huses⟩
        obtain ⟨result, hfinish⟩ := PutResult.exists_ofResponse_iff.2 huses
        exact ⟨result, DocumentExchange.ending_eq_ok_iff.2
          ⟨request, r, received, hrequest, hreply, hreceive, hstatus, hfinish⟩⟩
  | delete table key =>
    refine writeStatus_eq_ok_iff.trans ?_
    constructor
    · rintro ⟨result, h⟩
      obtain ⟨request, r, received, hrequest, hreply, hreceive, hstatus, -⟩ :=
        DocumentExchange.ending_eq_ok_iff.1 h
      exact ⟨request, r, received, hrequest, hreply, hreceive, hstatus, trivial⟩
    · rintro ⟨request, r, received, hrequest, hreply, hreceive, hstatus, -⟩
      exact ⟨(), DocumentExchange.ending_eq_ok_iff.2
        ⟨request, r, received, hrequest, hreply, hreceive, hstatus, rfl⟩⟩

/-- A response that is accepted without saying so has a status outside the successes and errors. -/
theorem accepts_unconfirmed_iff (call : RecordCall) {r received : Response}
    (hsame : received.status = r.status) :
    call.Accepts settings received ∧ ¬call.Confirms (.response r) ↔
      call.Uses settings received ∧
        (r.status < 200 ∨ (300 ≤ r.status ∧ r.status ≤ 399) ∨ 600 ≤ r.status) := by
  have herror : received.isError = false ↔ ¬(400 ≤ r.status ∧ r.status ≤ 599) := by
    simp [Response.isError, hsame]
  have hmissing : (call.deletes && received.isNotFound) = true ↔
      call.deletes = true ∧ r.status = 404 := by
    simp [Response.isNotFound, hsame]
  rw [Accepts, Confirms, hmissing, herror]
  constructor
  · rintro ⟨⟨hstatus, huses⟩, hnot⟩
    obtain ⟨hsuccess, hdeleted⟩ := not_or.1 hnot
    have := hstatus.resolve_left hdeleted
    exact ⟨huses, by omega⟩
  · rintro ⟨huses, hrange⟩
    refine ⟨⟨Or.inr (by omega), huses⟩, ?_⟩
    rintro (hsuccess | ⟨-, h404⟩)
    · omega
    · omega

/-- A call sends its request if it has one, and nothing else. -/
theorem sent_perform {a : Adapter} (h : a.Ready settings store session) (call : RecordCall)
    (w : World) :
    (exec call.perform a w).2.sent =
      match call.request? store session with
      | .error _ => w.sent
      | .ok request => request :: w.sent := by
  obtain ⟨events, hexec⟩ := call.exec_perform h w
  rw [hexec, after]
  cases call.request? store session with
  | error f => rfl
  | ok request => exact World.sent_exchange w request

/-- A call sends one request, and it can report success although the reply does not say that it was
carried out. This happens exactly if the reply is a response that can be received, the call can use
its body, and its status is below 200, from 300 to 399, or from 600 on. -/
theorem reports_unconfirmed_ok_iff {a : Adapter} (h : a.Ready settings store session)
    (call : RecordCall) (w : World) :
    (∀ request, call.request? store session = .ok request →
      (exec call.perform a w).2.sent = request :: w.sent) ∧
    (((exec call.perform a w).1.1.status = .ok .ok ∧
        ¬∃ request, call.request? store session = .ok request ∧
          call.Confirms (w.replyTo request)) ↔
      ∃ request r received, call.request? store session = .ok request ∧
        w.replyTo request = .response r ∧ (session.receive request r).1 = .ok received ∧
        call.Uses settings received ∧
        (r.status < 200 ∨ (300 ≤ r.status ∧ r.status ≤ 399) ∨ 600 ≤ r.status)) := by
  refine ⟨fun request hrequest => by rw [sent_perform h, hrequest], ?_⟩
  obtain ⟨events, hexec⟩ := call.exec_perform h w
  rw [hexec]
  simp only [reports_ok_iff]
  constructor
  · rintro ⟨⟨request, r, received, hrequest, hreply, hreceive, haccepts⟩, hnot⟩
    have hunconfirmed : ¬call.Confirms (.response r) := by
      intro hc
      refine hnot ⟨request, hrequest, ?_⟩
      rw [hreply]
      exact hc
    obtain ⟨huses, hrange⟩ := (call.accepts_unconfirmed_iff
      (Session.status_of_receive hreceive)).1 ⟨haccepts, hunconfirmed⟩
    exact ⟨request, r, received, hrequest, hreply, hreceive, huses, hrange⟩
  · rintro ⟨request, r, received, hrequest, hreply, hreceive, huses, hrange⟩
    obtain ⟨haccepts, hunconfirmed⟩ := (call.accepts_unconfirmed_iff
      (Session.status_of_receive hreceive)).2 ⟨huses, hrange⟩
    refine ⟨⟨request, r, received, hrequest, hreply, hreceive, haccepts⟩, ?_⟩
    rintro ⟨request', hrequest', hconfirms⟩
    obtain rfl := Except.ok.inj (hrequest.symm.trans hrequest')
    rw [hreply] at hconfirms
    exact hunconfirmed hconfirms

/-- A delete that is sent elsewhere reports success. -/
theorem reports_unconfirmed_ok_redirect :
    (exec (delete (Text.ofString "usertable") (Text.ofString "k")).perform Adapter.localhost
      (World.answering ⟨302, [], []⟩)).1.1.status = .ok .ok := by
  obtain ⟨request, hrequest, -, hurl, -⟩ :=
    DocumentExchange.exists_request (s := Store.localhost) Session.base_localhost
      (show _ = true by decide) (by decide) (show (Text.ofString "k").isScalar = true by decide)
      (by decide) (Store.deleteExchange none) ⟨⟨[], rfl⟩, [], rfl⟩
  have hreceive := PlainUrl.receive_eq hurl (Response.isOrdinary_nil 302 []) Session.localhost
  exact ((reports_unconfirmed_ok_iff Adapter.ready_localhost (delete _ _) _).2.2
    ⟨request, _, _, hrequest, rfl, congrArg Prod.fst hreceive, trivial, by decide⟩).1

/-- An insert whose record was not stored reports success: its reply sends it elsewhere. -/
theorem inserts_ok_without_confirmation :
    let values : FieldMap Text Value := [(Text.ofString "f", .bytes .bytes [0x61])]
    let call := insert (Text.ofString "usertable") (Text.ofString "k") values
    let w := World.answering ⟨302, [], []⟩
    (exec call.perform Adapter.localhost w).1.1.status = .ok .ok ∧
      ∀ request, ¬call.Confirms (w.replyTo request) := by
  intro values call w
  obtain ⟨request, hrequest, -, hurl, -⟩ :=
    DocumentExchange.exists_request (s := Store.localhost) Session.base_localhost
      (show _ = true by decide) (by decide) (show (Text.ofString "k").isScalar = true by decide)
      (by decide)
      (Store.putExchange (Text.ofString "k") [] (textMap [(Text.ofString "f", Text.ofString "a")]))
      ⟨⟨[], rfl⟩, _, rfl⟩
  have hreceive := PlainUrl.receive_eq hurl (Response.isOrdinary_nil 302 []) Session.localhost
  obtain ⟨events, hexec⟩ := call.exec_perform Adapter.ready_localhost w
  refine ⟨?_, ?_⟩
  · have hcall : call.request? Store.localhost Session.localhost = .ok request := hrequest
    have hok : (call.outcome Settings.default Store.localhost Session.localhost
        w.replyTo).1.status = .ok .ok :=
      call.reports_ok_iff.2 ⟨request, _, _, hcall, rfl, congrArg Prod.fst hreceive,
        Or.inr (by decide), Or.inl rfl⟩
    rw [hexec]
    exact hok
  · rintro request (hc | hc)
    · exact absurd hc (by decide)
    · exact absurd hc (by decide)

end RecordCall

end RavenBinding
