import RavenBinding.Proofs.Binding.Unsent
import RavenBinding.Proofs.Store.Provenance

/-!
# The life of a session

The session of a store is opened and closed, by name or around a block, in any order and in any
surroundings. It is open exactly if the last step that changed the store opened it. A call of a
closed store fails and does nothing else. It fails with a run-time error unless its path or its
headers cannot be made: both are made before the session is looked for.

## Main definitions

- `SessionStep`, `SessionTurn`: a step in the life of a session, and the surroundings that it meets
- `SessionTurn.run`, `SessionTurn.effects`: the store after some turns, and which of them changed it
- `ClientCall.Unprepared`: the calls that fail before the session is looked for

## Main statements

- `SessionTurn.after_cases`, `SessionTurn.isOpen_after`: what one turn comes to
- `SessionTurn.isOpen_run`: what any turns come to
- `ClientCall.exec_closed`: what a call of a closed store comes to
- `SessionTurn.closed_call_fails`: when a session is open, and how calls fail without one
-/

namespace RavenBinding

open StoreAction

/-! ### Steps -/

/-- Opening a closed store opens its session, or fails and does nothing. -/
theorem Store.openSession_cases {s : Store} (hs : s.session = none) (w : World) :
    (∃ session events, openSession.exec s w =
      ((.ok (), s.holding session), w.opening.showing events)) ∨
    ∃ f, openSession.exec s w = ((.error f, s), w) := by
  cases hopen : Session.open? s.url s.timeout with
  | ok session =>
    obtain ⟨events, hexec⟩ := exec_openSession hs hopen w
    exact Or.inl ⟨session, events, hexec⟩
  | error failure =>
    right
    cases failure with
    | invalid error => exact ⟨_, exec_openSession_of_invalid hs hopen w⟩
    | encoding error => exact ⟨_, exec_openSession_of_encoding hs hopen w⟩

/-- A step in the life of a session. -/
inductive SessionStep where
  | opening
  | closing
  /-- Enters a block with the store. -/
  | entering
  /-- Leaves the block. -/
  | leaving
  deriving DecidableEq, Repr

namespace SessionStep

/-- The step is to open the session. -/
def opens : SessionStep → Bool
  | opening | entering => true
  | closing | leaving => false

/-- Takes the step. A block has its session open inside. -/
def perform : SessionStep → StoreAction Unit
  | opening | entering => Store.openSession
  | closing | leaving => Store.closeSession

variable {step : SessionStep}

theorem perform_of_opens (h : step.opens = true) : step.perform = Store.openSession := by
  cases step with
  | opening | entering => rfl
  | closing | leaving => cases h

theorem perform_of_closes (h : step.opens = false) : step.perform = Store.closeSession := by
  cases step with
  | opening | entering => cases h
  | closing | leaving => rfl

/-- To open what is open, or to close what is closed, is to do nothing. -/
theorem exec_idle {s : Store} (h : step.opens = s.isOpen) (w : World) :
    step.perform.exec s w = ((.ok (), s), w) := by
  cases hs : s.session with
  | none =>
    rw [perform_of_closes (h.trans (by rw [Store.isOpen, hs]; rfl))]
    exact Store.exec_closeSession_of_closed hs w
  | some session =>
    rw [perform_of_opens (h.trans (by rw [Store.isOpen, hs]; rfl))]
    exact Store.exec_openSession_of_open hs w

end SessionStep

/-- A step in the surroundings that it meets. -/
structure SessionTurn where
  step : SessionStep
  world : World

namespace SessionTurn

/-- How a turn ends. -/
def ending (turn : SessionTurn) (s : Store) : Except Failure Unit :=
  (turn.step.perform.exec s turn.world).1.1

/-- The store after a turn. -/
def after (turn : SessionTurn) (s : Store) : Store := (turn.step.perform.exec s turn.world).1.2

/-- The store after some turns. -/
def run (s : Store) (turns : List SessionTurn) : Store :=
  turns.foldl (fun s turn => turn.after s) s

/-- The steps that change the store, with their endings. -/
def effects (s : Store) : List SessionTurn → List (SessionStep × Except Failure Unit)
  | [] => []
  | turn :: turns =>
    if turn.after s = s then effects s turns
    else (turn.step, turn.ending s) :: effects (turn.after s) turns

/-! ### One turn -/

/-- A turn changes nothing, or opens the session and returns, or closes the session. If it changes
nothing, the store is as asked for, or was closed and could not be opened. -/
theorem after_cases (turn : SessionTurn) (s : Store) :
    (turn.after s = s ∧ s.isOpen = (turn.step.opens && (turn.ending s).isOk)) ∨
      (turn.step.opens = true ∧ turn.ending s = .ok () ∧
        ∃ session, turn.after s = s.holding session) ∨
      (turn.step.opens = false ∧ turn.after s = s.released) := by
  rw [after, ending]
  by_cases hidle : turn.step.opens = s.isOpen
  · rw [SessionStep.exec_idle hidle, hidle]
    exact Or.inl ⟨rfl, (Bool.and_true _).symm⟩
  cases hs : s.session with
  | none =>
    have hopens : turn.step.opens = true := by
      rw [Store.isOpen, hs] at hidle
      exact Bool.of_not_eq_false hidle
    rw [SessionStep.perform_of_opens hopens]
    rcases Store.openSession_cases hs turn.world with ⟨session, events, hexec⟩ | ⟨f, hexec⟩
    · rw [hexec]
      exact Or.inr (Or.inl ⟨hopens, rfl, session, rfl⟩)
    · rw [hexec, Store.isOpen, hs]
      exact Or.inl ⟨rfl, (Bool.and_false _).symm⟩
  | some session =>
    have hcloses : turn.step.opens = false := by
      rw [Store.isOpen, hs] at hidle
      exact Bool.of_not_eq_true hidle
    rw [SessionStep.perform_of_closes hcloses]
    obtain ⟨events, hexec⟩ := Store.exec_closeSession hs turn.world
    rw [hexec]
    exact Or.inr (Or.inr ⟨hcloses, rfl⟩)

/-- A turn leaves the store open exactly if it is an opening that returns. -/
theorem isOpen_after (turn : SessionTurn) (s : Store) :
    (turn.after s).isOpen = (turn.step.opens && (turn.ending s).isOk) := by
  rcases turn.after_cases s with
    ⟨hafter, hopen⟩ | ⟨hopens, hending, session, hafter⟩ | ⟨hcloses, hafter⟩
  · rw [hafter, hopen]
  · rw [hopens, hending, hafter]
    rfl
  · rw [hcloses, hafter]
    rfl

theorem database_after (turn : SessionTurn) (s : Store) :
    (turn.after s).database = s.database := by
  rcases turn.after_cases s with ⟨hafter, -⟩ | ⟨-, -, session, hafter⟩ | ⟨-, hafter⟩
  · rw [hafter]
  · rw [hafter]
    rfl
  · rw [hafter]
    rfl

/-! ### Any number of turns -/

theorem database_run (s : Store) (turns : List SessionTurn) :
    (run s turns).database = s.database := by
  induction turns generalizing s with
  | nil => rfl
  | cons turn turns ih => exact (ih (turn.after s)).trans (turn.database_after s)

/-- The last turn that changed the store says whether its session is open. -/
theorem isOpen_run (s : Store) (turns : List SessionTurn) :
    (run s turns).isOpen =
      match (effects s turns).getLast? with
      | none => s.isOpen
      | some (step, ending) => step.opens && ending.isOk := by
  induction turns generalizing s with
  | nil => rfl
  | cons turn turns ih =>
    show (run (turn.after s) turns).isOpen = _
    rw [ih, effects]
    by_cases hsame : turn.after s = s
    · rw [if_pos hsame, hsame]
    · rw [if_neg hsame, List.getLast?_cons]
      cases (effects (turn.after s) turns).getLast? with
      | none => exact turn.isOpen_after s
      | some last => rfl

/-- A store that was closed is open exactly if the last turn that changed it was an opening that
returned. -/
theorem isOpen_run_iff {s : Store} (hs : s.isOpen = false) (turns : List SessionTurn) :
    (run s turns).isOpen = true ↔
      ∃ step, (effects s turns).getLast? = some (step, .ok ()) ∧ step.opens = true := by
  rw [isOpen_run]
  cases (effects s turns).getLast? with
  | none =>
    rw [hs]
    exact ⟨nofun, fun ⟨_, h, _⟩ => nomatch h⟩
  | some last =>
    obtain ⟨step, ending⟩ := last
    cases ending with
    | ok u => simp [Except.isOk, Except.toBool]
    | error f => simp [Except.isOk, Except.toBool]

end SessionTurn

/-! ### Calls of a closed store -/

/-- A document has a path exactly if its database and its key have an encoding. -/
theorem DocumentExchange.exists_ask?_iff {α : Type} (x : DocumentExchange α) {s : Store}
    {key : Text} :
    (∃ ask, x.ask? s key = .ok ask) ↔ s.database.isScalar = true ∧ key.isScalar = true := by
  constructor
  · rintro ⟨ask, hask⟩
    obtain ⟨path, hpath, -⟩ := Attempt.bind_eq_ok_iff.1 hask
    obtain ⟨database, hdatabase, hrest⟩ :=
      Attempt.bind_eq_ok_iff.1 (Attempt.mapError_eq_ok_iff.1 hpath)
    obtain ⟨encoded, hkey, -⟩ := Attempt.bind_eq_ok_iff.1 hrest
    exact ⟨(Percent.encodeSegment_eq_ok hdatabase).1, (Percent.encodeSegment_eq_ok hkey).1⟩
  · rintro ⟨hd, hk⟩
    rw [ask?, s.documentPath_of_isScalar x.operation hd hk]
    exact ⟨_, rfl⟩

namespace StoreCall

/-- The texts in the path of a call have an encoding. -/
def HasPath (database : Text) : StoreCall → Prop
  | names _ _ => True
  | create definition => definition.id.isScalar = true
  | get key | put key _ _ _ | delete key _ => database.isScalar = true ∧ key.isScalar = true

variable {call : StoreCall} {s : Store}

theorem exists_ask?_iff : (∃ ask, call.ask? s = .ok ask) ↔ call.HasPath s.database := by
  cases call with
  | names pageSize start => exact iff_of_true ⟨_, rfl⟩ trivial
  | create definition =>
    constructor
    · rintro ⟨ask, hask⟩
      obtain ⟨name, hname, -⟩ := Attempt.bind_eq_ok_iff.1 hask
      exact (Percent.encodeSegment_eq_ok (Attempt.mapError_eq_ok_iff.1 hname)).1
    · intro h
      rw [ask?, Percent.encodeSegment_of_isScalar h]
      exact ⟨_, rfl⟩
  | get key => exact (Store.getExchange key).exists_ask?_iff
  | put key etag document metadata =>
    exact (Store.putExchange key (headersOf etag metadata) document).exists_ask?_iff
  | delete key etag => exact (Store.deleteExchange etag).exists_ask?_iff

/-- A path that cannot be made is no run-time error. -/
theorem not_isRuntimeError_of_ask? {f : Failure} (h : call.ask? s = .error f) :
    f.isRuntimeError = false := by
  rcases call.ask?_cases s with ⟨ask, hask⟩ | ⟨error, hask⟩ | ⟨definition, rfl, hname⟩
  · cases h.symm.trans hask
  · obtain rfl := Except.error.inj (h.symm.trans hask)
    rfl
  · obtain ⟨unencoded, hencode⟩ := Percent.encodeSegment_of_not_isScalar hname
    rw [ask?, hencode] at h
    obtain rfl := Except.error.inj h
    rfl

/-- The path of a call comes before its session. -/
theorem exec_closed (hs : s.session = none) (call : StoreCall) (w : World) :
    ∃ f, call.perform.exec s w = ((.error f, s), w) ∧
      (f.isRuntimeError = true ↔ call.HasPath s.database) := by
  rw [perform_eq, exec_bind_ok (exec_store s w)]
  cases hask : call.ask? s with
  | error f =>
    refine ⟨f, exec_bind_error (exec_ofExcept _ s w) _, iff_of_false ?_ ?_⟩
    · rw [not_isRuntimeError_of_ask? hask]
      exact Bool.false_ne_true
    · intro hpath
      obtain ⟨ask, h⟩ := exists_ask?_iff.2 hpath
      cases hask.symm.trans h
  | ok ask =>
    refine ⟨.sessionClosed, ?_, iff_of_true rfl (exists_ask?_iff.1 ⟨ask, hask⟩)⟩
    rw [exec_bind_ok (exec_ofExcept _ s w)]
    exact exec_bind_error (Store.exec_send_closed hs _ ask _ w) _

end StoreCall

namespace ClientCall

/-- The calls that fail for a reason of their own before the session is looked for. -/
inductive Unprepared (call : ClientCall) (database : Text) : Prop where
  /-- A text in the path has no encoding. -/
  | path {question : StoreCall} (asked : call.question? = some question)
    (unencoded : ¬question.HasPath database)
  /-- A value of the metadata has no text, and that is not for want of stack. -/
  | metadata {key : Text} {etag : Option Text} {document : Value} {metadata : FieldMap Text Value}
    {fault : Fault} (puts : call = put key etag document metadata)
    (unshown : Store.putHeaders etag metadata = .error fault)
    (kind : fault.kind.isRuntimeError = false)

variable {call : ClientCall} {s : Store}

theorem unprepared_iff_of_question {question : StoreCall} (h : call.question? = some question)
    {database : Text} : call.Unprepared database ↔ ¬question.HasPath database := by
  refine ⟨fun hunprepared => ?_, .path h⟩
  cases hunprepared with
  | path asked unencoded =>
    obtain rfl := Option.some.inj (h.symm.trans asked)
    exact unencoded
  | metadata puts unshown kind =>
    rw [puts, question?, unshown] at h
    cases h

/-- Without a question there are metadata without a text. -/
theorem exists_of_no_question (h : call.question? = none) (hcall : call ≠ .opening) :
    ∃ key etag document metadata fault, call = put key etag document metadata ∧
      Store.putHeaders etag metadata = .error fault := by
  cases call with
  | opening => exact absurd rfl hcall
  | put key etag document metadata =>
    cases hheaders : Store.putHeaders etag metadata with
    | error fault => exact ⟨key, etag, document, metadata, fault, rfl, hheaders⟩
    | ok headers =>
      rw [question?, hheaders] at h
      cases h
  | names | create | get | delete => cases h

/-- A call of a closed store fails and does nothing else. The failure is a run-time error exactly if
the call has a path and headers. -/
theorem exec_closed (hs : s.session = none) (hcall : call ≠ .opening) (w : World) :
    ∃ f, call.perform.exec s w = ((.error f, s), w) ∧
      (f.isRuntimeError = true ↔ ¬call.Unprepared s.database) := by
  cases hquestion : call.question? with
  | some question =>
    obtain ⟨f, hexec, hruntime⟩ := question.exec_closed hs w
    refine ⟨f, ?_, ?_⟩
    · rw [(perform_of_question hquestion).1, hexec]
    · rw [hruntime, unprepared_iff_of_question hquestion, not_not]
  | none =>
    obtain ⟨key, etag, document, metadata, fault, rfl, hheaders⟩ :=
      exists_of_no_question hquestion hcall
    refine ⟨.fault fault, exec_bind_error (Store.exec_put_error hheaders key document s w) _, ?_⟩
    show fault.kind.isRuntimeError = true ↔ _
    cases hkind : fault.kind.isRuntimeError with
    | false => exact iff_of_false nofun (not_not.2 (.metadata rfl hheaders hkind))
    | true =>
      refine iff_of_true rfl fun hunprepared => ?_
      cases hunprepared with
      | path asked unencoded => cases hquestion.symm.trans asked
      | metadata puts unshown kind =>
        obtain ⟨rfl, rfl, rfl, rfl⟩ := ClientCall.put.inj puts
        obtain rfl := Except.error.inj (hheaders.symm.trans unshown)
        cases hkind.symm.trans kind

end ClientCall

namespace SessionTurn

/-- The session of a store that was made is open after any turns exactly if the last turn that
changed the store was an opening that returned; every turn leaves it open exactly if it is such an
opening itself. To open it again, or to close it again, changes nothing. While it is closed, every
call fails, sends nothing and changes nothing. The failure is a run-time error, unless a text in the
path of the call has no encoding or a value of its metadata no text. -/
theorem closed_call_fails (url database : Text) (timeout : Timeout) (turns : List SessionTurn)
    (call : ClientCall) (hcall : call ≠ .opening) :
    let store := run (Store.create url database timeout) turns
    (store.isOpen = true ↔ ∃ step,
      (effects (Store.create url database timeout) turns).getLast? = some (step, .ok ()) ∧
        step.opens = true) ∧
    (∀ turn : SessionTurn,
      (turn.after store).isOpen = (turn.step.opens && (turn.ending store).isOk)) ∧
    (∀ (step : SessionStep) w, step.opens = store.isOpen →
      step.perform.exec store w = ((.ok (), store), w)) ∧
    (store.isOpen = false → ∀ w, ∃ f, call.perform.exec store w = ((.error f, store), w) ∧
      (f.isRuntimeError = true ↔ ¬call.Unprepared database)) := by
  intro store
  refine ⟨isOpen_run_iff rfl turns, fun turn => turn.isOpen_after store,
    fun step w h => SessionStep.exec_idle h w, fun hclosed w => ?_⟩
  have hdatabase : store.database = database := database_run _ turns
  have hnone : store.session = none :=
    Option.not_isSome_iff_eq_none.1 (Bool.eq_false_iff.1 hclosed)
  obtain ⟨f, hexec, hruntime⟩ := ClientCall.exec_closed hnone hcall w
  rw [hdatabase] at hruntime
  exact ⟨f, hexec, hruntime⟩

/-- A store is open inside a block, and refuses a listing after it with a run-time error. -/
theorem closed_call_fails_after_block :
    let w : World := { server := ⟨[], 1⟩ }
    let made := Store.create (Text.ofString "http://localhost:10301") (Text.ofString "YCSB")
      (.whole 5)
    let store := run made [⟨.entering, w⟩, ⟨.opening, w⟩, ⟨.leaving, w⟩]
    let call := ClientCall.names 128 0
    (run made [⟨.entering, w⟩]).isOpen = true ∧ call ≠ .opening ∧ store.isOpen = false ∧
      ¬call.Unprepared (Text.ofString "YCSB") ∧
      ∃ f, call.perform.exec store w = ((.error f, store), w) ∧ f.isRuntimeError = true := by
  intro w made store call
  have hinside : (run made [⟨.entering, w⟩]).isOpen = true := by decide +kernel
  have hcall : call ≠ .opening := nofun
  have hclosed : store.isOpen = false := by decide +kernel
  obtain ⟨-, -, -, hfails⟩ := closed_call_fails (Text.ofString "http://localhost:10301")
    (Text.ofString "YCSB") (.whole 5) [⟨.entering, w⟩, ⟨.opening, w⟩, ⟨.leaving, w⟩] call hcall
  -- there is nothing in the path of a listing that could fail first
  have hprepared : ¬call.Unprepared (Text.ofString "YCSB") := by
    rw [ClientCall.unprepared_iff_of_question rfl]
    exact fun h => h trivial
  obtain ⟨f, hexec, hruntime⟩ := hfails hclosed w
  exact ⟨hinside, hcall, hclosed, hprepared, f, hexec, hruntime.2 hprepared⟩

/-- A key without an encoding hides from the caller that the store is closed. -/
theorem closed_get_raises_store_error :
    let store := Store.create (Text.ofString "http://localhost:10301") (Text.ofString "YCSB")
      (.whole 5)
    store.isOpen = false ∧ ∃ error,
      ((ClientCall.get [0xD800]).perform.exec store { server := ⟨[], 1⟩ }).1.1 =
        .error (.store error) := by
  intro store
  exact ⟨rfl, _, rfl⟩

end SessionTurn

end RavenBinding
