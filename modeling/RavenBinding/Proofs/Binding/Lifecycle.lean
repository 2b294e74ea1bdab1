import RavenBinding.Proofs.Binding.SetUp
import RavenBinding.Proofs.Binding.Unsent

/-!
# The life of an adapter

An adapter is given properties, set up, cleaned up and called, in any order and in any
surroundings. Its settings, its store and whether it counts as initialized are assigned each by
itself, yet they stay together: whatever has happened to it, it is either without a store, and then
does not count as initialized and refuses every operation on records, or it holds a store with an
open session that belongs to its settings.

## Main definitions

- `AdapterCall`, `AdapterStep`: the operations, and all that is done with an adapter
- `Turn`, `Turn.run`: a step in its surroundings, and a sequence of them
- `Adapter.IsConsistent`: the invariant
- `Adapter.IsOrderly`: what an adapter does in the state that it is in

## Main statements

- `Adapter.IsConsistent.step`: every step keeps the invariant
- `Turn.isOrderly_run`: an adapter is orderly whatever has happened to it
-/

namespace RavenBinding

open AdapterAction

/-- A call of any operation. -/
inductive AdapterCall where
  | record (call : RecordCall)
  | update (table key : Text) (values : FieldMap Text Value)
  | scan (table startKey : Text) (count : Int) (fields : Option (List Text))
    (result : List ResultMap)

/-- Performs the call. What a read writes counts as one result. -/
def AdapterCall.perform : AdapterCall → AdapterAction (Outcome (List ResultMap))
  | record call => do
    let outcome ← call.perform
    pure ⟨[outcome.written], outcome.status⟩
  | update table key values => do
    let status ← Adapter.update table key values
    pure ⟨[], status⟩
  | scan table startKey count fields result => Adapter.scan table startKey count fields result

/-- What can be done with an adapter. -/
inductive AdapterStep where
  | setProperties (properties : Properties)
  | setUp (env : Environment)
  | cleanUp
  | call (c : AdapterCall)

/-- Takes the step; its ending is not looked at. -/
def AdapterStep.perform : AdapterStep → AdapterAction Unit
  | setProperties properties => do
    let a ← StateT.get
    StateT.set (a.setProperties properties)
  | setUp env => do
    let _ ← Adapter.setUp env
    pure ()
  | cleanUp => do
    let _ ← Adapter.cleanUp
    pure ()
  | call c => do
    let _ ← c.perform
    pure ()

/-- A step with the surroundings that it meets: a server, what it replies, and what closing a session
raises. -/
structure Turn where
  step : AdapterStep
  server : Server
  replies : List (Option Reply) := []
  closeFault : Option Fault := none

namespace Turn

/-- The surroundings, when some sessions are open. -/
def world (turn : Turn) (openSessions : Int) : World where
  server := turn.server
  replies := turn.replies
  closeFault := turn.closeFault
  openSessions := openSessions

/-- The adapter and the number of open sessions after a turn. -/
def after (turn : Turn) (start : Adapter × Int) : Adapter × Int :=
  let (((), a), w) := exec turn.step.perform start.1 (turn.world start.2)
  (a, w.openSessions)

/-- The adapter and the number of open sessions after some turns. -/
def run (turns : List Turn) (start : Adapter × Int) : Adapter × Int :=
  turns.foldl (fun state turn => turn.after state) start

end Turn

namespace Adapter

/-- The adapter counts as initialized exactly while it holds a store. That store has an open session,
and it belongs to the settings. -/
structure IsConsistent (a : Adapter) : Prop where
  initialized_iff : a.isInitialized = true ↔ ∃ store, a.store? = some store
  held : ∀ store, a.store? = some store → ∃ settings session, a.settings? = some settings ∧
    store.session = some session ∧ store.database = settings.database ∧
    store.url = settings.url.trimRight (· == CodePoint.ofChar '/')

/-- What an adapter does in the state that it is in. -/
structure IsOrderly (a : Adapter) : Prop where
  initialized_iff : a.isInitialized = true ↔ ∃ store, a.store? = some store
  /-- The store has an open session, and its URL and database are those of the settings. -/
  held : ∀ store, a.store? = some store → ∃ settings, a.settings? = some settings ∧
    store.isOpen = true ∧ store.database = settings.database ∧
    store.url = settings.url.trimRight (· == CodePoint.ofChar '/')
  /-- Setting up that fails changes nothing. -/
  setUp_failed : ∀ env w f, (exec (setUp env) a w).1.1 = .error f → (exec (setUp env) a w).1.2 = a
  cleanUp_idle : ∀ w, (exec cleanUp a w).1.2.isInitialized = false
  /-- An operation on a record raises a run-time error without a request exactly if there is no
  store. -/
  raises_iff : ∀ (call : RecordCall) w,
    ((∃ f, (exec call.perform a w).1.1.status = .error f ∧ f.isRuntimeError = true) ∧
      (exec call.perform a w).2.sent = w.sent) ↔ a.isInitialized = false
  update_eq : ∀ table key values w,
    exec (update table key values) a w = ((.ok .notImplemented, a), w)
  scan_eq : ∀ table startKey count fields result w,
    exec (scan table startKey count fields result) a w =
      ((⟨result, .ok .notImplemented⟩, a), w)

/-! ### Without a store -/

variable {a : Adapter}

/-- Without a store, every operation on a record is refused and nothing happens. -/
theorem exec_perform_of_no_store (h : a.store? = none) (call : RecordCall) (w : World) :
    exec call.perform a w = ((⟨call.given, .error .notInitialized⟩, a), w) := by
  cases call with
  | read table key fields result =>
    rw [RecordCall.perform, read, exec_bind, exec_get]
    simp only [h]
    rfl
  | insert table key values =>
    rw [RecordCall.perform, insert, exec_bind, exec_bind, exec_get]
    simp only [h]
    rfl
  | delete table key =>
    rw [RecordCall.perform, delete, exec_bind, exec_bind, exec_get]
    simp only [h]
    rfl

/-! ### One step -/

theorem isIdle_create (properties : Properties) : (create properties).IsIdle := ⟨rfl, rfl⟩

theorem IsIdle.isConsistent (h : a.IsIdle) : a.IsConsistent where
  initialized_iff := by
    rw [h.initialized, h.store_eq]
    exact ⟨nofun, nofun⟩
  held store hstore := nomatch h.store_eq.symm.trans hstore

theorem isConsistent_holding {settings : Settings} {store : Store} (session : Session)
    (hdatabase : store.database = settings.database)
    (hurl : store.url = settings.url.trimRight (· == CodePoint.ofChar '/')) :
    (a.holding settings (store.holding session)).IsConsistent where
  initialized_iff := ⟨fun _ => ⟨_, rfl⟩, fun _ => rfl⟩
  held := by
    rintro _ ⟨⟩
    exact ⟨settings, session, rfl, rfl, hdatabase, hurl⟩

theorem IsConsistent.setProperties (h : a.IsConsistent) (properties : Properties) :
    (a.setProperties properties).IsConsistent :=
  ⟨h.initialized_iff, h.held⟩

theorem exec_setUp_of_error {env : Environment} {w : World} {f : Failure}
    (h : (exec (setUp env) a w).1.1 = .error f) : (exec (setUp env) a w).1.2 = a := by
  have hends := setsUp env a w
  rcases hexec : exec (setUp env) a w with ⟨⟨ending, a'⟩, w'⟩
  rw [hexec] at h hends
  obtain rfl : ending = .error f := h
  cases hends with
  | misconfigured | unsupported | failed => rfl

theorem IsConsistent.setUp (h : a.IsConsistent) (env : Environment) (w : World) :
    (exec (setUp env) a w).1.2.IsConsistent := by
  have hends := setsUp env a w
  rcases hexec : exec (Adapter.setUp env) a w with ⟨⟨ending, a'⟩, w'⟩
  rw [hexec] at hends
  cases hends with
  | misconfigured | unsupported | failed => exact h
  | ready read url connected =>
    cases connected with
    | ready => exact isConsistent_holding _ rfl rfl

theorem IsConsistent.cases (h : a.IsConsistent) :
    a.IsIdle ∨ ∃ settings store session, a.Ready settings store session ∧
      store.database = settings.database ∧
      store.url = settings.url.trimRight (· == CodePoint.ofChar '/') := by
  cases hstore : a.store? with
  | none =>
    have hinitialized : ¬a.isInitialized = true := by
      rw [h.initialized_iff, hstore]
      exact nofun
    exact Or.inl ⟨Bool.eq_false_iff.2 hinitialized, hstore⟩
  | some store =>
    obtain ⟨settings, session, hsettings, hsession, hbelongs⟩ := h.held store hstore
    exact Or.inr ⟨settings, store, session,
      ⟨hsettings, hstore, h.initialized_iff.2 ⟨store, hstore⟩, hsession⟩, hbelongs⟩

theorem IsConsistent.isIdle_cleanUp (h : a.IsConsistent) (w : World) :
    (exec cleanUp a w).1.2.IsIdle := by
  rcases h.cases with hidle | ⟨settings, store, session, hready, -⟩
  · rw [hidle.exec_cleanUp]
    exact hidle
  · obtain ⟨ending, events, hexec⟩ := hready.exec_cleanUp w
    rw [hexec]
    exact a.isIdle_released

theorem IsConsistent.record (h : a.IsConsistent) (call : RecordCall) (w : World) :
    (exec call.perform a w).1.2.IsConsistent := by
  rcases h.cases with hidle | ⟨settings, store, session, hready, hdatabase, hurl⟩
  · rw [exec_perform_of_no_store hidle.store_eq]
    exact h
  · obtain ⟨events, hexec⟩ := call.exec_perform hready w
    rw [hexec]
    exact isConsistent_holding _ hdatabase hurl

theorem exec_update (a : Adapter) (table key : Text) (values : FieldMap Text Value) (w : World) :
    exec (update table key values) a w = ((.ok .notImplemented, a), w) := rfl

theorem exec_scan (a : Adapter) (table startKey : Text) (count : Int)
    (fields : Option (List Text)) (result : List ResultMap) (w : World) :
    exec (scan table startKey count fields result) a w =
      ((⟨result, .ok .notImplemented⟩, a), w) := rfl

theorem IsConsistent.step (h : a.IsConsistent) (step : AdapterStep) (w : World) :
    (exec step.perform a w).1.2.IsConsistent := by
  cases step with
  | setProperties properties => exact h.setProperties properties
  | setUp env =>
    rw [AdapterStep.perform, exec_bind]
    exact h.setUp env w
  | cleanUp =>
    rw [AdapterStep.perform, exec_bind]
    exact (h.isIdle_cleanUp w).isConsistent
  | call c =>
    rw [AdapterStep.perform, exec_bind]
    cases c with
    | record call =>
      rw [AdapterCall.perform, exec_bind]
      exact h.record call w
    | update => exact h
    | scan => exact h

/-! ### What an adapter does -/

/-- A ready adapter raises no run-time error without sending a request. -/
theorem Ready.sent_ne {settings : Settings} {store : Store} {session : Session}
    (h : a.Ready settings store session) {call : RecordCall} {w : World} {f : Failure}
    (hstatus : (exec call.perform a w).1.1.status = .error f) (hf : f.isRuntimeError = true) :
    (exec call.perform a w).2.sent ≠ w.sent := by
  obtain ⟨events, hexec⟩ := call.exec_perform h w
  rw [hexec] at hstatus ⊢
  cases hrequest : call.request? store session with
  | error g =>
    -- nothing was sent, so the failure is none of a run-time error
    rw [RecordCall.not_isRuntimeError hrequest hstatus] at hf
    cases hf
  | ok request =>
    rw [World.sent_showing, RecordCall.after, hrequest, World.sent_exchange]
    exact List.cons_ne_self request w.sent

theorem IsConsistent.isOrderly (h : a.IsConsistent) : a.IsOrderly where
  initialized_iff := h.initialized_iff
  held store hstore := by
    obtain ⟨settings, session, hsettings, hsession, hbelongs⟩ := h.held store hstore
    have hopen : store.isOpen = true := by
      rw [Store.isOpen, hsession]
      rfl
    exact ⟨settings, hsettings, hopen, hbelongs⟩
  setUp_failed env w f hf := exec_setUp_of_error hf
  cleanUp_idle w := (h.isIdle_cleanUp w).initialized
  raises_iff call w := by
    constructor
    · rintro ⟨⟨f, hstatus, hf⟩, hsent⟩
      rcases h.cases with hidle | ⟨settings, store, session, hready, -⟩
      · exact hidle.initialized
      · exact absurd hsent (hready.sent_ne hstatus hf)
    · intro hinitialized
      rcases h.cases with hidle | ⟨settings, store, session, hready, -⟩
      · rw [exec_perform_of_no_store hidle.store_eq]
        exact ⟨⟨.notInitialized, rfl, rfl⟩, rfl⟩
      · exact nomatch hready.initialized.symm.trans hinitialized
  update_eq := exec_update a
  scan_eq := exec_scan a

end Adapter

/-! ### Any number of steps -/

namespace Turn

theorem isConsistent_run {start : Adapter × Int} (h : start.1.IsConsistent) (turns : List Turn) :
    (run turns start).1.IsConsistent := by
  induction turns generalizing start with
  | nil => exact h
  | cons turn turns ih => exact ih (h.step turn.step (turn.world start.2))

/-- An adapter is orderly whatever has happened to it. It counts as initialized exactly if it holds
a store; this has an open session, and its URL and database are those of the settings. Setting up
that fails leaves the adapter as it was, and cleaning up leaves it without a store. Operations on
records raise a run-time error and send nothing exactly if there is no store; updates and scans are
not implemented and change nothing. -/
theorem isOrderly_run (properties : Properties) (turns : List Turn) :
    (run turns (Adapter.create properties, 0)).1.IsOrderly :=
  (isConsistent_run (Adapter.isIdle_create properties).isConsistent turns).isOrderly

end Turn

end RavenBinding
