import RavenBinding.Proofs.Record.ReadBack
import RavenBinding.Proofs.Store.Acceptance

/-!
# Operations on records

What reading, inserting and deleting a record come to while the adapter is ready: each is one
exchange with the store at most, and its outcome is a function of the settings, of the store and of
the reply.

## Main definitions

- `Adapter.Ready`: the adapter counts as initialized and holds a store with an open session
- `Adapter.IsIdle`: the adapter does not count as initialized and holds no store
- `RecordCall`, `RecordCall.perform`: a call of an operation
- `RecordCall.request?`, `RecordCall.outcome`: its request and its outcome

## Main statements

- `RecordCall.exec_perform`: what a call comes to
-/

namespace RavenBinding

namespace Adapter

/-- The adapter counts as initialized, and it holds settings and a store whose session is open. -/
structure Ready (a : Adapter) (settings : Settings) (store : Store) (session : Session) : Prop where
  settings_eq : a.settings? = some settings
  store_eq : a.store? = some store
  initialized : a.isInitialized = true
  session : store.session = some session

/-- The adapter does not count as initialized, and it holds no store. -/
structure IsIdle (a : Adapter) : Prop where
  initialized : a.isInitialized = false
  store_eq : a.store? = none

/-- The adapter with a store and its settings. -/
def holding (a : Adapter) (settings : Settings) (store : Store) : Adapter :=
  { a with settings? := some settings, store? := some store, isInitialized := true }

section Ready

variable {a : Adapter} {settings : Settings} {store : Store} {session : Session}

/-- A ready adapter that puts a store in place of its own has the same settings. -/
theorem Ready.with_store (h : a.Ready settings store session) (store' : Store) :
    { a with store? := some store' } = a.holding settings store' := by
  rw [holding, ← h.settings_eq, ← h.initialized]

theorem Ready.holding_eq (h : a.Ready settings store session) :
    a.holding settings (store.holding session) = a := by
  rw [← h.with_store, Store.holding_eq_self h.session, ← h.store_eq]

end Ready

/-- The status of an operation without a result of its own. -/
def writeStatus {α : Type} : Except Failure α → Except Failure Status
  | .ok _ => .ok .ok
  | .error (.store _) => .ok .error
  | .error failure => .error failure

/-- The fields that a read looks for, all of them if none are named or the field filter is off. -/
def wanted (settings : Settings) (fields : Option (List Text)) : Option (List Text) :=
  if settings.applyFieldFilter then fields else none

/-- The members of an object that a read looks for. -/
def membersSought {α : Type} (settings : Settings) (fields : Option (List Text))
    (members : FieldMap Text α) : FieldMap Text α :=
  Record.wantedMembers (wanted settings fields) (FieldMap.erase members metadataKey)

/-- What a read writes for the members that it looks for. -/
def fieldsOf (members : FieldMap Text Json) : FieldMap Text Bytes :=
  FieldMap.mapValues Json.bytes (Record.readable members)

/-- The status of a read whose writing ended as given. -/
def fillStatus : Except WriteError Unit → Except Failure Status
  | .ok () => .ok .ok
  | .error error => .error (.ofWriteError error)

/-- What a read makes of the document that it got. -/
def readOutcome (settings : Settings) (fields : Option (List Text)) (result : ResultMap) :
    Except Failure (Option Document) → Outcome ResultMap
  | .error (.store _) => ⟨result, .ok .error⟩
  | .error failure => ⟨result, .error failure⟩
  | .ok none => ⟨result, .ok .notFound⟩
  | .ok (some document) =>
    let (filled, ending) := Record.fill (wanted settings fields) result
      (document.fields.map fun f => (f.1, Value.ofJson f.2))
    ⟨filled, fillStatus ending⟩

/-- A document is written up to the first member without bytes, and the read succeeds unless there is
one. -/
theorem exists_readOutcome (settings : Settings) (fields : Option (List Text)) (result : ResultMap)
    {body : Bytes} {members : FieldMap Text Json}
    (h : Json.parseBody body = .ok (.object members)) {document : Document}
    (hd : document.fields = FieldMap.erase members metadataKey) :
    ∃ status : Except Failure Status,
      readOutcome settings fields result (.ok (some document)) =
        ⟨FieldMap.insertAll result (fieldsOf (membersSought settings fields members)), status⟩ ∧
      ((∀ m ∈ membersSought settings fields members, m.2.isReadable = true) →
        status = .ok .ok) ∧
      ((∃ m ∈ membersSought settings fields members, m.2.isReadable = false) →
        ∃ error, status = .error (.encoding error)) := by
  obtain ⟨ending, hfill, hall, hbad⟩ :=
    Record.exists_fill_of_parseBody (wanted settings fields) result h metadataKey
  refine ⟨fillStatus ending, ?_, ?_, ?_⟩
  · rw [readOutcome, hd, hfill]
    rfl
  · intro hread
    rw [hall hread]
    rfl
  · intro hread
    obtain ⟨error, he⟩ := hbad hread
    exact ⟨error, by rw [he]; rfl⟩

end Adapter

/-- A call of an operation on a record. -/
inductive RecordCall where
  | read (table key : Text) (fields : Option (List Text)) (result : ResultMap)
  | insert (table key : Text) (values : FieldMap Text Value)
  | delete (table key : Text)

namespace RecordCall

/-- The key that the call names. -/
def key : RecordCall → Text
  | read _ key _ _ => key
  | insert _ key _ => key
  | delete _ key => key

/-- What the result holds before the call; the other operations have none. -/
def given : RecordCall → ResultMap
  | read _ _ _ result => result
  | insert _ _ _ => []
  | delete _ _ => []

/-- Performs the call. -/
def perform : RecordCall → AdapterAction (Outcome ResultMap)
  | read table key fields result => Adapter.read table key fields result
  | insert table key values => do
    let status ← Adapter.insert table key values
    pure ⟨[], status⟩
  | delete table key => do
    let status ← Adapter.delete table key
    pure ⟨[], status⟩

/-- The request of the call, if there is one. -/
def request? (call : RecordCall) (store : Store) (session : Session) : Except Failure Request :=
  match call with
  | read _ key _ _ => (Store.getExchange key).request? store session key
  | insert _ key values => do
    let document ← (Record.document values).mapError .fault
    (Store.putExchange key [] (textMap document)).request? store session key
  | delete _ key => (Store.deleteExchange none).request? store session key

/-- The outcome of the call under the replies to requests, and the session then. -/
def outcome (call : RecordCall) (settings : Settings) (store : Store) (session : Session)
    (replyTo : Request → Reply) : Outcome ResultMap × Session :=
  match call with
  | read _ key fields result =>
    let (ending, session) := (Store.getExchange key).ending store session key replyTo
    (Adapter.readOutcome settings fields result ending, session)
  | insert _ key values =>
    match Record.document values with
    | .error f => (⟨[], .error (.fault f)⟩, session)
    | .ok document =>
      let (ending, session) :=
        (Store.putExchange key [] (textMap document)).ending store session key replyTo
      (⟨[], Adapter.writeStatus ending⟩, session)
  | delete _ key =>
    let (ending, session) := (Store.deleteExchange none).ending store session key replyTo
    (⟨[], Adapter.writeStatus ending⟩, session)

section Outcomes

variable {settings : Settings} {store : Store} {session session' : Session}
  {replyTo : Request → Reply} {table key : Text}

theorem outcome_read {fields : Option (List Text)} {result : ResultMap}
    {ending : Except Failure (Option Document)}
    (h : (Store.getExchange key).ending store session key replyTo = (ending, session')) :
    (read table key fields result).outcome settings store session replyTo =
      (Adapter.readOutcome settings fields result ending, session') := by
  rw [outcome, h]

theorem outcome_insert {values : FieldMap Text Value} {document : FieldMap Text Text}
    (hd : Record.document values = .ok document) {ending : Except Failure PutResult}
    (h : (Store.putExchange key [] (textMap document)).ending store session key replyTo =
      (ending, session')) :
    (insert table key values).outcome settings store session replyTo =
      (⟨[], Adapter.writeStatus ending⟩, session') := by
  rw [outcome, hd]
  simp only [h]

theorem outcome_delete {ending : Except Failure Unit}
    (h : (Store.deleteExchange none).ending store session key replyTo = (ending, session')) :
    (delete table key).outcome settings store session replyTo =
      (⟨[], Adapter.writeStatus ending⟩, session') := by
  rw [outcome, h]

end Outcomes

theorem request?_insert {store : Store} {session : Session} {table key : Text}
    {values : FieldMap Text Value} {document : FieldMap Text Text}
    (hd : Record.document values = .ok document) :
    (insert table key values).request? store session =
      (Store.putExchange key [] (textMap document)).request? store session key := by
  rw [request?, hd]
  rfl

/-- The world after the call. -/
def after (call : RecordCall) (store : Store) (session : Session) (w : World) : World :=
  match call.request? store session with
  | .error _ => w
  | .ok request => (w.exchange request).2

theorem after_insert {store : Store} {session : Session} {table key : Text}
    {values : FieldMap Text Value} {document : FieldMap Text Text}
    (hd : Record.document values = .ok document) (w : World) :
    (insert table key values).after store session w =
      (Store.putExchange key [] (textMap document)).after store session key w := by
  rw [after, request?_insert hd]
  rfl

end RecordCall

open AdapterAction

namespace Adapter

variable {a : Adapter} {settings : Settings} {store : Store} {session : Session}

theorem exec_onStore {α : Type} (hready : a.Ready settings store session) {action : StoreAction α}
    {w w' : World} {ending : Except Failure α} {store' : Store}
    (h : action.exec store w = ((ending, store'), w')) :
    exec (onStore store action) a w = ((ending, a.holding settings store'), w') := by
  have hlift : exec (StateT.lift (action.runOn store)) a w = (((ending, store'), a), w') := by
    rw [exec_lift]
    exact congrArg (fun p => ((p.1, a), p.2)) h
  rw [onStore, exec_bind, hlift, ← hready.with_store]
  rfl

theorem exec_logFailure (operation title : String) (key : Text) (error : StoreError) (a : Adapter)
    (w : World) :
    ∃ events, exec (logFailure operation title key error) a w = (((), a), w.showing events) :=
  ⟨_, exec_lift _ a w⟩

/-- A read comes to what its exchange with the store ends in. -/
theorem exec_read (h : a.Ready settings store session) (table key : Text)
    (fields : Option (List Text)) (result : ResultMap) (w : World) :
    let x := Store.getExchange key
    let ending := x.ending store session key w.replyTo
    ∃ events, exec (read table key fields result) a w =
      ((readOutcome settings fields result ending.1, a.holding settings (store.holding ending.2)),
        (x.after store session key w).showing events) := by
  intro x ending
  obtain ⟨events, hget⟩ := x.exec_perform h.session key w
  rw [← Store.get_eq] at hget
  have hon := exec_onStore h hget
  rw [read, exec_bind, exec_get]
  simp only [h.store_eq, h.settings_eq]
  rw [exec_bind, hon]
  -- the adapter goes through the endings in the order in which they are reported
  change ∃ events, exec (match ending.1 with
      | .error (.store error) => _
      | .error failure => _
      | .ok none => _
      | .ok (some document) => _) _ _ = _
  cases ending.1 with
  | error failure =>
    cases failure with
    | store error =>
      obtain ⟨logged, hlog⟩ := exec_logFailure "read" "Read failed" key error
        (a.holding settings (store.holding ending.2)) ((x.after store session key w).showing events)
      refine ⟨logged, ?_⟩
      simp only
      rw [exec_bind, hlog]
      rfl
    | _ => exact ⟨events, rfl⟩
  | ok found =>
    cases found with
    | none => exact ⟨events, rfl⟩
    | some document =>
      refine ⟨events, ?_⟩
      simp only [readOutcome, wanted]
      cases (Record.fill (if settings.applyFieldFilter then fields else none) result
        (document.fields.map fun f => (f.1, Value.ofJson f.2))).2 with
      | ok _ => rfl
      | error error => rfl

/-- What both writes do with the ending of their exchange: a failure of the store is logged and
reported, others pass through, and anything else is a success. -/
structure Reports {α : Type} (operation title : String) (key : Text)
    (report : Except Failure α → AdapterAction (Except Failure Status)) : Prop where
  store (error : StoreError) : report (.error (.store error)) = do
    logFailure operation title key error
    pure (.ok .error)
  failure (f : Failure) : (∀ error, f ≠ .store error) → report (.error f) = pure (.error f)
  ok (r : α) : report (.ok r) = pure (.ok .ok)

theorem exec_bind_report {α : Type} (operation title : String) (key : Text) (w' : World)
    {x : AdapterAction (Except Failure α)}
    {report : Except Failure α → AdapterAction (Except Failure Status)}
    (hr : Reports operation title key report) {a' : Adapter} {w : World}
    {ending : Except Failure α} (hx : exec x a w = ((ending, a'), w')) :
    ∃ events, exec (x >>= report) a w = ((writeStatus ending, a'), w'.showing events) := by
  rw [exec_bind, hx]
  cases ending with
  | ok r => exact ⟨w'.shown, by rw [hr.ok]; rfl⟩
  | error f =>
    cases f with
    | store error =>
      obtain ⟨events, hlog⟩ := exec_logFailure operation title key error a' w'
      refine ⟨events, ?_⟩
      rw [hr.store, exec_bind, hlog]
      rfl
    | _ => exact ⟨w'.shown, by rw [hr.failure _ fun _ => Failure.noConfusion]; rfl⟩

/-- An insert of a record that has a document comes to what its exchange ends in. -/
theorem exec_insert (h : a.Ready settings store session) (table key : Text)
    {values : FieldMap Text Value} {document : FieldMap Text Text}
    (hd : Record.document values = .ok document) (w : World) :
    let x := Store.putExchange key [] (textMap document)
    let ending := x.ending store session key w.replyTo
    ∃ events, exec (insert table key values) a w =
      ((writeStatus ending.1, a.holding settings (store.holding ending.2)),
        (x.after store session key w).showing events) := by
  intro x ending
  obtain ⟨events, hput⟩ := x.exec_perform h.session key w
  have hon : exec (onStore store (Store.put key none (textMap document) [])) a w = _ :=
    exec_onStore h hput
  rw [insert, exec_bind, exec_get]
  simp only [h.store_eq, hd]
  refine exec_bind_report "insert" "Insert failed" key
    ((x.after store session key w).showing events) ?_ hon
  refine ⟨fun _ => rfl, fun f hf => ?_, fun _ => rfl⟩
  cases f with
  | store error => exact absurd rfl (hf error)
  | _ => rfl

/-- A record without a document is not sent. -/
theorem exec_insert_error (h : a.Ready settings store session) (table key : Text)
    {values : FieldMap Text Value} {f : Fault} (hd : Record.document values = .error f)
    (w : World) :
    exec (insert table key values) a w = ((.error (.fault f), a), w) := by
  rw [insert, exec_bind, exec_get]
  simp only [h.store_eq, hd]
  rfl

theorem exec_delete (h : a.Ready settings store session) (table key : Text) (w : World) :
    let ending := (Store.deleteExchange none).ending store session key w.replyTo
    ∃ events, exec (delete table key) a w =
      ((writeStatus ending.1, a.holding settings (store.holding ending.2)),
        ((Store.deleteExchange none).after store session key w).showing events) := by
  intro ending
  obtain ⟨events, hdelete⟩ := (Store.deleteExchange none).exec_perform h.session key w
  rw [← Store.delete_eq] at hdelete
  have hon := exec_onStore h hdelete
  rw [delete, exec_bind, exec_get]
  simp only [h.store_eq]
  refine exec_bind_report "delete" "Delete failed" key
    (((Store.deleteExchange none).after store session key w).showing events) ?_ hon
  refine ⟨fun _ => rfl, fun f hf => ?_, fun _ => rfl⟩
  cases f with
  | store error => exact absurd rfl (hf error)
  | _ => rfl

end Adapter

/-- A call ends with its outcome; the adapter keeps the session and the world that the reply
leaves. -/
theorem RecordCall.exec_perform {a : Adapter} {settings : Settings} {store : Store}
    {session : Session} (h : a.Ready settings store session) (call : RecordCall) (w : World) :
    ∃ events, exec call.perform a w =
      (((call.outcome settings store session w.replyTo).1,
        a.holding settings (store.holding (call.outcome settings store session w.replyTo).2)),
        (call.after store session w).showing events) := by
  cases call with
  | read table key fields result => exact Adapter.exec_read h table key fields result w
  | insert table key values =>
    rw [perform, exec_bind, outcome, after, request?]
    cases hd : Record.document values with
    | error f =>
      refine ⟨w.shown, ?_⟩
      rw [Adapter.exec_insert_error h table key hd w]
      simp only [h.holding_eq]
      rfl
    | ok document =>
      obtain ⟨events, hinsert⟩ := Adapter.exec_insert h table key hd w
      exact ⟨events, by rw [hinsert]; rfl⟩
  | delete table key =>
    obtain ⟨events, hdelete⟩ := Adapter.exec_delete h table key w
    exact ⟨events, by rw [perform, exec_bind, hdelete]; rfl⟩

end RavenBinding
