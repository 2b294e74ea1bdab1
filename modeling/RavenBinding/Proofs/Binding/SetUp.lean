import RavenBinding.Proofs.Binding.Operations
import RavenBinding.Proofs.Binding.Provisioning

/-!
# Setting up an adapter and cleaning up

An adapter is set up with the settings of its properties: a session is opened, the database is made
sure of, and the adapter then holds the store. Each step can fail; the adapter stays as it was then,
and after a failure of the store the session is closed again. A failure of any other kind leaves the
session open. Cleaning up gives up the store and closes its session.

## Main definitions

- `Adapter.Connects`: the ways in which connecting with some settings ends
- `Adapter.SetsUp`: the ways in which setting up an adapter ends

## Main statements

- `Adapter.connects`, `Adapter.setsUp`: there is no other way
- `Adapter.Connects.exists_ensured`, `Adapter.exists_connects`: one comes to the other
- `Adapter.Ready.exec_cleanUp`: what cleaning up comes to
-/

namespace RavenBinding

/-! ### Sessions -/

namespace World

/-- The world with one more open session. -/
def opening (w : World) : World := { w with openSessions := w.openSessions + 1 }

/-- The world with one open session less. -/
def closing (w : World) : World := { w with openSessions := w.openSessions - 1 }

/-- The world in which a line was printed on the error stream. -/
def printing (w : World) (t : Text) : World :=
  { w with shown := .errorOutput (t ++ Text.ofString "\n") :: w.shown }

end World

namespace Store

open StoreAction

variable {s : Store}

/-- The store without its session. -/
def released (s : Store) : Store := { s with session := none }

/-- A session that is open is kept. -/
theorem exec_openSession_of_open {session : Session} (hs : s.session = some session) (w : World) :
    openSession.exec s w = ((.ok (), s), w) := by
  rw [openSession, exec_bind_ok (exec_store s w)]
  simp only [hs]
  rfl

theorem exec_openSession_of_invalid (hs : s.session = none) {error : UrlError}
    (h : Session.open? s.url s.timeout = .error (.invalid error)) (w : World) :
    openSession.exec s w =
      ((.error (.store ⟨.openSession, .serverUrl s.url error⟩), s), w) := by
  rw [openSession, exec_bind_ok (exec_store s w)]
  simp only [hs, h]
  rfl

theorem exec_openSession_of_encoding (hs : s.session = none) {error : EncodeError}
    (h : Session.open? s.url s.timeout = .error (.encoding error)) (w : World) :
    openSession.exec s w = ((.error (.encoding error), s), w) := by
  rw [openSession, exec_bind_ok (exec_store s w)]
  simp only [hs, h]
  rfl

theorem exec_openSession (hs : s.session = none) {session : Session}
    (h : Session.open? s.url s.timeout = .ok session) (w : World) :
    ∃ events, openSession.exec s w = ((.ok (), s.holding session), w.opening.showing events) := by
  obtain ⟨events, hlog⟩ := exec_logStep (Text.ofString "initialize")
    (Text.ofString "Opened session to " ++ s.url) (s.holding session) w.opening
  refine ⟨events, ?_⟩
  rw [openSession, exec_bind_ok (exec_store s w)]
  simp only [hs, h]
  rw [exec_bind_ok (exec_ofProgram _ _ _), exec_bind_ok (exec_replace _ _ _)]
  exact hlog

theorem exec_closeSession_of_closed (hs : s.session = none) (w : World) :
    closeSession.exec s w = ((.ok (), s), w) := by
  rw [closeSession, exec_bind_ok (exec_store s w)]
  simp only [hs]
  rfl

/-- The session is given up whether or not closing it raises a fault. -/
theorem exec_closeSession {session : Session} (hs : s.session = some session) (w : World) :
    ∃ events, closeSession.exec s w =
      (((match w.closeFault with
        | some f => .error (.fault f)
        | none => .ok ()), s.released), w.closing.showing events) := by
  rw [closeSession, exec_bind_ok (exec_store s w)]
  simp only [hs]
  rw [exec_bind_ok (exec_replace _ _ _), exec_bind_ok (exec_ofProgram _ _ _)]
  change ∃ events, (match w.closeFault with
    | some f => _
    | none => _ : StoreAction Unit).exec s.released w.closing = _
  cases w.closeFault with
  | some f => exact ⟨w.shown, rfl⟩
  | none => exact exec_logStep _ _ s.released w.closing

end Store

/-! ### Connecting -/

namespace Adapter

open AdapterAction

/-- The session that the settings open. -/
def session? (settings : Settings) : Except UrlFailure Session :=
  Session.open? (storeOf settings).url (storeOf settings).timeout

/-- The ways in which connecting with some settings can end. -/
inductive Connects (settings : Settings) (w : World) : Except Failure Store → World → Prop where
  /-- The URL is none. -/
  | unreadable {error : UrlError} (refused : session? settings = .error (.invalid error)) :
    Connects settings w (.error (.provisioning settings.database settings.url
      ⟨.openSession, .serverUrl (storeOf settings).url error⟩)) w
  /-- The URL has no encoding. -/
  | unwritten {error : EncodeError} (refused : session? settings = .error (.encoding error)) :
    Connects settings w (.error (.encoding error)) w
  /-- The database is there. -/
  | ready {session session' : Session} {w' : World} (opened : session? settings = .ok session)
    (provided : ensured settings session w.opening = (.ok (), session', w'))
    (events : List Event) :
    Connects settings w (.ok ((storeOf settings).holding session')) (w'.showing events)
  /-- The store refuses; the session is closed. -/
  | refused {session session' : Session} {w' : World} {error : StoreError}
    (opened : session? settings = .ok session)
    (failed : ensured settings session w.opening = (.error (.store error), session', w'))
    (closed : w.closeFault = none) (events : List Event) :
    Connects settings w (.error (.provisioning settings.database settings.url error))
      (w'.closing.showing events)
  /-- The store refuses, and closing the session raises a fault. -/
  | unclosed {session session' : Session} {w' : World} {error : StoreError} {f : Fault}
    (opened : session? settings = .ok session)
    (failed : ensured settings session w.opening = (.error (.store error), session', w'))
    (raised : w.closeFault = some f) (events : List Event) :
    Connects settings w (.error (.fault f)) (w'.closing.showing events)
  /-- Something else goes wrong; the session stays open and nobody holds it. -/
  | abandoned {session session' : Session} {w' : World} {f : Failure}
    (opened : session? settings = .ok session)
    (failed : ensured settings session w.opening = (.error f, session', w'))
    (foreign : ∀ error, f ≠ .store error) (events : List Event) :
    Connects settings w (.error f) (w'.showing events)

theorem connects (settings : Settings) (w : World) :
    Connects settings w ((connect settings).run w).1 ((connect settings).run w).2 := by
  rw [connect, Program.run_bind]
  cases hopen : session? settings with
  | error failure =>
    cases failure with
    | invalid error =>
      have hexec : (Store.openSession.runOn (storeOf settings)).run w = _ :=
        Store.exec_openSession_of_invalid rfl hopen w
      rw [hexec]
      exact .unreadable hopen
    | encoding error =>
      have hexec : (Store.openSession.runOn (storeOf settings)).run w = _ :=
        Store.exec_openSession_of_encoding rfl hopen w
      rw [hexec]
      exact .unwritten hopen
  | ok session =>
    obtain ⟨shown, hexec⟩ := Store.exec_openSession (s := storeOf settings) rfl hopen w
    change (Store.openSession.runOn (storeOf settings)).run w = _ at hexec
    rw [hexec]
    -- what was shown before makes no difference to the two questions
    have hensure : ∃ events, ((ensureDatabase settings).runOn ((storeOf settings).holding
        session)).run (w.opening.showing shown) =
        (((ensured settings session w.opening).1,
          (storeOf settings).holding (ensured settings session w.opening).2.1),
          (ensured settings session w.opening).2.2.showing events) := by
      obtain ⟨events, hensure⟩ := exec_ensureDatabase
        (s := (storeOf settings).holding session) rfl settings (w.opening.showing shown)
      rw [ensured_showing] at hensure
      exact ⟨events, hensure⟩
    obtain ⟨events, hensure⟩ := hensure
    dsimp only
    rw [Program.run_bind, hensure]
    have hsessions := sessions_ensured settings session w.opening
    rcases h : ensured settings session w.opening with ⟨f | _, session', w'⟩
    · cases f with
      | store error =>
        obtain ⟨later, hclose⟩ := Store.exec_closeSession
          (s := (storeOf settings).holding session') rfl (w'.showing events)
        change (Store.closeSession.runOn _).run _ = _ at hclose
        have hfault : w'.closeFault = w.closeFault := (congrArg (·.2.2.closeFault) h).symm.trans
          hsessions.2
        dsimp only
        rw [Program.run_bind, hclose]
        dsimp only [World.closeFault_showing]
        cases hraised : w'.closeFault with
        | none => exact .refused hopen h (hfault.symm.trans hraised) later
        | some f => exact .unclosed hopen h (hfault.symm.trans hraised) later
      | _ => exact .abandoned hopen h (fun _ => Failure.noConfusion) events
    · exact .ready hopen h events

/-- The ways in which setting up an adapter can end. -/
inductive SetsUp (env : Environment) (a : Adapter) (w : World) :
    Except Failure Unit → Adapter → World → Prop where
  /-- A setting cannot be converted. -/
  | misconfigured {error : ConfigurationError}
    (read : Settings.ofProperties a.properties env = .error error) :
    SetsUp env a w (.error (.configuration error)) a w
  /-- The URL has a form that is not supported. -/
  | unsupported {settings : Settings} (read : Settings.ofProperties a.properties env = .ok settings)
    (url : settings.hasValidUrl = false) :
    SetsUp env a w (.error (.exit 1)) a (w.printing (urlNotice settings.url))
  /-- Connecting fails, and the adapter stays as it was. -/
  | failed {settings : Settings} {f : Failure} {w' : World}
    (read : Settings.ofProperties a.properties env = .ok settings)
    (url : settings.hasValidUrl = true) (connected : Connects settings w (.error f) w') :
    SetsUp env a w (.error f) a w'
  | ready {settings : Settings} {store : Store} {w' : World}
    (read : Settings.ofProperties a.properties env = .ok settings)
    (url : settings.hasValidUrl = true) (connected : Connects settings w (.ok store) w') :
    SetsUp env a w (.ok ()) (a.holding settings store) w'

theorem setsUp (env : Environment) (a : Adapter) (w : World) :
    SetsUp env a w (exec (setUp env) a w).1.1 (exec (setUp env) a w).1.2
      (exec (setUp env) a w).2 := by
  rw [setUp, exec_bind, exec_get]
  dsimp only
  cases hread : Settings.ofProperties a.properties env with
  | error error => exact .misconfigured hread
  | ok settings =>
    dsimp only
    cases hurl : settings.hasValidUrl with
    | false =>
      rw [if_neg Bool.false_ne_true, exec_bind, exec_lift]
      exact .unsupported hread hurl
    | true =>
      have hconnects := connects settings w
      rw [if_pos rfl, exec_bind, exec_lift]
      dsimp only
      cases hresult : ((connect settings).run w).1 with
      | error f =>
        rw [hresult] at hconnects
        exact .failed hread hurl hconnects
      | ok store =>
        rw [hresult] at hconnects
        exact .ready hread hurl hconnects

/-- The adapter without a store; it keeps the settings of the last one. -/
def released (a : Adapter) : Adapter := { a with store? := none, isInitialized := false }

theorem isIdle_released (a : Adapter) : a.released.IsIdle := ⟨rfl, rfl⟩

theorem IsIdle.exec_cleanUp {a : Adapter} (h : a.IsIdle) (w : World) :
    exec cleanUp a w = ((.ok (), a), w) := by
  rw [cleanUp, exec_bind, exec_get]
  dsimp only
  rw [h.initialized]
  rfl

/-- Cleaning up gives up the store and closes its session, even if that raises a fault. -/
theorem Ready.exec_cleanUp {a : Adapter} {settings : Settings} {store : Store} {session : Session}
    (h : a.Ready settings store session) (w : World) :
    ∃ ending events, exec cleanUp a w = ((ending, a.released), w.closing.showing events) := by
  obtain ⟨events, hclose⟩ := Store.exec_closeSession h.session w
  change (Store.closeSession.runOn store).run w = _ at hclose
  rw [cleanUp, exec_bind, exec_get]
  dsimp only
  rw [if_pos h.initialized, exec_bind]
  change ∃ ending events, exec _ a.released w = _
  simp only [h.store_eq]
  rw [exec_bind, exec_lift, hclose]
  dsimp only
  -- the ending says what closing raised, and decides nothing else
  cases w.closeFault with
  | none => exact ⟨_, events, rfl⟩
  | some f =>
    dsimp only
    split
    · exact ⟨_, events, rfl⟩
    · exact ⟨_, events, rfl⟩

end Adapter

end RavenBinding
