import RavenBinding.Proofs.Binding.Lifecycle
import RavenBinding.Smoke.Workload

/-!
# Bindings that keep a history

A binding can be made to keep a history of the calls and of their answers. Nothing else changes: a
workload with the recorded binding comes to what it comes to with the binding itself, with the
history beside it.

## Main definitions

- `CallHistory`, `Binding.recorded`: the history, and a binding that keeps one
- `Erases`: an action with a history that is another action without it
- `Standing`, `play`: running an action with a history

## Main statements

- `Erases.run_eq`, `Workload.erases_run`: a workload with the recorded binding
- `play_bind`, `exists_play_of_bind`: running steps one after another
- `play_mk_noting`, `exists_play_of_lift_noting`: running a call
-/

namespace RavenBinding

/-- Calls in order, with their answers. -/
abbrev CallHistory := List (AdapterCall × Outcome (List ResultMap))

namespace Binding

variable {m : Type → Type} [Monad m] {α : Type}

/-- Does something, and notes it as a call. -/
def noting (call : AdapterCall) (answer : α → Outcome (List ResultMap)) (x : m α) :
    StateT CallHistory m α := do
  let result ← StateT.lift x
  modify (· ++ [(call, answer result)])
  pure result

/-- The binding with a history. What a read writes counts as one result. -/
def recorded (b : Binding m) : Binding (StateT CallHistory m) :=
  { read := fun table key fields result =>
      noting (.record (.read table key fields result)) (fun o => ⟨[o.written], o.status⟩)
        (b.read table key fields result)
    scan := fun table startKey count fields result =>
      noting (.scan table startKey count fields result) id
        (b.scan table startKey count fields result)
    insert := fun table key values =>
      noting (.record (.insert table key values)) (fun status => ⟨[], status⟩)
        (b.insert table key values)
    update := fun table key values =>
      noting (.update table key values) (fun status => ⟨[], status⟩) (b.update table key values)
    delete := fun table key =>
      noting (.record (.delete table key)) (fun status => ⟨[], status⟩) (b.delete table key) }

end Binding

/-! ### The history does not matter -/

/-- Without its history, an action is another action. -/
def Erases {m : Type → Type} [Monad m] {α : Type} (x : ExceptT Failure (StateT CallHistory m) α)
    (y : ExceptT Failure m α) : Prop :=
  ∀ history, Prod.fst <$> x.run.run history = y.run

namespace Erases

variable {m : Type → Type} [Monad m] [LawfulMonad m] {α β : Type}

theorem pure (a : α) :
    Erases (Pure.pure a : ExceptT Failure (StateT CallHistory m) α) (Pure.pure a) := by
  intro history
  simp

theorem bind {x : ExceptT Failure (StateT CallHistory m) α} {y : ExceptT Failure m α}
    {f : α → ExceptT Failure (StateT CallHistory m) β} {g : α → ExceptT Failure m β}
    (h : Erases x y) (hf : ∀ a, Erases (f a) (g a)) : Erases (x >>= f) (y >>= g) := by
  intro history
  rw [ExceptT.run_bind, ExceptT.run_bind, ← h history, StateT.run_bind, map_bind, bind_map_left]
  refine bind_congr fun p => ?_
  cases hp : p.1 with
  | ok a => exact hf a p.2
  | error e => simp

theorem mapM {f : α → ExceptT Failure (StateT CallHistory m) β} {g : α → ExceptT Failure m β}
    (h : ∀ a, Erases (f a) (g a)) (l : List α) : Erases (l.mapM f) (l.mapM g) := by
  induction l with
  | nil =>
    rw [List.mapM_nil, List.mapM_nil]
    exact pure []
  | cons a l ih =>
    rw [List.mapM_cons, List.mapM_cons]
    exact (h a).bind fun b => ih.bind fun bs => pure (b :: bs)

theorem run_noting (call : AdapterCall) (answer : α → Outcome (List ResultMap)) (x : m α)
    (history : CallHistory) : Prod.fst <$> (Binding.noting call answer x).run history = x := by
  simp [Binding.noting]

theorem mk_noting (call : AdapterCall) (answer : Except Failure α → Outcome (List ResultMap))
    (x : m (Except Failure α)) :
    Erases (ExceptT.mk (Binding.noting call answer x)) (ExceptT.mk x) :=
  run_noting call answer x

theorem lift {x : StateT CallHistory m α} {y : m α} (h : ∀ history, Prod.fst <$> x.run history = y) :
    Erases (ExceptT.lift x) (ExceptT.lift y) := by
  intro history
  rw [← h history]
  simp [ExceptT.run_lift]

theorem reported (status : Except Failure Status) :
    Erases (Workload.reported status : ExceptT Failure (StateT CallHistory m) Status)
      (Workload.reported status) := by
  intro history
  simp [Workload.reported]

end Erases

namespace Workload

variable {m : Type → Type} [Monad m] [LawfulMonad m] [MonadLog m]

/-- A workload with the recorded binding is the workload with the binding. -/
theorem erases_run (load : Workload) (b : Binding m) :
    Erases (load.run b.recorded) (load.run b) := by
  have hread : ∀ key, Erases (read b.recorded key) (read b key) :=
    fun key => Erases.lift fun _ => Erases.run_noting _ _ _ _
  have hlog : ∀ entry, Erases
      (ExceptT.lift (MonadLog.log entry) : ExceptT Failure (StateT CallHistory m) Unit)
      (ExceptT.lift (MonadLog.log entry)) := fun entry => Erases.lift fun history => by
    change Prod.fst <$> (StateT.lift (MonadLog.log entry)).run history = _
    simp
  have hback : ∀ key record, Erases (readBack b.recorded key record) (readBack b key record) := by
    intro key record
    refine (hread key).bind fun outcome => (Erases.reported _).bind fun status => ?_
    split
    · exact (hlog _).bind fun _ => Erases.pure _
    · exact Erases.pure _
  refine (Erases.mapM (fun r => Erases.mk_noting _ _ _) _).bind fun inserted => ?_
  refine (Erases.mapM (fun r : Text × ResultMap => hback r.1 r.2) _).bind fun read => ?_
  refine (Erases.mapM (fun r => Erases.mk_noting _ _ _) _).bind fun updated => ?_
  refine Erases.bind ?_ fun scanned => ?_
  · exact (Erases.lift fun _ => Erases.run_noting _ _ _ _).bind fun _ => Erases.reported _
  refine (Erases.mapM (fun r => Erases.mk_noting _ _ _) _).bind fun deleted => ?_
  refine (Erases.mapM (fun key => ?_) _).bind fun again => Erases.pure _
  exact (hread key).bind fun _ => Erases.reported _

end Workload

/-! ### Running with a history -/

/-- Where a run with a history stands: what was called, the state of the binding, the world. -/
structure Standing (σ : Type) where
  history : CallHistory
  state : σ
  world : World

variable {σ α β : Type}

/-- Runs an action with a history. -/
def play (x : ExceptT Failure (StateT CallHistory (StateT σ Program)) α) (c : Standing σ) :
    Except Failure α × Standing σ :=
  let ended := ((x.run.run c.history).run c.state).run c.world
  (ended.1.1.1, ⟨ended.1.1.2, ended.1.2, ended.2⟩)

theorem run_of_play {x : ExceptT Failure (StateT CallHistory (StateT σ Program)) α}
    {c c' : Standing σ} {ending : Except Failure α} (h : play x c = (ending, c')) :
    ((x.run.run c.history).run c.state).run c.world =
      (((ending, c'.history), c'.state), c'.world) := by
  obtain ⟨rfl, rfl⟩ := Prod.mk.inj h
  rfl

/-- Without the history, an action comes to what the other action comes to. -/
theorem Erases.run_eq {x : ExceptT Failure (StateT CallHistory (StateT σ Program)) α}
    {y : ExceptT Failure (StateT σ Program) α} (h : Erases x y) (history : CallHistory) (s : σ)
    (w : World) :
    (y.run.run s).run w =
      (((play x ⟨history, s, w⟩).1, (play x ⟨history, s, w⟩).2.state),
        (play x ⟨history, s, w⟩).2.world) := by
  rw [← h history, ← bind_pure_comp, StateT.run_bind, Program.run_bind]
  rfl

theorem play_bind (x : ExceptT Failure (StateT CallHistory (StateT σ Program)) α)
    (f : α → ExceptT Failure (StateT CallHistory (StateT σ Program)) β) (c : Standing σ) :
    play (x >>= f) c =
      match play x c with
      | (.ok a, c') => play (f a) c'
      | (.error e, c') => (.error e, c') := by
  simp only [play, ExceptT.run_bind, StateT.run_bind, Program.run_bind]
  generalize ((x.run.run c.history).run c.state).run c.world = ended
  obtain ⟨⟨⟨ending, history⟩, state⟩, world⟩ := ended
  cases ending with
  | ok a => rfl
  | error e => rfl

/-- Steps that succeed one after another. -/
theorem exists_play_of_bind {x : ExceptT Failure (StateT CallHistory (StateT σ Program)) α}
    {f : α → ExceptT Failure (StateT CallHistory (StateT σ Program)) β} {c c' : Standing σ} {b : β}
    (h : play (x >>= f) c = (.ok b, c')) :
    ∃ a d, play x c = (.ok a, d) ∧ play (f a) d = (.ok b, c') := by
  rw [play_bind] at h
  rcases hx : play x c with ⟨ending, d⟩
  rw [hx] at h
  cases ending with
  | ok a => exact ⟨a, d, rfl, h⟩
  | error e => exact nomatch congrArg Prod.fst h

theorem play_pure (a : α) (c : Standing σ) :
    play (pure a : ExceptT Failure (StateT CallHistory (StateT σ Program)) α) c = (.ok a, c) := rfl

theorem play_reported (status : Except Failure Status) (c : Standing σ) :
    play (Workload.reported status) c = (status, c) := rfl

theorem play_log (entry : LogEntry) (c : Standing σ) :
    ∃ world, play (ExceptT.lift (MonadLog.log entry)) c = (.ok (), { c with world := world }) :=
  ⟨_, rfl⟩

theorem play_mk_noting (call : AdapterCall) (answer : Except Failure α → Outcome (List ResultMap))
    (x : StateT σ Program (Except Failure α)) (c : Standing σ) :
    play (ExceptT.mk (Binding.noting call answer x)) c =
      (((x.run c.state).run c.world).1.1,
        ⟨c.history ++ [(call, answer ((x.run c.state).run c.world).1.1)],
          ((x.run c.state).run c.world).1.2, ((x.run c.state).run c.world).2⟩) := by
  simp only [play, Binding.noting, ExceptT.run_mk, StateT.run_bind, StateT.run_lift,
    Program.run_bind]
  rfl

theorem play_lift_noting (call : AdapterCall) (answer : α → Outcome (List ResultMap))
    (x : StateT σ Program α) (c : Standing σ) :
    play (ExceptT.lift (Binding.noting call answer x)) c =
      (.ok ((x.run c.state).run c.world).1.1,
        ⟨c.history ++ [(call, answer ((x.run c.state).run c.world).1.1)],
          ((x.run c.state).run c.world).1.2, ((x.run c.state).run c.world).2⟩) := by
  simp only [play, Binding.noting, ExceptT.run_lift, ← bind_pure_comp, StateT.run_bind,
    StateT.run_lift, Program.run_bind]
  rfl

/-- A call that is noted, and what goes on with its answer. -/
theorem exists_play_of_lift_noting {call : AdapterCall} {answer : α → Outcome (List ResultMap)}
    {x : StateT σ Program α} {f : α → ExceptT Failure (StateT CallHistory (StateT σ Program)) β}
    {c c' : Standing σ} {b : β}
    (h : play (ExceptT.lift (Binding.noting call answer x) >>= f) c = (.ok b, c')) :
    ∃ d : Standing σ,
      d.history = c.history ++ [(call, answer ((x.run c.state).run c.world).1.1)] ∧
      play (f ((x.run c.state).run c.world).1.1) d = (.ok b, c') := by
  rw [play_bind, play_lift_noting] at h
  exact ⟨_, rfl, h⟩

/-- What goes on after a status was reported. -/
theorem exists_play_of_reported {status : Except Failure Status}
    {f : Status → ExceptT Failure (StateT CallHistory (StateT σ Program)) β}
    {c c' : Standing σ} {b : β} (h : play (Workload.reported status >>= f) c = (.ok b, c')) :
    ∃ s, status = .ok s ∧ play (f s) c = (.ok b, c') := by
  obtain ⟨s, d, hs, h⟩ := exists_play_of_bind h
  rw [play_reported] at hs
  obtain ⟨hstatus, rfl⟩ := Prod.mk.inj hs
  exact ⟨s, hstatus, h⟩

end RavenBinding
