import RavenBinding.Binding.Adapter
import RavenBinding.Interaction.World

/-!
# Running actions

What an action on a store or on an adapter comes to in a world: its ending, the store or adapter
after it, and the world after it. Actions in sequence run in sequence.

## Main definitions

- `StoreAction.exec`, `AdapterAction.exec`: running an action
- `World.replyTo`: the reply that a world has for a request

## Main statements

- `Action.run_bind_eq_ok_iff`, `StoreAction.exec_bind_ok`, `StoreAction.exec_bind_error`,
  `AdapterAction.exec_bind`: steps one after another
-/

namespace RavenBinding

/-- The reply to a request. -/
def World.replyTo (world : World) (request : Request) : Reply := (world.exchange request).1

/-- The world with other events shown. -/
def World.showing (world : World) (events : List Event) : World := { world with shown := events }

namespace World

theorem exchange_showing (world : World) (events : List Event) (request : Request) :
    (world.showing events).exchange request =
      (world.replyTo request, (world.exchange request).2.showing events) := by
  rw [replyTo]
  simp only [exchange, showing]
  cases world.replies with
  | nil => rfl
  | cons reply rest =>
    cases reply with
    | none => rfl
    | some reply => rfl

theorem sent_exchange (world : World) (request : Request) :
    (world.exchange request).2.sent = request :: world.sent := by
  simp only [exchange]
  cases world.replies with
  | nil => rfl
  | cons reply rest =>
    cases reply with
    | none => rfl
    | some reply => rfl

end World

namespace Program

variable {α β : Type}

/-- A program that goes on runs on in the world that the first part leaves. -/
theorem run_bind (x : Program α) (f : α → Program β) (w : World) :
    (x >>= f).run w = (f (x.run w).1).run (x.run w).2 := by
  change (bind x f).run w = _
  induction x generalizing w with
  | done result => rfl
  | send request next ih => exact ih _ _
  | openSession next ih => exact ih _
  | closeSession next ih => exact ih _ _
  | emit event next ih => exact ih _

end Program

namespace Action

variable {α β : Type}

/-- Steps of a command that succeed one after another. -/
theorem run_bind_eq_ok_iff {x : Action α} {f : α → Action β} {w w' : World} {b : β} :
    (x >>= f).run.run w = (.ok b, w') ↔
      ∃ a v, x.run.run w = (.ok a, v) ∧ (f a).run.run v = (.ok b, w') := by
  rw [ExceptT.run_bind, Program.run_bind]
  rcases x.run.run w with ⟨ending, v⟩
  cases ending with
  | ok a =>
    constructor
    · exact fun h => ⟨a, v, rfl, h⟩
    · rintro ⟨_, _, ⟨⟩, h⟩
      exact h
  | error e =>
    constructor
    · exact fun h => nomatch congrArg Prod.fst h
    · rintro ⟨_, _, h, -⟩
      exact nomatch congrArg Prod.fst h

theorem run_ofProgram_eq_ok_iff {x : Program α} {w w' : World} {a : α} :
    (ofProgram x).run.run w = (.ok a, w') ↔ x.run w = (a, w') := by
  have hrun : (ofProgram x).run.run w = (.ok (x.run w).1, (x.run w).2) :=
    Program.run_bind x (fun result => Program.done (Except.ok result)) w
  rw [hrun, Prod.mk.injEq, Except.ok.injEq, ← Prod.mk.injEq]

theorem run_ofExcept_eq_ok_iff {x : Except Failure α} {w w' : World} {a : α} :
    (ofExcept x).run.run w = (.ok a, w') ↔ x = .ok a ∧ w = w' :=
  Prod.mk.injEq x w (.ok a) w' ▸ Iff.rfl

end Action

namespace StoreAction

variable {α β : Type}

/-- Runs an action on a store in a world. -/
def exec (x : StoreAction α) (s : Store) (w : World) : (Except Failure α × Store) × World :=
  (x.runOn s).run w

theorem exec_pure (a : α) (s : Store) (w : World) :
    (pure a : StoreAction α).exec s w = ((.ok a, s), w) := rfl

theorem exec_store (s : Store) (w : World) : store.exec s w = ((.ok s, s), w) := rfl

theorem exec_replace (s' s : Store) (w : World) : (replace s').exec s w = ((.ok (), s'), w) := rfl

theorem exec_ofExcept (x : Except Failure α) (s : Store) (w : World) :
    (ofExcept x : StoreAction α).exec s w = ((x, s), w) := by
  cases x with
  | ok a => rfl
  | error f => rfl

theorem exec_ofProgram (x : Program α) (s : Store) (w : World) :
    (ofProgram x).exec s w = ((.ok (x.run w).1, s), (x.run w).2) := by
  change ((x >>= fun a => pure (a, s)) >>= fun p => pure (Except.ok p.1, p.2)).run w = _
  rw [Program.run_bind, Program.run_bind]
  rfl

theorem exec_bind (x : StoreAction α) (f : α → StoreAction β) (s : Store) (w : World) :
    (x >>= f).exec s w =
      match x.exec s w with
      | ((.ok a, s'), w') => (f a).exec s' w'
      | ((.error e, s'), w') => ((.error e, s'), w') := by
  change ((x.run.run s) >>= fun p => _).run w = _
  rw [Program.run_bind]
  change _ = match (x.run.run s).run w with
    | ((.ok a, s'), w') => (f a).exec s' w'
    | ((.error e, s'), w') => ((.error e, s'), w')
  rcases (x.run.run s).run w with ⟨⟨ending, s'⟩, w'⟩
  cases ending with
  | ok a => rfl
  | error e => rfl

theorem exec_bind_ok {x : StoreAction α} {s s' : Store} {w w' : World} {a : α}
    (h : x.exec s w = ((.ok a, s'), w')) (f : α → StoreAction β) :
    (x >>= f).exec s w = (f a).exec s' w' := by
  rw [exec_bind, h]

theorem exec_bind_error {x : StoreAction α} {s s' : Store} {w w' : World} {e : Failure}
    (h : x.exec s w = ((.error e, s'), w')) (f : α → StoreAction β) :
    (x >>= f).exec s w = ((.error e, s'), w') := by
  rw [exec_bind, h]

end StoreAction

namespace AdapterAction

variable {α β : Type}

/-- Runs an action on an adapter in a world. -/
def exec (x : AdapterAction α) (a : Adapter) (w : World) : (α × Adapter) × World := (x.run a).run w

theorem exec_pure (r : α) (a : Adapter) (w : World) :
    exec (pure r : AdapterAction α) a w = ((r, a), w) := rfl

theorem exec_get (a : Adapter) (w : World) :
    exec (StateT.get : AdapterAction Adapter) a w = ((a, a), w) := rfl

theorem exec_lift (x : Program α) (a : Adapter) (w : World) :
    exec (StateT.lift x : AdapterAction α) a w = (((x.run w).1, a), (x.run w).2) := by
  change (x >>= fun r => pure (r, a)).run w = _
  rw [Program.run_bind]
  rfl

theorem exec_bind (x : AdapterAction α) (f : α → AdapterAction β) (a : Adapter) (w : World) :
    exec (x >>= f) a w = exec (f (exec x a w).1.1) (exec x a w).1.2 (exec x a w).2 := by
  change ((x.run a) >>= fun p => (f p.1).run p.2).run w = _
  rw [Program.run_bind]
  rfl

end AdapterAction

end RavenBinding
