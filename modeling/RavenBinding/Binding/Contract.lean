import RavenBinding.Binding.Status
import RavenBinding.Interaction.Program

/-!
# What a harness expects of a binding

A harness hands a binding the properties of its run and then works with records, which map field
names to bytes. Results are written into a map, or a list of maps, of the harness.

## Main definitions

- `Properties`, `ResultMap`: what the harness hands over
- `Outcome`: the end of an operation that writes into a result
- `Binding`: the operations of a binding, with effects in some monad
- `MonadLog`: monads in which entries of the log can be made
-/

namespace RavenBinding

/-- The properties of a run. -/
abbrev Properties := FieldMap Text Value

/-- The map that a read writes into. -/
abbrev ResultMap := FieldMap Text Bytes

/-- The end of an operation that writes into a result: what is in it then, and the status or
failure. -/
structure Outcome (α : Type) where
  written : α
  status : Except Failure Status

/-- The operations of a binding. Fields name what a read or scan is to return, `none` all of it. -/
structure Binding (m : Type → Type) where
  read : (table key : Text) → (fields : Option (List Text)) → (result : ResultMap) →
    m (Outcome ResultMap)
  scan : (table startKey : Text) → (count : Int) → (fields : Option (List Text)) →
    (result : List ResultMap) → m (Outcome (List ResultMap))
  insert : (table key : Text) → (values : FieldMap Text Value) → m (Except Failure Status)
  update : (table key : Text) → (values : FieldMap Text Value) → m (Except Failure Status)
  delete : (table key : Text) → m (Except Failure Status)

/-- Monads in which entries of the log can be made. -/
class MonadLog (m : Type → Type) where
  log : LogEntry → m Unit

instance : MonadLog Program := ⟨fun entry => .emit (.log entry) (.done ())⟩

instance {σ : Type} {m : Type → Type} [Monad m] [MonadLog m] : MonadLog (StateT σ m) :=
  ⟨fun entry => StateT.lift (MonadLog.log entry)⟩

end RavenBinding
