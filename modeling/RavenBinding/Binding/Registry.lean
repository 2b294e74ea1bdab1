import RavenBinding.Binding.Adapter

/-!
# Bindings by name

## Main definitions

- `bindingNames`: the names under which the adapter is known
- `createBinding`: a binding that is not set up, by name
-/

namespace RavenBinding

/-- The names of bindings, sorted. -/
def bindingNames : List Text := ["ravendb", "ravendb35"].map Text.ofString

/-- The name under which creations are logged. -/
def registryLoggerName : Text := "ycsb_ravendb.application.bindings"

/-- The binding of a name, in any case, with the properties of a run. -/
def createBinding (name : Text) (properties : Properties) : Action Adapter :=
  if bindingNames.contains name.toLowerAscii then do
    Action.ofProgram (Program.log Level.debug registryLoggerName
      (registryLoggerName
        ++ Text.ofString ":create_db - Creating DocumentStoreAdapter for binding " ++ name) [])
    pure (Adapter.create properties)
  else throw (.unknownBinding name bindingNames)

end RavenBinding
