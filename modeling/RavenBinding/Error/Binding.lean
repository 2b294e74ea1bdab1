import RavenBinding.FieldMap
import RavenBinding.Value.Display

/-!
# Errors of the binding

An error has a message and details, which its text shows after the message. Each kind of error adds
a detail of its own; details that are handed in and not empty are added to in place, so that the
caller sees the addition.

## Main definitions

- `ErrorKind`: the kinds, of which all others extend `base`
- `BindingError`, `BindingError.text`: an error and its text
- `BindingError.make`: an error of a kind from the values of its parameters
-/

namespace RavenBinding

/-- The kinds of errors. -/
inductive ErrorKind where
  | base
  | configuration
  | store
  | provisioning
  | cleanup
  | unknownBinding
  deriving DecidableEq, Repr

namespace ErrorKind

/-- The name of a kind. -/
def name : ErrorKind → Text
  | base => "YCSBBindingException"
  | configuration => "ConfigurationError"
  | store => "DocumentStoreError"
  | provisioning => "ProvisioningError"
  | cleanup => "CleanupError"
  | unknownBinding => "UnknownBindingError"

/-- All kinds. -/
def all : List ErrorKind := [base, configuration, store, provisioning, cleanup, unknownBinding]

/-- The kind with a given name. -/
def ofName? (name : Text) : Option ErrorKind := all.find? fun kind => kind.name == name

/-- A kind and those that it extends. -/
def lineage : ErrorKind → List ErrorKind
  | base => [base]
  | kind => [kind, base]

/-- The parameters of an error, and how many of them have to be given. -/
def parameters : ErrorKind → List Text × Nat
  | base | cleanup => (["message", "details"].map Text.ofString, 1)
  | configuration => (["message", "field", "details"].map Text.ofString, 1)
  | store => (["message", "operation", "status_code", "details"].map Text.ofString, 1)
  | provisioning => (["message", "database", "details"].map Text.ofString, 1)
  | unknownBinding => (["name", "details"].map Text.ofString, 1)

/-- The kind whose parameters a kind takes over. -/
def constructorKind : ErrorKind → ErrorKind
  | cleanup => base
  | kind => kind

end ErrorKind

/-- An error. -/
structure BindingError where
  kind : ErrorKind
  message : Value
  details : FieldMap Value Value
  /-- The status of a response, for the errors that have one. -/
  statusCode : Value

namespace BindingError

/-- The message, followed by the details if there are any. A message that is no text can only be
shown with details. -/
def text (e : BindingError) : Except Fault Text :=
  if e.details.isEmpty then
    match e.message with
    | .text t => .ok t
    | v => .error ⟨.typeError, Text.ofString "__str__ returned non-string (type " ++ v.typeName
        ++ Text.ofString ")"⟩
  else do
    let message ← e.message.display
    let details ← (Value.map e.details).quoted?
    pure (message ++ Text.ofString " | Details: " ++ details)

/-- The details with one more, if its value counts as present. -/
def withDetail (details : FieldMap Value Value) (name : String) (value : Value) (present : Bool) :
    FieldMap Value Value :=
  if present then details.insert (.text (Text.ofString name)) value else details

/-- The error of a kind, given the values of its parameters in order and the details. -/
def make (kind : ErrorKind) (values : List Value) (details : FieldMap Value Value) :
    Except Fault BindingError :=
  let first := values.getD 0 .none
  let second := values.getD 1 .none
  match kind with
  | .base | .cleanup => .ok ⟨kind, first, details, .none⟩
  | .configuration =>
    .ok ⟨kind, first, withDetail details "field" second second.isTruthy, .none⟩
  | .provisioning =>
    .ok ⟨kind, first, withDetail details "database" second second.isTruthy, .none⟩
  | .store =>
    let status := values.getD 2 .none
    let details := withDetail details "operation" second second.isTruthy
    .ok ⟨kind, first, withDetail details "status_code" status (!(status == .none)), status⟩
  | .unknownBinding => do
    let name ← first.display
    pure ⟨kind, .text (Text.ofString "Unknown binding: " ++ name),
      withDetail details "binding" first true, .none⟩

end BindingError

end RavenBinding
