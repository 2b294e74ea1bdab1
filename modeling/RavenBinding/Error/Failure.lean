import RavenBinding.Json.Bytes
import RavenBinding.Store.Error

/-!
# Failures of operations

An operation of a store or of a binding ends with a result or with a failure, which is one of the
causes below.

## Main definitions

- `ConfigurationError`: a setting that cannot be converted
- `Failure`: the causes
- `Failure.message`: the message without details
-/

namespace RavenBinding

/-- The first setting that cannot be converted, with the value that was given for it. -/
structure ConfigurationError where
  reason : Text
  field : Text
  input : Value

/-- Why an operation did not end with a result. -/
inductive Failure where
  /-- A request to the store failed. -/
  | store (error : StoreError)
  /-- A setting cannot be converted. -/
  | configuration (error : ConfigurationError)
  /-- The database could not be looked up or created. -/
  | provisioning (database url : Text) (cause : StoreError)
  /-- The session could not be closed. -/
  | cleanup (url : Text) (cause : Fault)
  /-- No binding has the name. -/
  | unknownBinding (name : Text) (available : List Text)
  /-- The store has no open session. -/
  | sessionClosed
  /-- The binding has no store yet. -/
  | notInitialized
  /-- The process is to end with a status. -/
  | exit (status : Nat)
  /-- A fault of the surroundings. -/
  | fault (f : Fault)
  /-- A text has no encoding. -/
  | encoding (error : EncodeError)
  /-- A value has no JSON form. -/
  | json (error : JsonFault)

namespace Failure

/-- A value that cannot be written. -/
def ofWriteError : WriteError → Failure
  | .json f => json f
  | .encoding error => encoding error

/-- The error of the binding that a failure is, if it is one. -/
def bindingError? : Failure → Option BindingError
  | store error =>
    some ⟨.store, .text error.message, error.details,
      match error.status? with
      | none => .none
      | some status => .int status⟩
  | configuration error =>
    some ⟨.configuration,
      .text (Text.ofString "Invalid RavenDB binding configuration: " ++ error.reason),
      [(.text (Text.ofString "input"), error.input),
        (.text (Text.ofString "field"), .text error.field)], .none⟩
  | provisioning database url cause =>
    some ⟨.provisioning,
      .text (Text.ofString "Failed to provision database " ++ database ++ Text.ofString ": "
        ++ cause.message),
      BindingError.withDetail [(.text (Text.ofString "url"), .text url)] "database"
        (.text database) (!database.isEmpty), .none⟩
  | cleanup url cause =>
    some ⟨.cleanup, .text (Text.ofString "Failed to close document store: " ++ cause.message),
      [(.text (Text.ofString "url"), .text url)], .none⟩
  | unknownBinding name available =>
    some ⟨.unknownBinding, .text (Text.ofString "Unknown binding: " ++ name),
      [(.text (Text.ofString "available"), .sequence .list (available.map .text)),
        (.text (Text.ofString "binding"), .text name)], .none⟩
  | _ => none

/-- The message of a failure, with its details if it has some. A text that cannot be shown is left
out. -/
def message : Failure → Text
  | sessionClosed => "DocumentStore.initialize() must be called before use"
  | notInitialized => "DocumentStoreAdapter.initialize() must be called before record operations"
  | exit status => Text.ofNat status
  | fault f => f.message
  | encoding error => error.message
  | json error => error.fault.message
  | failure =>
    match failure.bindingError? with
    | some error => error.text.toOption.getD []
    | none => []

/-- The message of an error of the binding without its details. -/
def short? (failure : Failure) : Option Text :=
  match failure.bindingError? with
  | some error =>
    match error.message with
    | .text t => some t
    | _ => none
  | none => none

end Failure

end RavenBinding
