import RavenBinding.Value.Display

/-!
# Statuses

Every record operation reports one of four statuses.

## Main definitions

- `Status`: the vocabulary
- `Status.ofValue`: the status that a value names
-/

namespace RavenBinding

/-- The result of one record operation. -/
inductive Status where
  | ok
  | notFound
  | error
  | notImplemented
  deriving DecidableEq, Repr

namespace Status

/-- All statuses. -/
def all : List Status := [ok, notFound, error, notImplemented]

/-- The name of a status. -/
def name : Status → Text
  | ok => "OK"
  | notFound => "NOT_FOUND"
  | error => "ERROR"
  | notImplemented => "NOT_IMPLEMENTED"

/-- What a status means. -/
def description : Status → Text
  | ok => "The operation completed successfully."
  | notFound => "The requested record was not found."
  | error => "The operation failed."
  | notImplemented => "The operation is not implemented for the current binding."

/-- The operation completed successfully. -/
def isOk (s : Status) : Bool := s = ok

/-- The status with a given name. -/
def ofName? (name : Text) : Option Status := all.find? fun s => s.name == name

/-- The status that a value names. -/
def ofValue (v : Value) : Except Fault Status :=
  let named : Option Status :=
    match v with
    | .text t => ofName? t
    | _ => none
  match named with
  | some s => .ok s
  | none => do
    let shown ← v.quoted?
    .error ⟨.valueError, shown ++ Text.ofString " is not a valid Status"⟩

end Status

end RavenBinding
