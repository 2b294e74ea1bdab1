import RavenBinding.Error.Binding

/-!
# Building an error from arguments

An error is built from arguments in order and arguments by name. The arguments are bound to the
parameters of the kind of error; a wrong list of arguments is a fault.

## Main definitions

- `BindingError.bind`: the values of the parameters
- `BindingError.construct`: the error, and the details of the caller afterwards
-/

namespace RavenBinding

namespace BindingError

/-- The fault of a wrong list of arguments. -/
def argumentFault (kind : ErrorKind) (problem : Text) : Fault :=
  ⟨.typeError, kind.constructorKind.name ++ Text.ofString ".__init__() " ++ problem⟩

/-- Binds the arguments by name to the slots that the arguments in order left open. -/
def bindNamed (kind : ErrorKind) (parameters : List Text) :
    List (Option Value) → FieldMap Text Value → Except Fault (List (Option Value))
  | slots, [] => .ok slots
  | slots, (name, value) :: rest =>
    match parameters.findIdx? fun p => p == name with
    | none =>
      .error (argumentFault kind (Text.ofString "got an unexpected keyword argument '" ++ name
        ++ Text.ofString "'"))
    | some i =>
      if (slots.getD i none).isSome then
        .error (argumentFault kind (Text.ofString "got multiple values for argument '" ++ name
          ++ Text.ofString "'"))
      else bindNamed kind parameters (slots.set i (some value)) rest

/-- The parameter that stands for the error itself, which is always given. -/
def selfName : Text := "self"

/-- The values of the parameters of a kind; a parameter that may be left out is nothing. -/
def bind (kind : ErrorKind) (arguments : List Value) (named : FieldMap Text Value) :
    Except Fault (List Value) := do
  let (parameters, required) := kind.parameters
  let slots : List (Option Value) := (List.range parameters.length).map fun i => arguments[i]?
  let bound ← bindNamed kind (selfName :: parameters) (some .none :: slots) named
  let slots := bound.drop 1
  if parameters.length < arguments.length then
    .error (argumentFault kind (Text.ofString "takes from " ++ Text.ofNat (required + 1)
      ++ Text.ofString " to " ++ Text.ofNat (parameters.length + 1)
      ++ Text.ofString " positional arguments but " ++ Text.ofNat (arguments.length + 1)
      ++ Text.ofString " were given"))
  else
    match slots, parameters with
    | none :: _, name :: _ =>
      .error (argumentFault kind (Text.ofString "missing 1 required positional argument: '" ++ name
        ++ Text.ofString "'"))
    | slots, _ => pure (slots.map fun slot => slot.getD .none)

/-- The fault of writing a detail into what is no map. -/
def assignmentFault (v : Value) : Fault :=
  ⟨.typeError, match v with
    | .sequence .list _ => "list indices must be integers or slices, not str"
    | .bytes .bytearray _ => "bytearray indices must be integers or slices, not str"
    | .bytes .memoryview _ => "cannot modify read-only memory"
    | v => Text.ofString "'" ++ v.typeName
        ++ Text.ofString "' object does not support item assignment"⟩

/-- The fault of looking at the entries of what is no map. -/
def entriesFault (v : Value) : Fault :=
  ⟨.attributeError, Text.ofString "'" ++ v.typeName
    ++ Text.ofString "' object has no attribute 'items'"⟩

/-- The fault of details that count as present and are no map. -/
def detailsFault (kind : ErrorKind) (values : List Value) (details : Value) : Fault :=
  match make kind values [] with
  | .ok error => if error.details.isEmpty then entriesFault details else assignmentFault details
  | .error _ => assignmentFault details

/-- An error built from arguments, and the details that the caller handed in, as they are
afterwards. Details that are missing or empty are replaced by new ones. -/
def construct (kind : ErrorKind) (arguments : List Value) (named : FieldMap Text Value) :
    Except Fault (BindingError × Value) := do
  let values ← bind kind arguments named
  let given := values.getLastD .none
  match given with
  | .map (entry :: entries) =>
    let error ← make kind values (entry :: entries)
    pure (error, .map error.details)
  | _ =>
    if given.isTruthy then throw (detailsFault kind values given)
    let error ← make kind values []
    pure (error, given)

end BindingError

end RavenBinding
