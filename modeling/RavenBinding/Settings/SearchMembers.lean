import RavenBinding.Json.Basic
import RavenBinding.Settings.Environment

/-!
# How an object changes the search for settings

An object that gives settings may hold members that say how the settings that it does not give are
looked for. Null leaves the search as it is, except for the file, of which there is then none.

## Main definitions

- `SearchMembers.adjust`: a search with the members of an object taken into account
-/

namespace RavenBinding

namespace SearchMembers

/-- The name that no member may have. -/
def reserved : Text := "__pydantic_self__"

/-- The fault of a member under the reserved name. -/
def reservedFault : Fault :=
  ⟨.typeError, Text.ofString "BaseSettings.__init__() got multiple values for argument '" ++ reserved
    ++ Text.ofString "'"⟩

/-- The fault of a value that has no length. -/
def lengthFault (v : Value) : Fault :=
  ⟨.typeError, Text.ofString "object of type '" ++ v.typeName ++ Text.ofString "' has no len()"⟩

/-- The fault of a value that is no collection of file names. -/
def itemsFault (v : Value) : Fault :=
  ⟨.typeError, Text.ofString "'" ++ v.typeName ++ Text.ofString "' object is not iterable"⟩

/-- The fault of a value that is no file name. -/
def pathFault (v : Value) : Fault :=
  ⟨.typeError,
    Text.ofString "expected str, bytes or os.PathLike object, not " ++ v.typeName⟩

/-- The names of the one settings file that there may be. -/
def fileNames : List Text := [".env", "./.env"].map Text.ofString

/-- Whether the settings file is among some names. -/
def namesFile : List Json → Except Fault Bool
  | [] => .ok false
  | .text t :: rest => do
    let others ← namesFile rest
    pure (fileNames.contains t || others)
  | item :: _ => .error (pathFault (Value.ofJson item))

/-- Whether a value names the settings file. -/
def usesFile : Json → Except Fault Bool
  | .null => .ok false
  | .text t => .ok (fileNames.contains t)
  | .array items => namesFile items
  | .object members => namesFile (members.map fun m => .text m.1)
  | value => .error (itemsFault (Value.ofJson value))

/-- What names of settings begin with, by a value. -/
def namePrefix : Json → Except Fault Text
  | .text t => .ok t
  | value => .error (lengthFault (Value.ofJson value))

/-- A member that is there and not null. -/
def present? (members : FieldMap Text Json) (name : String) : Option Json :=
  match members.get? (Text.ofString name) with
  | none | some .null => none
  | some value => some value

/-- A member as a truth value, and what counts without it. -/
def flag (members : FieldMap Text Json) (name : String) (default : Bool) : Bool :=
  ((present? members name).map fun value => (Value.ofJson value).isTruthy).getD default

/-- The search with the members of an object taken into account. -/
def adjust (members : FieldMap Text Json) (search : Search) : Except Fault Search := do
  if members.hasKey reserved then throw reservedFault
  let namePrefix ← match present? members "_env_prefix" with
    | none => pure search.namePrefix
    | some value => namePrefix value
  let usesFile ← match members.get? (Text.ofString "_env_file") with
    | none => pure search.usesFile
    | some value => usesFile value
  let nothing := match present? members "_env_parse_none_str" with
    | some (.text t) => some t
    | _ => search.nothing
  pure { namePrefix := namePrefix
         usesFile := usesFile
         exactCase := flag members "_case_sensitive" search.exactCase
         skipsEmpty := flag members "_env_ignore_empty" search.skipsEmpty
         nothing := nothing }

end SearchMembers

end RavenBinding
