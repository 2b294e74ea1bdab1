import RavenBinding.Error.Failure
import RavenBinding.Http.Message

/-!
# Documents and what the server says about them

## Main definitions

- `DatabaseDefinition`: a database to be created
- `Document`, `PutResult`: a document that was read, and the receipt of one that was written
- `Document.ofResponse`, `PutResult.ofResponse`, `databaseNames`: reading successful responses
-/

namespace RavenBinding

/-- The definition of a database, as it is sent on creation. -/
structure DatabaseDefinition where
  id : Text
  settings : FieldMap Text Text := []
  securedSettings : FieldMap Text Text := []
  disabled : Bool := false
  deriving DecidableEq, Repr

/-- Texts by name as a value. -/
def textMap (entries : FieldMap Text Text) : Value :=
  .map (entries.map fun e => (.text e.1, .text e.2))

/-- The definition as a value. -/
def DatabaseDefinition.toValue (d : DatabaseDefinition) : Value :=
  .map [(.text (Text.ofString "Id"), .text d.id),
    (.text (Text.ofString "Settings"), textMap d.settings),
    (.text (Text.ofString "SecuredSettings"), textMap d.securedSettings),
    (.text (Text.ofString "Disabled"), .bool d.disabled)]

/-- A document that was read. -/
structure Document where
  key : Text
  fields : FieldMap Text Json
  metadata : Json := .object []
  etag : Option Text := none

/-- The receipt of a document that was written. -/
structure PutResult where
  key : Json
  etag : Json

/-- The member of a document that holds its metadata. -/
def metadataKey : Text := "@metadata"

/-- The value of a body. -/
def readBody (operation : StoreOperation) (response : Response) : Except Failure Json :=
  (Json.parseBody response.body).mapError fun error =>
    match error.fault? with
    | some fault => .fault fault
    | none => .store ⟨operation, .body response.status error⟩

/-- The document in the body of a response, with its metadata apart. Metadata that count as nothing
are empty. -/
def Document.ofResponse (key : Text) (response : Response) : Except Failure Document := do
  match ← readBody .get response with
  | .object members =>
    let found := (FieldMap.get? members metadataKey).getD .null
    let metadata := if (Value.ofJson found).isTruthy then found else .object []
    pure ⟨key, FieldMap.erase members metadataKey, metadata, response.header? "ETag"⟩
  | _ => .error (.store ⟨.get, .document response.status key⟩)

/-- A text that may be missing, as JSON. -/
def optionalText : Option Text → Json
  | none => .null
  | some t => .text t

/-- The receipt in a response. Without an object in the body, it is the key that was asked for and
the etag of the header. -/
def PutResult.ofResponse (key : Text) (response : Response) : Except Failure PutResult := do
  let fromHeader : PutResult := ⟨.text key, optionalText (response.header? "ETag")⟩
  if response.body.isEmpty then pure fromHeader
  else
    match ← readBody .put response with
    | .object members =>
      pure ⟨(FieldMap.get? members (Text.ofString "Key")).getD (.text key),
        (FieldMap.get? members (Text.ofString "ETag")).getD .null⟩
    | _ => pure fromHeader

/-- The names in a listing of databases; a name that is no text is shown as one. -/
def databaseNames (response : Response) : Except Failure (List Text) := do
  match ← readBody .listDatabases response with
  | .array items =>
    items.mapM fun item => ((Value.ofJson item).display).mapError .fault
  | _ => .error (.store ⟨.listDatabases, .listing response.status⟩)

end RavenBinding
