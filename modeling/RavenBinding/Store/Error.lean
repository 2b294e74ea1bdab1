import RavenBinding.Error.Binding
import RavenBinding.Http.Message
import RavenBinding.Json.Body

/-!
# Errors of the document store

A failed operation of the store says which operation it was, what was wrong, the status of the
response if one came back, and the error that it was caused by if there was one.

## Main definitions

- `StoreOperation`, `StoreProblem`, `StoreError`: the error
- `StoreError.status?`, `StoreError.cause?`, `StoreError.message`: what it tells
-/

namespace RavenBinding

/-- The operations of the store that can fail. -/
inductive StoreOperation where
  | openSession
  | listDatabases
  | createDatabase
  | get
  | put
  | delete
  deriving DecidableEq, Repr

/-- The name of an operation. -/
def StoreOperation.name : StoreOperation → Text
  | openSession => "initialize"
  | listDatabases => "get_database_names"
  | createDatabase => "create_database"
  | get => "get"
  | put => "put"
  | delete => "delete"

/-- What an error of the store was caused by. -/
inductive StoreCause where
  | url (error : UrlError)
  | encoding (error : EncodeError)
  | connection (fault : Fault)
  | body (error : BodyError)
  deriving DecidableEq, Repr

/-- The text of a cause. -/
def StoreCause.message : StoreCause → Text
  | url error => error.message
  | encoding error => error.message
  | connection fault => fault.message
  | body error => error.message

/-- What was wrong. -/
inductive StoreProblem where
  /-- The URL of the server cannot be read. -/
  | serverUrl (url : Text) (error : UrlError)
  /-- The key of a document, or the name of the database, has no encoding. -/
  | documentKey (key : Text) (error : EncodeError)
  /-- The request could not be built or its reply did not come back. -/
  | exchange (method : Method) (path : Text) (cause : StoreCause)
  /-- The response reports an error, with a text. -/
  | status (method : Method) (path : Text) (status : Nat) (text : Text)
  /-- The body of the response cannot be read. -/
  | body (status : Nat) (error : BodyError)
  /-- The listing of databases is no array. -/
  | listing (status : Nat)
  /-- The document is no object. -/
  | document (status : Nat) (key : Text)
  deriving DecidableEq, Repr

/-- A failed operation of the store. -/
structure StoreError where
  operation : StoreOperation
  problem : StoreProblem
  deriving DecidableEq, Repr

namespace StoreError

/-- The status of the response, if one came back. -/
def status? (e : StoreError) : Option Nat :=
  match e.problem with
  | .serverUrl _ _ | .documentKey _ _ | .exchange _ _ _ => none
  | .status _ _ status _ | .body status _ | .listing status | .document status _ => some status

/-- The error that the failure was caused by, if there was one. -/
def cause? (e : StoreError) : Option StoreCause :=
  match e.problem with
  | .serverUrl _ error => some (.url error)
  | .documentKey _ error => some (.encoding error)
  | .exchange _ _ cause => some cause
  | .body _ error => some (.body error)
  | .status .. | .listing _ | .document _ _ => none

/-- The message without details. -/
def message (e : StoreError) : Text :=
  match e.problem with
  | .serverUrl url error =>
    Text.ofString "Invalid server URL " ++ url.quoted ++ Text.ofString ": " ++ error.message
  | .documentKey key error =>
    Text.ofString "Document key " ++ key.quoted ++ Text.ofString " is not encodable as UTF-8: "
      ++ error.message
  | .exchange method path cause =>
    method.name ++ Text.ofString " " ++ path ++ Text.ofString " failed: " ++ cause.message
  | .status method path status text =>
    method.name ++ Text.ofString " " ++ path ++ Text.ofString " returned HTTP "
      ++ Text.ofNat status ++ Text.ofString ": " ++ text
  | .body _ error => Text.ofString "Undecodable response body: " ++ error.message
  | .listing _ => "Database listing is not a JSON array"
  | .document _ key =>
    Text.ofString "Document " ++ key.quoted ++ Text.ofString " is not a JSON object"

/-- The details: the operation, and the status if there is one. -/
def details (e : StoreError) : FieldMap Value Value :=
  (.text (Text.ofString "operation"), .text e.operation.name) ::
    match e.status? with
    | none => []
    | some status => [(.text (Text.ofString "status_code"), .int status)]

/-- The message with the details. -/
def text (e : StoreError) : Text :=
  e.message ++ Text.ofString " | Details: " ++ (Value.map e.details).quoted

end StoreError

end RavenBinding
