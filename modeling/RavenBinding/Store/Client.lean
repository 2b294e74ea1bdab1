import RavenBinding.Http.Session
import RavenBinding.Interaction.Program
import RavenBinding.Store.Document

/-!
# The document store

A store belongs to one server and one of its databases. While its session is open it lists and
creates databases, and gets, puts and deletes documents. Each of these sends at most one request, and
leaves the store with the cookies that the response set.

## Main definitions

- `Store`: the store, with its session while that is open
- `StoreAction`: what is done with a store
- `Store.openSession`, `Store.closeSession`: the session
- `Store.databaseNames`, `Store.createDatabase`, `Store.get`, `Store.put`, `Store.delete`
-/

namespace RavenBinding

/-- A store. -/
structure Store where
  url : Text
  database : Text
  timeout : Timeout
  session : Option Session := none
  deriving DecidableEq, Repr

/-- What is done with a store: it may fail, and changes the store even then. -/
abbrev StoreAction := ExceptT Failure (StateT Store Program)

namespace StoreAction

variable {α : Type}

/-- The store. -/
def store : StoreAction Store := ExceptT.lift StateT.get

/-- Puts a store in the place of the one there is. -/
def replace (s : Store) : StoreAction Unit := ExceptT.lift (StateT.set s)

/-- A program that does not fail. -/
def ofProgram (x : Program α) : StoreAction α := ExceptT.lift (StateT.lift x)

/-- Runs an action on a store. -/
def runOn (x : StoreAction α) (s : Store) : Program (Except Failure α × Store) := x.run.run s

end StoreAction

namespace Store

open StoreAction

/-- The name under which the store logs. -/
def loggerName : Text := "ycsb_ravendb.boundary.ravendb.document_store"

/-- A store without a session. Slashes at the end of the URL are left out. -/
def create (url database : Text) (timeout : Timeout) : Store :=
  { url := url.trimRight (· == CodePoint.ofChar '/'), database := database, timeout := timeout }

/-- The session is open. -/
def isOpen (s : Store) : Bool := s.session.isSome

/-- Makes an entry of the log that names a step. -/
def logStep (step message : Text) : StoreAction Unit :=
  ofProgram (Program.log Level.debug loggerName
    (loggerName ++ Text.ofString ":" ++ step ++ Text.ofString " - " ++ message) [])

/-- Opens the session; one that is open is kept. -/
def openSession : StoreAction Unit := do
  let s ← store
  match s.session with
  | some _ => pure ()
  | none =>
    match Session.open? s.url s.timeout with
    | .error (.invalid error) =>
      throw (.store ⟨.openSession, .serverUrl s.url error⟩)
    | .error (.encoding error) => throw (.encoding error)
    | .ok session => do
      ofProgram (Program.openSession (.done ()))
      replace { s with session := some session }
      logStep (Text.ofString "initialize") (Text.ofString "Opened session to " ++ s.url)

/-- Closes the session if it is open. It is given up even if closing fails. -/
def closeSession : StoreAction Unit := do
  let s ← store
  match s.session with
  | none => pure ()
  | some _ => do
    replace { s with session := none }
    match ← ofProgram (Program.closeSession .done) with
    | some f => throw (.fault f)
    | none => logStep (Text.ofString "close") (Text.ofString "Closed session to " ++ s.url)

/-- The failure of an operation whose exchange did not come about. -/
def exchangeFailure (operation : StoreOperation) (ask : Ask) (cause : StoreCause) : Failure :=
  .store ⟨operation, .exchange ask.method ask.path cause⟩

/-- The failure of an operation whose URL is none. -/
def urlFailure (operation : StoreOperation) (ask : Ask) : UrlFailure → Failure
  | .invalid error => exchangeFailure operation ask (.url error)
  | .encoding error => exchangeFailure operation ask (.encoding error)

/-- The request of an operation. -/
def buildRequest (session : Session) (operation : StoreOperation) (ask : Ask) :
    Except Failure Request :=
  (session.request ask).mapError fun
    | .url failure => urlFailure operation ask failure
    | .json error => .json error
    | .origin problem => .fault problem.fault
    | .host problem => .fault problem.fault

/-- A status that reports an error is a failure of the operation, which shows the text of the
response. -/
def acceptStatus (operation : StoreOperation) (ask : Ask) (allowNotFound : Bool) (r : Response) :
    Except Failure Response :=
  if allowNotFound && r.isNotFound then .ok r
  else if r.isError then
    match r.text with
    | .error f => .error (.fault f)
    | .ok t => .error (.store ⟨operation, .status ask.method ask.path r.status t⟩)
  else .ok r

/-- The failure of an operation whose response is of no use. -/
def responseFailure (operation : StoreOperation) (ask : Ask) : ResponseError → Failure
  | .headers error => exchangeFailure operation ask (.encoding error)
  | .coding f => exchangeFailure operation ask (.connection f)
  | .origin problem => .fault problem.fault
  | .location error =>
    exchangeFailure operation ask (.connection ⟨.remoteProtocolError,
      Text.ofString "Invalid URL in location header: " ++ error.message ++ Text.ofString "."⟩)
  | .redirect failure => urlFailure operation ask failure
  | .host problem => .fault problem.fault

/-- What a reply means for an operation, and the session after it. Faults of the connection, responses
of no use and error statuses are failures of the operation; other faults pass through. -/
def acceptReply (session : Session) (operation : StoreOperation) (ask : Ask) (allowNotFound : Bool)
    (request : Request) : Reply → Except Failure Response × Session
  | .fault f =>
    if f.kind.isOfExchange then
      (.error (exchangeFailure operation ask (.connection f)), session)
    else (.error (.fault f), session)
  | .response r =>
    let (received, session) := session.receive request r
    (((received.mapError (responseFailure operation ask)).bind
      (acceptStatus operation ask allowNotFound)), session)

/-- Sends the request of an operation. -/
def send (operation : StoreOperation) (ask : Ask) (allowNotFound : Bool := false) :
    StoreAction Response := do
  let s ← store
  match s.session with
  | none => throw .sessionClosed
  | some session => do
    logStep (Text.ofString "_send") (ask.method.name ++ Text.ofString " " ++ ask.path)
    let request ← ofExcept (buildRequest session operation ask)
    let reply ← ofProgram (Program.ask request)
    let (accepted, session) := acceptReply session operation ask allowNotFound request reply
    replace { s with session := some session }
    ofExcept accepted

/-- The names of at most `pageSize` databases from a position on. -/
def databaseNames (pageSize : Int) (start : Int := 0) : StoreAction (List Text) := do
  let response ← send .listDatabases
    { method := .get, path := Text.ofString "/databases",
      query := some [(Text.ofString "pageSize", pageSize), (Text.ofString "start", start)] }
  ofExcept (RavenBinding.databaseNames response)

/-- Creates a database. -/
def createDatabase (definition : DatabaseDefinition) : StoreAction Unit := do
  let name ← ofExcept ((Percent.encodeSegment definition.id).mapError .encoding)
  let _ ← send .createDatabase
    { method := .put, path := Text.ofString "/admin/databases/" ++ name,
      content := some definition.toValue }

/-- The path of a document. -/
def documentPath (s : Store) (operation : StoreOperation) (key : Text) : Except Failure Text :=
  let encoded : Except EncodeError Text := do
    let database ← Percent.encodeSegment s.database
    let key ← Percent.encodeSegment key
    pure (Text.ofString "/databases/" ++ database ++ Text.ofString "/docs/" ++ key)
  encoded.mapError fun error => .store ⟨operation, .documentKey key error⟩

/-- The document under a key, if there is one. -/
def get (key : Text) : StoreAction (Option Document) := do
  let s ← store
  let path ← ofExcept (s.documentPath .get key)
  let response ← send .get { method := .get, path := path } true
  if response.isNotFound then pure none
  else do
    let document ← ofExcept (Document.ofResponse key response)
    pure (some document)

/-- The header of a precondition. -/
def preconditionHeader : Text := "If-None-Match"

/-- The headers of a write: the metadata and the expected etag. -/
def putHeaders (etag : Option Text) (metadata : FieldMap Text Value) :
    Except Fault (FieldMap Text Text) := do
  let headers ← metadata.mapM fun e => do
    let shown ← e.2.display
    pure (e.1, shown)
  match etag with
  | none => pure headers
  | some etag => pure (FieldMap.insert headers preconditionHeader etag)

/-- Stores a document under a key, in place of the one that is there. The metadata go into the
headers; with an etag the write is conditional. -/
def put (key : Text) (etag : Option Text) (document : Value) (metadata : FieldMap Text Value) :
    StoreAction PutResult := do
  let headers ← ofExcept ((putHeaders etag metadata).mapError .fault)
  let s ← store
  let path ← ofExcept (s.documentPath .put key)
  let response ← send .put
    { method := .put, path := path, headers := headers, content := some document }
  ofExcept (PutResult.ofResponse key response)

/-- Deletes the document under a key, whether or not there is one. -/
def delete (key : Text) (etag : Option Text := none) : StoreAction Unit := do
  let s ← store
  let path ← ofExcept (s.documentPath .delete key)
  let headers := match etag with
    | none => []
    | some etag => [(preconditionHeader, etag)]
  let _ ← send .delete { method := .delete, path := path, headers := headers } true

end Store

end RavenBinding
