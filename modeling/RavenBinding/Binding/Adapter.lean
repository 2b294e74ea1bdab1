import RavenBinding.Binding.Contract
import RavenBinding.Log.Context
import RavenBinding.Record.Codec
import RavenBinding.Settings.Basic
import RavenBinding.Store.Client
import RavenBinding.Text.CaseFold

/-!
# The binding of the document store

The adapter keeps each record as one document. All tables share one database, which is created on
initialization if no database of its name, in any case, is listed. Updates and scans are not
implemented.

An adapter remembers settings, a store and whether it counts as initialized. Nothing in the type
ties the three together: each operation looks at those that it needs, and fails if one of them is
missing.

## Main definitions

- `Adapter`: the adapter with what it remembers
- `AdapterAction`: what is done with an adapter
- `Adapter.setUp`, `Adapter.cleanUp`: becoming ready and giving up the store
- `Adapter.read`, `Adapter.insert`, `Adapter.delete`, `Adapter.update`, `Adapter.scan`
-/

namespace RavenBinding

/-- A binding to the document store. -/
structure Adapter where
  properties : Properties
  /-- The settings of the store that it holds or held last. -/
  settings? : Option Settings := none
  /-- The store that it holds. -/
  store? : Option Store := none
  isInitialized : Bool := false

/-- What is done with an adapter, which it may change. -/
abbrev AdapterAction := StateT Adapter Program

namespace Adapter

/-- The name under which the adapter logs. -/
def loggerName : Text := "ycsb_ravendb.application.adapters.document_store_adapter"

/-- An adapter that is not set up. -/
def create (properties : Properties) : Adapter := { properties := properties }

/-- Replaces the properties, which count when it is set up next. -/
def setProperties (a : Adapter) (properties : Properties) : Adapter :=
  { a with properties := properties }

/-- The message of an entry of the log about a step. -/
def stepMessage (step : String) (message : Text) : Text :=
  loggerName ++ Text.ofString ":" ++ Text.ofString step ++ Text.ofString " - " ++ message

/-- The context of an entry of the log. -/
def context (entries : List (String × Text)) : FieldMap Text Text :=
  Logger.contextTexts (entries.map fun e => (Text.ofString e.1, .text e.2))

/-- What is printed about a URL that is not supported. -/
def urlNotice (url : Text) : Text :=
  Text.ofString "ERROR: Invalid URL: '" ++ url
    ++ Text.ofString "'. Must be of the form 'http://<host>:<port>'. "
    ++ Text.ofString "https://ravendb.net/docs/article-page/3.5/java/start/getting-started"

/-- Two names are equal but for case. -/
def sameName (a b : Text) : Bool := a.caseFold == b.caseFold

/-- The definition of the database of some settings. -/
def definition (settings : Settings) : DatabaseDefinition :=
  { id := settings.database, settings := settings.databaseSettings }

/-- Creates the database of the settings unless its name, in any case, is on the first page of the
listing. -/
def ensureDatabase (settings : Settings) : StoreAction Unit := do
  let names ← Store.databaseNames settings.databasePageSize
  if names.any fun name => sameName name settings.database then
    StoreAction.ofProgram (Program.log Level.debug loggerName
      (stepMessage "initialize" (Text.ofString "Database " ++ settings.database
        ++ Text.ofString " already exists"))
      (context [("operation", Text.ofString "provision"), ("database", settings.database)]))
  else do
    let store ← StoreAction.store
    StoreAction.ofProgram (Program.log Level.info loggerName
      (stepMessage "initialize" (Text.ofString "Creating database " ++ settings.database))
      (context [("operation", Text.ofString "provision"), ("database", settings.database),
        ("url", store.url)]))
    Store.createDatabase (definition settings)

/-- The store of some settings, without a session. -/
def storeOf (settings : Settings) : Store :=
  Store.create settings.url settings.database (.fractional settings.timeout)

/-- Opens the store of some settings and makes sure that its database is there. When the store
refuses, the session is closed again. -/
def connect (settings : Settings) : Program (Except Failure Store) := do
  let refused (error : StoreError) : Failure :=
    .provisioning settings.database settings.url error
  let (opened, store) ← Store.openSession.runOn (storeOf settings)
  match opened with
  | .error (.store error) => pure (.error (refused error))
  | .error failure => pure (.error failure)
  | .ok () => do
    let (ensured, store) ← (ensureDatabase settings).runOn store
    match ensured with
    | .ok () => pure (.ok store)
    | .error (.store error) => do
      let (closed, _) ← Store.closeSession.runOn store
      match closed with
      | .ok () => pure (.error (refused error))
      | .error failure => pure (.error failure)
    | .error failure => pure (.error failure)

/-- Makes the adapter ready. On a failure it stays as it was. A URL of another form than the one
supported ends the process. -/
def setUp (env : Environment) : AdapterAction (Except Failure Unit) := do
  let a ← StateT.get
  match Settings.ofProperties a.properties env with
  | .error error => pure (.error (.configuration error))
  | .ok settings =>
    if settings.hasValidUrl then do
      match ← StateT.lift (connect settings) with
      | .ok store => do
        StateT.set
          { a with settings? := some settings, store? := some store, isInitialized := true }
        pure (.ok ())
      | .error failure => pure (.error failure)
    else do
      StateT.lift (Program.printError (urlNotice settings.url))
      pure (.error (.exit 1))

/-- The fault of looking for an attribute where there is no object. -/
def missingFault (name : String) : Fault :=
  ⟨.attributeError, Text.ofString "'" ++ Value.none.typeName
    ++ Text.ofString "' object has no attribute '" ++ Text.ofString name ++ Text.ofString "'"⟩

/-- Gives up the store of an adapter that counts as initialized, which it does not afterwards, even
if closing the session fails. -/
def cleanUp : AdapterAction (Except Failure Unit) := do
  let a ← StateT.get
  if a.isInitialized then do
    StateT.set { a with store? := none, isInitialized := false }
    match a.store? with
    | none => pure (.error (.fault (missingFault "close")))
    | some store => do
      let (closed, _) ← StateT.lift (Store.closeSession.runOn store)
      match closed with
      | .error (.fault f) =>
        if f.kind.isConnection || f.kind.isRuntimeError then
          pure (.error (.cleanup store.url f))
        else pure (.error (.fault f))
      | closed => pure closed
  else pure (.ok ())

/-- Does something with the store that the adapter holds. -/
def onStore {α : Type} (store : Store) (action : StoreAction α) :
    AdapterAction (Except Failure α) := do
  let (ending, store) ← StateT.lift (action.runOn store)
  let a ← StateT.get
  StateT.set { a with store? := some store }
  pure ending

/-- Logs a failed operation on a record. -/
def logFailure (operation title : String) (key : Text) (error : StoreError) : AdapterAction Unit :=
  StateT.lift (Program.log Level.error loggerName
    (stepMessage operation (Text.ofString title) ++ Text.ofString ": " ++ error.text)
    (((context [("operation", Text.ofString operation), ("key", key)]).insert
      (Text.ofString "error_type") ErrorKind.store.name).insert
      (Text.ofString "error_msg") error.text))

/-- Reads the document under a key into a result. Only with the field filter on are the fields
looked at; the settings, which say so, are looked at once there is a document. -/
def read (_table key : Text) (fields : Option (List Text)) (result : ResultMap) :
    AdapterAction (Outcome ResultMap) := do
  let a ← StateT.get
  match a.store? with
  | none => pure ⟨result, .error .notInitialized⟩
  | some store => do
    match ← onStore store (Store.get key) with
    | .error (.store error) => do
      logFailure "read" "Read failed" key error
      pure ⟨result, .ok .error⟩
    | .error failure => pure ⟨result, .error failure⟩
    | .ok none => pure ⟨result, .ok .notFound⟩
    | .ok (some document) =>
      match a.settings? with
      | none => pure ⟨result, .error (.fault (missingFault "apply_field_filter"))⟩
      | some settings =>
        let wanted := if settings.applyFieldFilter then fields else none
        let (filled, ending) :=
          Record.fill wanted result (document.fields.map fun f => (f.1, Value.ofJson f.2))
        match ending with
        | .ok () => pure ⟨filled, .ok .ok⟩
        | .error error => pure ⟨filled, .error (.ofWriteError error)⟩

/-- Writes a record as the document under its key, in place of one that is there. -/
def insert (_table key : Text) (values : FieldMap Text Value) :
    AdapterAction (Except Failure Status) := do
  let a ← StateT.get
  match a.store? with
  | none => pure (.error .notInitialized)
  | some store =>
    match Record.document values with
    | .error f => pure (.error (.fault f))
    | .ok document => do
      match ← onStore store (Store.put key none (textMap document) []) with
      | .error (.store error) => do
        logFailure "insert" "Insert failed" key error
        pure (.ok .error)
      | .error failure => pure (.error failure)
      | .ok _ => pure (.ok .ok)

/-- Deletes the document under a key, whether or not there is one. -/
def delete (_table key : Text) : AdapterAction (Except Failure Status) := do
  let a ← StateT.get
  match a.store? with
  | none => pure (.error .notInitialized)
  | some store => do
    match ← onStore store (Store.delete key none) with
    | .error (.store error) => do
      logFailure "delete" "Delete failed" key error
      pure (.ok .error)
    | .error failure => pure (.error failure)
    | .ok () => pure (.ok .ok)

/-- Updates are not implemented. -/
def update (_table _key : Text) (_values : FieldMap Text Value) :
    AdapterAction (Except Failure Status) :=
  pure (.ok .notImplemented)

/-- Scans are not implemented. -/
def scan (_table _startKey : Text) (_count : Int) (_fields : Option (List Text))
    (result : List ResultMap) : AdapterAction (Outcome (List ResultMap)) :=
  pure ⟨result, .ok .notImplemented⟩

/-- Adapters as bindings. -/
def binding : Binding AdapterAction :=
  { read := read, scan := scan, insert := insert, update := update, delete := delete }

end Adapter

end RavenBinding
