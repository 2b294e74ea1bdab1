import RavenBinding.Http.Message
import RavenBinding.Json.Render

/-!
# A document server

The server keeps databases in the order of their creation, and in each of them documents in the
order of their keys' first writing. Every write gets the next number, which its etag shows.

## Main definitions

- `Server`: the state
- `Server.answer`: the response to a request and the state after it
-/

namespace RavenBinding

/-- A stored document: its bytes and the number of the write that stored them. -/
structure StoredDocument where
  body : Bytes
  number : Nat
  deriving DecidableEq, Repr

/-- The documents of a database by key. -/
abbrev Documents := FieldMap Text StoredDocument

/-- The state of a server. -/
structure Server where
  databases : FieldMap Text Documents
  /-- The number of the next write. -/
  nextNumber : Nat := 1
  deriving DecidableEq, Repr

/-- The items from one position to just before another; a position below zero counts from the
end. -/
def sliceList {α : Type} (start stop : Int) (items : List α) : List α :=
  let place (i : Int) : Nat := if 0 ≤ i then i.toNat else (i + items.length).toNat
  (items.take (place stop)).drop (place start)

namespace Server

/-- A server with empty databases. -/
def ofNames (names : List Text) : Server := { databases := FieldMap.ofList (names.map (·, [])) }

/-- Creates a database that is missing. -/
def addDatabase (server : Server) (name : Text) : Server :=
  if server.databases.hasKey name then server
  else { server with databases := server.databases ++ [(name, [])] }

/-- Stores a document that was there from the start, which has number zero. -/
def preset (server : Server) (database key : Text) (body : Bytes) : Server :=
  let server := server.addDatabase database
  let documents := (server.databases.get? database).getD []
  { server with
    databases := server.databases.insert database (documents.insert key ⟨body, 0⟩) }

/-- The names of the databases in order. -/
def names (server : Server) : List Text := server.databases.keys

/-- The etag of a numbered write. -/
def etag (number : Nat) : Text := Text.ofString "etag-" ++ Text.ofNat number

/-- A JSON value as a body. -/
def jsonBody (json : Json) : Bytes := Utf8.encodeAll (json.render true)

/-- A response that explains itself in words. -/
def plain (status : Nat) (t : Text) : Response := ⟨status, [], Utf8.encodeAll t⟩

/-- The number that a query gives for a name. -/
def queryNumber (query : Text) (name : String) : Int :=
  let entries := Text.splitOn (CodePoint.ofChar '&') query
  let found := entries.findSome? fun entry =>
    match Text.cut (CodePoint.ofChar '=') entry with
    | (key, some value) =>
      if Percent.decode key == Text.ofString name then Numeral.readInt? (Percent.decode value)
      else none
    | _ => none
  found.getD 0

/-- The segments of a path after its first slash, decoded. -/
def segments (path : Text) : List Text :=
  ((Text.splitOn (CodePoint.ofChar '/') path).drop 1).map Percent.decode

/-- The answer to a request for a document of a database that is there. -/
def answerDocument (server : Server) (method : Method) (database key : Text)
    (documents : Documents) (body : Bytes) : Response × Server :=
  match method with
  | .get =>
    match documents.get? key with
    | none => (⟨404, [], []⟩, server)
    | some document =>
      (⟨200, [(Text.ofString "ETag", etag document.number)], document.body⟩, server)
  | .put =>
    let number := server.nextNumber
    let answer := Json.object
      [(Text.ofString "Key", .text key), (Text.ofString "ETag", .text (etag number))]
    (⟨201, [], jsonBody answer⟩,
      { databases := server.databases.insert database (documents.insert key ⟨body, number⟩),
        nextNumber := number + 1 })
  | .delete =>
    (⟨204, [], []⟩,
      { server with databases := server.databases.insert database (documents.erase key) })

/-- The answer to a request by its method, its path, its query and its body. -/
def respond (server : Server) (method : Method) (path query : Text) (body : Bytes) :
    Response × Server :=
  let unsupported := plain 400
    (Text.ofString "Unsupported request " ++ method.name ++ Text.ofString " " ++ path)
  match method, segments path with
  | .get, [a] =>
    if a == Text.ofString "databases" then
      let start := queryNumber query "start"
      let names := sliceList start (start + queryNumber query "pageSize") server.names
      (⟨200, [], jsonBody (.array (names.map Json.text))⟩, server)
    else (unsupported, server)
  | .put, [a, b, name] =>
    if a == Text.ofString "admin" && b == Text.ofString "databases" then
      (⟨200, [], []⟩, server.addDatabase name)
    else (unsupported, server)
  | method, [a, database, c, key] =>
    if a == Text.ofString "databases" && c == Text.ofString "docs" then
      match server.databases.get? database with
      | none =>
        (plain 503 (Text.ofString "Could not find a database named: " ++ database), server)
      | some documents => server.answerDocument method database key documents body
    else (unsupported, server)
  | _, _ => (unsupported, server)

/-- The answer to a request. -/
def answer (server : Server) (request : Request) : Response × Server :=
  let (path, query) := Text.cut (CodePoint.ofChar '?') request.url.rawPath
  server.respond request.method path (query.getD []) request.body

end Server

end RavenBinding
