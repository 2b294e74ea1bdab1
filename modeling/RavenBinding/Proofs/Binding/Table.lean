import RavenBinding.Proofs.Binding.Operations
import RavenBinding.Proofs.Record.Stored
import RavenBinding.Proofs.Store.ServerExchange

/-!
# Tables of records

A table keeps records under keys, beside documents that were there before. A server whose database
holds the documents of a table answers with what the table holds, and its responses are read as what
the table says.

## Main definitions

- `Table`: what is kept under each key
- `Table.read`, `Table.insert`, `Table.delete`: the operations on it
- `Table.server`: a server with the documents of a table

## Main statements

- `Table.answerDocument_put`, `Table.answerDocument_delete`: the server follows the table
- `StoredRecord.readForeign_body`: all fields of a record are read back
-/

namespace RavenBinding

/-- What is kept under a key: a record that was inserted, or the body of any other document. -/
inductive Kept where
  | record (r : StoredRecord)
  | foreign (body : Bytes)

/-- The body of the document. -/
def Kept.body : Kept → Bytes
  | record r => r.body
  | foreign body => body

/-- What is kept under a key, with the number of its write. -/
structure TableEntry where
  kept : Kept
  number : Nat

/-- The document of an entry. -/
def TableEntry.document (e : TableEntry) : StoredDocument := ⟨e.kept.body, e.number⟩

/-- A table of records, in the order of their keys' first writing. -/
structure Table where
  entries : FieldMap Text TableEntry
  nextNumber : Nat

namespace Table

/-- The table of documents of which nothing is known. -/
def ofDocuments (documents : Documents) (nextNumber : Nat) : Table where
  entries := FieldMap.mapValues (fun d => ⟨.foreign d.body, d.number⟩) documents
  nextNumber := nextNumber

/-- The documents of the table. -/
def documents (t : Table) : Documents := FieldMap.mapValues TableEntry.document t.entries

/-- A server with the documents of the table in one of its databases. -/
def server (t : Table) (others : FieldMap Text Documents) (database : Text) : Server where
  databases := others.insert database t.documents
  nextNumber := t.nextNumber

/-- The table with a record under a key. -/
def insert (t : Table) (key : Text) (r : StoredRecord) : Table where
  entries := t.entries.insert key ⟨.record r, t.nextNumber⟩
  nextNumber := t.nextNumber + 1

/-- The table without a record under a key. -/
def delete (t : Table) (key : Text) : Table := { t with entries := t.entries.erase key }

/-- What a read makes of a document that the adapter did not write. -/
def readForeign (settings : Settings) (fields : Option (List Text)) (result : ResultMap)
    (body : Bytes) : Outcome ResultMap :=
  match Json.parseBody body with
  | .ok (.object members) =>
    let (filled, ending) := Record.fill (Adapter.wanted settings fields) result
      ((FieldMap.erase members metadataKey).map fun m => (m.1, Value.ofJson m.2))
    ⟨filled, Adapter.fillStatus ending⟩
  | .ok _ => ⟨result, .ok .error⟩
  | .error error =>
    match error.fault? with
    | some f => ⟨result, .error (.fault f)⟩
    | none => ⟨result, .ok .error⟩

/-- What a read finds: of a record the bytes of the fields that it looks for, without the field that
is named like the metadata. -/
def read (t : Table) (settings : Settings) (key : Text) (fields : Option (List Text))
    (result : ResultMap) : Outcome ResultMap :=
  match t.entries.get? key with
  | none => ⟨result, .ok .notFound⟩
  | some ⟨.record r, _⟩ =>
    ⟨FieldMap.insertAll result
      (FieldMap.mapValues Utf8.encodeAll (Adapter.membersSought settings fields r.fields)), .ok .ok⟩
  | some ⟨.foreign body, _⟩ => readForeign settings fields result body

end Table

/-! ### What the server holds -/

namespace Table

theorem get?_server (t : Table) (others : FieldMap Text Documents) (database : Text) :
    (t.server others database).databases.get? database = some t.documents :=
  FieldMap.get?_insert_self others database t.documents

theorem get?_documents (t : Table) (key : Text) :
    t.documents.get? key = (t.entries.get? key).map TableEntry.document :=
  FieldMap.get?_mapValues TableEntry.document t.entries key

/-- The table of the documents of a database is the server as it is. -/
theorem server_ofDocuments {server : Server} {database : Text} {documents : Documents}
    (h : server.databases.get? database = some documents) :
    (ofDocuments documents server.nextNumber).server server.databases database = server := by
  have hdocuments : (ofDocuments documents server.nextNumber).documents = documents := by
    rw [Table.documents, ofDocuments, FieldMap.mapValues, FieldMap.mapValues, List.map_map]
    exact List.map_id _
  rw [Table.server, hdocuments, FieldMap.insert_of_get? h]
  rfl

variable (t : Table) (others : FieldMap Text Documents) (database key : Text)

theorem answerDocument_get_none (h : t.entries.get? key = none) (body : Bytes) :
    (t.server others database).answerDocument .get database key t.documents body =
      (⟨404, [], []⟩, t.server others database) := by
  have hnone : t.documents.get? key = none := by rw [get?_documents, h]; rfl
  rw [Server.answerDocument, hnone]

theorem answerDocument_get_some {e : TableEntry} (h : t.entries.get? key = some e) (body : Bytes) :
    (t.server others database).answerDocument .get database key t.documents body =
      (⟨200, [(Text.ofString "ETag", Server.etag e.number)], e.kept.body⟩,
        t.server others database) := by
  have hsome : t.documents.get? key = some e.document := by rw [get?_documents, h]; rfl
  rw [Server.answerDocument, hsome]
  rfl

/-- The receipt of a write. -/
def receipt (key : Text) (number : Nat) : Json :=
  .object [(Text.ofString "Key", .text key),
    (Text.ofString "ETag", .text (Server.etag number))]

theorem answerDocument_put (r : StoredRecord) :
    (t.server others database).answerDocument .put database key t.documents r.body =
      (⟨201, [], Server.jsonBody (receipt key t.nextNumber)⟩,
        (t.insert key r).server others database) := by
  rw [Server.answerDocument]
  refine congrArg (Prod.mk _) ?_
  -- the database is put in its place once more, with the new document
  have hdocuments : t.documents.insert key ⟨r.body, t.nextNumber⟩ = (t.insert key r).documents :=
    FieldMap.insert_mapValues TableEntry.document t.entries key ⟨.record r, t.nextNumber⟩
  rw [Table.server, Table.server]
  simp only [FieldMap.insert_insert, hdocuments]
  rfl

theorem answerDocument_delete (body : Bytes) :
    (t.server others database).answerDocument .delete database key t.documents body =
      (⟨204, [], []⟩, (t.delete key).server others database) := by
  have hdocuments : t.documents.erase key = (t.delete key).documents :=
    FieldMap.erase_mapValues TableEntry.document t.entries key
  rw [Server.answerDocument, Table.server, Table.server]
  simp only [FieldMap.insert_insert, hdocuments]
  rfl

end Table

/-! ### Responses of the server -/

theorem Server.isAscii_of_mem_etag (number : Nat) {c : CodePoint} (h : c ∈ Server.etag number) :
    c.isAscii = true := by
  rcases List.mem_append.1 h with h | h
  · have hall : (Text.ofString "etag-").all CodePoint.isAscii = true := by decide
    exact List.all_eq_true.1 hall c h
  · have hd := Text.isDigit_of_mem_ofNat h
    simp only [CodePoint.isDigit, Bool.and_eq_true, decide_eq_true_eq] at hd
    exact decide_eq_true (by omega)

/-- A response with a document is ordinary. -/
theorem Response.isOrdinary_etag (status number : Nat) (body : Bytes) :
    (⟨status, [(Text.ofString "ETag", Server.etag number)], body⟩ : Response).IsOrdinary where
  written := by
    obtain ⟨bytes, hbytes⟩ :=
      Text.exists_encodeAscii fun c hc => Server.isAscii_of_mem_etag number hc
    refine ⟨[((Text.ofString "ETag").toLowerAscii, Server.etag number)], ?_⟩
    rw [Session.encodeHeaders, hbytes]
    rfl
  names := by
    intro e he
    obtain rfl := List.mem_singleton.1 he
    exact show (Text.ofString "ETag").toLowerAscii ≠ Text.ofString "content-encoding" ∧
      (Text.ofString "ETag").toLowerAscii ≠ Text.ofString "set-cookie" ∧
      (Text.ofString "ETag").toLowerAscii ≠ (Text.ofString "Location").toLowerAscii by decide

/-- What is read from a document depends on its body alone. -/
theorem readOutcome_finish (settings : Settings) (key : Text) (fields : Option (List Text))
    (result : ResultMap) (headers : Headers) (body : Bytes) :
    Adapter.readOutcome settings fields result
      ((Store.getExchange key).finish ⟨200, headers, body⟩) =
      Table.readForeign settings fields result body := by
  have hfinish : (Store.getExchange key).finish ⟨200, headers, body⟩ =
      (Document.ofResponse key ⟨200, headers, body⟩).map some := rfl
  rw [hfinish, Table.readForeign]
  cases hbody : Json.parseBody body with
  | error error =>
    cases hdeep : error.fault? with
    | none =>
      rw [Document.ofResponse_of_error hbody hdeep]
      simp only [hdeep]
      rfl
    | some f =>
      rw [Document.ofResponse_of_fault hbody hdeep]
      simp only [hdeep]
      rfl
  | ok j =>
    rw [Document.ofResponse, readBody, hbody]
    cases j with
    | object members => rfl
    | _ => rfl

/-- Of a record that was written, all fields are read back. -/
theorem StoredRecord.readForeign_body (settings : Settings) (fields : Option (List Text))
    (result : ResultMap) (r : StoredRecord) :
    Table.readForeign settings fields result r.body =
      ⟨FieldMap.insertAll result
        (FieldMap.mapValues Utf8.encodeAll (Adapter.membersSought settings fields r.fields)),
        .ok .ok⟩ := by
  have hsought : Record.wantedMembers (Adapter.wanted settings fields)
      (FieldMap.erase (FieldMap.mapValues Json.text r.fields) metadataKey) =
      FieldMap.mapValues .text (Adapter.membersSought settings fields r.fields) := by
    rw [FieldMap.erase_mapValues, Record.wantedMembers_mapValues]
    rfl
  -- what was written has no lone surrogate, so every member has bytes
  have hreadable : ∀ m ∈ FieldMap.mapValues Json.text
      (Adapter.membersSought settings fields r.fields), m.2.isReadable = true := by
    intro m hm
    obtain ⟨e, he, rfl⟩ := List.mem_map.1 hm
    have hfield : e ∈ r.fields := (List.mem_filter.1 (List.mem_filter.1 he).1).1
    exact (Bool.and_eq_true_iff.1 (List.all_eq_true.1 r.writable e hfield)).2
  obtain ⟨ending, hfill, hall, -⟩ := Record.exists_fill_of_parseBody
    (Adapter.wanted settings fields) result r.parseBody_body metadataKey
  rw [hsought] at hfill hall
  rw [Table.readForeign, r.parseBody_body]
  simp only [hfill, hall hreadable, Record.readable_of_forall hreadable]
  refine congrArg (Outcome.mk · _) (congrArg (FieldMap.insertAll result) ?_)
  rw [FieldMap.mapValues, FieldMap.mapValues, List.map_map]
  rfl

theorem Table.read_eq_some {t : Table} {key : Text} {e : TableEntry}
    (h : t.entries.get? key = some e) (settings : Settings) (fields : Option (List Text))
    (result : ResultMap) :
    t.read settings key fields result = Table.readForeign settings fields result e.kept.body := by
  rcases e with ⟨kept, number⟩
  rw [Table.read, h]
  cases kept with
  | record r => exact (r.readForeign_body settings fields result).symm
  | foreign body => rfl

/-- A receipt is read back as it was written. -/
theorem Table.parseBody_receipt {key : Text} (hk : key.isScalar = true) (number : Nat) :
    Json.parseBody (Server.jsonBody (Table.receipt key number)) =
      .ok (Table.receipt key number) := by
  have hetag : Text.isScalar (Server.etag number) = true := by
    refine Text.isScalar_of_forall_lt fun c hc => ?_
    exact Nat.lt_trans (of_decide_eq_true (Server.isAscii_of_mem_etag number hc)) (by decide)
  have hplain : Json.Plain true 1 (Table.receipt key number) := by
    have hdistinct : [Text.ofString "Key", Text.ofString "ETag"].Nodup := by decide
    have hnames : ∀ t ∈ [Text.ofString "Key", Text.ofString "ETag"], Text.isScalar t = true := by
      decide
    refine .object hdistinct (fun _ e he => ?_) fun e he => ?_
    · exact Text.unpaired_of_isScalar (hnames e.1 (List.mem_map_of_mem he))
    · rcases List.mem_cons.1 he with rfl | he
      · exact .text 0 fun _ => Text.unpaired_of_isScalar hk
      · obtain rfl := List.mem_singleton.1 he
        exact .text 0 fun _ => Text.unpaired_of_isScalar hetag
  exact Json.parseBody_render hplain (by decide)

/-- A receipt can be used. -/
theorem exists_finish_receipt {key : Text} (hk : key.isScalar = true) (number : Nat)
    (document : Value) :
    ∃ result, (Store.putExchange key [] document).finish
      ⟨201, [], Server.jsonBody (Table.receipt key number)⟩ = .ok result := by
  have hresult : ∃ result, PutResult.ofResponse key
      ⟨201, [], Server.jsonBody (Table.receipt key number)⟩ = .ok result :=
    PutResult.exists_ofResponse_iff.2 (Or.inr ⟨_, Table.parseBody_receipt hk number⟩)
  exact hresult

end RavenBinding
