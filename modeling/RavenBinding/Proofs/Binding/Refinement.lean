import RavenBinding.Proofs.Binding.Statuses
import RavenBinding.Proofs.Binding.Table

/-!
# The adapter as a table of records

On a plain URL, an adapter whose database is on the server behaves as a table that maps keys to
records: inserting writes a record, deleting erases it, and reading writes its fields into the
result. This holds for every sequence of operations, for every key, and for every record of byte
strings and texts; operations that cannot be addressed report an error and change nothing.

## Main definitions

- `TableCall`, `TableCall.IsAddressable`: the operations, and those that reach the table
- `TableCall.step`, `TableCall.run`: one operation on the table, and a sequence of them
- `TableCall.performAll`: the same sequence on an adapter

## Main statements

- `TableCall.exec_step`: the adapter takes every step that the table takes
- `TableCall.refines_table`: the adapter takes every run that the table takes
-/

namespace RavenBinding

open AdapterAction

/-- An operation on a record whose values are byte strings or texts. -/
inductive TableCall where
  | read (table key : Text) (fields : Option (List Text)) (result : ResultMap)
  | insert (table key : Text) (values : FieldMap Text FieldValue)
  | delete (table key : Text)

namespace TableCall

/-- The operation of the adapter. -/
def call : TableCall → RecordCall
  | read table key fields result => .read table key fields result
  | insert table key values => .insert table key (FieldMap.mapValues FieldValue.toValue values)
  | delete table key => .delete table key

/-- The key can be addressed, and so can what is inserted. -/
def IsAddressable (database : Text) : TableCall → Prop
  | read _ key _ _ => Store.IsAddress database key
  | insert _ key values => Store.IsAddress database key ∧ Record.isStorable values = true
  | delete _ key => Store.IsAddress database key

instance (database : Text) (c : TableCall) : Decidable (c.IsAddressable database) :=
  match c with
  | read _ key _ _ => inferInstanceAs (Decidable (Store.IsAddress database key))
  | insert _ _ _ => inferInstanceAs (Decidable (_ ∧ _))
  | delete _ key => inferInstanceAs (Decidable (Store.IsAddress database key))

/-- What an operation that reaches the table does. -/
def serve (settings : Settings) (database : Text) (t : Table) :
    (c : TableCall) → c.IsAddressable database → Outcome ResultMap × Table
  | read _ key fields result, _ => (t.read settings key fields result, t)
  | insert _ key values, h => (⟨[], .ok .ok⟩, t.insert key (.ofValues values h.2))
  | delete _ key, _ => (⟨[], .ok .ok⟩, t.delete key)

/-- One operation on the table; one that does not reach it reports an error. -/
def step (settings : Settings) (database : Text) (t : Table) (c : TableCall) :
    Outcome ResultMap × Table :=
  if h : c.IsAddressable database then c.serve settings database t h
  else (⟨c.call.given, .ok .error⟩, t)

/-- Operations in order. -/
def run (settings : Settings) (database : Text) (t : Table) :
    List TableCall → List (Outcome ResultMap) × Table
  | [] => ([], t)
  | c :: cs =>
    let (outcome, t) := c.step settings database t
    let (outcomes, t) := run settings database t cs
    (outcome :: outcomes, t)

/-- Performs operations in order. -/
def performAll : List TableCall → AdapterAction (List (Outcome ResultMap))
  | [] => pure []
  | c :: cs => do
    let outcome ← c.call.perform
    let outcomes ← performAll cs
    pure (outcome :: outcomes)

end TableCall

/-! ### One operation -/

/-- An operation comes to an outcome; the session stays, and the server has a state then. -/
structure RecordCall.ComesTo (call : RecordCall) (settings : Settings) (store : Store)
    (session : Session) (w : World) (outcome : Outcome ResultMap) (server : Server) : Prop where
  outcome : call.outcome settings store session w.replyTo = (outcome, session)
  server : (call.after store session w).server = server
  replies : (call.after store session w).replies = []

namespace TableCall

section Steps

variable {p : PlainUrl} {settings : Settings} {store : Store} {session : Session} {w : World}
  {others : FieldMap Text Documents} {t : Table}

variable (hb : session.base = p.url) (hd : store.database.isScalar = true)
  (hdot : ¬store.database.IsDotSegment) (hw : w.replies = [])
  (hs : w.server = t.server others store.database)

include hs in
theorem hosted : w.server.databases.get? store.database = some t.documents := by
  rw [hs]
  exact t.get?_server others store.database

include hb hd hdot hw hs in
theorem comesTo_read (table key : Text) (fields : Option (List Text)) (result : ResultMap) :
    let c := read table key fields result
    c.call.ComesTo settings store session w (c.step settings store.database t).1
      ((c.step settings store.database t).2.server others store.database) := by
  intro c
  by_cases hk : Store.IsAddress store.database key
  · have hstep : c.step settings store.database t = (t.read settings key fields result, t) :=
      dif_pos hk
    rw [hstep]
    cases hentry : t.entries.get? key with
    | none =>
      have hanswer := t.answerDocument_get_none others store.database key hentry []
      rw [← hs] at hanswer
      obtain ⟨hending, hserver, hreplies⟩ :=
        (Store.getExchange key).served hb hd hdot rfl hk rfl hw (hosted hs) hanswer
          (Response.isOrdinary_nil 404 []) (Or.inl rfl)
      have hread : t.read settings key fields result = ⟨result, .ok .notFound⟩ := by
        rw [Table.read, hentry]
      exact ⟨(RecordCall.outcome_read hending).trans (by rw [hread]; rfl), hserver.trans hs,
        hreplies⟩
    | some e =>
      have hanswer := t.answerDocument_get_some others store.database key hentry []
      rw [← hs] at hanswer
      obtain ⟨hending, hserver, hreplies⟩ :=
        (Store.getExchange key).served hb hd hdot rfl hk rfl hw (hosted hs) hanswer
          (Response.isOrdinary_etag 200 e.number e.kept.body) (Or.inr rfl)
      exact ⟨(RecordCall.outcome_read hending).trans
          (by rw [readOutcome_finish, Table.read_eq_some hentry]),
        hserver.trans hs, hreplies⟩
  · have hstep : c.step settings store.database t = (⟨result, .ok .error⟩, t) := dif_neg hk
    rw [hstep]
    obtain ⟨⟨error, hending⟩, hserver, hreplies⟩ :=
      (Store.getExchange key).refused hb hd hdot rfl (Or.inl ⟨[], rfl⟩) (fun h => hk h.1) hw
    exact ⟨RecordCall.outcome_read hending, hserver.trans hs, hreplies⟩

include hb hd hdot hw hs in
theorem comesTo_insert (table key : Text) (values : FieldMap Text FieldValue) :
    let c := insert table key values
    c.call.ComesTo settings store session w (c.step settings store.database t).1
      ((c.step settings store.database t).2.server others store.database) := by
  intro c
  let document := FieldMap.ofList (FieldMap.mapValues FieldValue.kept values)
  have hdocument : Record.document (FieldMap.mapValues FieldValue.toValue values) = .ok document :=
    Record.document_toValue values
  have hafter : c.call.after store session w =
      (Store.putExchange key [] (textMap document)).after store session key w :=
    RecordCall.after_insert hdocument w
  have hstorable : Record.isStorable values = Record.isWritable document :=
    (Record.isWritable_kept values).symm
  by_cases hc : Store.IsAddress store.database key ∧ Record.isStorable values = true
  · obtain ⟨hk, hvalues⟩ := hc
    -- the server stores the body of the record that the table keeps
    let r := StoredRecord.ofValues values hvalues
    have hstep : c.step settings store.database t = (⟨[], .ok .ok⟩, t.insert key r) :=
      dif_pos ⟨hk, hvalues⟩
    rw [hstep]
    have hanswer := t.answerDocument_put others store.database key r
    rw [← hs] at hanswer
    obtain ⟨hending, hserver, hreplies⟩ :=
      (Store.putExchange key [] (textMap document)).served hb hd hdot rfl hk r.requestBody_eq hw
        (hosted hs) hanswer (Response.isOrdinary_nil 201 _) (Or.inr rfl)
    obtain ⟨receipt, hreceipt⟩ :=
      exists_finish_receipt hk.scalar t.nextNumber (textMap document)
    rw [hreceipt] at hending
    exact ⟨RecordCall.outcome_insert hdocument hending, by rw [hafter, hserver],
      by rw [hafter, hreplies]⟩
  · have hstep : c.step settings store.database t = (⟨[], .ok .error⟩, t) := dif_neg hc
    rw [hstep]
    -- the content is written or not, and the key is at fault in the first case
    have hbody : (∃ body, Json.requestBody (textMap document) = .ok body) ∨
        ∃ error, Json.requestBody (textMap document) = .error (.encoding error) := by
      cases hvalues : Record.isStorable values with
      | true =>
        exact Or.inl ⟨_, (StoredRecord.ofValues values hvalues).requestBody_eq⟩
      | false => exact Or.inr (Record.exists_requestBody_error (hstorable.symm.trans hvalues))
    have hrefused : ¬(Store.IsAddress store.database key ∧
        ∃ body, Json.requestBody (textMap document) = .ok body) := by
      rintro ⟨hk, body, hwritten⟩
      cases hvalues : Record.isStorable values with
      | true => exact hc ⟨hk, hvalues⟩
      | false =>
        obtain ⟨error, he⟩ := Record.exists_requestBody_error (hstorable.symm.trans hvalues)
        rw [he] at hwritten
        cases hwritten
    obtain ⟨⟨error, hending⟩, hserver, hreplies⟩ :=
      (Store.putExchange key [] (textMap document)).refused hb hd hdot rfl hbody hrefused hw
    exact ⟨RecordCall.outcome_insert hdocument hending, by rw [hafter, hserver, hs],
      by rw [hafter, hreplies]⟩

include hb hd hdot hw hs in
theorem comesTo_delete (table key : Text) :
    let c := delete table key
    c.call.ComesTo settings store session w (c.step settings store.database t).1
      ((c.step settings store.database t).2.server others store.database) := by
  intro c
  by_cases hk : Store.IsAddress store.database key
  · have hstep : c.step settings store.database t = (⟨[], .ok .ok⟩, t.delete key) := dif_pos hk
    rw [hstep]
    have hanswer := t.answerDocument_delete others store.database key []
    rw [← hs] at hanswer
    obtain ⟨hending, hserver, hreplies⟩ :=
      (Store.deleteExchange none).served hb hd hdot rfl hk rfl hw (hosted hs) hanswer
        (Response.isOrdinary_nil 204 []) (Or.inr rfl)
    exact ⟨RecordCall.outcome_delete hending, hserver, hreplies⟩
  · have hstep : c.step settings store.database t = (⟨[], .ok .error⟩, t) := dif_neg hk
    rw [hstep]
    obtain ⟨⟨error, hending⟩, hserver, hreplies⟩ :=
      (Store.deleteExchange none).refused hb hd hdot rfl (Or.inl ⟨[], rfl⟩) (fun h => hk h.1) hw
    exact ⟨RecordCall.outcome_delete hending, hserver.trans hs, hreplies⟩

include hb hd hdot hw hs in
/-- The adapter takes the step that the table takes, and stays as it is. -/
theorem exec_step {a : Adapter} (h : a.Ready settings store session) (c : TableCall) :
    ∃ w', exec c.call.perform a w = (((c.step settings store.database t).1, a), w') ∧
      w'.replies = [] ∧
      w'.server = (c.step settings store.database t).2.server others store.database := by
  have hcomes : c.call.ComesTo settings store session w (c.step settings store.database t).1
      ((c.step settings store.database t).2.server others store.database) := by
    cases c with
    | read table key fields result => exact comesTo_read hb hd hdot hw hs table key fields result
    | insert table key values => exact comesTo_insert hb hd hdot hw hs table key values
    | delete table key => exact comesTo_delete hb hd hdot hw hs table key
  obtain ⟨events, hexec⟩ := c.call.exec_perform h w
  rw [hcomes.outcome, h.holding_eq] at hexec
  exact ⟨_, hexec, hcomes.replies, hcomes.server⟩

end Steps

/-! ### Runs -/

/-- The adapter takes the run that the table takes. -/
theorem exec_performAll {p : PlainUrl} {settings : Settings} {store : Store} {session : Session}
    {a : Adapter} (h : a.Ready settings store session) (hb : session.base = p.url)
    (hd : store.database.isScalar = true) (hdot : ¬store.database.IsDotSegment)
    {others : FieldMap Text Documents} {t : Table} {w : World} (hw : w.replies = [])
    (hs : w.server = t.server others store.database) (cs : List TableCall) :
    ∃ w', exec (performAll cs) a w = (((run settings store.database t cs).1, a), w') ∧
      w'.server = (run settings store.database t cs).2.server others store.database := by
  -- on the operations: each of them leaves a server with the documents of a table
  induction cs generalizing t w with
  | nil => exact ⟨w, rfl, hs⟩
  | cons c cs ih =>
    obtain ⟨w', hexec, hw', hs'⟩ := exec_step hb hd hdot hw hs h c
    obtain ⟨w'', hrest, hs''⟩ := ih hw' hs'
    refine ⟨w'', ?_, hs''⟩
    rw [performAll, exec_bind, hexec]
    dsimp only
    rw [exec_bind, hrest]
    rfl

/-- On a plain URL, with its database on the server, an adapter behaves as a table of records. Every
run of operations has the outcomes that it has on the table of the documents that are there; the
adapter stays as it is; the database holds the documents of the table then, and all other databases
hold what they held. -/
theorem refines_table {p : PlainUrl} {settings : Settings} {store : Store} {session : Session}
    {a : Adapter} (h : a.Ready settings store session) (hb : session.base = p.url)
    (hd : store.database.isScalar = true) (hdot : ¬store.database.IsDotSegment) {w : World}
    (hw : w.replies = []) {documents : Documents}
    (hosted : w.server.databases.get? store.database = some documents) (cs : List TableCall) :
    let start := Table.ofDocuments documents w.server.nextNumber
    let (outcomes, final) := run settings store.database start cs
    ∃ w', exec (performAll cs) a w = ((outcomes, a), w') ∧
      w'.server.databases.get? store.database = some final.documents ∧
      w'.server.nextNumber = final.nextNumber ∧
      ∀ other, other ≠ store.database →
        w'.server.databases.get? other = w.server.databases.get? other := by
  intro start
  obtain ⟨w', hexec, hs⟩ :=
    exec_performAll h hb hd hdot hw (Table.server_ofDocuments hosted).symm cs
  refine ⟨w', hexec, ?_, ?_, ?_⟩
  · rw [hs]
    exact Table.get?_server _ _ _
  · rw [hs]
    rfl
  · intro other hother
    rw [hs]
    exact FieldMap.get?_insert_of_ne _ _ (Ne.symm hother)

/-- Beside a document of another client, a record is written under a key with a slash, is read back
with a byte that stands for no character replaced, and is gone when it was deleted; the key `..`
reaches nothing. In the end the database holds what it held before. -/
theorem refines_table_written_and_deleted :
    let key := Text.ofString "a/b"
    let old : Documents := [(Text.ofString "old", ⟨Utf8.encodeAll (Text.ofString "[1]"), 1⟩)]
    let server : Server := { databases := [(Text.ofString "YCSB", old)], nextNumber := 2 }
    let cs :=
      [insert (Text.ofString "usertable") key [(Text.ofString "f", .bytes .bytes [0x61, 0xFF])],
        read (Text.ofString "usertable") key none [],
        delete (Text.ofString "usertable") key,
        read (Text.ofString "usertable") key none [],
        delete (Text.ofString "usertable") (Text.ofString "..")]
    ∃ w', exec (performAll cs) Adapter.localhost { server := server } =
      (([⟨[], .ok .ok⟩, ⟨[(Text.ofString "f", [0x61, 0xEF, 0xBF, 0xBD])], .ok .ok⟩,
        ⟨[], .ok .ok⟩, ⟨[], .ok .notFound⟩, ⟨[], .ok .error⟩], Adapter.localhost), w') ∧
      w'.server.databases.get? (Text.ofString "YCSB") = some old ∧ w'.server.nextNumber = 3 := by
  intro key old server cs
  obtain ⟨w', hexec, hdocuments, hnumber, -⟩ := refines_table Adapter.ready_localhost
    Session.base_localhost (show _ = true by decide) (by decide) (w := { server := server })
    rfl rfl cs
  exact ⟨w', hexec, hdocuments, hnumber⟩

end TableCall

end RavenBinding
