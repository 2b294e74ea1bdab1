import RavenBinding.Proofs.Binding.Lifecycle
import RavenBinding.Proofs.Binding.Refinement
import RavenBinding.Proofs.Store.Arrival

/-!
# Calls stay with the document of their key

On a plain URL, what a call reports depends on nothing of the server but the body of the document
under its key, and this is all that it changes. The number of a write, which every client moves on,
shows in etags alone.

## Main definitions

- `Server.bodyAt`, `Server.SetsBody`: the bodies of documents, and a change of one of them
- `World.Hosts`: a world in which a server with a database answers
- `Adapter.WorksOn`: an adapter that is ready on a plain URL
- `AdapterAction.IsLocal`: the actions that stay with one document

## Main statements

- `RecordCall.isLocal`: operations on records stay with the document of their key
- `AdapterCall.isLocal_or_idle`: any call stays with the document of its key, or has none
-/

namespace RavenBinding

open AdapterAction

/-! ### One document of the server -/

namespace Server

/-- The body of a document, if there is one. -/
def bodyAt (server : Server) (database key : Text) : Option Bytes :=
  match server.databases.get? database with
  | none => none
  | some documents => (documents.get? key).map StoredDocument.body

/-- The second server has the database, with a body under a key, and is otherwise as the first. -/
structure SetsBody (server server' : Server) (database key : Text) (body : Option Bytes) :
    Prop where
  hosted : ∃ documents, server'.databases.get? database = some documents
  body : server'.bodyAt database key = body
  others : ∀ d k, (d = database → k ≠ key) → server'.bodyAt d k = server.bodyAt d k

variable {server : Server} {database : Text} {documents : Documents}

theorem bodyAt_eq (h : server.databases.get? database = some documents) (key : Text) :
    server.bodyAt database key = (documents.get? key).map StoredDocument.body := by
  rw [bodyAt, h]

theorem setsBody_self (h : server.databases.get? database = some documents) (key : Text) :
    server.SetsBody server database key (server.bodyAt database key) where
  hosted := ⟨documents, h⟩
  body := rfl
  others := fun _ _ _ => rfl

/-- Writing the documents of the database changes one body if they differ in one. -/
theorem setsBody_insert (h : server.databases.get? database = some documents) (key : Text)
    {written : Documents} (hwritten : ∀ k, k ≠ key → written.get? k = documents.get? k)
    (number : Nat) :
    server.SetsBody ⟨server.databases.insert database written, number⟩ database key
      ((written.get? key).map StoredDocument.body) where
  hosted := ⟨written, FieldMap.get?_insert_self _ _ _⟩
  body := bodyAt_eq (FieldMap.get?_insert_self _ _ _) key
  others := by
    intro d k hne
    by_cases hd : d = database
    · rw [hd, bodyAt_eq (FieldMap.get?_insert_self _ _ _), bodyAt_eq h, hwritten k (hne hd)]
    · rw [bodyAt, bodyAt, FieldMap.get?_insert_of_ne _ _ (Ne.symm hd)]

end Server

/-- The server has the database, and nothing is replied in its place. -/
structure World.Hosts (w : World) (database : Text) : Prop where
  replies : w.replies = []
  hosted : ∃ documents, w.server.databases.get? database = some documents

/-- The action reports and leaves what the body under the key determines, and changes nothing
else. -/
def AdapterAction.IsLocal {α : Type} (x : AdapterAction α) (a : Adapter) (database key : Text) :
    Prop :=
  ∃ (result : Option Bytes → α) (left : Option Bytes → Option Bytes),
    ∀ w : World, w.Hosts database →
      ∃ w', exec x a w = ((result (w.server.bodyAt database key), a), w') ∧ w'.replies = [] ∧
        w.server.SetsBody w'.server database key (left (w.server.bodyAt database key))

theorem AdapterAction.IsLocal.map {α β : Type} {x : AdapterAction α} {a : Adapter}
    {database key : Text} (h : x.IsLocal a database key) (f : α → β) :
    AdapterAction.IsLocal (do
      let result ← x
      pure (f result)) a database key := by
  obtain ⟨result, left, hx⟩ := h
  refine ⟨fun body => f (result body), left, fun w hw => ?_⟩
  obtain ⟨w', hexec, hafter⟩ := hx w hw
  refine ⟨w', ?_, hafter⟩
  rw [exec_bind, hexec]
  rfl

/-- The adapter is ready on a plain URL and belongs to the database. -/
def Adapter.WorksOn (a : Adapter) (database : Text) : Prop :=
  ∃ (p : PlainUrl) (settings : Settings) (store : Store) (session : Session),
    a.Ready settings store session ∧ session.base = p.url ∧ store.database = database

/-- What a read makes of the body under its key, if there is one. -/
def Adapter.readFound (settings : Settings) (fields : Option (List Text)) (result : ResultMap) :
    Option Bytes → Outcome ResultMap
  | none => ⟨result, .ok .notFound⟩
  | some body => Table.readForeign settings fields result body

/-! ### Operations on records -/

namespace RecordCall

variable {a : Adapter} {p : PlainUrl} {settings : Settings} {store : Store} {session : Session}

theorem isLocal_of_comesTo (h : a.Ready settings store session) (call : RecordCall)
    (result : Option Bytes → Outcome ResultMap) (left : Option Bytes → Option Bytes)
    (hcall : ∀ w : World, w.Hosts store.database →
      ∃ server, call.ComesTo settings store session w
          (result (w.server.bodyAt store.database call.key)) server ∧
        w.server.SetsBody server store.database call.key
          (left (w.server.bodyAt store.database call.key))) :
    call.perform.IsLocal a store.database call.key := by
  refine ⟨result, left, fun w hw => ?_⟩
  obtain ⟨server, hcomes, hsets⟩ := hcall w hw
  obtain ⟨events, hexec⟩ := call.exec_perform h w
  rw [hcomes.outcome, h.holding_eq] at hexec
  refine ⟨_, hexec, hcomes.replies, ?_⟩
  rw [World.showing, hcomes.server]
  exact hsets

/-- A call with one outcome that leaves the server as it is stays with any document. -/
theorem isLocal_of_constant (h : a.Ready settings store session) (call : RecordCall)
    (result : Outcome ResultMap)
    (hcall : ∀ w : World, w.replies = [] →
      call.ComesTo settings store session w result w.server) :
    call.perform.IsLocal a store.database call.key := by
  refine isLocal_of_comesTo h call (fun _ => result) id fun w hw => ?_
  obtain ⟨documents, hosted⟩ := hw.hosted
  exact ⟨w.server, hcall w hw.replies, Server.setsBody_self hosted call.key⟩

theorem isLocal_read (h : a.Ready settings store session) (hb : session.base = p.url)
    (table key : Text) (fields : Option (List Text)) (result : ResultMap) :
    (read table key fields result).perform.IsLocal a store.database key := by
  rcases (Store.getExchange key).blind_or_addressed hb key with
    ⟨ending, hblind⟩ | ⟨hd, hdot, hk, body, hbody⟩
  · apply isLocal_of_constant h (read table key fields result)
      (Adapter.readOutcome settings fields result ending)
    intro w hw
    obtain ⟨hending, hserver, hreplies⟩ := hblind w hw
    exact ⟨outcome_read hending, hserver, hreplies⟩
  · apply isLocal_of_comesTo h (read table key fields result)
      (Adapter.readFound settings fields result) id
    intro w hw
    obtain ⟨documents, hosted⟩ := hw.hosted
    refine ⟨w.server, ?_, Server.setsBody_self hosted key⟩
    show ComesTo _ _ _ _ _ (Adapter.readFound _ _ _ (w.server.bodyAt store.database key)) _
    rw [Server.bodyAt_eq hosted]
    cases hget : documents.get? key with
    | none =>
      have hanswer : w.server.answerDocument .get store.database key documents body =
          (⟨404, [], []⟩, w.server) := by rw [Server.answerDocument, hget]
      obtain ⟨hending, hserver, hreplies⟩ :=
        (Store.getExchange key).served hb hd hdot rfl hk hbody hw.replies hosted hanswer
          (Response.isOrdinary_nil 404 []) (Or.inl rfl)
      exact ⟨outcome_read hending, hserver, hreplies⟩
    | some document =>
      have hanswer : w.server.answerDocument .get store.database key documents body =
          (⟨200, [(Text.ofString "ETag", Server.etag document.number)], document.body⟩,
            w.server) := by rw [Server.answerDocument, hget]
      obtain ⟨hending, hserver, hreplies⟩ :=
        (Store.getExchange key).served hb hd hdot rfl hk hbody hw.replies hosted hanswer
          (Response.isOrdinary_etag 200 document.number document.body) (Or.inr rfl)
      -- the number of the write is not looked at
      have hread := readOutcome_finish settings key fields result
        [(Text.ofString "ETag", Server.etag document.number)] document.body
      exact ⟨(outcome_read hending).trans (congrArg (·, session) hread), hserver, hreplies⟩

theorem comesTo_insert_of {table key : Text} {values : FieldMap Text Value}
    {document : FieldMap Text Text} (hdocument : Record.document values = .ok document) {w : World}
    {ending : Except Failure PutResult} {server : Server}
    (h : (Store.putExchange key [] (textMap document)).ending store session key w.replyTo =
        (ending, session) ∧
      ((Store.putExchange key [] (textMap document)).after store session key w).server = server ∧
      ((Store.putExchange key [] (textMap document)).after store session key w).replies = []) :
    (insert table key values).ComesTo settings store session w ⟨[], Adapter.writeStatus ending⟩
      server where
  outcome := outcome_insert hdocument h.1
  server := by rw [after_insert hdocument, h.2.1]
  replies := by rw [after_insert hdocument, h.2.2]

theorem isLocal_insert (h : a.Ready settings store session) (hb : session.base = p.url)
    (table key : Text) (values : FieldMap Text Value) :
    (insert table key values).perform.IsLocal a store.database key := by
  cases hdocument : Record.document values with
  | error f =>
    apply isLocal_of_constant h (insert table key values) ⟨[], .error (.fault f)⟩
    intro w hw
    have hafter : (insert table key values).after store session w = w := by
      rw [after, request?, hdocument]
      rfl
    exact ⟨by rw [outcome, hdocument], by rw [hafter], by rw [hafter, hw]⟩
  | ok document =>
    rcases (Store.putExchange key [] (textMap document)).blind_or_addressed hb key with
      ⟨ending, hblind⟩ | ⟨hd, hdot, hk, body, hbody⟩
    · apply isLocal_of_constant h (insert table key values)
        ⟨[], Adapter.writeStatus ending⟩
      intro w hw
      exact comesTo_insert_of hdocument (hblind w hw)
    · apply isLocal_of_comesTo h (insert table key values) (fun _ => ⟨[], .ok .ok⟩)
        (fun _ => some body)
      intro w hw
      obtain ⟨documents, hosted⟩ := hw.hosted
      have hserved := (Store.putExchange key [] (textMap document)).served hb hd hdot rfl hk hbody
        hw.replies hosted (r := ⟨201, [], Server.jsonBody (Table.receipt key w.server.nextNumber)⟩)
        rfl (Response.isOrdinary_nil 201 _) (Or.inr rfl)
      obtain ⟨receipt, hreceipt⟩ :=
        exists_finish_receipt hk.scalar w.server.nextNumber (textMap document)
      rw [hreceipt] at hserved
      refine ⟨_, comesTo_insert_of hdocument hserved, ?_⟩
      have hsets := Server.setsBody_insert hosted key
        (fun k hk => FieldMap.get?_insert_of_ne documents ⟨body, w.server.nextNumber⟩ (Ne.symm hk))
        (w.server.nextNumber + 1)
      rw [FieldMap.get?_insert_self] at hsets
      exact hsets

theorem isLocal_delete (h : a.Ready settings store session) (hb : session.base = p.url)
    (table key : Text) : (delete table key).perform.IsLocal a store.database key := by
  rcases (Store.deleteExchange none).blind_or_addressed hb key with
    ⟨ending, hblind⟩ | ⟨hd, hdot, hk, body, hbody⟩
  · apply isLocal_of_constant h (delete table key) ⟨[], Adapter.writeStatus ending⟩
    intro w hw
    obtain ⟨hending, hserver, hreplies⟩ := hblind w hw
    exact ⟨outcome_delete hending, hserver, hreplies⟩
  · apply isLocal_of_comesTo h (delete table key) (fun _ => ⟨[], .ok .ok⟩) (fun _ => none)
    intro w hw
    obtain ⟨documents, hosted⟩ := hw.hosted
    obtain ⟨hending, hserver, hreplies⟩ := (Store.deleteExchange none).served hb hd hdot rfl hk
      hbody hw.replies hosted (r := ⟨204, [], []⟩) rfl (Response.isOrdinary_nil 204 [])
      (Or.inr rfl)
    refine ⟨_, ⟨outcome_delete hending, hserver, hreplies⟩, ?_⟩
    have hsets := Server.setsBody_insert hosted key
      (fun k hk => FieldMap.get?_erase_of_ne documents (Ne.symm hk)) w.server.nextNumber
    rw [FieldMap.get?_erase_self] at hsets
    exact hsets

end RecordCall

/-- An operation on a record stays with the document of its key. -/
theorem RecordCall.isLocal {a : Adapter} {database : Text} (h : a.WorksOn database)
    (call : RecordCall) : call.perform.IsLocal a database call.key := by
  obtain ⟨p, settings, store, session, hready, hb, rfl⟩ := h
  cases call with
  | read table key fields result => exact isLocal_read hready hb table key fields result
  | insert table key values => exact isLocal_insert hready hb table key values
  | delete table key => exact isLocal_delete hready hb table key

/-! ### Any call -/

namespace AdapterCall

/-- The key of the document that the call may reach; what is not implemented reaches none. -/
def key? : AdapterCall → Option Text
  | record call => some call.key
  | update _ _ _ => none
  | scan _ _ _ _ _ => none

/-- A call stays with the document of its key, or it comes to one outcome and changes nothing. -/
theorem isLocal_or_idle {a : Adapter} {database : Text} (h : a.WorksOn database)
    (c : AdapterCall) :
    (∃ key, c.key? = some key ∧ c.perform.IsLocal a database key) ∨
      (c.key? = none ∧ ∃ outcome, ∀ w : World, exec c.perform a w = ((outcome, a), w)) := by
  cases c with
  | record call =>
    have hlocal := (call.isLocal h).map fun outcome =>
      (⟨[outcome.written], outcome.status⟩ : Outcome (List ResultMap))
    exact Or.inl ⟨call.key, rfl, hlocal⟩
  | update table key values => exact Or.inr ⟨rfl, ⟨[], .ok .notImplemented⟩, fun w => rfl⟩
  | scan table startKey count fields result =>
    exact Or.inr ⟨rfl, ⟨result, .ok .notImplemented⟩, fun w => rfl⟩

end AdapterCall

end RavenBinding
