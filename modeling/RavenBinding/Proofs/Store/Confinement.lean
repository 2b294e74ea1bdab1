import RavenBinding.Proofs.Store.PlainRequest

/-!
# Requests stay with their document

On a plain URL, getting, putting and deleting a document each send one request, unless the headers
or the document cannot be written. The request goes to host and port of the URL and arrives with the
segments of the document, whatever its key holds. There are two exceptions: the keys that are dot
segments go to the collection and to the database.

## Main definitions

- `DocumentCall`, `DocumentCall.perform`: a call of one of the three operations
- `DocumentCall.IsWritable`: headers and document of a call can be written

## Main statements

- `DocumentCall.addresses_document_iff`: the keys whose requests stay with their document
-/

namespace RavenBinding

open Url StoreAction

/-- A call of one of the three operations on documents. -/
inductive DocumentCall where
  | get (key : Text)
  | put (key : Text) (etag : Option Text) (document : Value) (metadata : FieldMap Text Value)
  | delete (key : Text) (etag : Option Text)

namespace DocumentCall

/-- The key that the call names. -/
def key : DocumentCall → Text
  | get key => key
  | put key _ _ _ => key
  | delete key _ => key

/-- The method of the call's request. -/
def method : DocumentCall → Method
  | get _ => .get
  | put _ _ _ _ => .put
  | delete _ _ => .delete

/-- Performs the call; what it returns does not matter here. -/
def perform : DocumentCall → StoreAction Unit
  | get key => do
    let _ ← Store.get key
    pure ()
  | put key etag document metadata => do
    let _ ← Store.put key etag document metadata
    pure ()
  | delete key etag => Store.delete key etag

/-- The headers that the call gives its request. -/
def headers? : DocumentCall → Except Fault (FieldMap Text Text)
  | get _ => .ok []
  | put _ etag _ metadata => Store.putHeaders etag metadata
  | delete _ etag => .ok (Store.deleteExchange etag).headers

/-- The document that the call sends. -/
def content : DocumentCall → Option Value
  | get _ => none
  | put _ _ document _ => some document
  | delete _ _ => none

/-- Headers and document of the call can be written. -/
def IsWritable (call : DocumentCall) : Prop :=
  ∃ headers, call.headers? = .ok headers ∧
    (∃ given, Session.encodeHeaders headers = .ok given) ∧
    ∀ document ∈ call.content, ∃ body, Json.requestBody document = .ok body

end DocumentCall

namespace StoreAction

theorem exec_discard {α : Type} (x : StoreAction α) (s : Store) (w : World) :
    ((do
      let _ ← x
      pure () : StoreAction Unit).exec s w).2 = (x.exec s w).2 := by
  rw [exec_bind]
  rcases x.exec s w with ⟨⟨ending, s'⟩, w'⟩
  cases ending with
  | ok a => rfl
  | error f => rfl

end StoreAction

namespace DocumentCall

variable {p : PlainUrl} {s : Store} {session : Session}

theorem isWritable_iff {α : Type} {call : DocumentCall} {x : DocumentExchange α}
    (hheaders : call.headers? = .ok x.headers) (hcontent : call.content = x.content) (path : Text) :
    call.IsWritable ↔ (x.askAt path).IsWritable := by
  have hbody : (∃ body, (x.askAt path).body? = .ok body) ↔
      ∀ document ∈ x.content, ∃ body, Json.requestBody document = .ok body := by
    rw [Ask.body?, DocumentExchange.askAt]
    cases x.content with
    | none => simp
    | some v => simp
  rw [IsWritable, Ask.IsWritable, hbody, hheaders, hcontent]
  constructor
  · rintro ⟨headers, hh, hgiven, hwritten⟩
    obtain rfl := Except.ok.inj hh
    exact ⟨hgiven, hwritten⟩
  · rintro ⟨hgiven, hwritten⟩
    exact ⟨_, rfl, hgiven, hwritten⟩

/-- Without headers and a document that can be written, a call sends nothing; otherwise it sends the
request of its exchange. -/
theorem sent_exchange {α : Type} (hs : s.session = some session) (hb : session.base = p.url)
    (hd : s.database.isScalar = true) (hdot : ¬s.database.IsDotSegment) {call : DocumentCall}
    (hk : call.key.isScalar = true) (hl : (Store.pathOf s.database call.key).length ≤ maxLength)
    {x : DocumentExchange α} (hheaders : call.headers? = .ok x.headers)
    (hcontent : call.content = x.content) (hmethod : call.method = x.method) (w : World)
    (hsent : (call.perform.exec s w).2.sent = ((x.perform call.key).exec s w).2.sent) :
    (call.IsWritable ∧ ∃ request, (call.perform.exec s w).2.sent = request :: w.sent ∧
        request.method = call.method ∧
        request.url = p.place (Store.placeOf s.database call.key)) ∨
      (¬call.IsWritable ∧ (call.perform.exec s w).2.sent = w.sent) := by
  have hwritable := isWritable_iff hheaders hcontent (Store.pathOf s.database call.key)
  rw [hsent, x.sent_perform hs]
  -- on a plain URL the headers and the document decide alone
  by_cases hw : call.IsWritable
  · obtain ⟨request, hrequest, hm, hurl, -⟩ :=
      DocumentExchange.exists_request hb hd hdot hk hl x (hwritable.1 hw)
    rw [hrequest]
    exact Or.inl ⟨hw, request, rfl, hm.trans hmethod.symm, hurl⟩
  · cases hrequest : x.request? s session call.key with
    | error f => exact Or.inr ⟨hw, rfl⟩
    | ok request => exact absurd (hwritable.2 (x.isWritable_of_request hrequest _)) hw

/-- On a plain URL a call sends one request to the place of its key, or nothing if it cannot be
written. -/
theorem sent_perform (hs : s.session = some session) (hb : session.base = p.url)
    (hd : s.database.isScalar = true) (hdot : ¬s.database.IsDotSegment) (call : DocumentCall)
    (hk : call.key.isScalar = true) (hl : (Store.pathOf s.database call.key).length ≤ maxLength)
    (w : World) :
    (call.IsWritable ∧ ∃ request, (call.perform.exec s w).2.sent = request :: w.sent ∧
        request.method = call.method ∧
        request.url = p.place (Store.placeOf s.database call.key)) ∨
      (¬call.IsWritable ∧ (call.perform.exec s w).2.sent = w.sent) := by
  cases call with
  | get key =>
    refine sent_exchange hs hb hd hdot hk hl (x := Store.getExchange key) rfl rfl rfl w ?_
    rw [perform, exec_discard, Store.get_eq]
    rfl
  | put key etag document metadata =>
    cases hheaders : Store.putHeaders etag metadata with
    | error f =>
      refine Or.inr ⟨?_, ?_⟩
      · rintro ⟨headers, hh, -⟩
        rw [headers?, hheaders] at hh
        cases hh
      · rw [perform, exec_discard, Store.exec_put_error hheaders]
    | ok headers =>
      refine sent_exchange hs hb hd hdot hk hl (x := Store.putExchange key headers document)
        hheaders rfl rfl w ?_
      rw [perform, exec_discard, Store.put_eq hheaders]
      rfl
  | delete key etag =>
    exact sent_exchange hs hb hd hdot hk hl (x := Store.deleteExchange etag) rfl rfl rfl w rfl

/-- A call that can be written sends one request. It goes to host and port of the URL, without a
query, and it arrives with the segments of the document if and only if the key is no dot segment.
A call that cannot be written sends nothing. -/
theorem addresses_document_iff (hs : s.session = some session) (hb : session.base = p.url)
    (hd : s.database.isScalar = true) (hdot : ¬s.database.IsDotSegment) (call : DocumentCall)
    (hk : call.key.isScalar = true) (hl : (Store.pathOf s.database call.key).length ≤ maxLength)
    (w : World) :
    (call.IsWritable → ∃ request, (call.perform.exec s w).2.sent = request :: w.sent ∧
      request.method = call.method ∧ { request.url with path := [] } = p.url ∧
      request.segments = Store.placeOf s.database call.key ∧
      (request.segments = Store.segmentsOf s.database call.key ↔ ¬call.key.IsDotSegment)) ∧
    (¬call.IsWritable → (call.perform.exec s w).2.sent = w.sent) := by
  have hsent := sent_perform hs hb hd hdot call hk hl w
  constructor
  · intro hw
    obtain ⟨-, request, hrequest, hmethod, hurl⟩ := hsent.resolve_right fun h => h.1 hw
    have hsegments := PlainUrl.segments_place hd hk hurl
    have hbase : { request.url with path := [] } = p.url := by rw [hurl]; rfl
    refine ⟨request, hrequest, hmethod, hbase, hsegments, ?_⟩
    rw [hsegments]
    exact Store.placeOf_eq_iff
  · intro hw
    exact (hsent.resolve_left fun h => hw h.1).2

/-- A key of slashes, dots, marks and escapes stays with its document. -/
theorem addresses_document_escaped :
    ∃ request, ((get (Text.ofString "../a?b#%2F")).perform.exec Store.localhost {
      server := Server.ofNames [] }).2.sent = [request] ∧
      request.segments = [Text.ofString "databases", Text.ofString "YCSB", Text.ofString "docs",
        Text.ofString "../a?b#%2F"] := by
  have hw : (get (Text.ofString "../a?b#%2F")).IsWritable :=
    ⟨[], rfl, ⟨[], rfl⟩, fun _ h => nomatch h⟩
  have h := addresses_document_iff (p := PlainUrl.localhost) (s := Store.localhost) rfl rfl
    (by decide) (by decide) (get (Text.ofString "../a?b#%2F")) (by decide) (by decide)
    { server := Server.ofNames [] }
  obtain ⟨request, hsent, -, -, -, hiff⟩ := h.1 hw
  exact ⟨request, hsent, hiff.2 (by decide)⟩

/-- The key `..` leaves the collection: its request arrives with the segments of the database. -/
theorem leaves_collection :
    ∃ request, ((get (Text.ofString "..")).perform.exec Store.localhost {
      server := Server.ofNames [] }).2.sent = [request] ∧
      request.segments = [Text.ofString "databases", Text.ofString "YCSB"] ∧
      request.segments ≠ Store.segmentsOf (Text.ofString "YCSB") (Text.ofString "..") := by
  have hw : (get (Text.ofString "..")).IsWritable := ⟨[], rfl, ⟨[], rfl⟩, fun _ h => nomatch h⟩
  have hk : (Text.ofString "..").isScalar = true := by decide
  have hd : (Text.ofString "YCSB").isScalar = true := by decide
  have hsent := sent_perform (p := PlainUrl.localhost) (s := Store.localhost) rfl rfl hd (by decide)
    (get (Text.ofString "..")) hk (by decide) { server := Server.ofNames [] }
  obtain ⟨-, request, hrequest, -, hurl⟩ := hsent.resolve_right fun h => h.1 hw
  have hsegments := PlainUrl.segments_place hd hk hurl
  refine ⟨request, hrequest, hsegments, ?_⟩
  rw [hsegments]
  decide

end DocumentCall

end RavenBinding
