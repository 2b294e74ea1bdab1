import RavenBinding.Proofs.Binding.Table
import RavenBinding.Proofs.Json.Written

/-!
# Getting the document that was put

A document that is put on a plain URL is stored if its key can be addressed and no text in it holds a
lone surrogate. Getting it then gives its members in order, with the metadata apart, and the etag of
its receipt.

## Main definitions

- `Store.putThenGet`: a document is put and got under one key
- `Document.ofMembers`: the document that is got

## Main statements

- `Store.exec_put`, `Store.exec_get`: what the two operations come to while the server answers
- `Store.exec_putThenGet`: which documents come back, and as what
-/

namespace RavenBinding

open StoreAction

/-- A value that counts as nothing: missing, false, zero or empty. -/
def Json.isNothing : Json → Bool
  | .null => true
  | .bool b => !b
  | .int i => i == 0
  | .float x => x.isZero
  | .text t => t.isEmpty
  | .array items => items.isEmpty
  | .object members => members.isEmpty

theorem Json.isTruthy_ofJson (j : Json) : (Value.ofJson j).isTruthy = !j.isNothing := by
  cases j with
  | null => rfl
  | bool b => exact (Bool.not_not b).symm
  | int i => rfl
  | float x => rfl
  | text t => rfl
  | array items =>
    cases items with
    | nil => rfl
    | cons x xs => rfl
  | object members =>
    cases members with
    | nil => rfl
    | cons e rest => rfl

namespace Document

/-- The metadata among the members of a document; metadata that count as nothing are empty. -/
def metadataOf (members : FieldMap Text Json) : Json :=
  match FieldMap.get? members metadataKey with
  | some found => if found.isNothing then .object [] else found
  | none => .object []

/-- The document with some members: the others in order, and the metadata apart. -/
def ofMembers (key : Text) (members : FieldMap Text Json) (etag : Text) : Document where
  key := key
  fields := FieldMap.erase members metadataKey
  metadata := metadataOf members
  etag := some etag

/-- A body with an object is read as the document with its members. -/
theorem ofResponse_of_members (key : Text) {r : Response} {members : FieldMap Text Json}
    (h : Json.parseBody r.body = .ok (.object members)) {etag : Text}
    (he : r.header? "ETag" = some etag) : ofResponse key r = .ok (ofMembers key members etag) := by
  have hmetadata : (if (Value.ofJson ((FieldMap.get? members metadataKey).getD .null)).isTruthy
      then (FieldMap.get? members metadataKey).getD .null else .object []) =
      metadataOf members := by
    rw [metadataOf, Json.isTruthy_ofJson]
    cases FieldMap.get? members metadataKey with
    | none => rfl
    | some found =>
      show (if (!found.isNothing) = true then found else .object []) =
        if found.isNothing = true then .object [] else found
      cases found.isNothing with
      | true => rfl
      | false => rfl
  rw [ofResponse, readBody, h, Attempt.mapError_ok]
  show Except.ok _ = _
  rw [he]
  simp only [hmetadata]
  rfl

end Document

theorem Response.header?_etag (status : Nat) (etag : Text) (body : Bytes) :
    (⟨status, [(Text.ofString "ETag", etag)], body⟩ : Response).header? "ETag" = some etag := by
  show some (Text.join (Text.ofString ", ") [etag]) = some etag
  rw [Text.join]
  simp

theorem PutResult.ofResponse_receipt {key : Text} (hk : key.isScalar = true) (number : Nat) :
    PutResult.ofResponse key ⟨201, [], Server.jsonBody (Table.receipt key number)⟩ =
      .ok ⟨.text key, .text (Server.etag number)⟩ := by
  have hsome : ¬(Server.jsonBody (Table.receipt key number)).isEmpty = true := by
    rw [List.isEmpty_iff]
    intro hempty
    have hparse := Table.parseBody_receipt hk number
    rw [hempty] at hparse
    cases hparse
  rw [ofResponse]
  simp only [if_neg hsome]
  rw [readBody, Table.parseBody_receipt hk number]
  rfl

namespace Store

/-- Puts a document under a key and gets what is then there. -/
def putThenGet (key : Text) (document : Value) : StoreAction (PutResult × Option Document) := do
  let receipt ← put key none document []
  let found ← get key
  pure (receipt, found)

section Served

variable {p : PlainUrl} {s : Store} {session : Session} {w : World} {documents : Documents}
  {key : Text} {members : FieldMap Text Json} {depth : Nat}
  (hs : s.session = some session) (hb : session.base = p.url) (hd : s.database.isScalar = true)
  (hdot : ¬s.database.IsDotSegment) (hw : w.replies = [])
  (hosted : w.server.databases.get? s.database = some documents)
  (hk : IsAddress s.database key)

include hs hb hd hdot hw hosted hk

/-- Putting content that can be written stores its body under the key, with the next number. -/
theorem exec_put {document : Value} {body : Bytes} (hbody : Json.requestBody document = .ok body) :
    ∃ w', (put key none document []).exec s w =
        ((.ok ⟨.text key, .text (Server.etag w.server.nextNumber)⟩, s), w') ∧
      w'.replies = [] ∧ w'.server.databases.get? s.database =
        some (documents.insert key ⟨body, w.server.nextNumber⟩) := by
  have hput : put key none document [] = (putExchange key [] document).perform key :=
    put_eq rfl key document
  have hanswer : w.server.answerDocument .put s.database key documents body =
      (⟨201, [], Server.jsonBody (Table.receipt key w.server.nextNumber)⟩,
        ⟨w.server.databases.insert s.database
          (documents.insert key ⟨body, w.server.nextNumber⟩), w.server.nextNumber + 1⟩) := rfl
  obtain ⟨hending, hserver, hreplies⟩ :=
    (putExchange key [] document).served hb hd hdot rfl hk hbody hw hosted hanswer
      (Response.isOrdinary_nil 201 _) (Or.inr rfl)
  obtain ⟨events, hexec⟩ := (putExchange key [] document).exec_perform hs key w
  have hfinish : (putExchange key [] document).finish
      ⟨201, [], Server.jsonBody (Table.receipt key w.server.nextNumber)⟩ =
      .ok ⟨.text key, .text (Server.etag w.server.nextNumber)⟩ :=
    PutResult.ofResponse_receipt hk.scalar w.server.nextNumber
  refine ⟨((putExchange key [] document).after s session key w).showing events, ?_, hreplies, ?_⟩
  · rw [hput, hexec, hending, hfinish, holding_eq_self hs]
  · show ((putExchange key [] document).after s session key w).server.databases.get? _ = _
    rw [hserver]
    exact FieldMap.get?_insert_self _ _ _

/-- Getting what is stored under a key gives the members of its body. -/
theorem exec_get {d : StoredDocument} (hstored : documents.get? key = some d)
    (hparse : Json.parseBody d.body = .ok (.object members)) :
    ∃ w', (get key).exec s w =
      ((.ok (some (Document.ofMembers key members (Server.etag d.number))), s), w') := by
  have hanswer : w.server.answerDocument .get s.database key documents [] =
      (⟨200, [(Text.ofString "ETag", Server.etag d.number)], d.body⟩, w.server) := by
    rw [Server.answerDocument, hstored]
  obtain ⟨hending, -, -⟩ :=
    (getExchange key).served hb hd hdot rfl hk rfl hw hosted hanswer
      (Response.isOrdinary_etag 200 d.number d.body) (Or.inr rfl)
  obtain ⟨events, hexec⟩ := (getExchange key).exec_perform hs key w
  have hfinish : (getExchange key).finish
      ⟨200, [(Text.ofString "ETag", Server.etag d.number)], d.body⟩ =
      .ok (some (Document.ofMembers key members (Server.etag d.number))) := by
    show (Document.ofResponse key _).map some = _
    rw [Document.ofResponse_of_members key hparse (Response.header?_etag 200 _ d.body)]
    rfl
  refine ⟨((getExchange key).after s session key w).showing events, ?_⟩
  rw [get_eq, hexec, hending, hfinish, holding_eq_self hs]

omit hosted hk in
/-- Putting content that holds a lone surrogate fails and stores nothing. -/
theorem exec_put_refused {document : Value} {problem : EncodeError}
    (hbody : Json.requestBody document = .error (.encoding problem)) :
    ∃ error w', (put key none document []).exec s w = ((.error (.store error), s), w') ∧
      w'.server = w.server := by
  have hput : put key none document [] = (putExchange key [] document).perform key :=
    put_eq rfl key document
  have hnone : ¬(IsAddress s.database key ∧
      ∃ body, ((putExchange key [] document).askAt (pathOf s.database key)).body? = .ok body) := by
    rintro ⟨-, body, hok⟩
    have hsame : Json.requestBody document = .ok body := hok
    rw [hbody] at hsame
    cases hsame
  obtain ⟨⟨error, hending⟩, hserver, -⟩ :=
    (putExchange key [] document).refused hb hd hdot rfl (Or.inr ⟨problem, hbody⟩) hnone hw
  obtain ⟨events, hexec⟩ := (putExchange key [] document).exec_perform hs key w
  refine ⟨error, ((putExchange key [] document).after s session key w).showing events, ?_, hserver⟩
  rw [hput, hexec, hending, holding_eq_self hs]

/-- A plain document comes back as its members with the metadata apart, under the etag of its
receipt. One that holds a lone surrogate is refused, and the server stays as it is. -/
theorem exec_putThenGet (hplain : Json.Plain false depth (.object members))
    (hdepth : depth ≤ Value.maxDepth) :
    ((Json.object members).isScalar = true → ∃ etag w',
      (putThenGet key (Value.ofJson (.object members))).exec s w =
        ((.ok (⟨.text key, .text etag⟩, some (Document.ofMembers key members etag)), s), w')) ∧
    ((Json.object members).isScalar = false → ∃ error w',
      (putThenGet key (Value.ofJson (.object members))).exec s w =
        ((.error (.store error), s), w') ∧ w'.server = w.server) := by
  constructor
  · intro hscalar
    have hbody := Json.requestBody_ofJson hplain hdepth hscalar
    obtain ⟨w1, hput, hw1, hosted1⟩ := exec_put hs hb hd hdot hw hosted hk hbody
    have hstored := FieldMap.get?_insert_self documents key
      ⟨(Json.object members).body, w.server.nextNumber⟩
    obtain ⟨w2, hget⟩ := exec_get hs hb hd hdot hw1 hosted1 hk hstored
      (Json.parseBody_render hplain hdepth)
    refine ⟨Server.etag w.server.nextNumber, w2, ?_⟩
    rw [putThenGet, exec_bind_ok hput, exec_bind_ok hget]
    rfl
  · intro hscalar
    obtain ⟨problem, hbody⟩ := Json.exists_requestBody_ofJson_error hplain hdepth hscalar
    obtain ⟨error, w', hput, hserver⟩ := exec_put_refused hs hb hd hdot hw hbody
    exact ⟨error, w', exec_bind_error hput _, hserver⟩

end Served

/-- A document with escapes, nested collections and metadata comes back in order. -/
theorem exec_putThenGet_nested :
    let nested := Json.array [.int 1, .bool true, .text (Text.ofString "1"), .null, .object []]
    let about := Json.object [(Text.ofString "Raven-Entity-Name", .text (Text.ofString "Users"))]
    let members := [(Text.ofString "\"ü\n", nested), (metadataKey, about),
      (Text.ofString "😀", .int (-7))]
    let w : World := { server := Server.ofNames [Text.ofString "YCSB"] }
    ∃ etag w', (putThenGet (Text.ofString "users/1") (Value.ofJson (.object members))).exec
        Store.localhost w =
      ((.ok (⟨.text (Text.ofString "users/1"), .text etag⟩,
        some ⟨Text.ofString "users/1", [(Text.ofString "\"ü\n", nested),
          (Text.ofString "😀", .int (-7))], about, some etag⟩), Store.localhost), w') := by
  intro nested about members w
  have hnested : Json.Plain false 2 nested := by
    refine .array fun x hx => ?_
    simp only [List.mem_cons, List.not_mem_nil, or_false] at hx
    rcases hx with rfl | rfl | rfl | rfl | rfl
    · exact .int 1 (@Json.tooManyDigits_of_few [1] (by decide) (by decide) false)
    · exact .bool 1 true
    · exact .text 1 fun h => Bool.noConfusion h
    · exact .null 1
    · exact .object (by decide) (fun h => Bool.noConfusion h) fun e he => absurd he List.not_mem_nil
  have habout : Json.Plain false 2 about := by
    refine .object (by decide) (fun h => Bool.noConfusion h) fun e he => ?_
    obtain rfl := List.mem_singleton.1 he
    exact .text 1 fun h => Bool.noConfusion h
  have hplain : Json.Plain false 3 (.object members) := by
    refine .object (by decide) (fun h => Bool.noConfusion h) fun e he => ?_
    simp only [members, List.mem_cons, List.not_mem_nil, or_false] at he
    rcases he with rfl | rfl | rfl
    · exact hnested
    · exact habout
    · exact .int 2 (@Json.tooManyDigits_of_few [7] (by decide) (by decide) true)
  have hhosted : w.server.databases.get? Store.localhost.database = some [] := rfl
  exact (exec_putThenGet (s := Store.localhost) rfl Session.base_localhost
    (show _ = true by decide) (by decide) rfl hhosted (by decide) hplain (by decide)).1
    (by decide)

end Store

end RavenBinding
