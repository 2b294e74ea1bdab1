import RavenBinding.Proofs.Store.PlainRequest

/-!
# Exchanges with the document server

When no replies are prepared, the server answers. On a plain URL an operation on a document reaches
the document of its key, if the key can be addressed and the content can be written; otherwise the
operation fails and the server stays as it is.

## Main definitions

- `Store.IsAddress`: the keys that can be addressed

## Main statements

- `DocumentExchange.exists_addressed`: the request that reaches a document
- `DocumentExchange.refused`: the operations that reach none
-/

namespace RavenBinding

/-! ### The server in a world -/

namespace World

variable {w : World}

/-- Without prepared replies, the server answers. -/
theorem exchange_of_no_replies (h : w.replies = []) (request : Request) :
    w.exchange request = (.response (w.server.answer request).1,
      { w with sent := request :: w.sent, server := (w.server.answer request).2 }) := by
  rcases w with ⟨server, replies, closeFault, openSessions, sent, shown⟩
  obtain rfl : replies = [] := h
  rfl

theorem replyTo_of_no_replies (h : w.replies = []) (request : Request) :
    w.replyTo request = .response (w.server.answer request).1 :=
  congrArg Prod.fst (exchange_of_no_replies h request)

end World

namespace Server

variable {server : Server} {request : Request} {database key : Text}

theorem answer_eq (server : Server) (request : Request) :
    ∃ query, server.answer request = server.respond request.method
      (Text.cut (CodePoint.ofChar '?') request.url.rawPath).1 query request.body :=
  ⟨_, rfl⟩

/-- A request that arrives with the segments of a document is answered from its database. -/
theorem answer_of_segments (h : request.segments = Store.segmentsOf database key)
    {documents : Documents} (hosted : server.databases.get? database = some documents) :
    server.answer request =
      server.answerDocument request.method database key documents request.body := by
  obtain ⟨query, hanswer⟩ := answer_eq server request
  have hsegments : Server.segments (Text.cut (CodePoint.ofChar '?') request.url.rawPath).1 =
      [Text.ofString "databases", database, Text.ofString "docs", key] := h
  rw [hanswer, respond.eq_def]
  simp only [hsegments, hosted]
  cases request.method with
  | get => rfl
  | put => rfl
  | delete => rfl

/-- A request that arrives with the segments of a collection or of a database is not supported. -/
theorem answer_of_dot (server : Server) (h : request.segments = Store.placeOf database key)
    (hdot : key.IsDotSegment) :
    ∃ t, server.answer request = (plain 400 t, server) := by
  obtain ⟨query, hanswer⟩ := answer_eq server request
  rw [hanswer, respond.eq_def]
  rcases hdot with rfl | rfl
  · have hsegments : Server.segments (Text.cut (CodePoint.ofChar '?') request.url.rawPath).1 =
        [Text.ofString "databases", database, Text.ofString "docs"] := h.trans (if_pos rfl)
    simp only [hsegments]
    cases request.method with
    | get => exact ⟨_, rfl⟩
    | put => exact ⟨_, rfl⟩
    | delete => exact ⟨_, rfl⟩
  · have hplace : Store.placeOf database (Text.ofString "..") =
        [Text.ofString "databases", database] := by
      rw [Store.placeOf, if_neg (by decide), if_pos rfl]
    have hsegments : Server.segments (Text.cut (CodePoint.ofChar '?') request.url.rawPath).1 =
        [Text.ofString "databases", database] := h.trans hplace
    simp only [hsegments]
    cases request.method with
    | get => exact ⟨_, rfl⟩
    | put => exact ⟨_, rfl⟩
    | delete => exact ⟨_, rfl⟩

end Server

/-- The key can be addressed: it can be encoded, is no dot segment, and its path is not too long. -/
structure Store.IsAddress (database key : Text) : Prop where
  scalar : key.isScalar = true
  plain : ¬key.IsDotSegment
  short : (Store.pathOf database key).length ≤ Url.maxLength

instance (database key : Text) : Decidable (Store.IsAddress database key) :=
  decidable_of_iff (key.isScalar = true ∧ ¬key.IsDotSegment ∧
      (Store.pathOf database key).length ≤ Url.maxLength)
    ⟨fun h => ⟨h.1, h.2.1, h.2.2⟩, fun h => ⟨h.scalar, h.plain, h.short⟩⟩

namespace DocumentExchange

variable {α : Type} {p : PlainUrl} {s : Store} {session : Session} {key : Text}

/-- The session after an operation is the one that its response leaves. -/
theorem session_of_response {x : DocumentExchange α} {request : Request} {r : Response}
    {replyTo : Request → Reply} (hrequest : x.request? s session key = .ok request)
    (hr : replyTo request = .response r) :
    (x.ending s session key replyTo).2 = (session.receive request r).2 := by
  obtain ⟨ask, hask, hbuild⟩ := request?_eq_ok_iff.1 hrequest
  rw [ending_of_request hask hbuild, endingOf_eq, hr]
  rfl

/-- A response that explains an error in words is a failure of the store. -/
theorem ending_of_plain {x : DocumentExchange α} {request : Request} {segments : List Text}
    {replyTo : Request → Reply} {t : Text} (hrequest : x.request? s session key = .ok request)
    (hurl : request.url = p.place segments)
    (hr : replyTo request = .response (Server.plain 400 t)) :
    ∃ error, x.ending s session key replyTo = (.error (.store error), session) := by
  have hreceive : session.receive request (Server.plain 400 t) =
      (.ok (Server.plain 400 t), session) :=
    PlainUrl.receive_eq hurl (Response.isOrdinary_nil 400 (Utf8.encodeAll t)) session
  have htext : ∃ shown, (Server.plain 400 t).text = .ok shown := by
    rw [Response.text]
    split
    · exact ⟨_, rfl⟩
    · exact ⟨_, rfl⟩
  obtain ⟨shown, hshown⟩ := htext
  obtain ⟨ask, hask, hbuild⟩ := request?_eq_ok_iff.1 hrequest
  rw [ending_of_request hask hbuild, endingOf_eq, hr, Store.acceptReply]
  have hallow : ¬(x.allowNotFound && (Server.plain 400 t).isNotFound) = true := by
    rw [show (Server.plain 400 t).isNotFound = false from rfl, Bool.and_false]
    exact Bool.false_ne_true
  have hstatus : ∃ error, Store.acceptStatus x.operation ask x.allowNotFound (Server.plain 400 t) =
      .error (.store error) := by
    rw [Store.acceptStatus, if_neg hallow, hshown]
    exact ⟨_, rfl⟩
  obtain ⟨error, herror⟩ := hstatus
  refine ⟨error, ?_⟩
  simp only [hreceive, Attempt.mapError_ok, Except.bind, herror]

/-! ### Addressed and refused operations -/

variable (hb : session.base = p.url) (hd : s.database.isScalar = true)
  (hdot : ¬s.database.IsDotSegment)

include hb hd hdot in
/-- An operation on a key that can be addressed, with headers and content that can be written, has a
request that reaches the document. -/
theorem exists_addressed (hk : Store.IsAddress s.database key) (x : DocumentExchange α)
    (hw : (x.askAt (Store.pathOf s.database key)).IsWritable) :
    ∃ request, x.request? s session key = .ok request ∧ request.method = x.method ∧
      request.url = p.place (Store.placeOf s.database key) ∧
      request.segments = Store.segmentsOf s.database key ∧
      (x.askAt (Store.pathOf s.database key)).body? = .ok request.body := by
  obtain ⟨request, hrequest, hmethod, hurl, hbody⟩ :=
    exists_request hb hd hdot hk.scalar hk.short x hw
  have hsegments := PlainUrl.segments_place hd hk.scalar hurl
  rw [Store.placeOf_eq_iff.2 hk.plain] at hsegments
  exact ⟨request, hrequest, hmethod, hurl, hsegments, hbody⟩

include hd in
/-- A key that cannot be encoded has no request. -/
theorem request?_of_not_scalar (x : DocumentExchange α) (hk : key.isScalar = false) :
    ∃ error, x.request? s session key = .error (.store error) := by
  obtain ⟨error, he⟩ := s.documentPath_of_not_isScalar x.operation hd hk
  rw [request?, ask?, he]
  exact ⟨_, rfl⟩

include hd in
/-- A key whose path is too long has no request. -/
theorem request?_of_long (x : DocumentExchange α) (hk : key.isScalar = true)
    (hl : Url.maxLength < (Store.pathOf s.database key).length) :
    ∃ error, x.request? s session key = .error (.store error) := by
  have hrequest : session.request (x.askAt (Store.pathOf s.database key)) =
      .error (.url (.invalid .tooLong)) := by
    rw [Session.request_eq rfl, askAt, PlainUrl.resolve_of_long hl]
    rfl
  rw [x.request?_of_scalar hd hk, Store.buildRequest, hrequest]
  exact ⟨_, rfl⟩

include hb hd in
/-- Content that cannot be written has no request. -/
theorem request?_of_unwritable (x : DocumentExchange α) (hheaders : x.headers = [])
    (hk : key.isScalar = true) (hl : (Store.pathOf s.database key).length ≤ Url.maxLength)
    {error : EncodeError}
    (hbody : (x.askAt (Store.pathOf s.database key)).body? = .error (.encoding error)) :
    ∃ error, x.request? s session key = .error (.store error) := by
  obtain ⟨segments, hresolve⟩ := PlainUrl.exists_resolve_pathOf hb hd hk hl
  have hrequest : session.request (x.askAt (Store.pathOf s.database key)) =
      .error (.url (.encoding error)) :=
    p.request_of_unwritable rfl hheaders hresolve hbody
  rw [x.request?_of_scalar hd hk, Store.buildRequest, hrequest]
  exact ⟨_, rfl⟩

include hb hd hdot in
/-- An operation on a key that cannot be addressed, or with content that cannot be written, is a
failure of the store and leaves the server as it is. -/
theorem refused (x : DocumentExchange α) (hheaders : x.headers = [])
    (hcontent : (∃ body, (x.askAt (Store.pathOf s.database key)).body? = .ok body) ∨
      ∃ error, (x.askAt (Store.pathOf s.database key)).body? = .error (.encoding error))
    (hrefused : ¬(Store.IsAddress s.database key ∧
      ∃ body, (x.askAt (Store.pathOf s.database key)).body? = .ok body))
    {w : World} (hw : w.replies = []) :
    (∃ error, x.ending s session key w.replyTo = (.error (.store error), session)) ∧
      (x.after s session key w).server = w.server ∧ (x.after s session key w).replies = [] := by
  have hnone : (∃ error, x.request? s session key = .error (.store error)) →
      (∃ error, x.ending s session key w.replyTo = (.error (.store error), session)) ∧
        (x.after s session key w).server = w.server ∧
        (x.after s session key w).replies = [] := by
    rintro ⟨error, he⟩
    refine ⟨⟨error, ending_of_no_request he w.replyTo⟩, ?_, ?_⟩
    · rw [after, he]
    · rw [after, he]
      exact hw
  cases hk : key.isScalar with
  | false => exact hnone (x.request?_of_not_scalar hd hk)
  | true =>
    by_cases hl : (Store.pathOf s.database key).length ≤ Url.maxLength
    · rcases hcontent with ⟨body, hbody⟩ | ⟨error, hbody⟩
      · -- only a dot segment is left: its request arrives at no document
        have hdotted : key.IsDotSegment :=
          Classical.byContradiction fun hplain => hrefused ⟨⟨hk, hplain, hl⟩, body, hbody⟩
        have hwritable : (x.askAt (Store.pathOf s.database key)).IsWritable :=
          ⟨⟨[], by rw [askAt, hheaders]; rfl⟩, body, hbody⟩
        obtain ⟨request, hrequest, -, hurl, -⟩ := exists_request hb hd hdot hk hl x hwritable
        obtain ⟨t, hanswer⟩ :=
          Server.answer_of_dot w.server (PlainUrl.segments_place hd hk hurl) hdotted
        have hreply : w.replyTo request = .response (Server.plain 400 t) := by
          rw [World.replyTo_of_no_replies hw, hanswer]
        refine ⟨ending_of_plain hrequest hurl hreply, ?_, ?_⟩
        · rw [after, hrequest]
          simp only [World.exchange_of_no_replies hw, hanswer]
        · rw [after, hrequest]
          simp only [World.exchange_of_no_replies hw, hw]
      · exact hnone (request?_of_unwritable hb hd x hheaders hk hl hbody)
    · exact hnone (x.request?_of_long hd hk (Nat.lt_of_not_le hl))

include hb hd hdot in
/-- An operation that reaches its document ends with what it makes of the server's answer. -/
theorem served (x : DocumentExchange α) (hheaders : x.headers = [])
    (hk : Store.IsAddress s.database key) {body : Bytes}
    (hbody : (x.askAt (Store.pathOf s.database key)).body? = .ok body) {w : World}
    (hw : w.replies = []) {documents : Documents}
    (hosted : w.server.databases.get? s.database = some documents)
    {r : Response} {server : Server}
    (hanswer : w.server.answerDocument x.method s.database key documents body = (r, server))
    (hr : r.IsOrdinary) (haccepted : (x.allowNotFound && r.isNotFound) = true ∨ r.isError = false) :
    x.ending s session key w.replyTo = (x.finish r, session) ∧
      (x.after s session key w).server = server ∧ (x.after s session key w).replies = [] := by
  have hwritable : (x.askAt (Store.pathOf s.database key)).IsWritable :=
    ⟨⟨[], by rw [askAt, hheaders]; rfl⟩, body, hbody⟩
  obtain ⟨request, hrequest, hmethod, hurl, hsegments, hsent⟩ :=
    exists_addressed hb hd hdot hk x hwritable
  obtain rfl := Except.ok.inj (hsent.symm.trans hbody)
  rw [← hmethod, ← Server.answer_of_segments hsegments hosted] at hanswer
  have hreply : w.replyTo request = .response r := by
    rw [World.replyTo_of_no_replies hw, hanswer]
  have hreceive := PlainUrl.receive_eq hurl hr session
  have hend := ending_of_accepted hrequest hreply (congrArg Prod.fst hreceive) haccepted
  have hsession := session_of_response hrequest hreply
  refine ⟨Prod.ext hend (hsession.trans (congrArg Prod.snd hreceive)), ?_, ?_⟩
  · rw [after, hrequest]
    simp only [World.exchange_of_no_replies hw, hanswer]
  · rw [after, hrequest]
    simp only [World.exchange_of_no_replies hw, hw]

end DocumentExchange

end RavenBinding
