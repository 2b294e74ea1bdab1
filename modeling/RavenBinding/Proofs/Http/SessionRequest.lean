import RavenBinding.Http.Session
import RavenBinding.Proofs.Attempt
import RavenBinding.Proofs.Http.PlainOrigin

/-!
# Building requests

A session builds the request that an operation asks for from its URL, from the given headers with
the cookies, and from the content. There is none if one of these steps fails.

## Main definitions

- `Ask.IsWritable`: headers and content can be written

## Main statements

- `Session.request_steps`: the steps of building a request
- `Session.request_eq_ok_iff`: the request, and when there is one
- `Session.json_of_request`, `Session.request_ne_json`: what a request that fails for want of a JSON
  form lacks
-/

namespace RavenBinding

open Url

namespace Ask

/-- The content as a body; there may be none. -/
def body? (ask : Ask) : Except WriteError Bytes :=
  match ask.content with
  | none => .ok []
  | some v => Json.requestBody v

/-- Headers and content of the request can be written. -/
def IsWritable (ask : Ask) : Prop :=
  (∃ given, Session.encodeHeaders ask.headers = .ok given) ∧ ∃ body, ask.body? = .ok body

end Ask

namespace Session

variable {session : Session} {ask : Ask}

/-- Content that cannot be written, as a request sees it. -/
def writeFailure : WriteError → RequestError
  | .json fault => .json fault
  | .encoding error => .encoding error

/-- A request, unless the host has to be read back and does not. -/
def checkHost (named : Bool) (url : Url) (request : Request) : Except RequestError Request :=
  if named then .ok request
  else
    match url.readableHost with
    | .error problem => .error (.host problem)
    | .ok _ => .ok request

theorem checkHost_eq_ok_iff (named : Bool) (url : Url) (request built : Request) :
    checkHost named url built = .ok request ↔
      (named = true ∨ ∃ host, url.readableHost = .ok host) ∧ request = built := by
  cases named with
  | true => exact ⟨fun h => ⟨Or.inl rfl, (Except.ok.inj h).symm⟩, fun h => h.2 ▸ rfl⟩
  | false =>
    rw [checkHost, if_neg Bool.false_ne_true]
    cases url.readableHost with
    | error problem =>
      refine ⟨fun h => absurd h (by simp), fun h => ?_⟩
      obtain ⟨h | ⟨host, h⟩, -⟩ := h
      · cases h
      · cases h
    | ok host =>
      exact ⟨fun h => ⟨Or.inr ⟨host, rfl⟩, (Except.ok.inj h).symm⟩, fun h => h.2 ▸ rfl⟩

theorem checkHost_ne_json (named : Bool) (url : Url) (built : Request) (fault : JsonFault) :
    checkHost named url built ≠ .error (.json fault) := by
  cases named with
  | true => rintro ⟨⟩
  | false =>
    rw [checkHost, if_neg Bool.false_ne_true]
    cases url.readableHost with
    | error problem => rintro ⟨⟩
    | ok host => rintro ⟨⟩

/-- The URL with the query that is asked for, if there is one. -/
def queried (url : Url) : Option (List (Text × Int)) → Except RequestError Url
  | none => .ok url
  | some query => do
    let text ← (queryText query).mapError .json
    (url.withQuery text).mapError .url

/-- The steps of building a request from its URL and its own headers. -/
def complete (session : Session) (ask : Ask) (url : Url) (given : Headers) :
    Except RequestError Request := do
  let shown ← (session.withCookies url given).mapError .origin
  let body ← ask.body?.mapError writeFailure
  checkHost (hasHeader shown (Text.ofString "host")) url
    ⟨ask.method, url, completeHeaders url shown ask.content.isSome, body, session.timeout⟩

theorem request_steps :
    session.request ask = (do
      let url ← (session.resolve ask.path).mapError .url
      let given ← (encodeHeaders ask.headers).mapError .encoding
      let url ← queried url ask.query
      session.complete ask url given) := by
  have hcomplete : ∀ url given, session.complete ask url given = (do
      let given ← (session.withCookies url given).mapError RequestError.origin
      let body ← match ask.content with
        | none => pure []
        | some v => (Json.requestBody v).mapError fun
          | .json fault => .json fault
          | .encoding error => .encoding error
      if !hasHeader given (Text.ofString "host") then
        let _ ← url.readableHost.mapError .host
      pure ⟨ask.method, url, completeHeaders url given ask.content.isSome, body,
        session.timeout⟩) := by
    intro url given
    simp only [complete, bind, Except.bind, pure, Except.pure]
    cases hshown : session.withCookies url given with
    | error f => simp only [Attempt.mapError_error]
    | ok shown =>
      -- the content is looked at before the host
      cases hcontent : ask.content with
      | none =>
        cases hnamed : hasHeader shown (Text.ofString "host") with
        | true => simp [Ask.body?, hcontent, checkHost, hnamed]
        | false =>
          cases hhost : url.readableHost with
          | error f => simp [Ask.body?, hcontent, checkHost, hnamed, hhost]
          | ok host => simp [Ask.body?, hcontent, checkHost, hnamed, hhost]
      | some v =>
        cases hbody : Json.requestBody v with
        | error f =>
          cases f with
          | json fault => simp [Ask.body?, hcontent, hbody, writeFailure]
          | encoding error => simp [Ask.body?, hcontent, hbody, writeFailure]
        | ok body =>
          cases hnamed : hasHeader shown (Text.ofString "host") with
          | true => simp [Ask.body?, hcontent, hbody, checkHost, hnamed]
          | false =>
            cases hhost : url.readableHost with
            | error f => simp [Ask.body?, hcontent, hbody, checkHost, hnamed, hhost]
            | ok host => simp [Ask.body?, hcontent, hbody, checkHost, hnamed, hhost]
  simp only [hcomplete, Session.request, queried]
  cases session.resolve ask.path with
  | error f => rfl
  | ok url =>
    cases encodeHeaders ask.headers with
    | error f => rfl
    | ok given =>
      cases ask.query with
      | none => rfl
      | some query =>
        exact (bind_assoc ((queryText query).mapError RequestError.json)
          (fun t => (url.withQuery t).mapError RequestError.url) _).symm

theorem request_eq (hquery : ask.query = none) :
    session.request ask = (do
      let url ← (session.resolve ask.path).mapError .url
      let given ← (encodeHeaders ask.headers).mapError .encoding
      let shown ← (session.withCookies url given).mapError .origin
      let body ← ask.body?.mapError writeFailure
      checkHost (hasHeader shown (Text.ofString "host")) url
        ⟨ask.method, url, completeHeaders url shown ask.content.isSome, body,
          session.timeout⟩) := by
  rw [request_steps, hquery]
  rfl

/-- A request without a query is built from its URL, its headers with the cookies, and its body. The
host is read back if no header names it. -/
theorem request_eq_ok_iff {request : Request} (hquery : ask.query = none) :
    session.request ask = .ok request ↔
      ∃ url given shown body, session.resolve ask.path = .ok url ∧
        encodeHeaders ask.headers = .ok given ∧ session.withCookies url given = .ok shown ∧
        ask.body? = .ok body ∧
        (hasHeader shown (Text.ofString "host") = true ∨ ∃ host, url.readableHost = .ok host) ∧
        request = ⟨ask.method, url, completeHeaders url shown ask.content.isSome, body,
          session.timeout⟩ := by
  rw [request_eq hquery]
  simp only [Attempt.bind_eq_ok_iff, Attempt.mapError_eq_ok_iff, checkHost_eq_ok_iff]
  constructor
  · rintro ⟨url, hurl, given, hgiven, shown, hshown, body, hbody, hhost, hrequest⟩
    exact ⟨url, given, shown, body, hurl, hgiven, hshown, hbody, hhost, hrequest⟩
  · rintro ⟨url, given, shown, body, hurl, hgiven, hshown, hbody, hhost, hrequest⟩
    exact ⟨url, hurl, given, hgiven, shown, hshown, body, hbody, hhost, hrequest⟩

/-- A request fails for want of a JSON form if a number of its query or its content has none. -/
theorem json_of_request {fault : JsonFault} (h : session.request ask = .error (.json fault)) :
    (∃ query, ask.query = some query ∧ queryText query = .error fault) ∨
      ask.body? = .error (.json fault) := by
  rw [request_steps] at h
  -- every other step fails in its own way
  simp only [complete, Attempt.bind_eq_error_iff, Attempt.mapError_eq_error_iff] at h
  rcases h with ⟨e, -, ⟨⟩⟩ | ⟨url, -, ⟨e, -, he⟩ | ⟨given, -, hquery | ⟨queried, -, ⟨e, -, ⟨⟩⟩ |
    ⟨shown, -, ⟨e, hwritten, he⟩ | ⟨body, -, hhost⟩⟩⟩⟩⟩
  · cases he
  · left
    cases hask : ask.query with
    | none =>
      rw [hask] at hquery
      cases hquery
    | some query =>
      rw [hask] at hquery
      rcases Attempt.bind_eq_error_iff.1 hquery with htext | ⟨t, -, hurl⟩
      · obtain ⟨fault', htext, ⟨⟩⟩ := Attempt.mapError_eq_error_iff.1 htext
        exact ⟨query, rfl, htext⟩
      · obtain ⟨failure, -, ⟨⟩⟩ := Attempt.mapError_eq_error_iff.1 hurl
  · cases e with
    | json fault' =>
      obtain rfl := RequestError.json.inj he
      exact Or.inr hwritten
    | encoding error => cases he
  · exact absurd hhost (checkHost_ne_json _ _ _ _)

end Session

end RavenBinding
