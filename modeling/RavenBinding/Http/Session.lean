import RavenBinding.Cookie.Jar
import RavenBinding.Http.Base64
import RavenBinding.Http.ContentCoding
import RavenBinding.Http.Reference
import RavenBinding.Json.Bytes

/-!
# Sessions

A session holds the URL that all requests of a store start with, and the cookies that responses
set. A request adds its path to the path of that URL, replaces the query if it has one of its own,
and carries the host, its own headers, the cookies, the type of its body and the credentials of the
URL, in this order. Redirects are not followed, but the place that a response names has to be one
that a request could be sent to.

## Main definitions

- `Session.open?`: a session on a base URL
- `Session.request`: a request before it is sent
- `Session.receive`: what a response comes to, and the session after it
- `RequestError`, `ResponseError`: why there is no request, or no use for a response
-/

namespace RavenBinding

/-- An open session. -/
structure Session where
  /-- The URL of all requests; its path, or its query if it has one, ends with a slash. -/
  base : Url
  timeout : Timeout
  cookies : CookieJar := {}
  deriving DecidableEq, Repr

/-- Why a request cannot be built. -/
inductive RequestError where
  /-- The URL is none, or a part of the request has no encoding. -/
  | url (failure : UrlFailure)
  /-- The content cannot be written. -/
  | json (fault : JsonFault)
  /-- The cookies cannot be chosen. -/
  | origin (problem : OriginProblem)
  /-- The host cannot be read back. -/
  | host (problem : LabelProblem)
  deriving DecidableEq, Repr

/-- A text without the encoding that it needs. -/
def RequestError.encoding (error : EncodeError) : RequestError := .url (.encoding error)

/-- Why a response is of no use. -/
inductive ResponseError where
  /-- A header is not in ASCII. -/
  | headers (error : EncodeError)
  /-- The codings of the body cannot be undone. -/
  | coding (f : Fault)
  /-- Nobody can tell whom the cookies are for. -/
  | origin (problem : OriginProblem)
  /-- The place of a redirect is no URL. -/
  | location (error : UrlError)
  /-- The place of a redirect is no URL together with that of the request. -/
  | redirect (failure : UrlFailure)
  /-- The host of a redirect cannot be read back. -/
  | host (problem : LabelProblem)
  deriving DecidableEq, Repr

/-- What a request asks for, before it is joined with the URL of a session. -/
structure Ask where
  method : Method
  path : Text
  /-- Numbers that the query names. -/
  query : Option (List (Text × Int)) := none
  headers : FieldMap Text Text := []
  /-- The value that is sent as JSON. -/
  content : Option Value := none

namespace Session

/-- A URL whose path and query end with a slash. -/
def withTrailingSlash (url : Url) : Except UrlFailure Url :=
  if url.rawPath.getLast? = some (CodePoint.ofChar '/') then .ok url
  else url.withRawPath (url.rawPath ++ Text.ofString "/")

/-- Opens a session on a base URL. -/
def open? (base : Text) (timeout : Timeout) : Except UrlFailure Session := do
  let url ← Url.parse base
  let url ← withTrailingSlash url
  pure { base := url, timeout := timeout }

/-- The URL of a path that begins with a slash. -/
def resolve (s : Session) (path : Text) : Except UrlFailure Url :=
  if Url.maxLength < path.length then .error (.invalid .tooLong)
  else s.base.withRawPath (s.base.rawPath ++ path.trimLeft (· == CodePoint.ofChar '/'))

/-- Names and values of headers in ASCII; the first text that is not is reported. -/
def encodeHeaders : FieldMap Text Text → Except EncodeError Headers
  | [] => .ok []
  | (name, value) :: rest => do
    let _ ← Text.encodeAscii name
    let _ ← Text.encodeAscii value
    let others ← encodeHeaders rest
    pure ((name.toLowerAscii, value) :: others)

/-- The text of a query that names numbers. -/
def queryText (query : List (Text × Int)) : Except JsonFault Text :=
  if query.any fun q => tooManyDigits q.2 then .error .tooManyDigits
  else .ok (Text.join (Text.ofString "&")
    (query.map fun q => q.1 ++ Text.ofString "=" ++ Text.ofInt q.2))

/-- Whether a header is there. -/
def hasHeader (headers : Headers) (name : Text) : Bool := headers.any fun h => h.1 == name

/-- The headers with one more, which takes the place of those of its name. -/
def setHeader (headers : Headers) (name value : Text) : Headers :=
  match headers.span fun h => h.1 != name with
  | (before, []) => before ++ [(name, value)]
  | (before, _ :: after) => before ++ (name, value) :: after.filter fun h => h.1 != name

/-- The credentials that the URL holds, as the value of a header. -/
def credentials? (url : Url) : Option Text :=
  let (user, password) := Text.cut (CodePoint.ofChar ':') url.userinfo
  let user := Percent.decode user
  let password := Percent.decode (password.getD [])
  if user.isEmpty && password.isEmpty then none
  else
    let bytes := Utf8.encodeAll user ++ Utf8.encodeAll (CodePoint.ofChar ':' :: password)
    some (Text.ofString "Basic " ++ Base64.encode bytes)

/-- All headers of a request to a URL: the host, those given, the type of the content and the
credentials. -/
def completeHeaders (url : Url) (given : Headers) (hasContent : Bool) : Headers :=
  let contentType := Text.ofString "content-type"
  let typed :=
    if hasContent && !hasHeader given contentType then
      given ++ [(contentType, Text.ofString "application/json")]
    else given
  let hosted :=
    if hasHeader given (Text.ofString "host") || url.host.isEmpty then typed
    else (Text.ofString "host", url.netloc) :: typed
  match credentials? url with
  | none => hosted
  | some value => setHeader hosted (Text.ofString "authorization") value

/-- The headers with the cookies for a URL; a header for them that is there already stays. -/
def withCookies (s : Session) (url : Url) (headers : Headers) : Except OriginProblem Headers :=
  if s.cookies.isEmpty then .ok headers
  else do
    let origin ← Origin.ofRequest url headers
    let name := Text.ofString "cookie"
    match s.cookies.header? origin with
    | none => pure headers
    | some shown => pure (if hasHeader headers name then headers else headers ++ [(name, shown)])

/-- Builds a request. URL, headers, query, cookies, content and host are looked at in this order. -/
def request (s : Session) (ask : Ask) : Except RequestError Request := do
  let url ← (s.resolve ask.path).mapError .url
  let given ← (encodeHeaders ask.headers).mapError .encoding
  let url ← match ask.query with
    | none => pure url
    | some query => do
      let text ← (queryText query).mapError .json
      (url.withQuery text).mapError .url
  let given ← (s.withCookies url given).mapError .origin
  let body ← match ask.content with
    | none => pure []
    | some v => (Json.requestBody v).mapError fun
      | .json fault => .json fault
      | .encoding error => .encoding error
  if !hasHeader given (Text.ofString "host") then
    let _ ← url.readableHost.mapError .host
  pure ⟨ask.method, url, completeHeaders url given ask.content.isSome, body, s.timeout⟩

/-- A URL with a scheme and no host takes the host of another one. -/
def lendHost (url lender : Url) : Except ResponseError Url := do
  if url.scheme.isEmpty then pure url
  else
    let host ← url.readableHost.mapError .host
    if host.isEmpty then
      let lent ← lender.readableHost.mapError .host
      (url.withHost lent).mapError .redirect
    else pure url

/-- The URL of a reference on the URL of a request. -/
def follow (url reference : Url) : Except ResponseError Url := do
  if reference.isAbsolute then pure reference
  else
    let t ← (Reference.resolve url.text reference.text).mapError .origin
    (Url.parse t).mapError .redirect

/-- The URL takes over the fragment of another one unless it has one. -/
def lendFragment (url lender : Url) : Except ResponseError Url :=
  if lender.readableFragment.isEmpty || !url.readableFragment.isEmpty then .ok url
  else (url.withFragment lender.readableFragment).mapError .redirect

/-- The URL that a request is redirected to. -/
def redirected (request : Request) (location : Text) : Except ResponseError Url := do
  let url ← (Url.parse location).mapError fun
    | .invalid error => .location error
    | .encoding error => .redirect (.encoding error)
  let url ← lendHost url request.url
  let url ← follow request.url url
  let url ← lendFragment url request.url
  let _ ← url.readableHost.mapError .host
  let _ ← request.url.readableHost.mapError .host
  pure url

/-- If a response redirects its request, a request could be sent to the place that it names. -/
def checkRedirect (cookies : CookieJar) (request : Request) (response : Response) :
    Except ResponseError Unit :=
  match response.header? "Location" with
  | some location =>
    if response.isRedirect then do
      let url ← redirected request location
      if !cookies.isEmpty then
        let _ ← (Origin.ofRequest url request.headers).mapError .origin
      pure ()
    else .ok ()
  | none => .ok ()

/-- What a response to a request comes to, and the session after it. Headers and body have to be in
order; then the cookies are kept; then a redirect is looked at. -/
def receive (s : Session) (request : Request) (response : Response) :
    Except ResponseError Response × Session :=
  let opened : Except ResponseError (Response × Origin) := do
    let _ ← (encodeHeaders response.headers).mapError .headers
    let response ← response.decoded.mapError .coding
    let origin ← (Origin.ofRequest request.url request.headers).mapError .origin
    pure (response, origin)
  match opened with
  | .error error => (.error error, s)
  | .ok (response, origin) =>
    let cookies := s.cookies.receive origin response.headers
    ((checkRedirect cookies request response).map fun _ => response, { s with cookies := cookies })

end Session

end RavenBinding
