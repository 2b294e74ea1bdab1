import RavenBinding.HostName.Label
import RavenBinding.Http.Address
import RavenBinding.Http.Percent
import RavenBinding.Number.Numeral
import RavenBinding.Text.Lowercase
import RavenBinding.Text.Quoted

/-!
# URLs

A URL is read leniently: what its components may not hold is percent-encoded, the host is put in
lower case, the default port of a scheme is left out, and dot segments of the path are removed.
Replacing the path or the query reads the other components once more.

## Main definitions

- `Url`, `Url.text`, `Url.rawPath`: the components, their text, and path and query together
- `UrlError`, `UrlFailure`: why a text is no URL
- `Url.removeDots`: the path without dot segments
- `Url.parse`, `Url.withRawPath`, `Url.withQuery`, `Url.withHost`: reading and replacing
- `Url.readableHost`: the host with its labels as they read
-/

namespace RavenBinding

/-- A URL in its components, which are ASCII texts. -/
structure Url where
  scheme : Text
  userinfo : Text
  host : Text
  port : Option Int
  path : Text
  query : Option Text
  fragment : Option Text
  deriving DecidableEq, Repr

/-- Why a text is no URL. -/
inductive UrlError where
  | tooLong
  | componentTooLong (name : Text)
  | controlCharacter (c : CodePoint) (position : Nat)
  | componentControl (name : Text) (c : CodePoint) (position : Nat)
  | port (t : Text)
  | version4 (host : Text)
  | version6 (host : Text)
  | hostName (host : Text)
  | pathWithoutSlash
  | pathWithTwoSlashes
  | pathWithColon
  deriving DecidableEq, Repr

/-- A text is refused for its form, or because it holds a surrogate. -/
inductive UrlFailure where
  | invalid (error : UrlError)
  | encoding (error : EncodeError)
  deriving DecidableEq, Repr

/-- The wording of the error. -/
def UrlError.message : UrlError → Text
  | tooLong => "URL too long"
  | componentTooLong name =>
    Text.ofString "URL component '" ++ name ++ Text.ofString "' too long"
  | controlCharacter c position =>
    Text.ofString "Invalid non-printable ASCII character in URL, " ++ Text.quoted [c]
      ++ Text.ofString " at position " ++ Text.ofNat position ++ Text.ofString "."
  | componentControl name c position =>
    Text.ofString "Invalid non-printable ASCII character in URL " ++ name
      ++ Text.ofString " component, " ++ Text.quoted [c] ++ Text.ofString " at position "
      ++ Text.ofNat position ++ Text.ofString "."
  | port t => Text.ofString "Invalid port: " ++ t.quoted
  | version4 host => Text.ofString "Invalid IPv4 address: " ++ host.quoted
  | version6 host => Text.ofString "Invalid IPv6 address: " ++ host.quoted
  | hostName host => Text.ofString "Invalid IDNA hostname: " ++ host.quoted
  | pathWithoutSlash => "For absolute URLs, path must be empty or begin with '/'"
  | pathWithTwoSlashes => "Relative URLs cannot have a path starting with '//'"
  | pathWithColon => "Relative URLs cannot have a path starting with ':'"

namespace Url

/-- The greatest length of a URL and of its components. -/
def maxLength : Nat := 65536

/-- The graphic ASCII characters other than some. -/
def graphicExcept (excluded : List Nat) (c : CodePoint) : Bool :=
  0x20 < c.val && c.val < 0x7F && !excluded.contains c.val

/-- What a path may hold besides the unreserved characters. -/
def isPathSafe (c : CodePoint) : Bool :=
  graphicExcept [0x22, 0x23, 0x3C, 0x3E, 0x3F, 0x60, 0x7B, 0x7D] c

/-- What a query may hold. -/
def isQuerySafe (c : CodePoint) : Bool := graphicExcept [0x22, 0x23, 0x3C, 0x3E] c

/-- What a fragment may hold. -/
def isFragmentSafe (c : CodePoint) : Bool := graphicExcept [0x22, 0x3C, 0x3E, 0x60] c

/-- What user and password may hold. -/
def isUserinfoSafe (c : CodePoint) : Bool :=
  isPathSafe c && !([0x2F, 0x3B, 0x3D, 0x40, 0x5B, 0x5C, 0x5D, 0x5E, 0x7C].contains c.val)

/-- What a host name may hold. -/
def isHostSafe (c : CodePoint) : Bool :=
  graphicExcept [0x23, 0x2F, 0x3A, 0x3C, 0x3E, 0x3F, 0x40, 0x5B, 0x5D, 0x5E] c

/-- The components of a URL as they are written. -/
structure Parts where
  scheme : Text
  authority : Text
  path : Text
  query : Option Text
  fragment : Option Text

/-- What may follow the first letter of a scheme. -/
def isSchemeTail (c : CodePoint) : Bool :=
  c.isLetter || c.isDigit || c.val = 0x2B || c.val = 0x2E || c.val = 0x2D

/-- Splits a scheme and its colon off; the scheme may be empty. -/
def cutScheme (t : Text) : Text × Text :=
  match Text.cut (CodePoint.ofChar ':') t with
  | (_, none) => ([], t)
  | ([], some rest) => ([], rest)
  | (c :: cs, some rest) =>
    if c.isLetter && cs.all isSchemeTail then (c :: cs, rest) else ([], t)

/-- Splits an authority off, which two slashes mark. -/
def cutAuthority (t : Text) : Text × Text :=
  let ends (c : CodePoint) := c.val = 0x2F || c.val = 0x3F || c.val = 0x23
  match t with
  | a :: b :: rest =>
    if a.val = 0x2F && b.val = 0x2F then
      (rest.takeWhile fun c => !ends c, rest.dropWhile fun c => !ends c)
    else ([], t)
  | _ => ([], t)

/-- Splits a text at the marks of a URL. -/
def split (t : Text) : Parts :=
  let (scheme, afterScheme) := cutScheme t
  let (authority, afterAuthority) := cutAuthority afterScheme
  let (beforeFragment, fragment) := Text.cut (CodePoint.ofChar '#') afterAuthority
  let (path, query) := Text.cut (CodePoint.ofChar '?') beforeFragment
  ⟨scheme, authority, path, query, fragment⟩

/-- The port that is left out for a scheme in lower case. -/
def defaultPort? (scheme : Text) : Option Int :=
  if scheme == Text.ofString "http" || scheme == Text.ofString "ws" then some 80
  else if scheme == Text.ofString "https" || scheme == Text.ofString "wss" then some 443
  else if scheme == Text.ofString "ftp" then some 21
  else none

/-- Reads a port; the default one of the scheme is none. -/
def readPort (scheme t : Text) : Except UrlError (Option Int) :=
  if t.isEmpty then .ok none
  else
    match Numeral.readInt? t with
    | none => .error (.port t)
    | some n => .ok (if defaultPort? scheme = some n then none else some n)

/-- Splits host and port; a host in square brackets ends with the last closing one. -/
def cutHost (t : Text) : Text × Text :=
  let bracketed : Option (Text × Text) :=
    if t.head? = some (CodePoint.ofChar '[') then
      match Text.cutLast (CodePoint.ofChar ']') t with
      | (some before, after) => some (before ++ [CodePoint.ofChar ']'], after)
      | (none, _) => none
    else none
  let ends (c : CodePoint) := c.val = 0x3A || c.val = 0x40
  let (host, after) := bracketed.getD (t.takeWhile fun c => !ends c, t.dropWhile fun c => !ends c)
  match after with
  | c :: port => (host, if c.val = 0x3A then port else after)
  | [] => (host, [])

/-- Reads a host: an address, or a name that is put in lower case and encoded. -/
def readHost (t : Text) : Except UrlFailure Text :=
  if t.isEmpty then .ok []
  else if Address.looksNumeric t then
    if Address.isVersion4 t then .ok t else .error (.invalid (.version4 t))
  else if t.head? = some (CodePoint.ofChar '[') && t.getLast? = some (CodePoint.ofChar ']') then
    let inner := (t.drop 1).dropLast
    if Address.isVersion6 inner then .ok inner else .error (.invalid (.version6 t))
  else if t.isAscii then .ok (t.toLowerAscii.flatMap (Percent.encodeUnless isHostSafe))
  else
    match HostName.toAscii t.toLower with
    | .ok name => .ok name
    | .error _ => .error (.invalid (.hostName t))

/-- Work of `removeDots`: `found` holds the segments kept so far, reversed. -/
def removeDotsLoop (found : List Text) : List Text → List Text
  | [] => found.reverse
  | s :: rest =>
    if s == Text.ofString "." then removeDotsLoop found rest
    else if s == Text.ofString ".." then
      removeDotsLoop (if found == [[]] then found else found.drop 1) rest
    else removeDotsLoop (s :: found) rest

/-- A path without the segments `.` and `..`, each of the latter with the segment before it. The
empty segment before the first slash stays. -/
def removeDots (path : Text) : Text :=
  let slash := CodePoint.ofChar '/'
  Text.join [slash] (removeDotsLoop [] (Text.splitOn slash path))

/-- The path has the form that goes with scheme and authority. -/
def checkPath (hasScheme hasAuthority : Bool) (path : Text) : Except UrlError Unit :=
  if hasAuthority then
    if path.isEmpty || path.head? = some (CodePoint.ofChar '/') then .ok ()
    else .error .pathWithoutSlash
  else if hasScheme then .ok ()
  else if (Text.ofString "//").isPrefixOf path then .error .pathWithTwoSlashes
  else if path.head? = some (CodePoint.ofChar ':') then .error .pathWithColon
  else .ok ()

/-- Encodes a component that may be missing. -/
def encodeOptional (safe : CodePoint → Bool) : Option Text → Except EncodeError (Option Text)
  | none => .ok none
  | some t => do
    let encoded ← Percent.encodeComponent safe t
    pure (some encoded)

/-- Puts the components of a URL in their final form. -/
def ofParts (parts : Parts) : Except UrlFailure Url := do
  let (userText, hostAndPort) := Text.cutLast (CodePoint.ofChar '@') parts.authority
  let (hostText, portText) := cutHost hostAndPort
  let userinfo ← (Percent.encodeComponent isUserinfoSafe (userText.getD [])).mapError .encoding
  let host ← readHost hostText
  let port ← (readPort parts.scheme portText).mapError .invalid
  let hasScheme := !parts.scheme.isEmpty
  let hasAuthority := !userinfo.isEmpty || !host.isEmpty || port.isSome
  (checkPath hasScheme hasAuthority parts.path).mapError .invalid
  let plain := if hasScheme || hasAuthority then removeDots parts.path else parts.path
  let path ← (Percent.encodeComponent isPathSafe plain).mapError .encoding
  let query ← (encodeOptional isQuerySafe parts.query).mapError .encoding
  let fragment ← (encodeOptional isFragmentSafe parts.fragment).mapError .encoding
  pure ⟨parts.scheme.toLowerAscii, userinfo, host, port, path, query, fragment⟩

/-- An ASCII control character. -/
def isControl (c : CodePoint) : Bool := c.val < 0x20 || c.val = 0x7F

/-- Reads a URL. -/
def parse (t : Text) : Except UrlFailure Url :=
  if maxLength < t.length then .error (.invalid .tooLong)
  else
    match Text.firstRun? isControl t with
    | some (c, position, _) => .error (.invalid (.controlCharacter c position))
    | none => ofParts (split t)

/-- Host and port, without the default port. -/
def netloc (url : Url) : Text :=
  (if url.host.contains (CodePoint.ofChar ':') then
      Text.ofString "[" ++ url.host ++ Text.ofString "]"
    else url.host)
  ++ match url.port with
    | none => []
    | some n => CodePoint.ofChar ':' :: Text.ofInt n

/-- User, host and port. -/
def authority (url : Url) : Text :=
  (if url.userinfo.isEmpty then [] else url.userinfo ++ Text.ofString "@") ++ url.netloc

/-- The text of a URL. -/
def text (url : Url) : Text :=
  (if url.scheme.isEmpty then [] else url.scheme ++ Text.ofString ":")
  ++ (if url.authority.isEmpty then [] else Text.ofString "//" ++ url.authority)
  ++ url.path
  ++ (match url.query with
    | none => []
    | some q => CodePoint.ofChar '?' :: q)
  ++ match url.fragment with
    | none => []
    | some f => CodePoint.ofChar '#' :: f

/-- The path, `/` if it is empty, and the query. -/
def rawPath (url : Url) : Text :=
  (if url.path.isEmpty then Text.ofString "/" else url.path)
  ++ match url.query with
    | none => []
    | some q => CodePoint.ofChar '?' :: q

/-- A component is not too long and holds no control characters. -/
def checkComponent (name : String) (t : Text) : Except UrlError Unit :=
  if maxLength < t.length then .error (.componentTooLong name)
  else
    match Text.firstRun? isControl t with
    | some (c, position, _) => .error (.componentControl name c position)
    | none => .ok ()

/-- The components that are given in place of others, in the order in which they are looked at. -/
def checkComponents (parts : Parts) : Except UrlError Unit := do
  checkComponent "scheme" parts.scheme
  checkComponent "authority" parts.authority
  checkComponent "path" parts.path
  checkComponent "query" (parts.query.getD [])
  checkComponent "fragment" (parts.fragment.getD [])

/-- The components of a URL as they are written. -/
def parts (url : Url) : Parts := ⟨url.scheme, url.authority, url.path, url.query, url.fragment⟩

/-- Reads components once more. -/
def reread (parts : Parts) : Except UrlFailure Url := do
  (checkComponents parts).mapError .invalid
  ofParts parts

/-- The URL with another path and query. -/
def withRawPath (url : Url) (raw : Text) : Except UrlFailure Url :=
  let (path, query) := Text.cut (CodePoint.ofChar '?') raw
  reread { url.parts with path := path, query := query }

/-- The URL with another query. -/
def withQuery (url : Url) (query : Text) : Except UrlFailure Url :=
  reread { url.parts with query := some query }

/-- The URL with another fragment. -/
def withFragment (url : Url) (fragment : Text) : Except UrlFailure Url :=
  reread { url.parts with fragment := some fragment }

/-- The URL with another host in place of user, host and port; an address of groups is put in square
brackets. -/
def withHost (url : Url) (host : Text) : Except UrlFailure Url := do
  (checkComponents url.parts).mapError .invalid
  (checkComponent "host" host).mapError .invalid
  let bracketed :=
    if host.contains (CodePoint.ofChar ':') then
      Text.ofString "[" ++ host ++ Text.ofString "]"
    else host
  ofParts { url.parts with authority := bracketed }

/-- The host as it reads. -/
def readableHost (url : Url) : Except LabelProblem Text :=
  if HostName.mark.isPrefixOf url.host then HostName.toUnicode url.host else .ok url.host

/-- The fragment with its escapes read. -/
def readableFragment (url : Url) : Text := Percent.decode (url.fragment.getD [])

/-- The URL has a scheme and a host. -/
def isAbsolute (url : Url) : Bool := !url.scheme.isEmpty && !url.host.isEmpty

end Url

end RavenBinding
