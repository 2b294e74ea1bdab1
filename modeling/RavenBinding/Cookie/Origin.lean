import RavenBinding.Fault
import RavenBinding.Http.Message

/-!
# Where a request goes, as cookies see it

Cookies are kept by host and path. Both are read off the text of a URL once more and more strictly
than a session reads it: the text has to begin with a scheme, and square brackets have to hold an
address.

## Main definitions

- `Origin`, `Origin.ofRequest`: scheme, host, port and path of a request
- `OriginProblem`, `OriginProblem.fault`: why a request has none
-/

namespace RavenBinding

/-- Why a request has no origin. -/
inductive OriginProblem where
  /-- The URL does not begin with a scheme. -/
  | noScheme (url : Text)
  /-- Only one of the two square brackets is there. -/
  | loneBracket
  /-- The brackets hold an address of a version to come in a wrong form. -/
  | laterVersion
  /-- The brackets hold no address. -/
  | noAddress (host : Text)
  /-- The brackets hold an address of version 4. -/
  | bracketedVersion4
  deriving DecidableEq, Repr

/-- The fault that a problem is. -/
def OriginProblem.fault : OriginProblem → Fault
  | noScheme url => ⟨.valueError, Text.ofString "unknown url type: " ++ url.quoted⟩
  | loneBracket => ⟨.valueError, "Invalid IPv6 URL"⟩
  | laterVersion => ⟨.valueError, "IPvFuture address is invalid"⟩
  | noAddress host =>
    ⟨.valueError, host.quoted ++ Text.ofString " does not appear to be an IPv4 or IPv6 address"⟩
  | bracketedVersion4 => ⟨.valueError, "An IPv4 address cannot be in brackets"⟩

/-- Where a request goes. -/
structure Origin where
  /-- What comes before the first colon of the URL. -/
  scheme : Text
  /-- The host in lower case without its port; user and password belong to it. -/
  host : Text
  /-- The port as it is written, 80 if there is none; `none` if it is no number. -/
  port : Option Text
  /-- The path with its escapes in upper case. -/
  path : Text
  deriving DecidableEq, Repr

namespace Origin

/-- What stays as it is in the path of a cookie. -/
def isPathSafe (c : CodePoint) : Bool :=
  (Text.ofString "%/;:@&=+$,!~*'()").contains c

/-- The escapes of a text with their digits in upper case. -/
def raiseEscapes : Text → Text
  | c :: d :: e :: rest =>
    if c == CodePoint.ofChar '%' && d.hexValue?.isSome && e.hexValue?.isSome then
      c :: CodePoint.hexDigitUpper (d.hexValue?.getD 0)
        :: CodePoint.hexDigitUpper (e.hexValue?.getD 0) :: raiseEscapes rest
    else c :: raiseEscapes (d :: e :: rest)
  | t => t

/-- A path with all that is unusual in it encoded. -/
def escapePath (path : Text) : Text :=
  raiseEscapes (path.flatMap (Percent.encodeUnless isPathSafe))

/-- A letter `v`, hexadecimal digits, a full stop and something after it. -/
def isLaterVersion (t : Text) : Bool :=
  match Text.cut (CodePoint.ofChar '.') (t.drop 1) with
  | (digits, some rest) =>
    !digits.isEmpty && digits.all (fun c => c.hexValue?.isSome) && !rest.isEmpty
  | (_, none) => false

/-- What stands in square brackets is an address. -/
def checkBracketed (host : Text) : Except OriginProblem Unit :=
  if host.head? = some (CodePoint.ofChar 'v') then
    if isLaterVersion host then .ok () else .error .laterVersion
  else if Address.isVersion4 host then .error .bracketedVersion4
  else if Address.isVersion6 host then .ok ()
  else .error (.noAddress host)

/-- Square brackets come in pairs and hold an address. -/
def checkAuthority (authority : Text) : Except OriginProblem Unit :=
  let opened := Text.cut (CodePoint.ofChar '[') authority
  let closed := Text.cut (CodePoint.ofChar ']') authority
  match opened, closed with
  | (_, none), (_, none) => .ok ()
  | (_, some rest), (_, some _) => checkBracketed (Text.cut (CodePoint.ofChar ']') rest).1
  | _, _ => .error .loneBracket

/-- The text of a URL without an empty fragment; of several marks of a fragment the last one
counts. -/
def withoutEmptyFragment (t : Text) : Text :=
  match Text.cutLast (CodePoint.ofChar '#') t with
  | (some before, []) => before
  | _ => t

/-- What comes before the first colon, and what follows it, leaving out the fragment; there is no
slash before the colon. -/
def cutScheme? (t : Text) : Option (Text × Text) :=
  let bare := (Text.cutLast (CodePoint.ofChar '#') t).1.getD t
  match Text.cut (CodePoint.ofChar ':') bare with
  | (scheme, some rest) =>
    if scheme.isEmpty || scheme.contains (CodePoint.ofChar '/') then none else some (scheme, rest)
  | (_, none) => none

/-- A host without a port at its end, in lower case. -/
def hostName (authority : Text) : Text :=
  let bare := match Text.cutLast (CodePoint.ofChar ':') authority with
    | (some before, port) =>
      if !port.isEmpty && port.all CodePoint.isDigit then before else authority
    | (none, _) => authority
  bare.toLowerAscii

/-- The port that an authority names after its first colon. -/
def portText (authority : Text) : Option Text :=
  match Text.cut (CodePoint.ofChar ':') authority with
  | (_, none) => some (Text.ofString "80")
  | (_, some port) => (Numeral.readInt? port).map fun _ => port

/-- The origin of a request with a URL and headers. Without a host in the URL, the header counts. -/
def ofRequest (url : Url) (headers : Headers) : Except OriginProblem Origin :=
  let t := withoutEmptyFragment url.text
  match cutScheme? t with
  | none => .error (.noScheme t)
  | some (scheme, rest) => do
    let parts := Url.split t
    checkAuthority parts.authority
    let authority :=
      if parts.authority.isEmpty then (Headers.get? headers (Text.ofString "host")).getD []
      else parts.authority
    let path := escapePath parts.path
    pure
      { scheme := scheme.toLowerAscii
        host := hostName authority
        port := portText (Percent.decode (Url.cutAuthority rest).1)
        path := if path.head? = some (CodePoint.ofChar '/') then path
          else CodePoint.ofChar '/' :: path }

/-- The host by which cookies are kept: names without a full stop count as local ones. -/
def domain (origin : Origin) : Text :=
  if origin.host.contains (CodePoint.ofChar '.') then origin.host
  else origin.host ++ Text.ofString ".local"

/-- The request is safe from eavesdroppers. -/
def isSecure (origin : Origin) : Bool :=
  origin.scheme == Text.ofString "https" || origin.scheme == Text.ofString "wss"

end Origin

end RavenBinding
