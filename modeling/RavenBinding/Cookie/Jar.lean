import RavenBinding.Cookie.Draft
import RavenBinding.Cookie.Origin
import RavenBinding.FieldMap

/-!
# Jars of cookies

A jar keeps the cookies that responses set and hands out those that a request may carry. Cookies are
kept by domain, path and name, each in the order of their first writing. A cookie that has ended is
taken out.

## Main definitions

- `Cookie`, `Cookie.ofDraft`: a cookie for the origin of the request that it answers
- `Cookie.isAcceptable`, `Cookie.suits`: who may set a cookie, and who is shown it
- `CookieJar`, `CookieJar.receive`, `CookieJar.header?`: the jar
-/

namespace RavenBinding

/-- A cookie. -/
structure Cookie where
  name : Text
  value : Option Text
  version : Int
  domain : Text
  /-- The domain was given with the cookie. -/
  hasDomain : Bool
  path : Text
  /-- Ports with commas between them. -/
  port : Option Text
  /-- The ports were given with the cookie. -/
  hasPort : Bool
  secure : Bool
  deriving DecidableEq, Repr

namespace Cookie

/-- The first text ends with the second one. -/
def endsWith (t ending : Text) : Bool := ending.isSuffixOf t

/-- The path of a cookie that is given none: that of the request up to its last slash. -/
def defaultPath (version : Int) (requestPath : Text) : Text :=
  let folder := match Text.cutLast (CodePoint.ofChar '/') requestPath with
    | (some before, _) => if version = 0 then before else before ++ [CodePoint.ofChar '/']
    | (none, _) => requestPath
  if folder.isEmpty then [CodePoint.ofChar '/'] else folder

/-- The domain of a cookie: as it is given, with a full stop in front, or that of the request. -/
def domainOf (draft : CookieDraft) (origin : Origin) : Text :=
  match draft.domain with
  | none => origin.domain
  | some domain =>
    if domain.head? = some (CodePoint.ofChar '.') then domain else CodePoint.ofChar '.' :: domain

/-- The cookie of a draft; one whose version is no number is none. -/
def ofDraft (origin : Origin) (draft : CookieDraft) : Option Cookie := do
  let version ← Numeral.readInt? (draft.version.getD (Text.ofString "0"))
  let path := match draft.path with
    | none | some [] => defaultPath version origin.path
    | some path => Origin.escapePath path
  pure
    { name := draft.name
      value := draft.value
      version := if version = 1 then 0 else version
      domain := domainOf draft origin
      hasDomain := draft.domain.isSome
      path := path
      port := match draft.port with
        | none => none
        | some none => origin.port
        | some (some port) => some (port.filter fun c => !CookieDate.isSpace c)
      hasPort := draft.port.any Option.isSome
      secure := draft.secure.getD false }

/-- The port that a request is known by. -/
def portOf (origin : Origin) : Text := origin.port.getD (Text.ofString "80")

/-- Ports in order up to the wanted one are numbers, and the wanted one is there. -/
def namesPort (wanted : Text) : List Text → Bool
  | [] => false
  | port :: rest =>
    (Numeral.readInt? port).isSome && (port == wanted || namesPort wanted rest)

/-- The domain that a cookie gives is one that the origin belongs to. A domain without a full stop
inside is only for local names. -/
def isDomainAcceptable (c : Cookie) (origin : Origin) : Bool :=
  let bare := if c.domain.head? = some (CodePoint.ofChar '.') then c.domain.drop 1 else c.domain
  let isLocal := Text.ofString ".local"
  (bare.contains (CodePoint.ofChar '.') || endsWith origin.domain isLocal)
    && (c.version ≠ 0 || endsWith origin.domain c.domain || endsWith origin.domain (bare ++ isLocal)
      || origin.domain.head? = some (CodePoint.ofChar '.')
      || endsWith (CodePoint.ofChar '.' :: origin.domain) c.domain)

/-- A response to a request from an origin may set the cookie. -/
def isAcceptable (c : Cookie) (origin : Origin) : Bool :=
  c.version ≤ 0 && (!c.hasDomain || c.isDomainAcceptable origin)
    && (!c.hasPort
      || namesPort (portOf origin) (Text.splitOn (CodePoint.ofChar ',') (c.port.getD [])))

/-- A text with a full stop in front; an empty one is kept. -/
def dotted (t : Text) : Text :=
  if t.isEmpty || t.head? = some (CodePoint.ofChar '.') then t else CodePoint.ofChar '.' :: t

/-- A request to an origin belongs to a domain. -/
def isInDomain (domain : Text) (origin : Origin) : Bool :=
  let full (t : Text) : Text :=
    if t.head? = some (CodePoint.ofChar '.') then t else CodePoint.ofChar '.' :: t
  endsWith (full origin.host) (dotted domain) || endsWith (full origin.domain) (dotted domain)

/-- A path is the one of a request or a folder above it. -/
def isInPath (path requestPath : Text) : Bool :=
  requestPath == path
    || (path.isPrefixOf requestPath && (path.getLast? = some (CodePoint.ofChar '/')
      || (requestPath.drop path.length).head? = some (CodePoint.ofChar '/')))

/-- A request whose domain and path suit the cookie may carry it. -/
def suits (c : Cookie) (origin : Origin) : Bool :=
  (!c.secure || origin.isSecure)
    && (match c.port with
      | none | some [] => true
      | some ports => (Text.splitOn (CodePoint.ofChar ',') ports).contains (portOf origin))
    && (c.version ≠ 0 || endsWith (CodePoint.ofChar '.' :: origin.domain) (dotted c.domain))

/-- How a request shows the cookie. -/
def text (c : Cookie) : Text :=
  match c.value with
  | none => c.name
  | some value => c.name ++ Text.ofString "=" ++ value

end Cookie

/-- The cookies of a domain by path and name. -/
abbrev DomainCookies := FieldMap Text (FieldMap Text Cookie)

instance : DecidableEq DomainCookies := inferInstance

/-- Cookies by domain, path and name. -/
structure CookieJar where
  domains : FieldMap Text DomainCookies := []
  deriving DecidableEq, Repr

namespace CookieJar

/-- The cookies in order. -/
def toList (jar : CookieJar) : List Cookie :=
  jar.domains.flatMap fun d => d.2.flatMap fun p => p.2.map Prod.snd

/-- The jar holds no cookie. -/
def isEmpty (jar : CookieJar) : Bool := jar.toList.isEmpty

/-- The paths of a domain. -/
def paths (jar : CookieJar) (domain : Text) : DomainCookies :=
  (jar.domains.get? domain).getD []

/-- The jar with a cookie, in the place of the one with its domain, path and name. -/
def insert (jar : CookieJar) (c : Cookie) : CookieJar :=
  let paths := jar.paths c.domain
  let cookies := (FieldMap.get? paths c.path).getD []
  ⟨jar.domains.insert c.domain (FieldMap.insert paths c.path (FieldMap.insert cookies c.name c))⟩

/-- The jar without the cookie of a domain, path and name. -/
def erase (jar : CookieJar) (domain path name : Text) : CookieJar :=
  ⟨jar.domains.map fun d =>
    if d.1 == domain then
      (d.1, d.2.map fun p => if p.1 == path then (p.1, FieldMap.erase p.2 name) else p)
    else d⟩

/-- The jar after a response to a request from an origin: cookies that have ended are taken out
first, and then those that are acceptable are put in. -/
def add (jar : CookieJar) (origin : Origin) (drafts : List CookieDraft) : CookieJar :=
  let cookies := drafts.filterMap fun draft => (Cookie.ofDraft origin draft).map (draft, ·)
  let ended := cookies.filter fun c => c.1.expires.any (· ≤ CookieDate.now)
  let current := cookies.filter fun c => !c.1.expires.any (· ≤ CookieDate.now)
  let kept := ended.foldl (fun jar c => jar.erase c.2.domain c.2.path c.2.name) jar
  ((current.map Prod.snd).filter (·.isAcceptable origin)).foldl insert kept

/-- The jar after the headers of a response to a request from an origin. -/
def receive (jar : CookieJar) (origin : Origin) (headers : Headers) : CookieJar :=
  let lines := headers.filter fun h => h.1.toLowerAscii == Text.ofString "set-cookie"
  match CookieDraft.readAll (lines.map Prod.snd) with
  | .ok drafts => jar.add origin drafts
  | .error _ => jar

/-- The cookies for a request to an origin; those of longer paths come first. -/
def cookiesFor (jar : CookieJar) (origin : Origin) : List Cookie :=
  let domains := jar.domains.filter fun d => Cookie.isInDomain d.1 origin
  let paths := (domains.flatMap Prod.snd).filter fun p => Cookie.isInPath p.1 origin.path
  let cookies := (paths.flatMap fun p => p.2.map Prod.snd).filter (·.suits origin)
  cookies.mergeSort fun a b => b.path.length ≤ a.path.length

/-- The header by which a request to an origin shows its cookies. -/
def header? (jar : CookieJar) (origin : Origin) : Option Text :=
  match jar.cookiesFor origin with
  | [] => none
  | cookies => some (Text.join (Text.ofString "; ") (cookies.map Cookie.text))

end CookieJar

end RavenBinding
