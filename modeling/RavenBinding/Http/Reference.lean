import RavenBinding.Cookie.Origin

/-!
# References

A redirect may name its goal relative to the URL of the request: with its own scheme, host or path
it replaces that part and all that follows it, and a path that does not begin with a slash goes on
from the folder of the request.

## Main definitions

- `Reference.mergePath`: the path of a reference from the path of a base
- `Reference.resolve`: the text of a reference on a base
-/

namespace RavenBinding

namespace Reference

/-- The schemes that know relative references. -/
def schemes : List Text :=
  ["", "ftp", "http", "gopher", "nntp", "imap", "wais", "file", "https", "shttp", "mms", "prospero",
    "rtsp", "rtsps", "rtspu", "sftp", "svn", "svn+ssh", "ws", "wss"].map Text.ofString

/-- Work of `resolveDots`: `found` holds the segments kept so far, reversed. -/
def resolveDotsLoop (found : List Text) : List Text → List Text
  | [] => found.reverse
  | s :: rest =>
    if s == Text.ofString "." then resolveDotsLoop found rest
    else if s == Text.ofString ".." then resolveDotsLoop (found.drop 1) rest
    else resolveDotsLoop (s :: found) rest

/-- Segments without `.` and `..`; one of these at the end leaves a slash. -/
def resolveDots (segments : List Text) : List Text :=
  let isDots (s : Text) := s == Text.ofString "." || s == Text.ofString ".."
  resolveDotsLoop [] segments ++ (if segments.getLast?.any isDots then [[]] else [])

/-- Segments without empty ones between the first and the last. -/
def withoutEmptyInside : List Text → List Text
  | [] => []
  | first :: rest =>
    first :: (rest.dropLast.filter fun s => !s.isEmpty) ++ rest.getLast?.toList

/-- The path of a reference from the path of a base. -/
def mergePath (base path : Text) : Text :=
  let slash := CodePoint.ofChar '/'
  let baseSegments := Text.splitOn slash base
  let folder :=
    if baseSegments.getLast? = some [] then baseSegments else baseSegments.dropLast
  let segments :=
    if path.head? = some slash then Text.splitOn slash path
    else withoutEmptyInside (folder ++ Text.splitOn slash path)
  let merged := Text.join [slash] (resolveDots segments)
  if merged.isEmpty then [slash] else merged

/-- Components as a text; an empty query and an empty fragment are left out. -/
def write (parts : Url.Parts) : Text :=
  let hasTwoSlashes := (Text.ofString "//").isPrefixOf parts.path
  let path :=
    if !parts.authority.isEmpty || (!parts.scheme.isEmpty && !hasTwoSlashes) then
      Text.ofString "//" ++ parts.authority
        ++ (if parts.path.isEmpty || parts.path.head? = some (CodePoint.ofChar '/') then parts.path
          else CodePoint.ofChar '/' :: parts.path)
    else parts.path
  let after (mark : Char) (t : Option Text) : Text :=
    match t with
    | none | some [] => []
    | some t => CodePoint.ofChar mark :: t
  (if parts.scheme.isEmpty then [] else parts.scheme ++ Text.ofString ":") ++ path
    ++ after '?' parts.query ++ after '#' parts.fragment

/-- The text of a reference on a base. Both are texts of URLs. -/
def resolve (base reference : Text) : Except OriginProblem Text := do
  if base.isEmpty then pure reference
  else if reference.isEmpty then pure base
  else
    let b := Url.split base
    Origin.checkAuthority b.authority
    let r := Url.split reference
    Origin.checkAuthority r.authority
    let scheme := if r.scheme.isEmpty then b.scheme else r.scheme
    if scheme != b.scheme || !schemes.contains scheme then pure reference
    else if !r.authority.isEmpty then pure (write { r with scheme := scheme })
    else if r.path.isEmpty then
      let hasQuery := !(r.query.getD []).isEmpty
      pure (write { b with query := if hasQuery then r.query else b.query, fragment := r.fragment })
    else pure (write { r with
      scheme := scheme, authority := b.authority, path := mergePath b.path r.path })

end Reference

end RavenBinding
