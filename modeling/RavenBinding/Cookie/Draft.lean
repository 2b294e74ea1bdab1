import RavenBinding.Cookie.Date

/-!
# Cookies as responses write them

A header that sets a cookie holds its name and value and then attributes, with semicolons between
them. Attributes are known by their names in any case. Of equal attributes the first one counts, and
a lifetime counts before a date. Some attributes need a value; a cookie without it is left out. Two
mistakes make all cookies of a response void.

## Main definitions

- `CookieAttribute`, `CookieAttribute.read`: an attribute
- `CookieDraft`, `CookieDraft.readAll`: the cookies of the headers of a response
-/

namespace RavenBinding

/-- An attribute of a cookie with the value that is written, if there is one. -/
inductive CookieAttribute where
  | domain (value : Option Text)
  | path (value : Option Text)
  | port (value : Option Text)
  | version (value : Option Text)
  | secure (value : Option Text)
  /-- The time of a date, if the date can be read. -/
  | expires (time : Option Int)
  | lifetime (value : Option Text)
  /-- An attribute that does not matter. -/
  | other
  deriving DecidableEq, Repr

/-- A mistake that makes all cookies of a response void. -/
inductive VoidCookies where
  /-- A date in the exact form has a month of no such name. -/
  | month
  /-- A lifetime has no value. -/
  | lifetime
  deriving DecidableEq, Repr

namespace CookieAttribute

/-- A text without a quote at its start and without one at its end. -/
def unquote (t : Text) : Text :=
  let quote := CodePoint.ofChar '"'
  let rest := if t.head? = some quote then t.drop 1 else t
  if rest.getLast? = some quote then rest.dropLast else rest

/-- The attribute of a name with a value. -/
def read (name : Text) (value : Option Text) : Except VoidCookies CookieAttribute :=
  let known := name.toLowerAscii
  if known == Text.ofString "domain" then .ok (.domain (value.map Text.toLowerAscii))
  else if known == Text.ofString "path" then .ok (.path value)
  else if known == Text.ofString "port" then .ok (.port value)
  else if known == Text.ofString "version" then .ok (.version (value.map unquote))
  else if known == Text.ofString "secure" then .ok (.secure value)
  else if known == Text.ofString "max-age" then .ok (.lifetime value)
  else if known == Text.ofString "expires" then
    match value with
    | none => .ok (.expires none)
    | some date =>
      match CookieDate.read (unquote date) with
      | none => .error .month
      | some time => .ok (.expires time)
  else .ok .other

end CookieAttribute

/-- A cookie as it is written. -/
structure CookieDraft where
  name : Text
  /-- The value, `none` if there is not even a sign for it. -/
  value : Option Text
  domain : Option Text := none
  path : Option Text := none
  /-- The port, which may be named without a value. -/
  port : Option (Option Text) := none
  version : Option Text := none
  secure : Option Bool := none
  /-- The time at which the cookie ends. -/
  expires : Option Int := none
  /-- The end was given as a lifetime. -/
  hasLifetime : Bool := false
  deriving DecidableEq, Repr

namespace CookieDraft

/-- A name and the value after its sign, if there is a sign, without white space around them. -/
def readPair (t : Text) : Text × Option Text :=
  match Text.cut (CodePoint.ofChar '=') (t.trim CodePoint.isBlank) with
  | (name, value) => (name.trim CodePoint.isBlank, value.map (·.trim CodePoint.isBlank))

/-- The cookie of a header and its attributes; a header without a name holds none. A cookie that
tells no version has version zero. -/
def readHeader (header : Text) : Except VoidCookies (Option (CookieDraft × List CookieAttribute)) :=
  match (Text.splitOn (CodePoint.ofChar ';') header).map readPair with
  | [] => .ok none
  | (name, value) :: attributes =>
    if name.isEmpty then .ok none
    else do
      let named := attributes.filter fun a => !a.1.isEmpty
      let attributes ← named.mapM fun a => CookieAttribute.read a.1 a.2
      let isVersion : CookieAttribute → Bool
        | .version _ => true
        | _ => false
      let attributes :=
        if attributes.any isVersion then attributes
        else attributes ++ [.version (some (Text.ofString "0"))]
      pure (some (⟨name, value, none, none, none, none, none, none, false⟩, attributes))

/-- The cookie with an attribute; `none` if the attribute lacks a value that it needs. -/
def add (c : CookieDraft) : CookieAttribute → Except VoidCookies (Option CookieDraft)
  | .domain value =>
    .ok (if c.domain.isSome then some c else value.map fun v => { c with domain := some v })
  | .path value =>
    .ok (if c.path.isSome then some c else value.map fun v => { c with path := some v })
  | .version value =>
    .ok (if c.version.isSome then some c else value.map fun v => { c with version := some v })
  | .port value => .ok (some (if c.port.isSome then c else { c with port := some value }))
  | .secure value =>
    .ok (some (if c.secure.isSome then c
      else { c with secure := some (value.all fun v => !v.isEmpty) }))
  | .expires time =>
    .ok (some (if c.expires.isSome || c.hasLifetime then c else { c with expires := time }))
  | .lifetime none => .error .lifetime
  | .lifetime (some value) =>
    .ok ((Numeral.readInt? value).map fun seconds =>
      { c with expires := some (CookieDate.now + seconds), hasLifetime := true })
  | .other => .ok (some c)

/-- The cookie with attributes in order; after one that lacks a value the others are not looked
at. -/
def addAll (c : CookieDraft) : List CookieAttribute → Except VoidCookies (Option CookieDraft)
  | [] => .ok (some c)
  | a :: rest => do
    match ← c.add a with
    | none => pure none
    | some c => addAll c rest

/-- The cookies of the headers of a response. All headers are read before a cookie is made. -/
def readAll (headers : List Text) : Except VoidCookies (List CookieDraft) := do
  let drafts ← headers.mapM readHeader
  let cookies ← (drafts.filterMap id).mapM fun draft => draft.1.addAll draft.2
  pure (cookies.filterMap id)

end CookieDraft

end RavenBinding
