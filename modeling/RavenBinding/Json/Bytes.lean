import RavenBinding.Json.Render
import RavenBinding.Text.Utf8

/-!
# JSON as bytes

## Main definitions

- `WriteError`: why a value cannot be written
- `Json.requestBody`: the body of a request
-/

namespace RavenBinding

/-- A value cannot be written because it has no JSON form, or because a text in it has no UTF-8
encoding. -/
inductive WriteError where
  | json (fault : JsonFault)
  | encoding (error : EncodeError)
  deriving DecidableEq, Repr

/-- A value as the body of a request: JSON text with all characters as they are, in UTF-8. -/
def Json.requestBody (v : Value) : Except WriteError Bytes := do
  let json ← (v.toJson? false).mapError .json
  (Utf8.encode (json.render false)).mapError .encoding

end RavenBinding
