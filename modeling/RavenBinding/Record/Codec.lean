import RavenBinding.Json.Bytes
import RavenBinding.Value.ByteString

/-!
# Field values of records and documents

A record maps field names to bytes, and its document maps them to texts. Bytes become the text that
a tolerant reader of UTF-8 sees; a stored text becomes its UTF-8 bytes, and any other stored value
the bytes of its JSON text.

## Main definitions

- `Record.fieldText`, `Record.fieldBytes`: one value, to the document and back
- `Record.document`: the document of a record
- `Record.fill`: the fields of a document, written into a result
-/

namespace RavenBinding

namespace Record

/-- The text that a document keeps for a value. -/
def fieldText : Value → Except Fault Text
  | .text t => .ok t
  | v => do
    let bytes ← v.toByteString
    pure (Utf8.decodeReplacing bytes)

/-- The bytes that a stored value is read back as. -/
def fieldBytes : Value → Except WriteError Bytes
  | .text t => (Utf8.encode t).mapError .encoding
  | v => do
    let json ← (v.toJson? true).mapError .json
    pure (Utf8.encodeAll (json.render true))

/-- The document of a record, with its fields in order. -/
def document {κ : Type} [BEq κ] (record : FieldMap κ Value) : Except Fault (FieldMap κ Text) := do
  let fields ← record.mapM fun field => do
    let text ← fieldText field.2
    pure (field.1, text)
  pure (FieldMap.ofList fields)

/-- Writes the wanted fields of a document into a result, all of them if none are named. A value
that cannot be read back stops the writing; the fields before it stay written. -/
def fill {κ : Type} [BEq κ] (wanted : Option (List κ)) (result : FieldMap κ Bytes) :
    List (κ × Value) → FieldMap κ Bytes × Except WriteError Unit
  | [] => (result, .ok ())
  | (name, value) :: rest =>
    if wanted.all fun names => names.contains name then
      match fieldBytes value with
      | .ok bytes => fill wanted (result.insert name bytes) rest
      | .error error => (result, .error error)
    else fill wanted result rest

end Record

end RavenBinding
