import RavenBinding.Json.Bytes
import RavenBinding.Proofs.FieldMap
import RavenBinding.Proofs.Json.BodyRoundTrip
import RavenBinding.Proofs.Record.ReadBack
import RavenBinding.Record.Codec
import RavenBinding.Store.Document

/-!
# Records as documents

A record whose values are byte strings or texts has a document, and the document has a body if none
of its names and texts holds a lone surrogate. The body is read back as the document.

## Main definitions

- `FieldValue`: a byte string or a text
- `StoredRecord`: the document of a record that can be written

## Main statements

- `Record.document_toValue`: the document of a record
- `StoredRecord.requestBody_eq`, `StoredRecord.parseBody_body`: writing and reading its body
- `Record.exists_requestBody_error`: a document that cannot be written
-/

namespace RavenBinding

/-! ### Values -/

/-- A value of a record. -/
inductive FieldValue where
  | bytes (kind : BytesKind) (b : Bytes)
  | text (t : Text)

namespace FieldValue

/-- The value as one of any kind. -/
def toValue : FieldValue → Value
  | bytes kind b => .bytes kind b
  | text t => .text t

/-- The text that is kept for the value: for bytes what a tolerant reader of UTF-8 sees. -/
def kept : FieldValue → Text
  | bytes _ b => Utf8.decodeReplacing b
  | text t => t

/-- A text with a lone surrogate cannot be written; bytes can always be. -/
def isWritable : FieldValue → Bool
  | bytes _ _ => true
  | text t => t.isScalar

theorem fieldText_toValue (v : FieldValue) : Record.fieldText v.toValue = .ok v.kept := by
  cases v with
  | bytes kind b => rfl
  | text t => rfl

end FieldValue

namespace Record

/-- Of fields with one name, the document has the first place and the last value. -/
theorem document_toValue (values : FieldMap Text FieldValue) :
    document (FieldMap.mapValues FieldValue.toValue values) =
      .ok (FieldMap.ofList (FieldMap.mapValues FieldValue.kept values)) := by
  have hfields : ∀ values : FieldMap Text FieldValue,
      ((FieldMap.mapValues FieldValue.toValue values).mapM fun field => do
        let text ← fieldText field.2
        pure (field.1, text) : Except Fault (List (Text × Text))) =
      .ok (FieldMap.mapValues FieldValue.kept values) := by
    intro values
    induction values with
    | nil => rfl
    | cons e values ih =>
      change (((e.1, e.2.toValue) :: FieldMap.mapValues FieldValue.toValue values).mapM _) = _
      rw [List.mapM_cons, ih, FieldValue.fieldText_toValue]
      rfl
  rw [document, hfields]
  rfl

/-! ### Bodies -/

/-- No name and no text of a document holds a lone surrogate. -/
def isWritable (document : FieldMap Text Text) : Bool :=
  document.all fun e => e.1.isScalar && e.2.isScalar

/-- No name of a record holds a lone surrogate, and no text does. Of fields with one name the last
value counts. -/
def isStorable (values : FieldMap Text FieldValue) : Bool :=
  (FieldMap.ofList values).all fun e => e.1.isScalar && e.2.isWritable

theorem isWritable_kept (values : FieldMap Text FieldValue) :
    isWritable (FieldMap.ofList (FieldMap.mapValues FieldValue.kept values)) =
      isStorable values := by
  have hkept : ∀ v : FieldValue, v.kept.isScalar = v.isWritable := by
    intro v
    cases v with
    | bytes kind b => exact Utf8.isScalar_decodeReplacing b
    | text t => rfl
  have hlist : FieldMap.ofList (FieldMap.mapValues FieldValue.kept values) =
      FieldMap.mapValues FieldValue.kept (FieldMap.ofList values) :=
    FieldMap.insertAll_mapValues FieldValue.kept [] values
  rw [hlist, isWritable, isStorable, FieldMap.mapValues, List.all_map]
  refine congrArg (List.all (FieldMap.ofList values)) ?_
  funext e
  exact congrArg (e.1.isScalar && ·) (hkept e.2)

/-- A document as JSON. -/
def toJson (document : FieldMap Text Text) : Json := .object (FieldMap.mapValues .text document)

theorem toJson_textMap (document : FieldMap Text Text) :
    (textMap document).toJson false = .ok (toJson document) := by
  have hentries : ∀ document : FieldMap Text Text,
      Value.entriesToJson false (document.map fun e => (.text e.1, .text e.2)) =
        .ok (FieldMap.mapValues .text document) := by
    intro document
    induction document with
    | nil => rfl
    | cons e document ih =>
      rw [List.map_cons, Value.entriesToJson, ih]
      rfl
  rw [textMap, Value.toJson, hentries]
  rfl

theorem deeperThan_textMap (document : FieldMap Text Text) (bound : Nat) :
    (textMap document).deeperThan (bound + 1) = false := by
  rw [textMap, Value.deeperThan, List.any_eq_false]
  intro e he
  obtain ⟨f, -, rfl⟩ := List.mem_map.1 he
  simp [Json.deeperThan_text]

theorem toJson?_textMap (document : FieldMap Text Text) :
    (textMap document).toJson? false = .ok (toJson document) := by
  have hdepth : (textMap document).isDeep = false := deeperThan_textMap document _
  rw [Value.toJson?, hdepth, if_neg Bool.false_ne_true]
  exact toJson_textMap document

/-- The escapes with a letter are ASCII, and stand for ASCII. -/
theorem isScalar_shortEscape {c : CodePoint} {e : Text} (h : Json.shortEscape? c = some e) :
    c.val < 0x80 ∧ e.isScalar = true := by
  obtain ⟨hc, d, rfl, ⟨-, hd, -⟩, -⟩ := Json.exists_letter h
  refine ⟨hc, ?_⟩
  rw [Text.isScalar_cons, Text.isScalar_cons,
    CodePoint.isSurrogate_of_lt (Nat.lt_trans hd (by decide))]
  decide

theorem isScalar_unitEscape (n : Nat) : (Json.unitEscape n).isScalar = true := by
  have hdigit : ∀ n : Fin 16, (CodePoint.hexDigit n.val).isSurrogate = false := by decide
  have hhex : ∀ n, (CodePoint.hexDigit (n % 16)).isSurrogate = false :=
    fun n => hdigit ⟨n % 16, Nat.mod_lt n (by decide)⟩
  rw [Json.unitEscape_eq]
  simp only [Text.isScalar_cons, hhex]
  decide

/-- A code point is written without surrogates unless it is one. -/
theorem isScalar_escape (c : CodePoint) :
    Text.isScalar (Json.escape false c) = !c.isSurrogate := by
  rw [Json.escape]
  cases hshort : Json.shortEscape? c with
  | some e =>
    obtain ⟨hc, he⟩ := isScalar_shortEscape hshort
    rw [CodePoint.isSurrogate_of_lt (Nat.lt_trans hc (by decide))]
    exact he
  | none =>
    by_cases hc : c.val < 0x20
    · simp only [if_pos hc, CodePoint.isSurrogate_of_lt (Nat.lt_trans hc (by decide))]
      exact isScalar_unitEscape _
    · simp only [if_neg hc, Bool.false_and, Bool.false_eq_true, if_false, Text.isScalar_cons]
      exact Bool.and_true _

theorem isScalar_quote (t : Text) : Text.isScalar (Json.quote false t) = t.isScalar := by
  have hmark : (CodePoint.ofChar '"').isSurrogate = false := by decide
  have hinside : ∀ t : Text, Text.isScalar (t.flatMap (Json.escape false)) = t.isScalar := by
    intro t
    induction t with
    | nil => rfl
    | cons c t ih =>
      rw [List.flatMap_cons, Text.isScalar_append, isScalar_escape, ih, Text.isScalar_cons]
  rw [Json.quote, Text.isScalar_cons, Text.isScalar_append, hinside, Text.isScalar_cons, hmark]
  exact Bool.and_true _

theorem isScalar_renderMembers (document : FieldMap Text Text) (first : Bool) :
    Text.isScalar (Json.renderMembers false first (FieldMap.mapValues .text document)) =
      isWritable document := by
  induction document generalizing first with
  | nil => rfl
  | cons e document ih =>
    have hcomma : Text.isScalar (if first then [] else [CodePoint.ofChar ',']) = true := by
      cases first with
      | true => rfl
      | false => decide
    have hcolon : Text.isScalar [CodePoint.ofChar ':'] = true := by decide
    change Text.isScalar (Json.renderMembers false first
      ((e.1, .text e.2) :: FieldMap.mapValues .text document)) = _
    rw [Json.renderMembers, Text.isScalar_append, Text.isScalar_append, Text.isScalar_append,
      Text.isScalar_append, hcomma, hcolon, isScalar_quote, Json.render, isScalar_quote, ih, Bool.true_and,
      Bool.and_true]
    rfl

theorem isScalar_render (document : FieldMap Text Text) :
    Text.isScalar ((toJson document).render false) = isWritable document := by
  have hopen : (CodePoint.ofChar '\x7b').isSurrogate = false := by decide
  have hclose : (CodePoint.ofChar '\x7d').isSurrogate = false := by decide
  change Text.isScalar (CodePoint.ofChar '\x7b' :: (Json.renderMembers false true
    (FieldMap.mapValues .text document) ++ [CodePoint.ofChar '\x7d'])) = _
  rw [Text.isScalar_cons, Text.isScalar_append, isScalar_renderMembers, Text.isScalar_cons, hopen,
    hclose]
  exact Bool.and_true _

/-- A document with a lone surrogate in a name or a text cannot be written. -/
theorem exists_requestBody_error {document : FieldMap Text Text} (h : isWritable document = false) :
    ∃ error, Json.requestBody (textMap document) = .error (.encoding error) := by
  rw [← isScalar_render] at h
  obtain ⟨error, he⟩ := Utf8.encode_of_not_isScalar h
  refine ⟨error, ?_⟩
  rw [Json.requestBody, toJson?_textMap]
  change (Utf8.encode _).mapError _ = _
  rw [he]
  rfl

end Record

/-- A document that can be written: its names differ, and neither they nor the texts hold a lone
surrogate. -/
structure StoredRecord where
  fields : FieldMap Text Text
  distinct : FieldMap.NodupKeys fields
  writable : Record.isWritable fields = true

namespace StoredRecord

/-- The body of the document. -/
def body (r : StoredRecord) : Bytes := Utf8.encodeAll ((Record.toJson r.fields).render false)

theorem requestBody_eq (r : StoredRecord) : Json.requestBody (textMap r.fields) = .ok r.body := by
  have hscalar := (Record.isScalar_render r.fields).trans r.writable
  rw [Json.requestBody, Record.toJson?_textMap]
  change (Utf8.encode _).mapError _ = _
  rw [Utf8.encode_of_isScalar hscalar]
  rfl

/-- The body is read back as the document. -/
theorem parseBody_body (r : StoredRecord) :
    Json.parseBody r.body = .ok (.object (FieldMap.mapValues .text r.fields)) := by
  have hplain : Json.Plain false 1 (Record.toJson r.fields) := by
    refine .object ?_ (fun h => Bool.noConfusion h) fun e he => ?_
    · rw [FieldMap.NodupKeys, FieldMap.keys_mapValues]
      exact r.distinct
    · obtain ⟨f, -, rfl⟩ := List.mem_map.1 he
      exact .text 0 fun h => Bool.noConfusion h
  exact Json.parseBody_render hplain (by decide)

/-- The document of a record that can be stored. -/
def ofValues (values : FieldMap Text FieldValue) (h : Record.isStorable values = true) :
    StoredRecord where
  fields := FieldMap.ofList (FieldMap.mapValues FieldValue.kept values)
  distinct := FieldMap.nodupKeys_ofList _
  writable := (Record.isWritable_kept values).trans h

end StoredRecord

end RavenBinding
