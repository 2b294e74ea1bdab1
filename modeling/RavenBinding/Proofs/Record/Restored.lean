import RavenBinding.Error.Failure
import RavenBinding.Proofs.Text.Utf8WellFormed
import RavenBinding.Record.Codec

/-!
# Bytes that come back from a document

A document keeps a text for the bytes of a field, and the text is read back as its UTF-8 bytes. What
comes back is well-formed UTF-8, it comes back unchanged from then on, and it is what was stored
exactly if that was well formed.

## Main definitions

- `Record.restored`: the bytes that come back for a value

## Main statements

- `Record.restored_bytes`: they are the bytes of what a tolerant reader sees
- `Record.restored_projects`: the way through a document is a projection onto well-formed UTF-8, and
  the other way round loses no text without surrogates
-/

namespace RavenBinding

namespace Record

/-- The bytes that come back for a value: those of the text that a document keeps for it. -/
def restored (v : Value) : Except Failure Bytes := do
  let text ← (fieldText v).mapError .fault
  (fieldBytes (.text text)).mapError .ofWriteError

theorem fieldText_bytes (kind : BytesKind) (b : Bytes) :
    fieldText (.bytes kind b) = .ok (Utf8.decodeReplacing b) := rfl

theorem fieldBytes_text {t : Text} (h : t.isScalar = true) :
    fieldBytes (.text t) = .ok (Utf8.encodeAll t) := by
  rw [fieldBytes, Utf8.encode_of_isScalar h]
  rfl

theorem restored_bytes (kind : BytesKind) (b : Bytes) :
    restored (.bytes kind b) = .ok (Utf8.encodeAll (Utf8.decodeReplacing b)) := by
  have htext : fieldBytes (.text (Utf8.decodeReplacing b)) =
      .ok (Utf8.encodeAll (Utf8.decodeReplacing b)) :=
    fieldBytes_text (Utf8.isScalar_decodeReplacing b)
  show (fieldBytes (.text (Utf8.decodeReplacing b))).mapError Failure.ofWriteError = _
  rw [htext]
  rfl

/-- Well-formed bytes come back as they were. -/
theorem restored_of_wellFormed {b : Bytes} (kind : BytesKind) (h : Utf8.WellFormed b) :
    restored (.bytes kind b) = .ok b := by
  rw [restored_bytes, Utf8.encodeAll_decodeReplacing_eq_iff.2 h]

/-- The way of bytes through a document is a projection onto well-formed UTF-8: a text without
surrogates is kept, so bytes always come back; they come back well formed, as themselves exactly if
they were well formed, and from then on unchanged. A text without surrogates survives the other way
round. -/
theorem restored_projects (kind : BytesKind) (b : Bytes) (s : Text) (hs : s.isScalar = true) :
    (∃ kept back, fieldText (.bytes kind b) = .ok kept ∧ kept.isScalar = true ∧
      restored (.bytes kind b) = .ok back ∧ Utf8.WellFormed back ∧
      (back = b ↔ Utf8.WellFormed b) ∧
      ∀ other, restored (.bytes other back) = .ok back) ∧
    ∃ bytes, fieldBytes (.text s) = .ok bytes ∧
      ∀ other, fieldText (.bytes other bytes) = .ok s := by
  constructor
  · have hscalar : (Utf8.decodeReplacing b).isScalar = true := Utf8.isScalar_decodeReplacing b
    have hback : Utf8.WellFormed (Utf8.encodeAll (Utf8.decodeReplacing b)) :=
      Utf8.wellFormed_encodeAll hscalar
    refine ⟨Utf8.decodeReplacing b, Utf8.encodeAll (Utf8.decodeReplacing b),
      fieldText_bytes kind b, hscalar, restored_bytes kind b, hback,
      Utf8.encodeAll_decodeReplacing_eq_iff, ?_⟩
    intro other
    exact restored_of_wellFormed other hback
  · refine ⟨Utf8.encodeAll s, fieldBytes_text hs, ?_⟩
    intro other
    rw [fieldText_bytes, Utf8.decodeReplacing_encodeAll hs]

/-- An overlong slash comes back as two replacement characters; a text with code points of every
length survives. -/
theorem restored_projects_overlong :
    (Text.ofString "é€😀").isScalar = true ∧
      restored (.bytes .memoryview [0xC0, 0xAF]) = .ok [0xEF, 0xBF, 0xBD, 0xEF, 0xBF, 0xBD] ∧
      ¬Utf8.WellFormed [0xC0, 0xAF] ∧
      ∃ bytes, fieldBytes (.text (Text.ofString "é€😀")) = .ok bytes ∧
        ∀ other, fieldText (.bytes other bytes) = .ok (Text.ofString "é€😀") := by
  have hs : (Text.ofString "é€😀").isScalar = true := by decide
  have hback : restored (.bytes .memoryview [0xC0, 0xAF]) =
      .ok [0xEF, 0xBF, 0xBD, 0xEF, 0xBF, 0xBD] := by rfl
  obtain ⟨⟨kept, back, -, -, hrestored, -, hiff, -⟩, htext⟩ :=
    restored_projects .memoryview [0xC0, 0xAF] (Text.ofString "é€😀") hs
  refine ⟨hs, hback, fun h => ?_, htext⟩
  have heq := hiff.2 h
  rw [hrestored] at hback
  cases hback
  cases heq

end Record

end RavenBinding
