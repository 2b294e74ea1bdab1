import RavenBinding.Proofs.Text.Scalar
import RavenBinding.Text.CaseFold

/-!
# Case folding and surrogates

Case folding neither makes surrogates nor loses them: a text folds to one without surrogates exactly
if it has none itself.

## Main definitions

- `CodePoint.IsBeside`: the numbers that are none of surrogates
- `CaseRun.IsBeside`: a run that stays on one side of the surrogates

## Main statements

- `Text.isScalar_caseFold`: surrogates before and after folding
-/

namespace RavenBinding

/-- What the run takes and what it gives lie on one side of the surrogates. -/
def CaseRun.IsBeside (run : CaseRun) : Prop :=
  (run.last < 0xD800 ∧ run.last + run.shift < 0xD800) ∨
    (0xDFFF < run.first ∧ 0xDFFF < run.first + run.shift)

instance (run : CaseRun) : Decidable run.IsBeside := inferInstanceAs (Decidable (_ ∨ _))

theorem CaseRun.exists_of_find? {n m : Nat} {runs : List CaseRun} (h : find? n runs = some m) :
    ∃ run ∈ runs, run.first ≤ n ∧ n ≤ run.last ∧ m = (n + run.shift).toNat := by
  induction runs with
  | nil => cases h
  | cons run runs ih =>
    rw [find?] at h
    split at h
    · cases h
    · split at h
      · next hfirst hheld =>
        have hlast : n ≤ run.last := by simpa using (Bool.and_eq_true_iff.1 hheld).1
        exact ⟨run, List.mem_cons_self, Nat.le_of_not_lt hfirst, hlast, (Option.some.inj h).symm⟩
      · obtain ⟨found, hmem, hfound⟩ := ih h
        exact ⟨found, List.mem_cons_of_mem run hmem, hfound⟩

namespace CodePoint

/-- The number is none of a surrogate. -/
def IsBeside (n : Nat) : Prop := n < 0xD800 ∨ 0xDFFF < n

instance (n : Nat) : Decidable (IsBeside n) := inferInstanceAs (Decidable (_ ∨ _))

theorem isSurrogate_of_isBeside {c : CodePoint} (h : IsBeside c.val) : c.isSurrogate = false := by
  simp only [isSurrogate, Bool.and_eq_false_iff, decide_eq_false_iff_not]
  rw [IsBeside] at h
  omega

theorem isSurrogate_ofNat {n : Nat} (h : IsBeside n) : (ofNat n).isSurrogate = false := by
  rw [ofNat]
  split
  · exact isSurrogate_of_isBeside h
  · decide

theorem isBeside_of_mem_runs : ∀ run ∈ caseFoldRuns, run.IsBeside := by decide +kernel

theorem isBeside_of_mem_expansions :
    ∀ e ∈ caseFoldExpansions, IsBeside e.1 ∧ ∀ n ∈ e.2, IsBeside n := by decide +kernel

theorem isScalar_caseFold (c : CodePoint) : Text.isScalar c.caseFold = !c.isSurrogate := by
  rw [caseFold]
  split
  · next m hfound =>
    obtain ⟨run, hrun, hfirst, hlast, rfl⟩ := CaseRun.exists_of_find? hfound
    have hbeside := isBeside_of_mem_runs run hrun
    have hc : IsBeside c.val := by
      rw [CaseRun.IsBeside] at hbeside
      rw [IsBeside]
      omega
    have hm : IsBeside (c.val + run.shift).toNat := by
      rw [CaseRun.IsBeside] at hbeside
      rw [IsBeside]
      omega
    rw [isSurrogate_of_isBeside hc, Text.isScalar_cons, isSurrogate_ofNat hm]
    rfl
  · split
    · next ns hfound =>
      obtain ⟨before, after, hsplit, -⟩ := List.lookup_eq_some_iff.1 hfound
      have hmem : (c.val, ns) ∈ caseFoldExpansions := by
        rw [hsplit]
        exact List.mem_append_right before List.mem_cons_self
      obtain ⟨hc, hns⟩ := isBeside_of_mem_expansions _ hmem
      rw [isSurrogate_of_isBeside hc, Bool.not_false, Text.isScalar_iff]
      intro d hd
      obtain ⟨n, hn, rfl⟩ := List.mem_map.1 hd
      exact isSurrogate_ofNat (hns n hn)
    · rw [Text.isScalar_cons]
      exact Bool.and_true _

end CodePoint

namespace Text

/-- A text has surrogates exactly if the folded one has some. -/
theorem isScalar_caseFold (t : Text) : t.caseFold.isScalar = t.isScalar := by
  induction t with
  | nil => rfl
  | cons c t ih =>
    have hfold : caseFold (c :: t) = c.caseFold ++ caseFold t := rfl
    rw [hfold, isScalar_append, ih, CodePoint.isScalar_caseFold, isScalar_cons]

end Text

end RavenBinding
