import Mathlib.Algebra.Order.Ring.Nat
import Mathlib.Tactic.Ring
import RavenBinding.Number.Binary64

/-!
# Rounding of ratios

A ratio whose denominator is `2 ^ 53` is rounded to 53 bits of its numerator. A multiple of a
fraction below one stays below the factor when it is rounded.

## Main statements

- `Binary64.ofRatio_eq`: how a ratio is rounded
- `Binary64.ratio_ofScaled`: the value of a rounded number
- `Binary64.ratio_ofRatio_lt`: sixty-two times a fraction below one
-/

namespace RavenBinding

theorem roundDiv_bounds (num den : Nat) :
    num / den ≤ roundDiv num den ∧ roundDiv num den ≤ num / den + 1 := by
  unfold roundDiv
  dsimp only
  split
  · omega
  · split
    · omega
    · split
      · omega
      · omega

theorem roundDiv_of_lt {num den : Nat} (h : 2 * (num % den) < den) :
    roundDiv num den = num / den := by
  unfold roundDiv
  exact if_pos h

namespace Binary64

/-- The magnitude of a normal number with a scale below zero. -/
theorem ratio_normal {m j : Nat} (hm : 0x10000000000000 ≤ m) (hm' : m < 0x20000000000000)
    (hj : 1 ≤ j) (hj' : j ≤ 1000) :
    (⟨false, Fin.ofNat _ (-(j : Int) + 1075).toNat, Fin.ofNat _ (m - 0x10000000000000)⟩ :
      Binary64).ratio = (m, Nat.pow 2 j) := by
  have he : (-(j : Int) + 1075).toNat % 2048 = 1075 - j := by omega
  have hf : (m - 0x10000000000000) % 0x10000000000000 = m - 0x10000000000000 := by omega
  have hne : ¬(⟨1075 - j, by omega⟩ : Fin 2048) = 0 := fun h => by
    have := congrArg Fin.val h
    simp only [Fin.val_zero] at this
    omega
  have hmax : max (1075 - j) 1 = 1075 - j := by omega
  have hscale : ((1075 - j : Nat) : Int) - 1075 = -j := by omega
  simp only [ratio, scale, Binary64.significand, Fin.ofNat, he, hf, hmax, hscale, if_neg hne]
  rw [if_neg (by omega), neg_neg, Int.toNat_natCast, Nat.sub_add_cancel hm]

/-- A number with a full significand keeps its value, also when the significand is carried over. -/
theorem ratio_ofScaled {m k : Nat} (hlow : 0x10000000000000 ≤ m) (hhigh : m ≤ 0x20000000000000)
    (hk : 2 ≤ k) (hrange : k ≤ 1000) :
    (ofScaled false m (-k)).ratio.1 / (ofScaled false m (-k)).ratio.2 = m / Nat.pow 2 k := by
  by_cases hcarry : m = 0x20000000000000
  · have hscale : (-(k : Int) + 1) = -((k - 1 : Nat) : Int) := by omega
    have hscaled : ofScaled false m (-k) =
        ⟨false, Fin.ofNat _ (-((k - 1 : Nat) : Int) + 1075).toNat,
          Fin.ofNat _ (0x10000000000000 - 0x10000000000000)⟩ := by
      simp only [ofScaled, if_pos hcarry, hscale]
      rw [if_neg (by omega), if_neg (by omega)]
    rw [hscaled, ratio_normal le_rfl (by decide) (by omega) (by omega), hcarry]
    obtain ⟨j, rfl⟩ : ∃ j, k = j + 1 := ⟨k - 1, by omega⟩
    exact (Nat.mul_div_mul_right 0x10000000000000 (Nat.pow 2 j) (by decide : 0 < 2)).symm
  · have hscaled : ofScaled false m (-k) =
        ⟨false, Fin.ofNat _ (-(k : Int) + 1075).toNat, Fin.ofNat _ (m - 0x10000000000000)⟩ := by
      simp only [ofScaled, if_neg hcarry]
      rw [if_neg (by omega), if_neg (by omega)]
    rw [hscaled, ratio_normal hlow (by omega) (by omega) hrange]

theorem scaledRatio_neg (num den : Nat) {k : Nat} (hk : 1 ≤ k) :
    scaledRatio num den (-k) = (num * Nat.pow 2 k, den) := by
  rw [scaledRatio, if_neg (by omega), neg_neg, Int.toNat_natCast]

/-- A ratio with a denominator of `2 ^ 53` is rounded to 53 bits of its numerator. -/
theorem ofRatio_eq {num l : Nat} (hlow : 2 ^ l ≤ num) (hhigh : num < 2 ^ (l + 1)) (hl : l ≤ 100) :
    ofRatio false num 0x20000000000000 =
      ofScaled false (roundDiv (num * Nat.pow 2 (105 - l)) 0x20000000000000)
        (-((105 - l : Nat) : Int)) := by
  have hzero : num ≠ 0 := fun h => by
    have := Nat.two_pow_pos l
    omega
  have hlog : num.log2 = l := by
    refine le_antisymm (Nat.lt_succ_iff.1 ((Nat.log2_lt hzero).2 hhigh)) ?_
    exact (Nat.le_log2 hzero).2 hlow
  have hden : Nat.log2 0x20000000000000 = 53 := by decide +kernel
  have hscale : max ((l : Int) - (53 : Nat) - 53) (-1074) = -((106 - l : Nat) : Int) := by omega
  have hnext : -((106 - l : Nat) : Int) + 1 = -((105 - l : Nat) : Int) := by omega
  -- with one bit more the quotient would have 54 bits
  have hfull : 0x20000000000000 ≤ num * Nat.pow 2 (106 - l) / 0x20000000000000 := by
    rw [Nat.le_div_iff_mul_le (by decide)]
    calc 0x20000000000000 * 0x20000000000000 = 2 ^ l * 2 ^ (106 - l) := by
          rw [← pow_add, Nat.add_sub_cancel' (by omega)]
          rfl
      _ ≤ num * Nat.pow 2 (106 - l) := Nat.mul_le_mul_right _ hlow
  simp only [ofRatio, if_neg hzero, hlog, hden, hscale, hnext]
  rw [scaledRatio_neg _ _ (by omega), scaledRatio_neg _ _ (by omega)]
  exact if_neg (Nat.not_lt.2 hfull)

/-- Sixty-two times a fraction below one stays below 62 when it is rounded. -/
theorem ratio_ofRatio_lt {f : Nat} (hf : f < 0x20000000000000) :
    (ofRatio false (f * 62) 0x20000000000000).ratio.1 /
      (ofRatio false (f * 62) 0x20000000000000).ratio.2 < 62 := by
  by_cases hzero : f * 62 = 0
  · have hnum : (ofRatio false (f * 62) 0x20000000000000).ratio.1 = 0 := by
      rw [ofRatio, if_pos hzero]
      rfl
    rw [hnum, Nat.zero_div]
    decide
  obtain ⟨l, hl⟩ : ∃ l, (f * 62).log2 = l := ⟨_, rfl⟩
  have hlow : 2 ^ l ≤ f * 62 := hl ▸ Nat.log2_self_le hzero
  have hhigh : f * 62 < 2 ^ (l + 1) := hl ▸ Nat.lt_log2_self
  have hlt : l < 59 := by
    rw [← hl, Nat.log2_lt hzero]
    omega
  have hdown : 0x10000000000000 ≤ f * 62 * Nat.pow 2 (105 - l) / 0x20000000000000 := by
    rw [Nat.le_div_iff_mul_le (by decide)]
    calc 0x10000000000000 * 0x20000000000000 = 2 ^ l * 2 ^ (105 - l) := by
          rw [← pow_add, Nat.add_sub_cancel' (by omega)]
          rfl
      _ ≤ f * 62 * Nat.pow 2 (105 - l) := Nat.mul_le_mul_right _ hlow
  have hup : f * 62 * Nat.pow 2 (105 - l) / 0x20000000000000 < 0x20000000000000 := by
    rw [Nat.div_lt_iff_lt_mul (by decide)]
    calc f * 62 * Nat.pow 2 (105 - l) < 2 ^ (l + 1) * 2 ^ (105 - l) :=
          Nat.mul_lt_mul_of_pos_right hhigh (Nat.two_pow_pos _)
      _ = 0x20000000000000 * 0x20000000000000 := by
          rw [← pow_add, show l + 1 + (105 - l) = 106 by omega]
          rfl
  have hround := roundDiv_bounds (f * 62 * Nat.pow 2 (105 - l)) 0x20000000000000
  have hpos : 0 < Nat.pow 2 (105 - l) := Nat.two_pow_pos _
  rw [ofRatio_eq hlow hhigh (by omega), ratio_ofScaled (by omega) (by omega) (by omega) (by omega),
    Nat.div_lt_iff_lt_mul hpos]
  by_cases htop : l = 58
  · -- the greatest numerator is nearer to the number before 62 than to 62
    have hval : Nat.pow 2 (105 - l) = 0x800000000000 := by
      rw [htop]
    rw [hval] at hround ⊢
    by_cases hlast : f * 62 * 0x800000000000 / 0x20000000000000 < 62 * 0x800000000000 - 1
    · omega
    · have hrest : 2 * (f * 62 * 0x800000000000 % 0x20000000000000) < 0x20000000000000 := by omega
      rw [roundDiv_of_lt hrest]
      omega
  · have hpow : Nat.pow 2 48 ≤ Nat.pow 2 (105 - l) := Nat.pow_le_pow_right (by decide) (by omega)
    have hval : Nat.pow 2 48 = 0x1000000000000 := rfl
    omega

end Binary64

end RavenBinding
