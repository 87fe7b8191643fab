import Mathlib

/-!
# Arctangents to a given accuracy

The arctangent is `1`-Lipschitz, and its alternating sum leaves out at most the first term omitted
when the denominators are dropped.
-/

namespace Arctan

open Real Finset

theorem abs_arctan_sub_arctan_le (a b : ℝ) : |arctan a - arctan b| ≤ |a - b| := by
  have hderiv : ∀ x ∈ (Set.univ : Set ℝ), ‖deriv arctan x‖ ≤ 1 := by
    intro x _
    rw [Real.deriv_arctan, Real.norm_of_nonneg (by positivity), div_le_one (by positivity)]
    nlinarith [sq_nonneg x]
  have h := convex_univ.norm_image_sub_le_of_norm_deriv_le
    (fun x _ => differentiableAt_arctan x) hderiv (Set.mem_univ b) (Set.mem_univ a)
  simpa using h

theorem abs_arctan_le (a : ℝ) : |arctan a| ≤ |a| := by
  simpa using abs_arctan_sub_arctan_le a 0

theorem arctan_sub {a b : ℝ} (h : -1 < a * b) :
    arctan a - arctan b = arctan ((a - b) / (1 + a * b)) := by
  have hb : a * -b < 1 := by linarith
  rw [sub_eq_add_neg, ← arctan_neg, arctan_add hb]
  ring_nf

/-- The first `n` terms of the alternating sum. -/
def partialSum {K : Type*} [Field K] (n : ℕ) (x : K) : K :=
  ∑ i ∈ range n, (-1) ^ i * x ^ (2 * i + 1) / (2 * i + 1)

theorem hasDerivAt_partialSum (n : ℕ) (x : ℝ) :
    HasDerivAt (partialSum n) (∑ i ∈ range n, (-x ^ 2) ^ i) x := by
  unfold partialSum
  refine HasDerivAt.fun_sum fun i _ => ?_
  have h := ((hasDerivAt_pow (2 * i + 1) x).const_mul ((-1 : ℝ) ^ i)).div_const (2 * i + 1 : ℝ)
  refine h.congr_deriv ?_
  have hi : (2 * i + 1 : ℝ) ≠ 0 := by positivity
  rw [neg_pow (x ^ 2) i, ← pow_mul]
  push_cast
  field_simp

theorem abs_arctan_sub_partialSum_le (n : ℕ) {x : ℝ} (hx : 0 ≤ x) :
    |arctan x - partialSum n x| ≤ x ^ (2 * n + 1) := by
  have hderiv : ∀ t ∈ Set.Icc 0 x, HasDerivWithinAt (fun t => arctan t - partialSum n t)
      (1 / (1 + t ^ 2) - ∑ i ∈ range n, (-t ^ 2) ^ i) (Set.Icc 0 x) t := fun t _ =>
    ((hasDerivAt_arctan t).sub (hasDerivAt_partialSum n t)).hasDerivWithinAt
  have hbound : ∀ t ∈ Set.Icc 0 x,
      ‖1 / (1 + t ^ 2) - ∑ i ∈ range n, (-t ^ 2) ^ i‖ ≤ x ^ (2 * n) := by
    intro t ht
    have hne : -t ^ 2 ≠ 1 := by nlinarith [sq_nonneg t]
    have hsum : 1 / (1 + t ^ 2) - ∑ i ∈ range n, (-t ^ 2) ^ i = (-t ^ 2) ^ n / (1 + t ^ 2) := by
      rw [geom_sum_eq hne]
      have h1 : (1 + t ^ 2 : ℝ) ≠ 0 := by positivity
      have h2 : (-t ^ 2 - 1 : ℝ) ≠ 0 := by nlinarith [sq_nonneg t]
      field_simp
      ring
    rw [hsum, norm_div, norm_pow, norm_neg, norm_pow, Real.norm_of_nonneg ht.1,
      Real.norm_of_nonneg (by positivity : (0 : ℝ) ≤ 1 + t ^ 2), ← pow_mul]
    refine (div_le_self (by have := ht.1; positivity) (by nlinarith [sq_nonneg t])).trans ?_
    exact pow_le_pow_left₀ ht.1 ht.2 _
  have h := (convex_Icc 0 x).norm_image_sub_le_of_norm_hasDerivWithin_le hderiv hbound
    (Set.left_mem_Icc.mpr hx) (Set.right_mem_Icc.mpr hx)
  have hzero : partialSum n (0 : ℝ) = 0 := by simp [partialSum]
  rw [arctan_zero, hzero, sub_zero, sub_zero, sub_zero, Real.norm_eq_abs,
    Real.norm_of_nonneg hx] at h
  calc |arctan x - partialSum n x| ≤ x ^ (2 * n) * x := h
    _ = x ^ (2 * n + 1) := (pow_succ x (2 * n)).symm

end Arctan
