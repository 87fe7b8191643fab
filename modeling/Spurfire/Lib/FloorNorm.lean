import Mathlib.Data.Nat.Sqrt
import Mathlib.Tactic.Ring
import Mathlib.Tactic.Linarith

/-!
# Scaling by a floored norm

An integer vector `(a, b)` is scaled to a length `r` by dividing through `norm a b`, the integer
part of its Euclidean length, and truncating the components.

* `le_scaledSq`: the result is never shorter than `r - 2`;
* `mul_scaledSq_le`: it exceeds `r` at most by the factor that the floor has cost;
* `mul_le_of_scaledSq_le`: a vector that the truncation brings into a bound has left it by less than
  `2`.
-/

namespace FloorNorm

variable {a b r bound : ℕ}

/-- The integer part of the length of `(a, b)`. -/
def norm (a b : ℕ) : ℕ := Nat.sqrt (a * a + b * b)

/-- The squared length of `(a, b)` scaled to `r`. -/
def scaledSq (r a b : ℕ) : ℕ := (a * r / norm a b) ^ 2 + (b * r / norm a b) ^ 2

theorem norm_mul_norm_le (a b : ℕ) : norm a b * norm a b ≤ a * a + b * b :=
  Nat.sqrt_le _

theorem le_norm_mul_norm (a b : ℕ) :
    a * a + b * b ≤ norm a b * norm a b + 2 * norm a b := by
  have h : a * a + b * b ≤ norm a b * norm a b + norm a b + norm a b := Nat.sqrt_le_add _
  omega

theorem norm_pos (h : 0 < a * a + b * b) : 0 < norm a b := Nat.sqrt_pos.mpr h

theorem le_norm_left (a b : ℕ) : a ≤ norm a b := Nat.le_sqrt.mpr (Nat.le_add_right _ _)

theorem le_norm_right (a b : ℕ) : b ≤ norm a b := Nat.le_sqrt.mpr (Nat.le_add_left _ _)

/-- A component is scaled to at most `r`. -/
theorem scaled_le {c n : ℕ} (h : c ≤ n) : c * r / n ≤ r := by
  obtain rfl | hn := Nat.eq_zero_or_pos n
  · simp
  · exact Nat.div_le_of_le_mul (Nat.mul_le_mul_right r h)

/-- Scaling lengthens at most by the factor that the floor of the norm has cost. -/
theorem mul_scaledSq_le (r a b : ℕ) :
    norm a b * norm a b * scaledSq r a b ≤ r * r * (a * a + b * b) := by
  have ha : norm a b * (a * r / norm a b) ≤ a * r := Nat.mul_div_le _ _
  have hb : norm a b * (b * r / norm a b) ≤ b * r := Nat.mul_div_le _ _
  have haa := Nat.mul_le_mul ha ha
  have hbb := Nat.mul_le_mul hb hb
  unfold scaledSq
  nlinarith only [haa, hbb]

/-- **Truncation costs less than two.** -/
theorem le_scaledSq (h : 0 < a * a + b * b) (hr : 2 ≤ r) : (r - 2) ^ 2 ≤ scaledSq r a b := by
  have hpos := norm_pos h
  have hnorm := norm_mul_norm_le a b
  unfold scaledSq
  have ha : a * r ≤ norm a b * (a * r / norm a b + 1) := by
    have := Nat.lt_mul_div_succ (a * r) hpos
    omega
  have hb : b * r ≤ norm a b * (b * r / norm a b + 1) := by
    have := Nat.lt_mul_div_succ (b * r) hpos
    omega
  generalize a * r / norm a b = u at ha ⊢
  generalize b * r / norm a b = v at hb ⊢
  generalize norm a b = n at hpos hnorm ha hb
  -- one more millimetre in each component reaches the length
  have hreach : r * r ≤ (u + 1) * (u + 1) + (v + 1) * (v + 1) := by
    have haa := Nat.mul_le_mul ha ha
    have hbb := Nat.mul_le_mul hb hb
    have hscaled : n * n * (r * r) ≤ n * n * ((u + 1) * (u + 1) + (v + 1) * (v + 1)) := by
      have := Nat.mul_le_mul_right (r * r) hnorm
      nlinarith only [haa, hbb, this]
    exact Nat.le_of_mul_le_mul_left hscaled (Nat.mul_pos hpos hpos)
  obtain ⟨s, rfl⟩ := Nat.exists_eq_add_of_le hr
  rw [Nat.add_sub_cancel_left]
  by_contra hshort
  have hsum : 2 * (u + v) < 3 * s := by
    by_contra hlong
    nlinarith only [hshort, hlong, sq_nonneg ((u : ℤ) - v)]
  nlinarith only [hreach, hshort, hsum]

/-- A vector that is scaled into the bound is stretched past it by less than two. -/
theorem mul_le_of_scaledSq_le (hpos : 0 < a * a + b * b) (h : scaledSq r a b ≤ bound ^ 2) :
    r ^ 2 * (a * a + b * b) ≤ (norm a b * (bound + 2)) ^ 2 := by
  have ha : a * r ≤ norm a b * (a * r / norm a b + 1) :=
    (Nat.lt_mul_div_succ (a * r) (norm_pos hpos)).le
  have hb : b * r ≤ norm a b * (b * r / norm a b + 1) :=
    (Nat.lt_mul_div_succ (b * r) (norm_pos hpos)).le
  unfold scaledSq at h
  generalize a * r / norm a b = u at h ha
  generalize b * r / norm a b = v at h hb
  generalize norm a b = n at ha hb ⊢
  have hsum : u + v ≤ 2 * bound := by
    by_contra hlong
    nlinarith only [h, hlong, sq_nonneg ((u : ℤ) - v)]
  calc r ^ 2 * (a * a + b * b) = a * r * (a * r) + b * r * (b * r) := by ring
    _ ≤ n * (u + 1) * (n * (u + 1)) + n * (v + 1) * (n * (v + 1)) :=
      Nat.add_le_add (Nat.mul_le_mul ha ha) (Nat.mul_le_mul hb hb)
    _ = n ^ 2 * (u ^ 2 + v ^ 2 + 2 * (u + v) + 2) := by ring
    _ ≤ n ^ 2 * (bound + 2) ^ 2 := Nat.mul_le_mul_left _ (by nlinarith only [h, hsum])
    _ = (n * (bound + 2)) ^ 2 := (Nat.mul_pow _ _ 2).symm

end FloorNorm
