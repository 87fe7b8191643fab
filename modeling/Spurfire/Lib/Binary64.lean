import Mathlib.Data.Nat.Sqrt
import Mathlib.Algebra.Group.Nat.Defs

/-!
# Non-negative binary64 arithmetic, in fixed point

The IEEE-754 double operations on non-negative numbers between `2 ^ -40` and `2 ^ 60`, rounded to
nearest with ties to even.  In that range every double is a whole number of units of `2 ^ -128`,
so a value is kept as that number of units: `one` is `2 ^ 128`.  Each operation computes its exact
result as a quotient (or as a square root with its exactness bit) and rounds it once to 53
significant bits, which is what the standard prescribes.
-/

namespace Binary64

/-- The double `1.0`. -/
def one : ℕ := 2 ^ 128

/-- `q * 2 ^ k` or the next double above it, by comparing twice the remainder with the step. -/
def roundStep (q k rem2 step : ℕ) : ℕ :=
  if rem2 < step ∨ (rem2 = step ∧ q % 2 = 0) then q * 2 ^ k else (q + 1) * 2 ^ k

/-- `n / d` rounded to 53 significant bits. -/
def roundQuot (n d : ℕ) : ℕ :=
  let k := Nat.log2 (n / d) - 52
  roundStep (n / (d * 2 ^ k)) k (2 * (n % (d * 2 ^ k))) (d * 2 ^ k)

/-- The double nearest to `n / d`. -/
def ofRatio (n d : ℕ) : ℕ := roundQuot (n * one) d

def mul (a b : ℕ) : ℕ := roundQuot (a * b) one

def add (a b : ℕ) : ℕ := roundQuot (a + b) 1

/-- `|a - b|`. -/
def absSub (a b : ℕ) : ℕ := roundQuot (max a b - min a b) 1

/-- Square root.  The exact root lies in `[r, r + 1)`, so a remainder at the midpoint is a tie only
when the root is exact. -/
def sqrt (a : ℕ) : ℕ :=
  let r := Nat.sqrt (a * one)
  let k := Nat.log2 r - 52
  let sticky := if r * r = a * one then 0 else 1
  roundStep (r / 2 ^ k) k (2 * (r % 2 ^ k) + sticky) (2 ^ k)

/-! ## Rounding loses at most one part in `2 ^ 52` -/

theorem le_roundStep (q k rem2 step : ℕ) : q * 2 ^ k ≤ roundStep q k rem2 step := by
  unfold roundStep
  split_ifs with h
  · exact Nat.le_refl _
  · exact Nat.mul_le_mul_right _ (Nat.le_succ q)

/-- The step of a rounding at `m` is `1` or at most `m / 2 ^ 52`. -/
theorem le_mul_step (m : ℕ) :
    m ≤ m / 2 ^ (Nat.log2 m - 52) * 2 ^ (Nat.log2 m - 52) + m / 2 ^ 52 := by
  by_cases hsmall : Nat.log2 m ≤ 52
  · rw [Nat.sub_eq_zero_of_le hsmall, Nat.pow_zero, Nat.div_one, Nat.mul_one]
    exact Nat.le_add_right _ _
  · have hm : m ≠ 0 := by
      rintro rfl
      exact hsmall (by decide)
    -- the step is `2 ^ log2 m / 2 ^ 52`, and `2 ^ log2 m` is at most `m`
    have hstep : 2 ^ (Nat.log2 m - 52) ≤ m / 2 ^ 52 := by
      rw [Nat.le_div_iff_mul_le (by decide), ← Nat.pow_add, Nat.sub_add_cancel (by omega)]
      exact Nat.log2_self_le hm
    have hdiv := Nat.div_add_mod m (2 ^ (Nat.log2 m - 52))
    have hmod := Nat.mod_lt m (Nat.two_pow_pos (Nat.log2 m - 52))
    rw [Nat.mul_comm] at hdiv
    omega

theorem le_roundQuot (n d : ℕ) : n / d ≤ roundQuot n d + n / d / 2 ^ 52 := by
  have hround := le_roundStep (n / (d * 2 ^ (Nat.log2 (n / d) - 52))) (Nat.log2 (n / d) - 52)
    (2 * (n % (d * 2 ^ (Nat.log2 (n / d) - 52)))) (d * 2 ^ (Nat.log2 (n / d) - 52))
  have hstep := le_mul_step (n / d)
  unfold roundQuot
  dsimp only
  rw [← Nat.div_div_eq_div_mul] at hround ⊢
  omega

theorem le_sqrt (a : ℕ) : Nat.sqrt (a * one) ≤ sqrt a + Nat.sqrt (a * one) / 2 ^ 52 := by
  have hround := le_roundStep (Nat.sqrt (a * one) / 2 ^ (Nat.log2 (Nat.sqrt (a * one)) - 52))
    (Nat.log2 (Nat.sqrt (a * one)) - 52)
    (2 * (Nat.sqrt (a * one) % 2 ^ (Nat.log2 (Nat.sqrt (a * one)) - 52))
      + if Nat.sqrt (a * one) * Nat.sqrt (a * one) = a * one then 0 else 1)
    (2 ^ (Nat.log2 (Nat.sqrt (a * one)) - 52))
  have hstep := le_mul_step (Nat.sqrt (a * one))
  unfold sqrt
  dsimp only
  omega

theorem one_eq : one = 340282366920938463463374607431768211456 := by decide

theorem le_roundQuot_of_le {m n d : ℕ} (h : m + m / 2 ^ 40 + 1 ≤ n / d) : m ≤ roundQuot n d := by
  have := le_roundQuot n d
  omega

theorem le_add_of_le {m a b : ℕ} (h : m + m / 2 ^ 40 + 1 ≤ a + b) : m ≤ add a b := by
  apply le_roundQuot_of_le
  rwa [Nat.div_one]

theorem le_sqrt_of_le {m a : ℕ} (h : (m + m / 2 ^ 40 + 1) * (m + m / 2 ^ 40 + 1) ≤ a * one) :
    m ≤ sqrt a := by
  have hroot := Nat.le_sqrt.mpr h
  have := le_sqrt a
  omega

end Binary64
