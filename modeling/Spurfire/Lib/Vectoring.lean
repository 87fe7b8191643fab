import Spurfire.Lib.Arctan

/-!
# Turning a vector onto an axis with shifts

A vector is turned towards the positive `x` axis through angles whose tangents are the powers of
one half, and the angles turned through add up to its own.  Products are truncated, so each turn
adds at most one unit to an error in either coordinate.

* `Table` is what a table of such angles must satisfy: `near` the arctangents, each at most twice
  the next;
* `drift` is the error in angle after `k` turns of a vector at least `r` long;
* `Aimed` is the invariant of the turns: the vector nears the axis (`narrow`), and its angle with
  the angle turned through stays its angle at the start (`drifts`, `reaches`).
-/

namespace Vectoring

open Real

/-! ## One turn -/

theorem exact_turn {x y s : ℝ} (hx : 0 < x) (hy : 0 ≤ y) (hs : 0 ≤ s) :
    arctan (y / x) - arctan s = arctan ((y - x * s) / (x + y * s)) := by
  have hslope : 0 ≤ y / x * s := by positivity
  rw [Arctan.arctan_sub (by linarith)]
  congr 1
  have hden : x + y * s ≠ 0 := by positivity
  have hden' : 1 + y / x * s ≠ 0 := by positivity
  rw [div_eq_div_iff hden' hden]
  field_simp

/-- A turn with each coordinate off by one unit at most. -/
theorem turn_error {x y s x' y' : ℝ} (hx : 0 < x) (hxx' : x ≤ x') (hy : 0 ≤ y) (hs : 0 ≤ s)
    (hdx : |x' - (x + y * s)| ≤ 1) (hdy : |y' - (y - x * s)| ≤ 1) :
    |arctan (y' / x') - (arctan (y / x) - arctan s)| ≤ (1 + |y - x * s| / x) / x' := by
  have hx' : 0 < x' := hx.trans_le hxx'
  have hturned : x ≤ x + y * s := by nlinarith [mul_nonneg hy hs]
  have hpos : 0 < x + y * s := hx.trans_le hturned
  have hratio : y' / x' - (y - x * s) / (x + y * s)
      = ((y' - (y - x * s)) - (y - x * s) / (x + y * s) * (x' - (x + y * s))) / x' := by
    field_simp
    ring
  have hslope : |(y - x * s) / (x + y * s)| ≤ |y - x * s| / x := by
    rw [abs_div, abs_of_pos hpos]
    exact div_le_div_of_nonneg_left (abs_nonneg _) hx hturned
  rw [exact_turn hx hy hs]
  calc |arctan (y' / x') - arctan ((y - x * s) / (x + y * s))|
      ≤ |y' / x' - (y - x * s) / (x + y * s)| := Arctan.abs_arctan_sub_arctan_le _ _
    _ = |(y' - (y - x * s)) - (y - x * s) / (x + y * s) * (x' - (x + y * s))| / x' := by
        rw [hratio, abs_div, abs_of_pos hx']
    _ ≤ (1 + |y - x * s| / x) / x' := by
        refine div_le_div_of_nonneg_right ?_ hx'.le
        refine (abs_sub _ _).trans (add_le_add hdy ?_)
        rw [abs_mul]
        calc |(y - x * s) / (x + y * s)| * |x' - (x + y * s)|
            ≤ |y - x * s| / x * 1 := mul_le_mul hslope hdx (abs_nonneg _) (by positivity)
          _ = |y - x * s| / x := mul_one _

/-! ## Every turn -/

/-- A table of `n` angles, to be added up in multiples of `unit`. -/
structure Table (n : ℕ) (angle : ℕ → ℝ) (tol unit : ℝ) : Prop where
  near : ∀ k, k < n → |angle k - arctan (1 / 2 ^ k)| ≤ tol
  nonneg : ∀ k, 0 ≤ angle k
  halves : ∀ k, k + 1 < n → angle k ≤ 2 * angle (k + 1) + unit
  unit_nonneg : 0 ≤ unit

/-- The error in angle of a vector at least `r` long, after the turns from the second to the
`k`-th. -/
noncomputable def drift (n : ℕ) (tol r : ℝ) (k : ℕ) : ℝ :=
  ((k - 1) * (1 + n / r) + 1 - (2 : ℕ) / (2 ^ k : ℕ)) / r + (k - 1) * tol

theorem drift_one (n : ℕ) (tol r : ℝ) : drift n tol r 1 = 0 := by
  simp [drift]

theorem drift_succ (n : ℕ) (tol r : ℝ) (k : ℕ) :
    drift n tol r (k + 1) = drift n tol r k + ((1 + 1 / 2 ^ k + n / r) / r + tol) := by
  unfold drift
  rw [pow_succ]
  push_cast
  field_simp
  ring

structure Aimed (n : ℕ) (angle : ℕ → ℝ) (tol unit r θ : ℝ) (k : ℕ) (x y a : ℝ) : Prop where
  far : r ≤ x
  narrow : |y| ≤ 2 * x / 2 ^ k + k
  drifts : |arctan (y / x) + a - θ| ≤ drift n tol r k
  reaches : |θ - a| ≤ 2 * angle k + k * unit + drift n tol r k

variable {n k : ℕ} {angle : ℕ → ℝ} {tol unit r θ x y a : ℝ}

theorem Table.tol_nonneg (ht : Table n angle tol unit) (hk : k < n) : 0 ≤ tol :=
  (abs_nonneg _).trans (ht.near k hk)

theorem Table.drift_le_succ (ht : Table n angle tol unit) (hr : 0 < r) (hk : k < n) :
    drift n tol r k ≤ drift n tol r (k + 1) := by
  have htol := ht.tol_nonneg hk
  have hturn : 0 ≤ (1 + 1 / 2 ^ k + n / r) / r := by positivity
  rw [drift_succ]
  linarith

namespace Aimed

/-- The mirror image in the `x` axis. -/
theorem neg (h : Aimed n angle tol unit r θ k x y a) :
    Aimed n angle tol unit r (-θ) k x (-y) (-a) where
  far := h.far
  narrow := by rw [abs_neg]; exact h.narrow
  drifts := by
    rw [neg_div, arctan_neg, ← abs_neg]
    convert h.drifts using 2
    ring
  reaches := by
    rw [← abs_neg]
    convert h.reaches using 2
    ring

theorem stay (ht : Table n angle tol unit) (hr : 0 < r) (hk : k + 1 < n)
    (h : Aimed n angle tol unit r θ k x 0 a) : Aimed n angle tol unit r θ (k + 1) x 0 a := by
  have hmono := ht.drift_le_succ hr (k.lt_succ_self.trans hk)
  have hx : 0 < x := hr.trans_le h.far
  have hdrift := h.drifts
  rw [zero_div, arctan_zero, zero_add] at hdrift
  refine ⟨h.far, ?_, ?_, ?_⟩
  · rw [abs_zero]
    positivity
  · rw [zero_div, arctan_zero, zero_add]
    exact hdrift.trans hmono
  · rw [abs_sub_comm]
    have hangle := ht.nonneg (k + 1)
    have hunit : 0 ≤ ((k + 1 : ℕ) : ℝ) * unit := mul_nonneg (Nat.cast_nonneg _) ht.unit_nonneg
    linarith

/-- A turn from above the axis. -/
theorem turn (ht : Table n angle tol unit) (hr : 0 < r) (hk : k + 1 < n)
    (h : Aimed n angle tol unit r θ k x y a) (hy : 0 < y) {x' y' : ℝ} (hxx' : x ≤ x')
    (hdx : |x' - (x + y * (1 / 2 ^ k))| ≤ 1) (hdy : |y' - (y - x * (1 / 2 ^ k))| ≤ 1) :
    Aimed n angle tol unit r θ (k + 1) x' y' (a + angle k) := by
  have hx : 0 < x := hr.trans_le h.far
  have hs : (0 : ℝ) ≤ 1 / 2 ^ k := by positivity
  have hxs : 0 ≤ x * (1 / 2 ^ k) := mul_nonneg hx.le hs
  have hnarrow : y ≤ 2 * (x * (1 / 2 ^ k)) + k := by
    calc y ≤ 2 * x / 2 ^ k + k := (le_abs_self y).trans h.narrow
      _ = 2 * (x * (1 / 2 ^ k)) + k := by ring
  have hkn : (k : ℝ) ≤ n := by exact_mod_cast (k.lt_succ_self.trans hk).le
  have hturned : |y - x * (1 / 2 ^ k)| ≤ x * (1 / 2 ^ k) + k := by
    have hk0 : (0 : ℝ) ≤ k := Nat.cast_nonneg k
    rw [abs_le]
    constructor <;> linarith
  have hstep : |arctan (y' / x') - (arctan (y / x) - arctan (1 / 2 ^ k))|
      ≤ (1 + 1 / 2 ^ k + n / r) / r := by
    refine (turn_error hx hxx' hy.le hs hdx hdy).trans ?_
    refine div_le_div₀ (by positivity) ?_ hr (h.far.trans hxx')
    have hslope : |y - x * (1 / 2 ^ k)| / x ≤ 1 / 2 ^ k + n / r := by
      calc |y - x * (1 / 2 ^ k)| / x ≤ (x * (1 / 2 ^ k) + k) / x :=
            div_le_div_of_nonneg_right hturned hx.le
        _ = 1 / 2 ^ k + k / x := by field_simp
        _ ≤ 1 / 2 ^ k + n / r := by
            gcongr
            exact h.far
    linarith
  have hnear := ht.near k (k.lt_succ_self.trans hk)
  have hmono := ht.drift_le_succ hr (k.lt_succ_self.trans hk)
  have hhalves := ht.halves k hk
  have habove : 0 < arctan (y / x) := arctan_pos.mpr (div_pos hy hx)
  have hdrift := abs_le.mp h.drifts
  have hreach := abs_le.mp h.reaches
  refine ⟨h.far.trans hxx', ?_, ?_, ?_⟩
  · have hpow : 2 * x' / 2 ^ (k + 1) = x' * (1 / 2 ^ k) := by
      rw [pow_succ]
      field_simp
    have hgrow : x * (1 / 2 ^ k) ≤ x' * (1 / 2 ^ k) := mul_le_mul_of_nonneg_right hxx' hs
    have hk0 : (0 : ℝ) ≤ k := Nat.cast_nonneg k
    have hdy' := abs_le.mp hdy
    have hturned' := abs_le.mp hturned
    rw [hpow, abs_le]
    push_cast
    constructor <;> linarith
  · rw [drift_succ]
    have hstep' := abs_le.mp hstep
    have hnear' := abs_le.mp hnear
    rw [abs_le]
    constructor <;> linarith
  · have hunit : ((k + 1 : ℕ) : ℝ) * unit = k * unit + unit := by push_cast; ring
    have hkunit : 0 ≤ (k : ℝ) * unit := mul_nonneg (Nat.cast_nonneg _) ht.unit_nonneg
    have hunit0 := ht.unit_nonneg
    have hangle := ht.nonneg (k + 1)
    rw [hunit, abs_le]
    constructor <;> linarith

end Aimed

end Vectoring
