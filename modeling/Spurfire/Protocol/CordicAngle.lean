import Spurfire.Lib.Vectoring
import Spurfire.Protocol.SaddleGeometry

/-!
# The accuracy of the CORDIC angles

`atan2_millidegrees` turns a vector onto the `x` axis in thirty-seven turns of integers.

* `cordic_table`: the table holds the arctangents of the powers of one half, rounded;
* `rounded_near`: millidegrees from nanodegrees;
* `AimedAt`: the invariant of the turns, `Vectoring.Aimed` of a vector of integers;
* `angle_turned`: the angle of a vector from its thirty-seven turns, by the error of the first `m`
  of them and the sum of the others.
-/

namespace Spurfire

open Real

/-! ## The table -/

/-- One nanodegree in radians. -/
noncomputable def nanodegree : ℝ := π / 180000000000

theorem nanodegree_pos : 0 < nanodegree := div_pos pi_pos (by norm_num)

theorem nanodegree_near :
    1.745329251994 / 10 ^ 11 ≤ nanodegree ∧ nanodegree ≤ 1.7453292520 / 10 ^ 11 := by
  have hlow := pi_gt_d20
  have hhigh := pi_lt_d20
  unfold nanodegree
  constructor
  · rw [le_div_iff₀ (by norm_num)]
    norm_num at *
    linarith
  · rw [div_le_iff₀ (by norm_num)]
    norm_num at *
    linarith

def turnAngle (k : ℕ) : ℤ := CORDIC_ANGLES_NANODEGREES.getD k 0

theorem turnAngle_of_ge {k : ℕ} (hk : 37 ≤ k) : turnAngle k = 0 := by
  unfold turnAngle
  rw [List.getD_eq_getElem?_getD, List.getElem?_eq_none hk]
  rfl

theorem turnAngle_nonneg (k : ℕ) : 0 ≤ turnAngle k := by
  by_cases hk : k < 37
  · have hall : ∀ k < 37, 0 ≤ turnAngle k := by decide
    exact hall k hk
  · exact (turnAngle_of_ge (not_lt.mp hk)).ge

theorem quarter_turn : nanodegree * turnAngle 0 = π / 4 := by
  have hangle : turnAngle 0 = 45000000000 := rfl
  rw [hangle, nanodegree]
  push_cast
  ring

/-- The table against sixteen terms of the arctangent. -/
theorem turnAngle_near_partialSum : ∀ k < 37, k ≠ 0 →
    |(turnAngle k : ℚ) * 3.14159265358979323846 / 180000000000
      - Arctan.partialSum 16 (1 / 2 ^ k)| ≤ 1 / 10 ^ 10 := by
  decide +kernel

theorem turnAngle_near {k : ℕ} (hk : k < 37) :
    |nanodegree * turnAngle k - arctan (1 / 2 ^ k)| ≤ 3 / 10 ^ 10 := by
  by_cases hzero : k = 0
  · subst hzero
    rw [quarter_turn, pow_zero, div_one, arctan_one, sub_self, abs_zero]
    norm_num
  · have hhalf : (1 / 2 ^ k : ℝ) ≤ 1 / 2 := by
      have hpow : (2 : ℝ) ^ 1 ≤ 2 ^ k :=
        pow_le_pow_right₀ one_le_two (Nat.one_le_iff_ne_zero.mpr hzero)
      rw [pow_one] at hpow
      exact one_div_le_one_div_of_le two_pos hpow
    have hterms : |arctan (1 / 2 ^ k) - Arctan.partialSum 16 (1 / 2 ^ k : ℝ)| ≤ (1 / 2) ^ 33 :=
      (Arctan.abs_arctan_sub_partialSum_le 16 (by positivity)).trans
        (pow_le_pow_left₀ (by positivity) hhalf 33)
    have hsum : |(turnAngle k : ℝ) * 3.14159265358979323846 / 180000000000
        - Arctan.partialSum 16 (1 / 2 ^ k : ℝ)| ≤ 1 / 10 ^ 10 := by
      have h := turnAngle_near_partialSum k hk hzero
      rw [← Rat.cast_le (K := ℝ)] at h
      push_cast [Arctan.partialSum] at h ⊢
      exact h
    have hpi : |nanodegree * turnAngle k
        - (turnAngle k : ℝ) * 3.14159265358979323846 / 180000000000| ≤ 1 / 10 ^ 20 := by
      have hall : ∀ k < 37, turnAngle k ≤ 180000000000 := by decide
      have hbound : (turnAngle k : ℝ) ≤ 180000000000 := by exact_mod_cast hall k hk
      have hnonneg : (0 : ℝ) ≤ turnAngle k := by exact_mod_cast turnAngle_nonneg k
      have hdiff : nanodegree * turnAngle k
          - (turnAngle k : ℝ) * 3.14159265358979323846 / 180000000000
          = (turnAngle k : ℝ) / 180000000000 * (π - 3.14159265358979323846) := by
        unfold nanodegree
        ring
      have hlow := pi_gt_d20
      have hhigh := pi_lt_d20
      rw [hdiff, abs_of_nonneg (mul_nonneg (by positivity) (by linarith))]
      calc (turnAngle k : ℝ) / 180000000000 * (π - 3.14159265358979323846)
          ≤ 1 * (1 / 10 ^ 20) :=
            mul_le_mul ((div_le_one (by norm_num)).mpr hbound) (by norm_num at *; linarith)
              (by linarith) one_pos.le
        _ = 1 / 10 ^ 20 := one_mul _
    have hterms' := abs_le.mp hterms
    have hsum' := abs_le.mp hsum
    have hpi' := abs_le.mp hpi
    have hnum : ((1 : ℝ) / 2) ^ 33 + 1 / 10 ^ 10 + 1 / 10 ^ 20 ≤ 3 / 10 ^ 10 := by norm_num
    rw [abs_le]
    constructor <;> linarith

theorem cordic_table :
    Vectoring.Table 37 (fun k => nanodegree * turnAngle k) (3 / 10 ^ 10) nanodegree where
  near _ hk := turnAngle_near hk
  nonneg k := mul_nonneg nanodegree_pos.le (by exact_mod_cast turnAngle_nonneg k)
  halves k hk := by
    have hall : ∀ k < 36, turnAngle k ≤ 2 * turnAngle (k + 1) + 1 := by decide
    have h : (turnAngle k : ℝ) ≤ 2 * turnAngle (k + 1) + 1 := by
      exact_mod_cast hall k (Nat.lt_of_succ_lt_succ hk)
    calc nanodegree * turnAngle k ≤ nanodegree * (2 * turnAngle (k + 1) + 1) :=
          mul_le_mul_of_nonneg_left h nanodegree_pos.le
      _ = 2 * (nanodegree * turnAngle (k + 1)) + nanodegree := by ring
  unit_nonneg := nanodegree_pos.le

/-! ## Rounding -/

theorem divRoundHalfAway_near (n : ℤ) {d : ℤ} (hd : 0 < d) :
    |2 * (divRoundHalfAway n d * d - n)| ≤ d := by
  have hround : ∀ n, |2 * ((n + d / 2) / d * d - n)| ≤ d := by
    intro n
    have hsplit := Int.ediv_mul_add_emod (n + d / 2) d
    have hmod := Int.emod_nonneg (n + d / 2) hd.ne'
    have hlt := Int.emod_lt_of_pos (n + d / 2) hd
    rw [abs_le]
    constructor <;> omega
  unfold divRoundHalfAway
  split_ifs
  · exact hround n
  · have h := hround (-n)
    rw [← abs_neg] at h
    convert h using 2
    ring

theorem divRoundHalfAway_div (n : ℤ) {d : ℤ} (hd : 0 < d) :
    |(divRoundHalfAway n d : ℝ) - n / d| ≤ 1 / 2 := by
  have hd' : (0 : ℝ) < d := by exact_mod_cast hd
  have hnear : |2 * ((divRoundHalfAway n d : ℝ) * d - n)| ≤ d := by
    exact_mod_cast divRoundHalfAway_near n hd
  have hsplit : (divRoundHalfAway n d : ℝ) - n / d = (divRoundHalfAway n d * d - n) / d := by
    field_simp
  rw [abs_mul, abs_two] at hnear
  rw [hsplit, abs_div, abs_of_pos hd', div_le_iff₀ hd']
  linarith

theorem toInt_saturating_of_le {v : ℤ} (h : |v| ≤ 2000000000) :
    (saturatingI128ToI32 v).toInt = v := by
  have h' := abs_le.mp h
  unfold saturatingI128ToI32
  rw [Int32.toInt_satOfInt]
  omega

/-- One millidegree in radians. -/
noncomputable def millidegree : ℝ := π / 180000

theorem millidegree_eq : millidegree = nanodegree * 1000000 := by
  unfold millidegree nanodegree
  ring

theorem millidegree_pos : 0 < millidegree := div_pos pi_pos (by norm_num)

/-- The last rounding. -/
theorem rounded_near (angle : ℤ) :
    |divRoundHalfAway angle NANODEGREES_PER_MILLIDEGREE * millidegree - nanodegree * angle|
      ≤ 0.5 * millidegree := by
  have hdiv := divRoundHalfAway_div angle
    (by decide : 0 < NANODEGREES_PER_MILLIDEGREE)
  have hsplit : divRoundHalfAway angle NANODEGREES_PER_MILLIDEGREE * millidegree
      - nanodegree * angle = (divRoundHalfAway angle NANODEGREES_PER_MILLIDEGREE
        - angle / NANODEGREES_PER_MILLIDEGREE) * millidegree := by
    rw [millidegree_eq]
    unfold NANODEGREES_PER_MILLIDEGREE
    push_cast
    ring
  rw [hsplit, abs_mul, abs_of_pos millidegree_pos]
  exact mul_le_mul_of_nonneg_right (hdiv.trans (by norm_num)) millidegree_pos.le

/-- A direction as a vector. -/
noncomputable def QuantizedDirection.toReal (d : QuantizedDirection) : EuclideanSpace ℝ (Fin 3) :=
  WithLp.toLp _ ![(d.x.toInt : ℝ), (d.y.toInt : ℝ), (d.z.toInt : ℝ)]

/-! ## Turns of integers -/

theorem shiftRight_mono {a b : ℤ} (h : a ≤ b) (k : ℕ) : a >>> k ≤ b >>> k := by
  rw [Int.shiftRight_eq_div_pow, Int.shiftRight_eq_div_pow]
  exact Int.ediv_le_ediv (by positivity) h



theorem abs_shiftRight_sub_le (y : ℤ) (k : ℕ) : |((y >>> k : ℤ) : ℝ) - y * (1 / 2 ^ k)| ≤ 1 := by
  have hpow : (0 : ℝ) < 2 ^ k := by positivity
  have hsplit : ((y >>> k : ℤ) : ℝ) * 2 ^ k + (y % 2 ^ k : ℤ) = y := by
    rw [Int.shiftRight_eq_div_pow]
    exact_mod_cast Int.ediv_mul_add_emod y (2 ^ k)
  have hmod : (0 : ℝ) ≤ (y % 2 ^ k : ℤ) := by
    exact_mod_cast Int.emod_nonneg y (by positivity)
  have hlt : ((y % 2 ^ k : ℤ) : ℝ) ≤ 2 ^ k := by
    exact_mod_cast (Int.emod_lt_of_pos y (by positivity)).le
  have hdiff : ((y >>> k : ℤ) : ℝ) - y * (1 / 2 ^ k) = -((y % 2 ^ k : ℤ) / 2 ^ k) := by
    rw [← hsplit]
    field_simp
    ring
  rw [hdiff, abs_neg, abs_of_nonneg (by positivity), div_le_one hpow]
  exact hlt

/-- The invariant of the turns of a vector at least `r` long, of angle `θ` at the start. -/
abbrev AimedAt (θ r : ℝ) (k : ℕ) (c : Cordic) : Prop :=
  Vectoring.Aimed 37 (fun k => nanodegree * turnAngle k) (3 / 10 ^ 10) nanodegree r θ k
    c.x c.y (nanodegree * c.angle)

theorem aimedAt_flatten {θ r : ℝ} {k : ℕ} {c : Cordic} (hr : 0 < r) (hk : k + 1 < 37)
    (h : AimedAt θ r k c) : AimedAt θ r (k + 1) (c.flatten (turnAngle k, k)) := by
  have hshift := abs_shiftRight_sub_le
  have hgrow : ∀ y : ℤ, 0 ≤ y → 0 ≤ y >>> k := fun y hy => by
    rw [Int.shiftRight_eq_div_pow]
    positivity
  unfold Cordic.flatten
  dsimp only
  by_cases hup : c.y > 0
  · rw [if_pos hup]
    have hy : (0 : ℝ) < c.y := by exact_mod_cast hup
    have hxx' : (c.x : ℝ) ≤ (c.x + c.y >>> k : ℤ) := by
      exact_mod_cast le_add_of_nonneg_right (hgrow c.y hup.le)
    have hdx : |((c.x + c.y >>> k : ℤ) : ℝ) - (c.x + c.y * (1 / 2 ^ k))| ≤ 1 := by
      convert hshift c.y k using 2
      push_cast
      ring
    have hdy : |((c.y - c.x >>> k : ℤ) : ℝ) - (c.y - c.x * (1 / 2 ^ k))| ≤ 1 := by
      rw [abs_sub_comm]
      convert hshift c.x k using 2
      push_cast
      ring
    have hturn := h.turn cordic_table hr hk hy hxx' hdx hdy
    rw [← mul_add, ← Int.cast_add] at hturn
    exact hturn
  · rw [if_neg hup]
    by_cases hdown : c.y < 0
    · rw [if_pos hdown]
      have hy : (0 : ℝ) < -c.y := by exact_mod_cast neg_pos.mpr hdown
      have hfall : c.y >>> k ≤ 0 := by
        rw [Int.shiftRight_eq_div_pow]
        exact Int.ediv_nonpos_of_nonpos_of_neg hdown.le (by positivity)
      have hxx' : (c.x : ℝ) ≤ (c.x - c.y >>> k : ℤ) := by
        exact_mod_cast le_sub_self_iff _ |>.mpr hfall
      have hdx : |((c.x - c.y >>> k : ℤ) : ℝ) - (c.x + -c.y * (1 / 2 ^ k))| ≤ 1 := by
        rw [abs_sub_comm]
        convert hshift c.y k using 2
        push_cast
        ring
      have hdy : |-((c.y + c.x >>> k : ℤ) : ℝ) - (-c.y - c.x * (1 / 2 ^ k))| ≤ 1 := by
        rw [abs_sub_comm]
        convert hshift c.x k using 2
        push_cast
        ring
      have hturn := (h.neg.turn cordic_table hr hk hy hxx' hdx hdy).neg
      rw [neg_neg, neg_neg, neg_add, neg_neg, ← sub_eq_add_neg, ← mul_sub, ← Int.cast_sub] at hturn
      exact hturn
    · rw [if_neg hdown]
      have hy : c.y = 0 := by omega
      have hstay := h
      rw [AimedAt, hy, Int.cast_zero] at hstay ⊢
      exact hstay.stay cordic_table hr hk

/-- A vector after its first `k` turns. -/
def Cordic.turned (c : Cordic) : ℕ → Cordic
  | 0 => c
  | k + 1 => (c.turned k).flatten (turnAngle k, k)

theorem zipIdx_CORDIC_ANGLES_NANODEGREES :
    CORDIC_ANGLES_NANODEGREES.zipIdx = (List.range 37).map fun k => (turnAngle k, k) := by
  decide

theorem foldl_flatten (c : Cordic) :
    CORDIC_ANGLES_NANODEGREES.zipIdx.foldl Cordic.flatten c = c.turned 37 := by
  have hrange : ∀ n, (List.range n).foldl (fun c k => c.flatten (turnAngle k, k)) c
      = c.turned n := by
    intro n
    induction n with
    | zero => rfl
    | succ n ih => rw [List.range_succ, List.foldl_concat, ih]; rfl
  rw [zipIdx_CORDIC_ANGLES_NANODEGREES, List.foldl_map]
  exact hrange 37

theorem aimedAt_turned {θ r : ℝ} {c : Cordic} (hr : 0 < r) (h : AimedAt θ r 1 (c.turned 1)) :
    ∀ k, 1 ≤ k → k < 37 → AimedAt θ r k (c.turned k) := by
  intro k hk
  induction k, hk using Nat.le_induction with
  | base => exact fun _ => h
  | succ k _ ih => exact fun hk => aimedAt_flatten hr hk (ih (k.lt_succ_self.trans hk))

theorem foldl_flatten_of_y_eq_zero {c : Cordic} (hy : c.y = 0) (steps : List (ℤ × ℕ)) :
    steps.foldl Cordic.flatten c = c := by
  have hflat : ∀ step, c.flatten step = c := fun step => by
    unfold Cordic.flatten
    rw [hy, if_neg (lt_irrefl _), if_neg (lt_irrefl _)]
  induction steps with
  | nil => rfl
  | cons step rest ih => rw [List.foldl_cons, hflat, ih]

theorem abs_angle_flatten_sub_le (c : Cordic) (k : ℕ) :
    |(c.flatten (turnAngle k, k)).angle - c.angle| ≤ turnAngle k := by
  have hangle := turnAngle_nonneg k
  unfold Cordic.flatten
  split_ifs
  · rw [add_sub_cancel_left, abs_of_nonneg hangle]
  · rw [sub_sub_cancel_left, abs_neg, abs_of_nonneg hangle]
  · rw [sub_self, abs_zero]
    exact hangle

theorem abs_angle_turned_sub_le (c : Cordic) (m j : ℕ) :
    |(c.turned (m + j)).angle - (c.turned m).angle|
      ≤ ∑ i ∈ Finset.range j, turnAngle (m + i) := by
  induction j with
  | zero => simp
  | succ j ih =>
    rw [Finset.sum_range_succ]
    have hturn := abs_angle_flatten_sub_le (c.turned (m + j)) (m + j)
    have htwo := add_le_add hturn ih
    rw [add_comm (turnAngle _)] at htwo
    exact (abs_sub_le _ (c.turned (m + j)).angle _).trans htwo

/-- The angle of a vector from its thirty-seven turns. -/
theorem angle_turned {θ r : ℝ} {c : Cordic} (hr : 0 < r) (h : AimedAt θ r 1 (c.turned 1))
    {m : ℕ} (hm : 1 ≤ m) (hm' : m < 37) :
    |θ - nanodegree * (c.turned 37).angle|
      ≤ nanodegree * (2 * turnAngle m + m + ∑ i ∈ Finset.range (37 - m), turnAngle (m + i) : ℤ)
        + Vectoring.drift 37 (3 / 10 ^ 10) r m := by
  have hreach := (aimedAt_turned hr h m hm hm').reaches
  have hrest := abs_angle_turned_sub_le c m (37 - m)
  rw [Nat.add_sub_cancel' hm'.le] at hrest
  have hrest' : |nanodegree * (c.turned m).angle - nanodegree * (c.turned 37).angle|
      ≤ nanodegree * (∑ i ∈ Finset.range (37 - m), turnAngle (m + i) : ℤ) := by
    rw [← mul_sub, abs_mul, abs_of_pos nanodegree_pos, abs_sub_comm]
    exact mul_le_mul_of_nonneg_left (by exact_mod_cast hrest) nanodegree_pos.le
  calc |θ - nanodegree * (c.turned 37).angle|
      ≤ |θ - nanodegree * (c.turned m).angle|
        + |nanodegree * (c.turned m).angle - nanodegree * (c.turned 37).angle| := abs_sub_le _ _ _
    _ ≤ _ := add_le_add hreach hrest'
    _ = _ := by
        push_cast
        ring

/-- The first turn leaves no remainder. -/
theorem aimedAt_first {θ r : ℝ} {c : Cordic} (hx : 0 ≤ c.x) (hy : 0 < c.y)
    (hr : r ≤ c.x + c.y)
    (hθ : θ = nanodegree * c.angle + (π / 4 + arctan ((c.y - c.x) / (c.x + c.y)))) :
    AimedAt θ r 1 (c.turned 1) := by
  have hturned : c.turned 1 = ⟨c.x + c.y, c.y - c.x, c.angle + turnAngle 0⟩ := by
    change c.flatten (turnAngle 0, 0) = _
    unfold Cordic.flatten
    rw [if_pos hy]
    simp only [Int.shiftRight_zero]
  have hx' : (0 : ℝ) ≤ c.x := by exact_mod_cast hx
  have hy' : (0 : ℝ) < c.y := by exact_mod_cast hy
  rw [hturned]
  refine ⟨?_, ?_, ?_, ?_⟩
  · push_cast
    exact hr
  · push_cast
    rw [abs_le]
    constructor <;> linarith
  · rw [Vectoring.drift_one]
    push_cast
    rw [mul_add, quarter_turn, hθ, abs_le]
    constructor <;> linarith
  · have hhalf : π / 4 ≤ 2 * (nanodegree * turnAngle 1) + nanodegree := by
      rw [← quarter_turn]
      exact cordic_table.halves 0 (by norm_num)
    have hquarter : |arctan ((c.y - c.x) / (c.x + c.y) : ℝ)| ≤ π / 4 := by
      have hsum : (0 : ℝ) < c.x + c.y := by linarith
      have hlow : (-1 : ℝ) ≤ (c.y - c.x) / (c.x + c.y) := by
        rw [le_div_iff₀ hsum]
        linarith
      have hhigh : ((c.y - c.x) / (c.x + c.y) : ℝ) ≤ 1 := by
        rw [div_le_one hsum]
        linarith
      have hmono := arctan_mono hlow
      have hmono' := arctan_mono hhigh
      rw [arctan_neg, arctan_one] at hmono
      rw [arctan_one] at hmono'
      exact abs_le.mpr ⟨hmono, hmono'⟩
    have hquarter' := abs_le.mp hquarter
    rw [Vectoring.drift_one]
    push_cast
    rw [mul_add, quarter_turn, hθ, abs_le]
    constructor <;> linarith

end Spurfire
