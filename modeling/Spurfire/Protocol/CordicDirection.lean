import Spurfire.Lib.PlaneAngle
import Spurfire.Protocol.CordicAngle

/-!
# The accuracy of CORDIC directions

`cordic_sin_cos` turns a vector of the inverse gain through an angle, and `atan2_millidegrees`
measures the angle of a vector of any quarter, in thirty-seven turns of integers each.  The length
of a sine and a cosine is the gain of the turns that were taken, which is less than one where the
angle is met early; only their angle is exact.

* `TurnedTo`: the invariant of the turns of `cordic_sin_cos`;
* `cordicSinCos_near`: the angle of its result;
* `atan2Millidegrees_near`: the angle of a long vector.
-/

namespace Spurfire

open Real InnerProductGeometry

/-! ## Towards an angle -/

/-- The vector of a turn. -/
noncomputable def Cordic.vector (c : Cordic) : ℂ := ⟨c.x, c.y⟩

noncomputable def turnError : ℝ := (4 / 10 ^ 10 : ℚ)

structure TurnedTo (A : ℝ) (k : ℕ) (c : Cordic) : Prop where
  long : 607252935009 - 2 * (k : ℝ) ≤ ‖c.vector‖
  aim : angle c.vector (Complex.exp ((A - nanodegree * c.angle : ℝ) * Complex.I)) ≤ k * turnError
  left : |c.angle| ≤ 2 * turnAngle k + k

theorem turnAngle_halves {k : ℕ} (hk : k < 37) : turnAngle k ≤ 2 * turnAngle (k + 1) + 1 := by
  have hall : ∀ k < 37, turnAngle k ≤ 2 * turnAngle (k + 1) + 1 := by decide
  exact hall k hk

/-- A turn of the vector by the angle of slope `s`, each part off by one at most. -/
theorem aim_turn {A a : ℝ} {k : ℕ} (hk : k < 37) {c : Cordic} (h : TurnedTo A k c) {s : ℝ}
    (hs : |arctan s - a| ≤ 3 / 10 ^ 10) {z : ℂ}
    (hre : |z.re - (c.x - c.y * s)| ≤ 1) (him : |z.im - (c.y + c.x * s)| ≤ 1) :
    607252935009 - 2 * ((k + 1 : ℕ) : ℝ) ≤ ‖z‖
      ∧ angle z (Complex.exp ((A - nanodegree * c.angle + a : ℝ) * Complex.I))
        ≤ (k + 1 : ℕ) * turnError := by
  have hkr : (k : ℝ) ≤ 36 := by exact_mod_cast Nat.le_of_lt_succ hk
  have hlong := h.long
  have hgrow := PlaneAngle.norm_le_norm_mul c.vector s
  have hnear : ‖z - c.vector * (1 + s * Complex.I)‖ ≤ 2 := by
    have hre' : (z - c.vector * (1 + s * Complex.I)).re = z.re - (c.x - c.y * s) := by
      simp [Cordic.vector]
    have him' : (z - c.vector * (1 + s * Complex.I)).im = z.im - (c.y + c.x * s) := by
      simp [Cordic.vector]
      ring
    rw [← hre'] at hre
    rw [← him'] at him
    have hparts := PlaneAngle.norm_le_of_parts hre him
    linarith
  have hnorm : ‖c.vector * (1 + s * Complex.I)‖ ≤ ‖z‖ + 2 := by
    have htri := norm_sub_norm_le (c.vector * (1 + s * Complex.I)) z
    rw [norm_sub_rev] at htri
    linarith
  have hround : angle z (c.vector * (1 + s * Complex.I)) ≤ 2 * 2 / 600000000000 :=
    PlaneAngle.angle_le_of_near (by norm_num) (by linarith) hnear (by norm_num)
  have hne : (1 + s * Complex.I : ℂ) ≠ 0 := by
    intro hzero
    have hre := congrArg Complex.re hzero
    simp at hre
  have hturn : angle (c.vector * (1 + s * Complex.I))
      (Complex.exp ((A - nanodegree * c.angle : ℝ) * Complex.I) * (1 + s * Complex.I))
      ≤ k * turnError := by
    rw [Complex.angle_mul_right hne]
    exact h.aim
  have htable : angle
      (Complex.exp ((A - nanodegree * c.angle : ℝ) * Complex.I) * (1 + s * Complex.I))
      (Complex.exp ((A - nanodegree * c.angle + a : ℝ) * Complex.I)) ≤ 3 / 10 ^ 10 := by
    have hsum : Complex.exp ((A - nanodegree * c.angle + a : ℝ) * Complex.I)
        = Complex.exp ((A - nanodegree * c.angle : ℝ) * Complex.I)
          * Complex.exp (a * Complex.I) := by
      rw [← Complex.exp_add, Complex.ofReal_add, add_mul]
    rw [hsum, Complex.angle_mul_left (Complex.exp_ne_zero _)]
    exact (PlaneAngle.angle_one_add_mul_I s a).trans hs
  refine ⟨by push_cast; linarith, ?_⟩
  have htri := angle_le_angle_add_angle z (c.vector * (1 + s * Complex.I))
    (Complex.exp ((A - nanodegree * c.angle : ℝ) * Complex.I) * (1 + s * Complex.I))
  have htri' := angle_le_angle_add_angle z
    (Complex.exp ((A - nanodegree * c.angle : ℝ) * Complex.I) * (1 + s * Complex.I))
    (Complex.exp ((A - nanodegree * c.angle + a : ℝ) * Complex.I))
  have herror : (2 * 2 / 600000000000 : ℝ) + 3 / 10 ^ 10 ≤ turnError := by
    unfold turnError
    norm_num
  rw [Nat.cast_succ, add_one_mul]
  linarith

theorem turnedTo_rotate {A : ℝ} {k : ℕ} (hk : k < 37) {c : Cordic} (h : TurnedTo A k c) :
    TurnedTo A (k + 1) (c.rotate (turnAngle k, k)) := by
  have hnear := turnAngle_near hk
  have hx := abs_shiftRight_sub_le c.x k
  have hy := abs_shiftRight_sub_le c.y k
  have hhalves := turnAngle_halves hk
  have hleft := abs_le.mp h.left
  have hnonneg := turnAngle_nonneg (k + 1)
  unfold Cordic.rotate
  dsimp only
  by_cases hpos : c.angle > 0
  · rw [if_pos hpos]
    have hstep := aim_turn hk h (s := 1 / 2 ^ k) (a := nanodegree * turnAngle k)
      (z := Cordic.vector ⟨c.x - c.y >>> k, c.y + c.x >>> k, c.angle - turnAngle k⟩)
      (by rw [abs_sub_comm]; exact hnear)
      (by
        rw [← abs_neg]
        convert hy using 2
        simp only [Cordic.vector]
        push_cast
        ring)
      (by
        convert hx using 2
        simp only [Cordic.vector]
        push_cast
        ring)
    refine ⟨hstep.1, ?_, ?_⟩
    · have hangle : A - nanodegree * (c.angle - turnAngle k : ℤ)
          = A - nanodegree * c.angle + nanodegree * turnAngle k := by
        push_cast
        ring
      dsimp only
      rw [hangle]
      exact hstep.2
    · dsimp only
      rw [abs_le]
      constructor <;> push_cast <;> omega
  · rw [if_neg hpos]
    by_cases hneg : c.angle < 0
    · rw [if_pos hneg]
      have hstep := aim_turn hk h (s := -(1 / 2 ^ k)) (a := -(nanodegree * turnAngle k))
        (z := Cordic.vector ⟨c.x + c.y >>> k, c.y - c.x >>> k, c.angle + turnAngle k⟩)
        (by
          rw [arctan_neg, sub_neg_eq_add, add_comm, ← sub_eq_add_neg]
          exact hnear)
        (by
          convert hy using 2
          simp only [Cordic.vector]
          push_cast
          ring)
        (by
          rw [← abs_neg]
          convert hx using 2
          simp only [Cordic.vector]
          push_cast
          ring)
      refine ⟨hstep.1, ?_, ?_⟩
      · have hangle : A - nanodegree * (c.angle + turnAngle k : ℤ)
            = A - nanodegree * c.angle + -(nanodegree * turnAngle k) := by
          push_cast
          ring
        dsimp only
        rw [hangle]
        exact hstep.2
      · dsimp only
        rw [abs_le]
        constructor <;> push_cast <;> omega
    · rw [if_neg hneg]
      have hk0 : (k : ℝ) ≤ (k + 1 : ℕ) := by push_cast; linarith
      have herror : 0 ≤ turnError := by unfold turnError; norm_num
      refine ⟨?_, h.aim.trans (mul_le_mul_of_nonneg_right hk0 herror), ?_⟩
      · have hlong := h.long
        push_cast
        linarith
      · have hzero : c.angle = 0 := by omega
        rw [hzero, abs_zero]
        push_cast
        omega

theorem foldl_rotate {A : ℝ} {c : Cordic} (h : TurnedTo A 0 c) :
    TurnedTo A 37 (CORDIC_ANGLES_NANODEGREES.zipIdx.foldl Cordic.rotate c) := by
  have hrange : ∀ n ≤ 37, TurnedTo A n
      ((List.range n).foldl (fun c k => c.rotate (turnAngle k, k)) c) := by
    intro n
    induction n with
    | zero => exact fun _ => h
    | succ n ih =>
      intro hn
      rw [List.range_succ, List.foldl_concat]
      exact turnedTo_rotate hn (ih (Nat.le_of_succ_le hn))
  rw [zipIdx_CORDIC_ANGLES_NANODEGREES, List.foldl_map]
  exact hrange 37 le_rfl

def gainTurned (m : ℤ) : Cordic :=
  CORDIC_ANGLES_NANODEGREES.zipIdx.foldl Cordic.rotate
    ⟨CORDIC_GAIN_INVERSE, 0, m * NANODEGREES_PER_MILLIDEGREE⟩

/-- A right angle at most is not folded. -/
theorem cordicSinCos_of_le {m : ℤ} (hm : |m| ≤ 90000) :
    cordicSinCos m = ((gainTurned m).x, (gainTurned m).y) := by
  have hm' := abs_le.mp hm
  have hreduced : (if m % 360000 > 180000 then m % 360000 - 360000 else m % 360000) = m := by
    split_ifs
    · omega
    · omega
  have hfolded : (if m > 90000 then m - 180000 else if m < -90000 then m + 180000 else m) = m := by
    rw [if_neg (not_lt.mpr hm'.2), if_neg (not_lt.mpr hm'.1)]
  unfold cordicSinCos
  dsimp only
  rw [hreduced, hfolded, if_pos rfl]
  rfl

theorem cordicSinCos_near {m : ℤ} (hm : |m| ≤ 90000) :
    600000000000 ≤ ‖(⟨(cordicSinCos m).1, (cordicSinCos m).2⟩ : ℂ)‖
      ∧ angle (⟨(cordicSinCos m).1, (cordicSinCos m).2⟩ : ℂ)
        (Complex.exp ((m * millidegree : ℝ) * Complex.I)) ≤ 2 / 10 ^ 8 := by
  have hm' := abs_le.mp hm
  have hstart : TurnedTo (m * millidegree) 0
      ⟨CORDIC_GAIN_INVERSE, 0, m * NANODEGREES_PER_MILLIDEGREE⟩ := by
    have hvector : Cordic.vector ⟨CORDIC_GAIN_INVERSE, 0, m * NANODEGREES_PER_MILLIDEGREE⟩
        = ((607252935009 : ℝ) : ℂ) := by
      unfold CORDIC_GAIN_INVERSE
      apply Complex.ext <;> simp [Cordic.vector]
    have hzero : (m * millidegree
        - nanodegree * (m * NANODEGREES_PER_MILLIDEGREE : ℤ) : ℝ) = 0 := by
      rw [millidegree_eq]
      unfold NANODEGREES_PER_MILLIDEGREE
      push_cast
      ring
    refine ⟨?_, ?_, ?_⟩
    · rw [hvector, Complex.norm_real, Real.norm_of_nonneg (by norm_num)]
      norm_num
    · dsimp only
      rw [hvector, hzero, Complex.ofReal_zero, zero_mul, Complex.exp_zero]
      have hreal : ((607252935009 : ℝ) : ℂ) = (607252935009 : ℝ) • (1 : ℂ) := by simp
      rw [hreal, angle_smul_left_of_pos _ _ (by norm_num), angle_self one_ne_zero]
      norm_num
    · have hangle : turnAngle 0 = 45000000000 := rfl
      rw [hangle, abs_le]
      unfold NANODEGREES_PER_MILLIDEGREE
      dsimp only
      constructor <;> push_cast <;> omega
  have hend := foldl_rotate hstart
  rw [cordicSinCos_of_le hm]
  change TurnedTo _ 37 (gainTurned m) at hend
  generalize gainTurned m = c at hend ⊢
  have hlong := hend.long
  have hleft := hend.left
  have haim := hend.aim
  change 600000000000 ≤ ‖c.vector‖ ∧ angle c.vector _ ≤ _
  refine ⟨by push_cast at hlong; linarith, ?_⟩
  have hrest : angle
      (Complex.exp ((m * millidegree - nanodegree * c.angle : ℝ) * Complex.I))
      (Complex.exp ((m * millidegree : ℝ) * Complex.I)) ≤ nanodegree * 37 := by
    refine (PlaneAngle.angle_exp_exp_le _ _).trans ?_
    rw [sub_sub_cancel_left, abs_neg, abs_mul, abs_of_pos nanodegree_pos]
    refine mul_le_mul_of_nonneg_left ?_ nanodegree_pos.le
    rw [turnAngle_of_ge le_rfl] at hleft
    exact_mod_cast hleft
  have hunit := nanodegree_near.2
  have hsum : ((37 : ℕ) : ℝ) * turnError + nanodegree * 37 ≤ 2 / 10 ^ 8 := by
    unfold turnError
    norm_num at hunit ⊢
    linarith
  exact (angle_le_angle_add_angle _ _ _).trans ((add_le_add haim hrest).trans hsum)

/-! ## Towards the axis -/

theorem arg_upper_right {x y : ℝ} (hx : 0 ≤ x) (hy : 0 < y) :
    Complex.arg ⟨x, y⟩ = π / 4 + arctan ((y - x) / (x + y)) := by
  obtain rfl | hpos := hx.eq_or_lt
  · rw [sub_zero, zero_add, div_self hy.ne', arctan_one, Complex.arg_eq_pi_div_two_iff.mpr ⟨rfl, hy⟩]
    ring
  · have hexact := Vectoring.exact_turn hpos hy.le zero_le_one
    rw [mul_one, mul_one, arctan_one] at hexact
    have hright := abs_lt.mp (Complex.abs_arg_lt_pi_div_two_iff.mpr
      (.inl hpos : 0 < (⟨x, y⟩ : ℂ).re ∨ (⟨x, y⟩ : ℂ) = 0))
    have harg : Complex.arg ⟨x, y⟩ = arctan (y / x) := by
      rw [← arctan_tan hright.1 hright.2, Complex.tan_arg]
    rw [harg]
    linarith

theorem aimedAt_upper {θ r : ℝ} {c : Cordic} (hx : 0 ≤ c.x) (hy : 0 < c.y)
    (hr : r ≤ c.x + c.y) (hθ : θ = nanodegree * c.angle + Complex.arg ⟨c.x, c.y⟩) :
    AimedAt θ r 1 (c.turned 1) := by
  refine aimedAt_first hx hy hr ?_
  rw [hθ, arg_upper_right (by exact_mod_cast hx) (by exact_mod_cast hy)]

theorem aimedAt_lower {θ r : ℝ} {c : Cordic} (hx : 0 ≤ c.x) (hy : c.y < 0)
    (hr : r ≤ c.x - c.y) (hθ : θ = nanodegree * c.angle + Complex.arg ⟨c.x, c.y⟩) :
    AimedAt θ r 1 (c.turned 1) := by
  have hturned : c.turned 1 = ⟨c.x - c.y, c.y + c.x, c.angle - turnAngle 0⟩ := by
    change c.flatten (turnAngle 0, 0) = _
    unfold Cordic.flatten
    rw [if_neg (not_lt.mpr hy.le), if_pos hy]
    simp only [Int.shiftRight_zero]
  have hmirrored : (⟨c.x, -c.y, -c.angle⟩ : Cordic).turned 1
      = ⟨c.x - c.y, -(c.y + c.x), -(c.angle - turnAngle 0)⟩ := by
    change Cordic.flatten ⟨c.x, -c.y, -c.angle⟩ (turnAngle 0, 0) = _
    unfold Cordic.flatten
    rw [if_pos (neg_pos.mpr hy)]
    simp only [Int.shiftRight_zero, Cordic.mk.injEq]
    omega
  have hconj : Complex.arg ⟨c.x, (-c.y : ℤ)⟩ = -Complex.arg ⟨c.x, c.y⟩ := by
    have hne : Complex.arg ⟨c.x, c.y⟩ ≠ π := fun hpi => by
      have hre := (Complex.arg_eq_pi_iff.mp hpi).1
      have hx' : (0 : ℝ) ≤ c.x := by exact_mod_cast hx
      exact absurd hre (not_lt.mpr hx')
    have hz : (⟨c.x, (-c.y : ℤ)⟩ : ℂ) = (starRingEnd ℂ) ⟨c.x, c.y⟩ := by
      apply Complex.ext
      · rfl
      · simp
    rw [hz, Complex.arg_conj, if_neg hne]
  have hupper : AimedAt (-θ) r 1 ((⟨c.x, -c.y, -c.angle⟩ : Cordic).turned 1) := by
    refine aimedAt_upper hx (neg_pos.mpr hy) ?_ ?_
    · dsimp only
      push_cast
      linarith
    · dsimp only
      rw [hconj, hθ]
      push_cast
      ring
  rw [hmirrored] at hupper
  rw [hturned]
  have hmirror := hupper.neg
  dsimp only at hmirror
  rw [neg_neg, Int.cast_neg, Int.cast_neg, neg_neg, mul_neg, neg_neg] at hmirror
  exact hmirror

/-- A vector on the right, and long, after its thirty-seven turns. -/
theorem angle_turned_right {c : Cordic} (hx : 0 ≤ c.x) (hlong : 10000000000 ≤ c.x + |c.y|) :
    |nanodegree * c.angle + Complex.arg ⟨c.x, c.y⟩ - nanodegree * (c.turned 37).angle|
      ≤ nanodegree * 1000 := by
  have hbound : ∀ θ, AimedAt θ 10000000000 1 (c.turned 1) →
      |θ - nanodegree * (c.turned 37).angle| ≤ nanodegree * 1000 := by
    intro θ haimed
    have hangle := angle_turned (by norm_num) haimed (m := 36) (by norm_num) (by norm_num)
    have htable : 2 * turnAngle 36 + (36 : ℕ)
        + ∑ i ∈ Finset.range (37 - 36), turnAngle (36 + i) = 39 := by decide +kernel
    have hdrift : Vectoring.drift 37 (3 / 10 ^ 10) 10000000000 36 ≤ nanodegree * 900 := by
      have hunit := nanodegree_near.1
      unfold Vectoring.drift
      norm_num at hunit ⊢
      linarith
    have hpos := nanodegree_pos
    rw [htable] at hangle
    refine hangle.trans ?_
    push_cast
    linarith
  obtain hneg | hzero | hpos := lt_trichotomy c.y 0
  · refine hbound _ (aimedAt_lower hx hneg ?_ rfl)
    rw [abs_of_neg hneg] at hlong
    exact_mod_cast hlong
  · have hx' : (0 : ℝ) ≤ c.x := by exact_mod_cast hx
    have harg : Complex.arg ⟨c.x, c.y⟩ = 0 := by
      have hreal : (⟨c.x, c.y⟩ : ℂ) = ((c.x : ℝ) : ℂ) := by
        rw [hzero]
        apply Complex.ext <;> simp
      rw [hreal, Complex.arg_ofReal_of_nonneg hx']
    rw [← foldl_flatten, foldl_flatten_of_y_eq_zero hzero, harg, add_zero, sub_self, abs_zero]
    exact mul_nonneg nanodegree_pos.le (by norm_num)
  · refine hbound _ (aimedAt_upper hx hpos ?_ rfl)
    rw [abs_of_pos hpos] at hlong
    exact_mod_cast hlong

theorem half_turn : nanodegree * (NANODEGREES_180 : ℤ) = π := by
  unfold nanodegree NANODEGREES_180
  push_cast
  ring

/-- **The angle of a long vector**, a little more than half a millidegree off at most. -/
theorem atan2Millidegrees_near {x y : ℤ} (hlong : 10000000000 ≤ |x| + |y|) :
    |atan2Millidegrees y x * millidegree - Complex.arg ⟨x, y⟩| ≤ 0.501 * millidegree := by
  have hne : ¬(x = 0 ∧ y = 0) := by
    rintro ⟨rfl, rfl⟩
    norm_num at hlong
  obtain ⟨c, hunfold, hturned⟩ : ∃ c : Cordic,
      atan2Millidegrees y x = (saturatingI128ToI32 (divRoundHalfAway (c.turned 37).angle
        NANODEGREES_PER_MILLIDEGREE)).toInt
      ∧ |Complex.arg ⟨x, y⟩ - nanodegree * (c.turned 37).angle| ≤ nanodegree * 1000 := by
    unfold atan2Millidegrees
    rw [if_neg hne]
    dsimp only
    by_cases hleft : x < 0
    · rw [if_pos hleft, foldl_flatten]
      have hx' : (0 : ℝ) < -x := by exact_mod_cast neg_pos.mpr hleft
      have hopposite : (⟨x, y⟩ : ℂ) = -⟨(-x : ℤ), (-y : ℤ)⟩ := by
        apply Complex.ext <;> simp
      refine ⟨_, rfl, ?_⟩
      have hright := angle_turned_right
        (c := ⟨-x, -y, if y ≥ 0 then NANODEGREES_180 else -NANODEGREES_180⟩)
        (neg_nonneg.mpr hleft.le) (by
          rw [abs_of_neg hleft] at hlong
          rwa [abs_neg])
      refine le_trans (le_of_eq ?_) hright
      congr 1
      rw [sub_left_inj]
      dsimp only
      by_cases hy : y ≥ 0
      · have hy' : (0 : ℝ) ≤ y := by exact_mod_cast hy
        have hcase : (⟨(-x : ℤ), (-y : ℤ)⟩ : ℂ).im < 0
            ∨ (⟨(-x : ℤ), (-y : ℤ)⟩ : ℂ).im = 0 ∧ 0 < (⟨(-x : ℤ), (-y : ℤ)⟩ : ℂ).re := by
          push_cast
          obtain h0 | hpos := hy'.eq_or_lt
          · exact .inr ⟨by rw [← h0, neg_zero], hx'⟩
          · exact .inl (neg_lt_zero.mpr hpos)
        rw [if_pos hy, half_turn, hopposite, Complex.arg_neg_eq_arg_add_pi_iff.mpr hcase, add_comm]
      · have hy' : (0 : ℝ) < -y := by exact_mod_cast neg_pos.mpr (not_le.mp hy)
        have hcase : 0 < (⟨(-x : ℤ), (-y : ℤ)⟩ : ℂ).im
            ∨ (⟨(-x : ℤ), (-y : ℤ)⟩ : ℂ).im = 0 ∧ (⟨(-x : ℤ), (-y : ℤ)⟩ : ℂ).re < 0 := by
          push_cast
          exact .inl hy'
        rw [if_neg hy, Int.cast_neg, mul_neg, half_turn, hopposite,
          Complex.arg_neg_eq_arg_sub_pi_iff.mpr hcase, sub_eq_add_neg, add_comm]
    · rw [if_neg hleft, foldl_flatten]
      refine ⟨_, rfl, ?_⟩
      have hright := angle_turned_right (c := ⟨x, y, 0⟩) (not_lt.mp hleft) (by
        rwa [abs_of_nonneg (not_lt.mp hleft)] at hlong)
      rwa [Int.cast_zero, mul_zero, zero_add] at hright
  rw [hunfold]
  generalize (c.turned 37).angle = angle at *
  have hround := divRoundHalfAway_near angle
    (by unfold NANODEGREES_PER_MILLIDEGREE; norm_num : 0 < NANODEGREES_PER_MILLIDEGREE)
  have hbound : |angle| ≤ 180000001000 := by
    have harg := Complex.abs_arg_le_pi ⟨x, y⟩
    have hpi : π = nanodegree * 180000000000 := by
      unfold nanodegree
      ring
    have hsum : nanodegree * |(angle : ℝ)| ≤ nanodegree * 180000001000 := by
      rw [← abs_of_pos nanodegree_pos, ← abs_mul, abs_of_pos nanodegree_pos]
      have htri := abs_sub_abs_le_abs_sub (nanodegree * angle) (Complex.arg ⟨x, y⟩)
      rw [abs_sub_comm] at htri
      linarith
    exact_mod_cast le_of_mul_le_mul_left hsum nanodegree_pos
  have hrounded := rounded_near angle
  generalize divRoundHalfAway angle NANODEGREES_PER_MILLIDEGREE = rounded at *
  unfold NANODEGREES_PER_MILLIDEGREE at hround
  have hround' := abs_le.mp hround
  have hbound' := abs_le.mp hbound
  have hword : (saturatingI128ToI32 rounded).toInt = rounded :=
    toInt_saturating_of_le (abs_le.mpr (by omega))
  have hturned' := abs_le.mp hturned
  have hrounded' := abs_le.mp hrounded
  have hmilli := millidegree_eq
  rw [hword, abs_le]
  constructor <;> linarith

end Spurfire
