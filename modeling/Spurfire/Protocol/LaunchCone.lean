import Spurfire.Protocol.LaunchRange
import Spurfire.Protocol.SaddleDive

/-!
# The launch cone

`clamp_launch_direction` measures the angle from the direction of travel to the chosen one, clamps
it to seventy-five degrees and turns the direction of travel by it, all with integers.

* `normalizePlanar_near`, `rotatePlanar_near`: the angle and the length of a vector at unit length,
  and of a turned one;
* `turnBetween`: the complex number whose argument `requestedAngle` measures;
* **`launch_cone_respected`**: the cone, the length, the directions kept, and no overflow.
-/

namespace Spurfire

open Real InnerProductGeometry

/-! ## Planar vectors as complex numbers -/

/-- A planar vector, with `z` real and `x` imaginary. -/
noncomputable def Planar.vector (v : Planar) : ℂ := ⟨v.z, v.x⟩

theorem norm_sq_of_ints (x z : ℤ) : ‖(⟨z, x⟩ : ℂ)‖ ^ 2 = ((x * x + z * z).natAbs : ℝ) := by
  have hnat : ((x * x + z * z).natAbs : ℤ) = x * x + z * z :=
    Int.natAbs_of_nonneg (add_nonneg (mul_self_nonneg _) (mul_self_nonneg _))
  have hreal : ((x * x + z * z).natAbs : ℝ) = ((x * x + z * z : ℤ) : ℝ) := by
    rw [← Int.cast_natCast, hnat]
  rw [hreal, Complex.sq_norm, Complex.normSq_apply, Int.cast_add, Int.cast_mul, Int.cast_mul,
    add_comm]

/-- **A vector at unit length**: its angle is kept up to the rounding, and so is its length, with
the rounded root. -/
theorem normalizePlanar_near {x z : ℤ} {l : ℕ} (hl : 1 ≤ l) (hlong : (l : ℝ) ≤ ‖(⟨z, x⟩ : ℂ)‖) :
    ∃ v, normalizePlanar x z = some v ∧ angle v.vector ⟨z, x⟩ ≤ 2 / 1000000
      ∧ 999999 ≤ ‖v.vector‖ ∧ ‖v.vector‖ ≤ 1000001 + 1000000 / l := by
  have hsq := norm_sq_of_ints x z
  have hl' : (1 : ℝ) ≤ l := by exact_mod_cast hl
  have hsquares : l * l ≤ (x * x + z * z).natAbs := by
    have hreal : ((l * l : ℕ) : ℝ) ≤ ((x * x + z * z).natAbs : ℝ) := by
      rw [← hsq]
      push_cast
      nlinarith
    exact_mod_cast hreal
  have hroot : l ≤ (x * x + z * z).natAbs.sqrt := Nat.le_sqrt.mpr hsquares
  have hne : x * x + z * z ≠ 0 := by
    intro hzero
    rw [hzero, Int.natAbs_zero] at hsquares
    nlinarith
  have hunits : DIRECTION_UNITS.toInt = 1000000 := rfl
  unfold normalizePlanar
  dsimp only
  rw [if_neg hne, hunits]
  have hlow : ((x * x + z * z).natAbs.sqrt : ℝ) ≤ ‖(⟨z, x⟩ : ℂ)‖ := by
    have hsqrt : ‖(⟨z, x⟩ : ℂ)‖ = √((x * x + z * z).natAbs : ℝ) := by
      rw [← hsq, sqrt_sq (norm_nonneg _)]
    rw [hsqrt]
    exact nat_sqrt_le_real_sqrt
  have hhigh : ‖(⟨z, x⟩ : ℂ)‖ ≤ (x * x + z * z).natAbs.sqrt + 1 := by
    have hsqrt : ‖(⟨z, x⟩ : ℂ)‖ = √((x * x + z * z).natAbs : ℝ) := by
      rw [← hsq, sqrt_sq (norm_nonneg _)]
    rw [hsqrt]
    exact real_sqrt_le_nat_sqrt_succ
  generalize (x * x + z * z).natAbs.sqrt = root at hroot hlow hhigh ⊢
  have hmax : max (root : ℤ) 1 = root := by omega
  have hroot' : (l : ℝ) ≤ root := by exact_mod_cast hroot
  have hpos : (0 : ℝ) < root := by linarith
  have hposInt : (0 : ℤ) < root := by omega
  rw [hmax]
  -- the parts before rounding, at most two units of length each
  have hpart : ∀ w : ℤ, |(w : ℝ)| ≤ ‖(⟨z, x⟩ : ℂ)‖ →
      |(divRoundHalfAway (w * 1000000) root : ℝ) - 1000000 / root * w| ≤ 1 / 2
      ∧ (saturatingI128ToI32 (divRoundHalfAway (w * 1000000) root)).toInt
        = divRoundHalfAway (w * 1000000) root := by
    intro w hw
    have hdiv := divRoundHalfAway_div (w * 1000000) hposInt
    have hsame : (((w * 1000000 : ℤ) : ℝ) / (root : ℤ)) = 1000000 / root * w := by
      push_cast
      ring
    rw [hsame] at hdiv
    refine ⟨hdiv, toInt_saturating_of_le ?_⟩
    have hsize : |1000000 / root * (w : ℝ)| ≤ 2000000 := by
      rw [abs_mul, abs_of_nonneg (by positivity), div_mul_eq_mul_div, div_le_iff₀ hpos]
      nlinarith
    have htri := abs_sub_abs_le_abs_sub (divRoundHalfAway (w * 1000000) root : ℝ)
      (1000000 / root * w)
    have hreal : |(divRoundHalfAway (w * 1000000) root : ℝ)| ≤ 2000000000 := by linarith
    exact_mod_cast hreal
  have hx := hpart x (Complex.abs_im_le_norm ⟨z, x⟩)
  have hz := hpart z (Complex.abs_re_le_norm ⟨z, x⟩)
  refine ⟨_, rfl, ?_⟩
  generalize hv : Planar.new _ _ = v
  have hvx : v.x = divRoundHalfAway (x * 1000000) root := by
    rw [← hv]
    exact hx.2
  have hvz : v.z = divRoundHalfAway (z * 1000000) root := by
    rw [← hv]
    exact hz.2
  have hnear : ‖v.vector - ((1000000 / root : ℝ) : ℂ) * ⟨z, x⟩‖ ≤ 1 := by
    refine (PlaneAngle.norm_le_of_parts (a := 1 / 2) (b := 1 / 2) ?_ ?_).trans (by norm_num)
    · convert hz.1 using 2
      rw [Complex.sub_re, Complex.re_ofReal_mul]
      unfold Planar.vector
      rw [hvz]
    · convert hx.1 using 2
      rw [Complex.sub_im, Complex.im_ofReal_mul]
      unfold Planar.vector
      rw [hvx]
  have hscale : ‖((1000000 / root : ℝ) : ℂ) * ⟨z, x⟩‖ = 1000000 / root * ‖(⟨z, x⟩ : ℂ)‖ := by
    rw [norm_mul, Complex.norm_real, Real.norm_of_nonneg (by positivity)]
  have hunit : 1000000 ≤ ‖((1000000 / root : ℝ) : ℂ) * ⟨z, x⟩‖ := by
    rw [hscale, div_mul_eq_mul_div, le_div_iff₀ hpos]
    linarith
  have hunit' : ‖((1000000 / root : ℝ) : ℂ) * ⟨z, x⟩‖ ≤ 1000000 + 1000000 / l := by
    rw [hscale]
    calc 1000000 / root * ‖(⟨z, x⟩ : ℂ)‖ ≤ 1000000 / root * (root + 1) := by gcongr
      _ = 1000000 + 1000000 / root := by field_simp
      _ ≤ 1000000 + 1000000 / l := by gcongr
  refine ⟨?_, ?_, ?_⟩
  · have hangle := PlaneAngle.angle_le_of_near (by norm_num) hunit hnear (by norm_num)
    have hmul : ((1000000 / root : ℝ) : ℂ) * ⟨z, x⟩ = (1000000 / root : ℝ) • (⟨z, x⟩ : ℂ) := by
      rw [Complex.real_smul]
    rw [hmul, angle_smul_right_of_pos _ _ (by positivity)] at hangle
    linarith
  · have htri := norm_sub_norm_le (((1000000 / root : ℝ) : ℂ) * ⟨z, x⟩) v.vector
    rw [norm_sub_rev] at htri
    linarith
  · have htri := norm_sub_norm_le v.vector (((1000000 / root : ℝ) : ℂ) * ⟨z, x⟩)
    linarith

/-! ## Rotating -/

theorem rotatePlanar_near {base : Planar} {m : ℤ} (hm : |m| ≤ 90000)
    (hbase : 999999 ≤ ‖base.vector‖) (hbase' : ‖base.vector‖ ≤ 1000126) :
    angle (rotatePlanar base m).vector
        (base.vector * Complex.exp ((m * millidegree : ℝ) * Complex.I)) ≤ 6 / 1000000
      ∧ 999999 ≤ ‖(rotatePlanar base m).vector‖ ∧ ‖(rotatePlanar base m).vector‖ ≤ 1000126 := by
  have hm' := abs_le.mp hm
  have hne : base.vector ≠ 0 := norm_pos_iff.mp (by linarith)
  by_cases hwhole : m % 360000 = 0
  · have hzero : m = 0 := by omega
    have hstay : rotatePlanar base m = base := if_pos hwhole
    rw [hstay, hzero, Int.cast_zero, zero_mul, Complex.ofReal_zero, zero_mul, Complex.exp_zero,
      mul_one, angle_self hne]
    exact ⟨by norm_num, hbase, hbase'⟩
  · obtain ⟨hgain, hangle⟩ := cordicSinCos_near hm
    have hunfold : rotatePlanar base m = (normalizePlanar
        (divRoundHalfAway (base.x * (cordicSinCos m).1 + base.z * (cordicSinCos m).2)
          CORDIC_SCALE)
        (divRoundHalfAway (-base.x * (cordicSinCos m).2 + base.z * (cordicSinCos m).1)
          CORDIC_SCALE)).getD base := if_neg hwhole
    rw [hunfold]
    generalize cordicSinCos m = sc at hgain hangle ⊢
    have hscale : (0 : ℤ) < CORDIC_SCALE := by
      unfold CORDIC_SCALE
      norm_num
    have hx := divRoundHalfAway_div (base.x * sc.1 + base.z * sc.2) hscale
    have hz := divRoundHalfAway_div (-base.x * sc.2 + base.z * sc.1) hscale
    generalize divRoundHalfAway (base.x * sc.1 + base.z * sc.2) CORDIC_SCALE = x at hx ⊢
    generalize divRoundHalfAway (-base.x * sc.2 + base.z * sc.1) CORDIC_SCALE = z at hz ⊢
    unfold CORDIC_SCALE at hx hz
    have hscaled : ‖((1 / 1000000000000 : ℝ) : ℂ) * (base.vector * ⟨sc.1, sc.2⟩)‖
        = 1 / 1000000000000 * (‖base.vector‖ * ‖(⟨sc.1, sc.2⟩ : ℂ)‖) := by
      rw [norm_mul, norm_mul, Complex.norm_real, Real.norm_of_nonneg (by norm_num)]
    have hlong : 599999 ≤ ‖((1 / 1000000000000 : ℝ) : ℂ) * (base.vector * ⟨sc.1, sc.2⟩)‖ := by
      rw [hscaled]
      have hproduct : 999999 * 600000000000 ≤ ‖base.vector‖ * ‖(⟨sc.1, sc.2⟩ : ℂ)‖ := by gcongr
      linarith
    have hnear : ‖(⟨z, x⟩ : ℂ) - ((1 / 1000000000000 : ℝ) : ℂ) * (base.vector * ⟨sc.1, sc.2⟩)‖
        ≤ 1 := by
      refine (PlaneAngle.norm_le_of_parts (a := 1 / 2) (b := 1 / 2) ?_ ?_).trans (by norm_num)
      · convert hz using 2
        rw [Complex.sub_re, Complex.re_ofReal_mul, Complex.mul_re]
        unfold Planar.vector
        push_cast
        ring
      · convert hx using 2
        rw [Complex.sub_im, Complex.im_ofReal_mul, Complex.mul_im]
        unfold Planar.vector
        push_cast
        ring
    have hlong' : ((8000 : ℕ) : ℝ) ≤ ‖(⟨z, x⟩ : ℂ)‖ := by
      have htri := norm_sub_norm_le
        (((1 / 1000000000000 : ℝ) : ℂ) * (base.vector * ⟨sc.1, sc.2⟩)) ⟨z, x⟩
      rw [norm_sub_rev] at htri
      push_cast
      linarith
    obtain ⟨v, hv, hvangle, hvlow, hvhigh⟩ := normalizePlanar_near (by norm_num) hlong'
    rw [hv, Option.getD_some]
    have hround : angle (⟨z, x⟩ : ℂ) (base.vector * ⟨sc.1, sc.2⟩) ≤ 2 * 1 / 599999 := by
      have h := PlaneAngle.angle_le_of_near (by norm_num) hlong hnear (by norm_num)
      have hmul : ((1 / 1000000000000 : ℝ) : ℂ) * (base.vector * ⟨sc.1, sc.2⟩)
          = (1 / 1000000000000 : ℝ) • (base.vector * (⟨sc.1, sc.2⟩ : ℂ)) := by
        rw [Complex.real_smul]
      rwa [hmul, angle_smul_right_of_pos _ _ (by norm_num)] at h
    have hturn : angle (base.vector * ⟨sc.1, sc.2⟩)
        (base.vector * Complex.exp ((m * millidegree : ℝ) * Complex.I)) ≤ 2 / 10 ^ 8 := by
      rw [Complex.angle_mul_left hne]
      exact hangle
    have htri := angle_le_angle_add_angle v.vector ⟨z, x⟩ (base.vector * ⟨sc.1, sc.2⟩)
    have htri' := angle_le_angle_add_angle v.vector (base.vector * ⟨sc.1, sc.2⟩)
      (base.vector * Complex.exp ((m * millidegree : ℝ) * Complex.I))
    refine ⟨?_, hvlow, hvhigh.trans (by norm_num)⟩
    linarith

/-! ## The cone -/

/-- The product with the conjugate has the coordinates that are measured. -/
noncomputable def turnBetween (base requested : Planar) : ℂ :=
  (starRingEnd ℂ) base.vector * requested.vector

theorem requestedAngle_near {base requested : Planar} (hbase : 999999 ≤ ‖base.vector‖)
    (hrequested : 999999 ≤ ‖requested.vector‖) :
    |requestedAngle base requested * millidegree - (turnBetween base requested).arg|
      ≤ 0.501 * millidegree := by
  have hparts : turnBetween base requested
      = ⟨(base.x * requested.x + base.z * requested.z : ℤ),
        (base.z * requested.x - base.x * requested.z : ℤ)⟩ := by
    unfold turnBetween Planar.vector
    apply Complex.ext
    · simp
      ring
    · simp
      ring
  have hnorm : ‖turnBetween base requested‖ = ‖base.vector‖ * ‖requested.vector‖ := by
    unfold turnBetween
    rw [norm_mul, Complex.norm_conj]
  have hproduct : (999999 : ℝ) * 999999 ≤ ‖base.vector‖ * ‖requested.vector‖ := by gcongr
  have hsum := Complex.norm_le_abs_re_add_abs_im (turnBetween base requested)
  rw [hnorm, hparts] at hsum
  rw [hparts]
  refine atan2Millidegrees_near ?_
  have hreal : (10000000000 : ℝ) ≤ |((base.x * requested.x + base.z * requested.z : ℤ) : ℝ)|
      + |((base.z * requested.x - base.x * requested.z : ℤ) : ℝ)| := by
    dsimp only at hsum
    linarith
  exact_mod_cast hreal

theorem angle_turnBetween {base requested : Planar} (hbase : base.vector ≠ 0) (z : ℂ) :
    angle (base.vector * z) requested.vector = angle z (turnBetween base requested) := by
  have hconj : (starRingEnd ℂ) base.vector ≠ 0 := (map_ne_zero _).mpr hbase
  have hpos : 0 < Complex.normSq base.vector := Complex.normSq_pos.mpr hbase
  have hmul : (starRingEnd ℂ) base.vector * (base.vector * z)
      = Complex.normSq base.vector • z := by
    rw [← mul_assoc, mul_comm _ base.vector, Complex.mul_conj, Complex.real_smul]
  rw [← Complex.angle_mul_left hconj, hmul, angle_smul_left_of_pos _ _ hpos]
  rfl

/-- What rounding and clamping do to the angles of the launch. -/
theorem clamped_near {base requested : Planar} {V : ℂ} (hbase : 999999 ≤ ‖base.vector‖)
    (hbase' : ‖base.vector‖ ≤ 1000126) (hV : angle base.vector V ≤ 2 / 1000000) :
    angle (rotatePlanar base (clampedAngle base requested)).vector V ≤ 75002 * millidegree := by
  have hclamped := abs_clampedAngle_le base requested
  have hrotated := (rotatePlanar_near (hclamped.trans (by norm_num)) hbase hbase').1
  have hne : base.vector ≠ 0 := norm_pos_iff.mp (by linarith)
  generalize clampedAngle base requested = m at hclamped hrotated ⊢
  have hturn : angle (base.vector * Complex.exp ((m * millidegree : ℝ) * Complex.I)) base.vector
      ≤ 75000 * millidegree := by
    have hone := PlaneAngle.angle_exp_exp_le (m * millidegree) 0
    rw [Complex.ofReal_zero, zero_mul, Complex.exp_zero, sub_zero] at hone
    calc angle (base.vector * Complex.exp ((m * millidegree : ℝ) * Complex.I)) base.vector
        = angle (base.vector * Complex.exp ((m * millidegree : ℝ) * Complex.I))
          (base.vector * 1) := by rw [mul_one]
      _ = angle (Complex.exp ((m * millidegree : ℝ) * Complex.I)) 1 :=
          Complex.angle_mul_left hne _ _
      _ ≤ |m * millidegree| := hone
      _ ≤ 75000 * millidegree := by
          rw [abs_mul, abs_of_pos millidegree_pos]
          exact mul_le_mul_of_nonneg_right (by exact_mod_cast hclamped) millidegree_pos.le
  have htri := angle_le_angle_add_angle (rotatePlanar base m).vector
    (base.vector * Complex.exp ((m * millidegree : ℝ) * Complex.I)) base.vector
  have htri' := angle_le_angle_add_angle (rotatePlanar base m).vector base.vector V
  have hunit := nanodegree_near.1
  have hmilli := millidegree_eq
  norm_num at hunit
  linarith

theorem clamped_keeps {base requested : Planar} {V C : ℂ} (hbase : 999999 ≤ ‖base.vector‖)
    (hbase' : ‖base.vector‖ ≤ 1000126) (hrequested : 999999 ≤ ‖requested.vector‖)
    (hV : angle base.vector V ≤ 2 / 1000000) (hC : angle requested.vector C ≤ 2 / 1000000)
    (hcone : angle C V ≤ 75000 * millidegree) :
    angle (rotatePlanar base (clampedAngle base requested)).vector C ≤ 2 * millidegree := by
  have hrotated := (rotatePlanar_near ((abs_clampedAngle_le base requested).trans (by norm_num))
    hbase hbase').1
  have hne : base.vector ≠ 0 := norm_pos_iff.mp (by linarith)
  have hne' : requested.vector ≠ 0 := norm_pos_iff.mp (by linarith)
  have hbetween : turnBetween base requested ≠ 0 :=
    mul_ne_zero ((map_ne_zero _).mpr hne) hne'
  have hmeasured := abs_le.mp (requestedAngle_near hbase hrequested)
  have harg : |(turnBetween base requested).arg| ≤ 75000 * millidegree + 4 / 1000000 := by
    rw [← Complex.angle_one_left hbetween, ← angle_turnBetween hne, mul_one]
    have htri := angle_le_angle_add_angle base.vector V requested.vector
    have htri' := angle_le_angle_add_angle V C requested.vector
    rw [angle_comm V C, angle_comm C requested.vector] at htri'
    linarith
  have harg' := abs_le.mp harg
  have hmilli := millidegree_eq
  have hunit := nanodegree_near.1
  have hclamped : |clampedAngle base requested * millidegree
      - (turnBetween base requested).arg| ≤ 0.501 * millidegree + 4 / 1000000 := by
    have hpos := millidegree_pos
    have hcases : (clampedAngle base requested = requestedAngle base requested)
        ∨ (clampedAngle base requested = 75000 ∧ 75000 ≤ requestedAngle base requested)
        ∨ (clampedAngle base requested = -75000 ∧ requestedAngle base requested ≤ -75000) := by
      unfold clampedAngle LAUNCH_CONE_HALF_ANGLE_MILLIDEGREES
      omega
    obtain hsame | ⟨hright, hover⟩ | ⟨hleft, hunder⟩ := hcases
    · rw [hsame, abs_le]
      constructor <;> linarith
    · have hover' : 75000 * millidegree ≤ requestedAngle base requested * millidegree :=
        mul_le_mul_of_nonneg_right (by exact_mod_cast hover) hpos.le
      rw [hright, abs_le]
      push_cast
      constructor <;> linarith
    · have hunder' : requestedAngle base requested * millidegree ≤ -75000 * millidegree :=
        mul_le_mul_of_nonneg_right (by exact_mod_cast hunder) hpos.le
      rw [hleft, abs_le]
      push_cast
      constructor <;> linarith
  have hturn : angle (base.vector * Complex.exp ((clampedAngle base requested * millidegree : ℝ)
      * Complex.I)) requested.vector ≤ 0.501 * millidegree + 4 / 1000000 := by
    rw [angle_turnBetween hne]
    exact (PlaneAngle.angle_exp_le _ hbetween _).trans hclamped
  have htri := angle_le_angle_add_angle (rotatePlanar base (clampedAngle base requested)).vector
    (base.vector * Complex.exp ((clampedAngle base requested * millidegree : ℝ) * Complex.I))
    requested.vector
  have htri' := angle_le_angle_add_angle (rotatePlanar base (clampedAngle base requested)).vector
    requested.vector C
  norm_num at hunit
  linarith

/-! ## Launches -/

noncomputable def QuantizedDirection.horizontal (d : QuantizedDirection) : ℂ :=
  ⟨d.z.toInt, d.x.toInt⟩

theorem norm_level (v : Planar) : ‖v.level.toReal‖ = ‖v.vector‖ := by
  have hsquare : ‖v.level.toReal‖ ^ 2 = ‖v.vector‖ ^ 2 := by
    have hx : v.level.x.toInt = v.x := rfl
    have hy : v.level.y.toInt = 0 := rfl
    have hz : v.level.z.toInt = v.z := rfl
    unfold QuantizedDirection.toReal
    rw [hx, hy, hz, EuclideanSpace.real_norm_sq_eq, Fin.sum_univ_three, Complex.sq_norm,
      Complex.normSq_apply]
    simp [Planar.vector]
    ring
  exact (sq_eq_sq₀ (norm_nonneg _) (norm_nonneg _)).mp hsquare

theorem launchBase_near {horseVelocityMmps : Velocity}
    (hspeed : MIN_DIVE_SPEED_MMPS ^ 2 ≤ planarSpeedSquared horseVelocityMmps) :
    angle (launchBase horseVelocityMmps).vector horseVelocityMmps.planar.vector ≤ 2 / 1000000
      ∧ 999999 ≤ ‖(launchBase horseVelocityMmps).vector‖
      ∧ ‖(launchBase horseVelocityMmps).vector‖ ≤ 1000126 := by
  have hlong : ((8000 : ℕ) : ℝ) ≤ ‖horseVelocityMmps.planar.vector‖ := by
    have hsquare : ((8000 ^ 2 : ℕ) : ℝ) ≤ ‖horseVelocityMmps.planar.vector‖ ^ 2 := by
      rw [Planar.vector, norm_sq_of_ints]
      exact Nat.cast_le.mpr hspeed
    push_cast at hsquare ⊢
    exact le_of_sq_le_sq (by linarith) (norm_nonneg _)
  obtain ⟨v, hv, hangle, hlow, hhigh⟩ := normalizePlanar_near (by norm_num) hlong
  have hbase : launchBase horseVelocityMmps = v := by
    unfold launchBase
    rw [hv, Option.getD_some]
  rw [hbase]
  exact ⟨hangle, hlow, hhigh.trans (by norm_num)⟩

theorem launchRequested_near (base : Planar) {chosen : QuantizedDirection}
    (hchosen : directionIsNormalizedInteger chosen = true) (hlevel : chosen.horizontal ≠ 0) :
    angle (launchRequested base (some chosen)).vector chosen.horizontal ≤ 2 / 1000000
      ∧ 999999 ≤ ‖(launchRequested base (some chosen)).vector‖ := by
  have hlong : ((1 : ℕ) : ℝ) ≤ ‖chosen.horizontal‖ := by
    have hsquare := norm_sq_of_ints chosen.x.toInt chosen.z.toInt
    have hpos : 0 < ‖chosen.horizontal‖ ^ 2 := pow_pos (norm_pos_iff.mpr hlevel) 2
    unfold QuantizedDirection.horizontal at hpos ⊢
    rw [hsquare, Nat.cast_pos] at hpos
    have hone : (1 : ℝ) ≤ ‖(⟨chosen.z.toInt, chosen.x.toInt⟩ : ℂ)‖ ^ 2 := by
      rw [hsquare]
      exact_mod_cast hpos
    rw [Nat.cast_one]
    exact le_of_sq_le_sq (by rw [one_pow]; exact hone) (norm_nonneg _)
  obtain ⟨v, hv, hangle, hlow, -⟩ := normalizePlanar_near le_rfl hlong
  have hrequested : launchRequested base (some chosen) = v := by
    unfold launchRequested
    rw [Option.filter_some, if_pos hchosen, Option.bind_some, hv, Option.getD_some]
  rw [hrequested]
  exact ⟨hangle, hlow⟩

/-- **The launch cone**: the clamped angle stays within seventy-five degrees, the clamped direction
within a thousandth of one unit in length and two millidegrees of the cone in angle, and a
direction chosen inside the cone is kept up to two millidegrees; no value on the way overflows. -/
theorem launch_cone_respected (horseVelocityMmps : Velocity)
    (hspeed : MIN_DIVE_SPEED_MMPS ^ 2 ≤ planarSpeedSquared horseVelocityMmps)
    (chosen : QuantizedDirection) (hchosen : directionIsNormalizedInteger chosen = true) :
    |(clampLaunchDirection horseVelocityMmps (some chosen)).clampedAngleMillidegrees.toInt| ≤ 75000
    ∧ |‖(clampLaunchDirection horseVelocityMmps (some chosen)).clampedDirection.toReal‖ - 1000000|
      ≤ 1000
    ∧ angle (clampLaunchDirection horseVelocityMmps (some chosen)).clampedDirection.horizontal
      horseVelocityMmps.planar.vector ≤ 75002 * millidegree
    ∧ (angle chosen.horizontal horseVelocityMmps.planar.vector ≤ 75000 * millidegree →
      angle (clampLaunchDirection horseVelocityMmps (some chosen)).clampedDirection.horizontal
        chosen.horizontal ≤ 2 * millidegree)
    ∧ clampLaunchDirectionChecked horseVelocityMmps (some chosen)
      = some (clampLaunchDirection horseVelocityMmps (some chosen)) := by
  refine ⟨?_, ?_, ?_, fun hcone => ?_, clampLaunchDirectionChecked_eq _ _⟩
  all_goals
    obtain ⟨hV, hbase, hbase'⟩ := launchBase_near hspeed
    rw [clampLaunchDirection_eq]
  · have hclamped := abs_clampedAngle_le (launchBase horseVelocityMmps)
      (launchRequested (launchBase horseVelocityMmps) (some chosen))
    unfold launchBetween
    dsimp only
    generalize clampedAngle _ _ = m at hclamped ⊢
    have hclamped' := abs_le.mp hclamped
    rw [Int32.toInt_ofInt_of_le (by omega) (by omega)]
    exact hclamped
  · unfold launchBetween
    dsimp only
    rw [norm_level]
    have hclamped := abs_clampedAngle_le (launchBase horseVelocityMmps)
      (launchRequested (launchBase horseVelocityMmps) (some chosen))
    have hrotated := (rotatePlanar_near (hclamped.trans (by norm_num)) hbase hbase').2
    rw [abs_le]
    constructor
    · linarith [hrotated.1]
    · linarith [hrotated.2]
  · exact clamped_near hbase hbase' hV
  · have hlevel : chosen.horizontal ≠ 0 := by
      intro hzero
      rw [hzero, angle_zero_left] at hcone
      unfold millidegree at hcone
      linarith [pi_pos]
    obtain ⟨hC, hrequested⟩ := launchRequested_near (launchBase horseVelocityMmps) hchosen hlevel
    exact clamped_keeps hbase hbase' hrequested hV hC hcone

def ahead : Velocity := .new 0 0 (-8000)

theorem vector_ahead : ahead.planar.vector = (8000 : ℝ) • (-1 : ℂ) := by
  have hx : ahead.planar.x = 0 := by decide
  have hz : ahead.planar.z = -8000 := by decide
  unfold Planar.vector
  rw [hx, hz]
  apply Complex.ext <;> simp

/-- The cosine of the angle is 0.8. -/
theorem angle_ahead_le : angle (QuantizedDirection.horizontal ⟨600000, 0, -800000⟩)
    ahead.planar.vector ≤ 75000 * millidegree := by
  have hchosen : QuantizedDirection.horizontal ⟨600000, 0, -800000⟩
      = (1000000 : ℝ) • (⟨-0.8, 0.6⟩ : ℂ) := by
    have hx : (600000 : Int32).toInt = 600000 := by decide
    have hz : (-800000 : Int32).toInt = -800000 := by decide
    apply Complex.ext <;> simp [QuantizedDirection.horizontal, hx, hz] <;> norm_num
  have hnorm : ‖(⟨-0.8, 0.6⟩ : ℂ)‖ = 1 := by
    rw [Complex.norm_eq_sqrt_sq_add_sq]
    norm_num
  have hinner : inner ℝ (⟨-0.8, 0.6⟩ : ℂ) (-1) = 0.8 := by
    simp [Complex.inner]
  have hthird : arccos (1 / 2) = π / 3 := by
    rw [← cos_pi_div_three, arccos_cos (by positivity) (by linarith [pi_pos])]
  rw [hchosen, vector_ahead, angle_smul_left_of_pos _ _ (by norm_num),
    angle_smul_right_of_pos _ _ (by norm_num)]
  calc angle (⟨-0.8, 0.6⟩ : ℂ) (-1) = arccos 0.8 := by
        unfold angle
        rw [hinner, hnorm, norm_neg, norm_one]
        norm_num
    _ ≤ arccos (1 / 2) := arccos_le_arccos (by norm_num)
    _ ≤ 75000 * millidegree := by
      rw [hthird]
      unfold millidegree
      linarith [pi_pos]

/-- A direction inside the cone is kept, and one straight aside is brought into it. -/
theorem launch_cone_respected_aside :
    angle (clampLaunchDirection ahead (some ⟨600000, 0, -800000⟩)).clampedDirection.horizontal
        (QuantizedDirection.horizontal ⟨600000, 0, -800000⟩) ≤ 2 * millidegree
    ∧ |(clampLaunchDirection ahead (some ⟨1000000, 0, 0⟩)).clampedAngleMillidegrees.toInt| ≤ 75000
    ∧ angle (clampLaunchDirection ahead (some ⟨1000000, 0, 0⟩)).clampedDirection.horizontal
        ahead.planar.vector ≤ 75002 * millidegree := by
  have hinside := launch_cone_respected ahead (by decide) ⟨600000, 0, -800000⟩ (by decide)
  have haside := launch_cone_respected ahead (by decide) ⟨1000000, 0, 0⟩ (by decide)
  exact ⟨hinside.2.2.2.1 angle_ahead_le, haside.1, haside.2.2.1⟩

end Spurfire
