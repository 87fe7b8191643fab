import Spurfire.Lib.Arctan

/-!
# Angles in the complex plane

What a small change of a complex number, a turn and a product do to its angle to another.
-/

namespace PlaneAngle

open Complex InnerProductGeometry

theorem abs_arg_le {z : ℂ} (h : 0 < z.re) : |z.arg| ≤ |z.im| / z.re := by
  have hright := abs_lt.mp (Complex.abs_arg_lt_pi_div_two_iff.mpr (.inl h))
  have harctan : z.arg = Real.arctan (z.im / z.re) := by
    rw [← Complex.tan_arg, Real.arctan_tan hright.1 hright.2]
  rw [harctan]
  refine (Arctan.abs_arctan_le _).trans ?_
  rw [abs_div, abs_of_pos h]

/-- A change that is small beside the number. -/
theorem angle_le_of_near {u v : ℂ} {e r : ℝ} (hr : 0 < r) (hv : r ≤ ‖v‖) (hnear : ‖u - v‖ ≤ e)
    (he : 2 * e ≤ r) : angle u v ≤ 2 * e / r := by
  have hpos : 0 < ‖v‖ := hr.trans_le hv
  have hv0 : v ≠ 0 := norm_pos_iff.mp hpos
  have hratio : ‖u / v - 1‖ ≤ e / r := by
    rw [div_sub_one hv0, norm_div]
    exact div_le_div₀ ((norm_nonneg _).trans hnear) hnear hr hv
  have hhalf : e / r ≤ 1 / 2 := by
    rw [div_le_div_iff₀ hr two_pos]
    linarith
  have hre := (abs_le.mp ((Complex.abs_re_le_norm (u / v - 1)).trans hratio)).1
  have him := (Complex.abs_im_le_norm (u / v - 1)).trans hratio
  rw [Complex.sub_re, Complex.one_re] at hre
  rw [Complex.sub_im, Complex.one_im, sub_zero] at him
  have hright : 1 / 2 ≤ (u / v).re := by linarith
  have hu0 : u ≠ 0 := by
    rintro rfl
    rw [zero_div, Complex.zero_re] at hright
    linarith
  rw [Complex.angle_eq_abs_arg hu0 hv0]
  calc |(u / v).arg| ≤ |(u / v).im| / (u / v).re := abs_arg_le (by linarith)
    _ ≤ (e / r) / (1 / 2) := div_le_div₀ ((abs_nonneg _).trans him) him (by norm_num) hright
    _ = 2 * e / r := by ring

/-- Turns of one number by two angles. -/
theorem angle_exp_exp_le (x y : ℝ) : angle (exp (x * I)) (exp (y * I)) ≤ |x - y| := by
  by_cases hsmall : |x - y| ≤ Real.pi
  · rw [Complex.angle_exp_exp]
    obtain heq | hgt := (abs_le.mp hsmall).1.eq_or_lt
    · have hmod : toIocMod Real.two_pi_pos (-Real.pi) (x - y) = Real.pi := by
        rw [← heq]
        refine (toIocMod_eq_iff Real.two_pi_pos).mpr ⟨⟨?_, ?_⟩, -1, ?_⟩
        · linarith [Real.pi_pos]
        · linarith
        · simp
          ring
      rw [hmod, ← heq, abs_neg]
    · rw [(toIocMod_eq_self Real.two_pi_pos).mpr
        ⟨hgt, by linarith [(abs_le.mp hsmall).2]⟩]
  · exact (angle_le_pi _ _).trans (not_le.mp hsmall).le

/-- A number turned by an angle near its own. -/
theorem angle_exp_le (d : ℂ) (hd : d ≠ 0) (x : ℝ) : angle (exp (x * I)) d ≤ |x - d.arg| := by
  have hnorm : 0 < ‖d‖ := norm_pos_iff.mpr hd
  have hpolar : d = (‖d‖ : ℝ) • exp (d.arg * I) := by
    rw [Complex.real_smul]
    exact (Complex.norm_mul_exp_arg_mul_I d).symm
  calc angle (exp (x * I)) d = angle (exp (x * I)) (exp (d.arg * I)) := by
        conv_lhs => rw [hpolar, angle_smul_right_of_pos _ _ hnorm]
    _ ≤ |x - d.arg| := angle_exp_exp_le x d.arg

/-- The turn by the angle of tangent `s`. -/
theorem angle_one_add_mul_I (s x : ℝ) :
    angle (1 + s * I) (exp (x * I)) ≤ |Real.arctan s - x| := by
  have hre : (1 + s * I).re = 1 := by simp
  have hne : (1 + s * I : ℂ) ≠ 0 := by
    intro hzero
    rw [hzero] at hre
    simp at hre
  have harg : (1 + s * I : ℂ).arg = Real.arctan s := by
    have hright := abs_lt.mp (Complex.abs_arg_lt_pi_div_two_iff.mpr
      (.inl (by rw [hre]; exact one_pos) : 0 < (1 + s * I : ℂ).re ∨ (1 + s * I : ℂ) = 0))
    rw [← Real.arctan_tan hright.1 hright.2, Complex.tan_arg]
    simp
  rw [angle_comm, ← harg, abs_sub_comm]
  exact angle_exp_le _ hne x

theorem norm_le_norm_mul (z : ℂ) (s : ℝ) : ‖z‖ ≤ ‖z * (1 + s * I)‖ := by
  have hone : 1 ≤ ‖(1 + s * I : ℂ)‖ := by
    have hre := Complex.abs_re_le_norm (1 + s * I)
    simpa using hre
  rw [norm_mul]
  exact le_mul_of_one_le_right (norm_nonneg z) hone

theorem norm_le_of_parts {z : ℂ} {a b : ℝ} (hre : |z.re| ≤ a) (him : |z.im| ≤ b) : ‖z‖ ≤ a + b :=
  (Complex.norm_le_abs_re_add_abs_im z).trans (add_le_add hre him)

end PlaneAngle
