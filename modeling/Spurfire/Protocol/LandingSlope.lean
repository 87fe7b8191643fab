import Spurfire.Protocol.CordicAngle
import Spurfire.Protocol.DeathCensor

/-!
# The accuracy of the landing slope

`landing_slope_millidegrees` is the angle of the rounded planar part of a normal over its height,
and a landing is bad above thirty degrees (`land_dive`).

* `smallSlope_above`: a normal close to the vertical keeps its slope, by a search over boxes;
* `slopeAngle_eq_arctan`: the angle to the vertical, and `arctan_sqrt_sub_le`: what rounding the
  planar part does to it;
* `slope_near`: the turns, the root and the last rounding together;
* **`landing_slope_accurate`**: the slope and the judgement of a landing.
-/

namespace Spurfire

open Real

/-! ## Small slopes -/

/-- No vector in the box ends below `floor` after the turns of `steps`, which sum up to `left`, by
the signs that the second coordinate can take. -/
def staysAbove (floor : ℤ) : List (ℤ × ℕ) → (left xl xh yl yh a : ℤ) → Bool
  | [], _, _, _, _, _, a => floor ≤ a
  | step :: rest, left, xl, xh, yl, yh, a =>
    floor ≤ a - left
      || (floor ≤ a || 0 < yl || yh < 0)
        && (yh ≤ 0 || staysAbove floor rest (left - step.1) (xl + max yl 1 >>> step.2)
          (xh + yh >>> step.2) (max yl 1 - xh >>> step.2) (yh - xl >>> step.2) (a + step.1))
        && (0 ≤ yl || staysAbove floor rest (left - step.1) (xl - min yh (-1) >>> step.2)
          (xh - yl >>> step.2) (yl + xl >>> step.2) (min yh (-1) + xh >>> step.2) (a - step.1))

/-- Every upward normal within fifteen units of the vertical, five values of `y` at a time. -/
theorem smallSlopes_stayAbove : ∀ i < 401,
    staysAbove (-499999) CORDIC_ANGLES_NANODEGREES.zipIdx 99882965834 (999000 + 5 * (i : ℕ))
      (999004 + 5 * (i : ℕ)) 1 15 0 = true := by
  decide +kernel

theorem angle_sub_sum_le (c : Cordic) {steps : List (ℤ × ℕ)} (hsteps : ∀ step ∈ steps, 0 ≤ step.1) :
    c.angle - (steps.map Prod.fst).sum ≤ (steps.foldl Cordic.flatten c).angle := by
  induction steps generalizing c with
  | nil => simp
  | cons step rest ih =>
    have hstep := hsteps step List.mem_cons_self
    have hrest := ih (c.flatten step) fun step hmem => hsteps step (List.mem_cons_of_mem _ hmem)
    have hturn : c.angle - step.1 ≤ (c.flatten step).angle := by
      unfold Cordic.flatten
      split_ifs
      · dsimp only
        omega
      · dsimp only
        omega
      · omega
    rw [List.map_cons, List.sum_cons, List.foldl_cons]
    omega

theorem staysAbove_sound {floor : ℤ} {steps : List (ℤ × ℕ)} (hsteps : ∀ step ∈ steps, 0 ≤ step.1)
    {left : ℤ} (hleft : left = (steps.map Prod.fst).sum) {xl xh yl yh : ℤ} {c : Cordic}
    (h : staysAbove floor steps left xl xh yl yh c.angle = true)
    (hxl : xl ≤ c.x) (hxh : c.x ≤ xh) (hyl : yl ≤ c.y) (hyh : c.y ≤ yh) :
    floor ≤ (steps.foldl Cordic.flatten c).angle := by
  induction steps generalizing left xl xh yl yh c with
  | nil => exact of_decide_eq_true h
  | cons step rest ih =>
    have hrest : ∀ step ∈ rest, 0 ≤ step.1 := fun step hmem =>
      hsteps step (List.mem_cons_of_mem _ hmem)
    have hleft' : left - step.1 = (rest.map Prod.fst).sum := by
      rw [hleft, List.map_cons, List.sum_cons, add_sub_cancel_left]
    unfold staysAbove at h
    rw [Bool.or_eq_true] at h
    obtain hsum | hboth := h
    · rw [hleft] at hsum
      exact (of_decide_eq_true hsum).trans (angle_sub_sum_le c hsteps)
    · rw [Bool.and_eq_true, Bool.and_eq_true] at hboth
      obtain ⟨⟨hzero, hup⟩, hdown⟩ := hboth
      obtain hneg | heq | hpos := lt_trichotomy c.y 0
      · have hyl' : ¬0 ≤ yl := not_le.mpr (hyl.trans_lt hneg)
        have hmin : c.y ≤ min yh (-1) := le_min hyh (by omega)
        have hturn : c.flatten step
            = ⟨c.x - c.y >>> step.2, c.y + c.x >>> step.2, c.angle - step.1⟩ := by
          unfold Cordic.flatten
          rw [if_neg (not_lt.mpr hneg.le), if_pos hneg]
        rw [decide_eq_false hyl', Bool.false_or] at hdown
        rw [List.foldl_cons, hturn]
        refine ih hrest hleft' hdown ?_ ?_ ?_ ?_
        · exact sub_le_sub hxl (shiftRight_mono hmin _)
        · exact sub_le_sub hxh (shiftRight_mono hyl _)
        · exact add_le_add hyl (shiftRight_mono hxl _)
        · exact add_le_add hmin (shiftRight_mono hxh _)
      · rw [foldl_flatten_of_y_eq_zero heq]
        simp only [Bool.or_eq_true, decide_eq_true_eq] at hzero
        omega
      · have hyh' : ¬yh ≤ 0 := not_le.mpr (hpos.trans_le hyh)
        have hmax : max yl 1 ≤ c.y := max_le hyl hpos
        have hturn : c.flatten step
            = ⟨c.x + c.y >>> step.2, c.y - c.x >>> step.2, c.angle + step.1⟩ := by
          unfold Cordic.flatten
          rw [if_pos hpos]
        rw [decide_eq_false hyh', Bool.false_or] at hup
        rw [List.foldl_cons, hturn]
        refine ih hrest hleft' hup ?_ ?_ ?_ ?_
        · exact add_le_add hxl (shiftRight_mono hmax _)
        · exact add_le_add hxh (shiftRight_mono hyh _)
        · exact sub_le_sub hmax (shiftRight_mono hxh _)
        · exact sub_le_sub hyh (shiftRight_mono hxl _)

theorem smallSlope_above {x h : ℤ} (hx : 999000 ≤ x) (hx' : x ≤ 1001000) (hh : 1 ≤ h)
    (hh' : h ≤ 15) : -499999 ≤ ((⟨x, h, 0⟩ : Cordic).turned 37).angle := by
  obtain ⟨i, hi⟩ : ∃ i : ℕ, (i : ℤ) = (x - 999000) / 5 :=
    ⟨((x - 999000) / 5).toNat, Int.toNat_of_nonneg (by omega)⟩
  have hsteps : ∀ step ∈ CORDIC_ANGLES_NANODEGREES.zipIdx, 0 ≤ step.1 := by decide
  rw [← foldl_flatten]
  exact staysAbove_sound hsteps (by decide +kernel) (smallSlopes_stayAbove i (by omega))
    (by dsimp only; omega) (by dsimp only; omega) hh hh'

/-! ## The angle of a normal -/

/-- The angle between a normal and the vertical. -/
noncomputable def slopeAngle (normal : QuantizedDirection) : ℝ :=
  InnerProductGeometry.angle normal.toReal (WithLp.toLp _ ![0, 1, 0])

def QuantizedDirection.horizontalSquared (d : QuantizedDirection) : ℕ :=
  (d.x.toInt * d.x.toInt + d.z.toInt * d.z.toInt).natAbs

theorem slopeAngle_eq_arctan {normal : QuantizedDirection} (hy : 0 < normal.y.toInt) :
    slopeAngle normal = arctan (√normal.horizontalSquared / normal.y.toInt) := by
  have hy' : (0 : ℝ) < normal.y.toInt := by exact_mod_cast hy
  have hhor : (normal.horizontalSquared : ℝ)
      = (normal.x.toInt : ℝ) ^ 2 + (normal.z.toInt : ℝ) ^ 2 := by
    have hnat : (normal.horizontalSquared : ℤ)
        = normal.x.toInt * normal.x.toInt + normal.z.toInt * normal.z.toInt :=
      Int.natAbs_of_nonneg (add_nonneg (mul_self_nonneg _) (mul_self_nonneg _))
    have hcast := congrArg (fun n : ℤ => (n : ℝ)) hnat
    push_cast at hcast
    rw [hcast]
    ring
  have hnorm : ‖normal.toReal‖
      = √((normal.y.toInt : ℝ) ^ 2 + normal.horizontalSquared) := by
    rw [EuclideanSpace.norm_eq, hhor]
    simp [QuantizedDirection.toReal, Fin.sum_univ_three]
    ring_nf
  have hinner : inner ℝ normal.toReal !₂[0, 1, 0] = (normal.y.toInt : ℝ) := by
    simp [QuantizedDirection.toReal, PiLp.inner_apply, Fin.sum_univ_three]
  have hunit : ‖(!₂[0, 1, 0] : EuclideanSpace ℝ (Fin 3))‖ = 1 := by
    simp [EuclideanSpace.norm_eq, Fin.sum_univ_three]
  have hsquare : (0 : ℝ) < (normal.y.toInt : ℝ) ^ 2 + normal.horizontalSquared := by positivity
  have hlength : 0 < ‖normal.toReal‖ := by
    rw [hnorm]
    exact sqrt_pos.mpr hsquare
  unfold slopeAngle InnerProductGeometry.angle
  rw [hinner, hunit, mul_one, arccos_eq_arctan (div_pos hy' hlength)]
  have hrest : 1 - ((normal.y.toInt : ℝ) / ‖normal.toReal‖) ^ 2
      = normal.horizontalSquared / ‖normal.toReal‖ ^ 2 := by
    rw [div_pow, hnorm, sq_sqrt hsquare.le]
    field_simp
    ring
  rw [hrest, sqrt_div (Nat.cast_nonneg _), sqrt_sq hlength.le, div_div_div_cancel_right₀ hlength.ne']

/-! ## The error of the angle -/

/-- A vector 998998 units long, less than 1.32 millidegrees from its angle after its turns. -/
theorem angle_turned_of_long {y h : ℤ} (hy : 0 < y) (hh : 0 ≤ h) (hlong : 998998 ≤ y + h) :
    |arctan (h / y) - nanodegree * ((⟨y, h, 0⟩ : Cordic).turned 37).angle|
      ≤ nanodegree * 1314300 := by
  obtain hzero | hpos := hh.eq_or_lt
  · rw [← hzero, ← foldl_flatten, foldl_flatten_of_y_eq_zero rfl]
    simp only [Int.cast_zero, zero_div, arctan_zero, mul_zero, sub_zero, abs_zero]
    exact mul_nonneg nanodegree_pos.le (by norm_num)
  · have hlong' : (998998 : ℝ) ≤ y + h := by exact_mod_cast hlong
    have hexact : arctan ((h : ℝ) / y) = π / 4 + arctan ((h - y) / (y + h)) := by
      have hy' : (0 : ℝ) < y := by exact_mod_cast hy
      have hh' : (0 : ℝ) ≤ h := by exact_mod_cast hh
      have hturn := Vectoring.exact_turn hy' hh' zero_le_one
      rw [mul_one, mul_one, arctan_one] at hturn
      linarith
    have haimed : AimedAt (arctan (h / y)) 998998 1 ((⟨y, h, 0⟩ : Cordic).turned 1) :=
      aimedAt_first (c := ⟨y, h, 0⟩) hy.le hpos hlong' (by rw [hexact]; simp)
    have hangle := angle_turned (by norm_num) haimed (m := 21) (by norm_num) (by norm_num)
    have htable : 2 * turnAngle 21 + (21 : ℕ)
        + ∑ i ∈ Finset.range (37 - 21), turnAngle (21 + i) = 109304 := by decide +kernel
    have hdrift : Vectoring.drift 37 (3 / 10 ^ 10) 998998 21 ≤ nanodegree * 1204996 := by
      have hunit := nanodegree_near.1
      unfold Vectoring.drift
      norm_num at hunit ⊢
      linarith
    rw [htable] at hangle
    refine hangle.trans ?_
    push_cast
    linarith

/-- The error of the rounded root. -/
theorem arctan_sqrt_sub_le {y : ℝ} {s : ℕ} (hy : 0 < y) (hy' : y ≤ 1001000)
    (hs : 998001000000 ≤ y ^ 2 + s) (hs' : y ^ 2 + s ≤ 1002001000000) :
    |arctan (√s / y) - arctan (s.sqrt / y)| ≤ nanodegree * 58000 := by
  have hlow : (s.sqrt : ℝ) ≤ √s := nat_sqrt_le_real_sqrt
  have hhigh : √s ≤ s.sqrt + 1 := real_sqrt_le_nat_sqrt_succ
  have hroot : (0 : ℝ) ≤ s.sqrt := Nat.cast_nonneg _
  have hsquare : √s * √s = s := mul_self_sqrt (Nat.cast_nonneg _)
  have hsqrt : √(s : ℝ) ≤ 1001000 := by
    rw [sqrt_le_left (by norm_num)]
    nlinarith [sq_nonneg y]
  have hslope : (0 : ℝ) ≤ √s / y * (s.sqrt / y) := by positivity
  have hden : 0 < y * y + √s * s.sqrt := by positivity
  rw [Arctan.arctan_sub (by linarith)]
  have hsame : (√s / y - s.sqrt / y) / (1 + √s / y * (s.sqrt / y))
      = (√s - s.sqrt) * y / (y * y + √s * s.sqrt) := by
    have hone : 1 + √s / y * (s.sqrt / y) ≠ 0 := by positivity
    rw [div_eq_div_iff hone hden.ne']
    field_simp
  rw [hsame]
  have hnonneg : 0 ≤ (√s - s.sqrt) * y / (y * y + √s * s.sqrt) :=
    div_nonneg (mul_nonneg (by linarith) hy.le) hden.le
  refine (Arctan.abs_arctan_le _).trans ?_
  rw [abs_of_nonneg hnonneg, div_le_iff₀ hden]
  have hunit := nanodegree_near.1
  have hnum : (√s - s.sqrt) * y ≤ 1001000 := by nlinarith
  have hbig : 997999999000 - 1001000 ≤ y * y + √s * s.sqrt := by nlinarith
  calc (√s - s.sqrt) * y ≤ 1001000 := hnum
    _ ≤ 1.745329251994 / 10 ^ 11 * 58000 * (997999999000 - 1001000) := by norm_num
    _ ≤ nanodegree * 58000 * (y * y + √s * s.sqrt) := by gcongr

/-! ## Normals -/

theorem normalized_bounds {normal : QuantizedDirection} (hup : 0 < normal.y.toInt)
    (hnormal : directionIsNormalizedInteger normal = true) :
    998001000000 ≤ normal.y.toInt ^ 2 + normal.horizontalSquared
      ∧ normal.y.toInt ^ 2 + normal.horizontalSquared ≤ 1002001000000
      ∧ normal.y.toInt ≤ 1001000 := by
  have hnat : (normal.horizontalSquared : ℤ)
      = normal.x.toInt * normal.x.toInt + normal.z.toInt * normal.z.toInt :=
    Int.natAbs_of_nonneg (add_nonneg (mul_self_nonneg _) (mul_self_nonneg _))
  have hnonneg : (0 : ℤ) ≤ normal.horizontalSquared := Int.natCast_nonneg _
  unfold directionIsNormalizedInteger NORMALIZED_LOWER_UNITS NORMALIZED_UPPER_UNITS at hnormal
  simp only [Bool.and_eq_true, decide_eq_true_eq] at hnormal
  have hsquare : normal.y.toInt ^ 2 + normal.horizontalSquared
      = normal.x.toInt * normal.x.toInt + normal.y.toInt * normal.y.toInt
        + normal.z.toInt * normal.z.toInt := by
    rw [hnat]
    ring
  have hlow : 998001000000 ≤ normal.y.toInt ^ 2 + normal.horizontalSquared := by
    rw [hsquare]
    exact hnormal.1
  have hhigh : normal.y.toInt ^ 2 + normal.horizontalSquared ≤ 1002001000000 := by
    rw [hsquare]
    exact hnormal.2
  refine ⟨hlow, hhigh, ?_⟩
  by_contra hbig
  rw [not_le] at hbig
  nlinarith

/-- A slope whose horizontal part is sixteen units or more is above half a millidegree. -/
theorem steepSlope_above {y h : ℤ} (hy : 0 < y) (hy' : y ≤ 1001000) (hh : 16 ≤ h)
    (hlong : 998998 ≤ y + h) : -499999 ≤ ((⟨y, h, 0⟩ : Cordic).turned 37).angle := by
  have herror := abs_le.mp (angle_turned_of_long hy (by omega) hlong)
  have hratio : (16 / 1001000 : ℝ) ≤ h / y := by
    have hh' : (16 : ℝ) ≤ h := by exact_mod_cast hh
    have hy0 : (0 : ℝ) < y := by exact_mod_cast hy
    have hy1 : (y : ℝ) ≤ 1001000 := by exact_mod_cast hy'
    gcongr
  have hsmall := abs_le.mp (Arctan.abs_arctan_sub_partialSum_le 1
    (by norm_num : (0 : ℝ) ≤ 16 / 1001000))
  have hfirst : Arctan.partialSum 1 (16 / 1001000 : ℝ) = 16 / 1001000 := by
    simp [Arctan.partialSum]
  have hmono := arctan_mono hratio
  rw [hfirst] at hsmall
  have hunit := nanodegree_near
  have hnum : nanodegree * 900000 ≤ 16 / 1001000 - (16 / 1001000 : ℝ) ^ (2 * 1 + 1) := by
    norm_num at hunit ⊢
    linarith
  have hangle : nanodegree * (-499999) ≤ nanodegree * ((⟨y, h, 0⟩ : Cordic).turned 37).angle := by
    have hpos := nanodegree_pos
    linarith
  exact_mod_cast le_of_mul_le_mul_left hangle nanodegree_pos

theorem slope_above {normal : QuantizedDirection} (hup : 0 < normal.y.toInt)
    (hnormal : directionIsNormalizedInteger normal = true) :
    998998 ≤ normal.y.toInt + normal.horizontalSquared.sqrt
      ∧ -499999 ≤ ((⟨normal.y.toInt, normal.horizontalSquared.sqrt, 0⟩ : Cordic).turned 37).angle
    := by
  obtain ⟨hlow, hhigh, hy⟩ := normalized_bounds hup hnormal
  have hroot : (normal.horizontalSquared : ℤ) < (normal.horizontalSquared.sqrt + 1) ^ 2 := by
    exact_mod_cast Nat.lt_succ_sqrt' normal.horizontalSquared
  have hnonneg : (0 : ℤ) ≤ normal.horizontalSquared.sqrt := Int.natCast_nonneg _
  have hlong : 998998 ≤ normal.y.toInt + normal.horizontalSquared.sqrt := by
    by_contra hshort
    rw [not_le] at hshort
    nlinarith
  refine ⟨hlong, ?_⟩
  obtain hzero | hpos := hnonneg.eq_or_lt
  · rw [← hzero, ← foldl_flatten, foldl_flatten_of_y_eq_zero rfl]
    norm_num
  · by_cases hsteep : 16 ≤ (normal.horizontalSquared.sqrt : ℤ)
    · exact steepSlope_above hup hy hsteep hlong
    · refine smallSlope_above ?_ hy hpos (by omega)
      by_contra hshort
      rw [not_le] at hshort hsteep
      nlinarith

/-! ## Rounding -/

theorem divRoundHalfAway_nonneg {n : ℤ} (hn : -499999 ≤ n) :
    0 ≤ divRoundHalfAway n NANODEGREES_PER_MILLIDEGREE := by
  unfold divRoundHalfAway NANODEGREES_PER_MILLIDEGREE
  split_ifs
  · omega
  · omega

/-- The angle of an upward vector is that of its turns, rounded. -/
theorem atan2Millidegrees_of_up {y h : ℤ} (hy : 0 < y) :
    atan2Millidegrees h y = (saturatingI128ToI32 (divRoundHalfAway
      ((⟨y, h, 0⟩ : Cordic).turned 37).angle NANODEGREES_PER_MILLIDEGREE)).toInt := by
  unfold atan2Millidegrees
  rw [if_neg fun hzero => hy.ne' hzero.1]
  dsimp only
  rw [if_neg (not_lt.mpr hy.le), foldl_flatten]

theorem slope_near {normal : QuantizedDirection} (hup : 0 < normal.y.toInt)
    (hnormal : directionIsNormalizedInteger normal = true) :
    ∃ slope : UInt32, landingSlopeMillidegrees normal = some slope
      ∧ |slope.toNat * millidegree - slopeAngle normal| ≤ 2 * millidegree := by
  obtain ⟨hlow, hhigh, hy⟩ := normalized_bounds hup hnormal
  obtain ⟨hlong, habove⟩ := slope_above hup hnormal
  have hturned := angle_turned_of_long hup (Int.natCast_nonneg _) hlong
  have hroot : |arctan (√normal.horizontalSquared / normal.y.toInt)
      - arctan (normal.horizontalSquared.sqrt / normal.y.toInt)| ≤ nanodegree * 58000 :=
    arctan_sqrt_sub_le (by exact_mod_cast hup) (by exact_mod_cast hy) (by exact_mod_cast hlow)
      (by exact_mod_cast hhigh)
  have hunfold : landingSlopeMillidegrees normal
      = if 0 ≤ atan2Millidegrees normal.horizontalSquared.sqrt normal.y.toInt
        then some (UInt32.ofNat
          (atan2Millidegrees normal.horizontalSquared.sqrt normal.y.toInt).natAbs)
        else none := by
    unfold landingSlopeMillidegrees
    rw [if_neg (by rw [hnormal]; simpa using hup)]
    rfl
  rw [Int.cast_natCast] at hturned
  rw [slopeAngle_eq_arctan hup, hunfold, atan2Millidegrees_of_up hup]
  generalize ((⟨normal.y.toInt, normal.horizontalSquared.sqrt, 0⟩ : Cordic).turned 37).angle
    = angle at *
  have hnonneg := divRoundHalfAway_nonneg habove
  have hround := divRoundHalfAway_near angle
    (by unfold NANODEGREES_PER_MILLIDEGREE; norm_num : 0 < NANODEGREES_PER_MILLIDEGREE)
  have hright : angle ≤ 90010000000 := by
    have hhalf := arctan_lt_pi_div_two (normal.horizontalSquared.sqrt / normal.y.toInt : ℝ)
    have hpi : π / 2 = nanodegree * 90000000000 := by
      unfold nanodegree
      ring
    have herror := (abs_le.mp hturned).1
    have hpos := nanodegree_pos
    have hle : nanodegree * angle ≤ nanodegree * 90010000000 := by linarith
    exact_mod_cast le_of_mul_le_mul_left hle hpos
  have hrounded := rounded_near angle
  generalize divRoundHalfAway angle NANODEGREES_PER_MILLIDEGREE = rounded at *
  unfold NANODEGREES_PER_MILLIDEGREE at hround
  have hround' := abs_le.mp hround
  have hsmall : rounded ≤ 90011 := by omega
  have hword : (saturatingI128ToI32 rounded).toInt = rounded :=
    toInt_saturating_of_le (abs_le.mpr (by omega))
  have hnat : ((UInt32.ofNat rounded.natAbs).toNat : ℤ) = rounded := by
    rw [UInt32.toNat_ofNat_of_lt' (by rw [UInt32.size]; omega)]
    omega
  have hreal : ((UInt32.ofNat rounded.natAbs).toNat : ℝ) = rounded := by exact_mod_cast hnat
  rw [hword]
  refine ⟨UInt32.ofNat rounded.natAbs, if_pos hnonneg, ?_⟩
  have hpos := nanodegree_pos
  have hturned' := abs_le.mp hturned
  have hroot' := abs_le.mp hroot
  have hrounded' := abs_le.mp hrounded
  have hmilli := millidegree_eq
  rw [hreal, abs_le]
  constructor <;> linarith

/-! ## Landings -/

namespace SaddleDiveKernel

/-- The observation ends the flight with a contact of that normal. -/
structure TouchesDown (k : SaddleDiveKernel) (airborne : AirborneState)
    (observation : RiderMotionObservation) (normal : QuantizedDirection) : Prop where
  current : k.currentTick = some observation.tick
  unresolved : k.motionResolved = false
  flying : k.state = .saddleDiveAirborne
  airborne : k.airborne = some airborne
  falling : observation.descending = true
  contact : observation.landingNormal = some normal

/-- The landing of the dive was judged so, in the state and, unless the dive had landed before, in
its row. -/
structure Judged (k k' : SaddleDiveKernel) (airborne : AirborneState)
    (observation : RiderMotionObservation) (bad : Bool) : Prop where
  landing : k'.landing = some ⟨airborne.diveId, observation.tick, bad⟩
  outcome : ∀ before record, k.rows[airborne.diveId]? = some before
    → before.row.landingTick = none → k'.rows[airborne.diveId]? = some record
    → record.row.landingOutcome = some (if bad then .bad else .good)

theorem landingOutcome_withDeath (window : UInt64) (tick : SimulationTick)
    (row : DiveInstrumentationRow) :
    (withDeath window tick row).landingOutcome = row.landingOutcome := by
  unfold withDeath
  cases row.landingTick with
  | none => rfl
  | some landing => rfl

theorem Edits.outcome {window : UInt64} {A : RowEdit → Prop} {record record' : DiveRecord}
    (h : Edits window A record record') {outcome : Option LandingOutcome}
    (hlanded : record.row.landingTick.isSome = true ∧ record.row.landingOutcome = outcome) :
    record'.row.landingTick.isSome = true ∧ record'.row.landingOutcome = outcome := by
  refine h.keeps (I := fun record => record.row.landingTick.isSome = true
    ∧ record.row.landingOutcome = outcome) (fun edit record _ hguard hlanded => ?_) hlanded
  cases edit with
  | died tick =>
    exact ⟨(congrArg Option.isSome (landingTick_withDeath window tick record.row)).trans hlanded.1,
      (landingOutcome_withDeath window tick record.row).trans hlanded.2⟩
  | landed launchTick observation slope bad =>
    have hnone : record.row.landingTick = none := hguard
    rw [hnone] at hlanded
    exact absurd hlanded.1 Bool.false_ne_true
  | remounted tick =>
    change (withRemount tick record).row.landingTick.isSome = true
      ∧ (withRemount tick record).row.landingOutcome = outcome
    unfold withRemount
    split_ifs
    · exact hlanded
    · exact hlanded
  | resolved shot result =>
    change (withHit result record.row).landingTick.isSome = true
      ∧ (withHit result record.row).landingOutcome = outcome
    unfold withHit
    split_ifs <;> exact hlanded
  | finalized => exact hlanded
  | elapsed => exact hlanded
  | censored reason => exact hlanded
  | damaged observation => exact hlanded
  | attempted tick => exact hlanded
  | accepted shot => exact hlanded

theorem landed_withLanding (window : UInt64) (launchTick : SimulationTick)
    (observation : RiderMotionObservation) (slope : UInt32) (bad : Bool)
    {row : DiveInstrumentationRow} (hnone : row.landingTick = none) :
    (withLanding window launchTick observation slope bad row).landingTick.isSome = true
      ∧ (withLanding window launchTick observation slope bad row).landingOutcome
        = some (if bad then .bad else .good) := by
  unfold withLanding
  rw [if_pos (by rw [hnone]; rfl)]
  dsimp only
  cases row.deathTick with
  | none => exact ⟨rfl, rfl⟩
  | some death => exact ⟨rfl, rfl⟩

theorem judged_resolveMotion {k : SaddleDiveKernel} {airborne : AirborneState}
    {observation : RiderMotionObservation} {normal : QuantizedDirection} {slope : UInt32}
    (h : k.TouchesDown airborne observation normal)
    (hslope : landingSlopeMillidegrees normal = some slope) :
    Judged k (k.resolveMotion observation).2 airborne observation
      (decide (slope > BAD_LANDING_THRESHOLD_MILLIDEGREES)) := by
  have hcontact : contactSlope observation = some slope := by
    unfold contactSlope
    rw [if_pos h.falling, h.contact]
    exact hslope
  obtain ⟨next, hresolved, hrows⟩ : ∃ next : SaddleDiveKernel, (k.resolveMotion observation).2
      = (next.landDive airborne observation slope SaddleDiveEffects.empty).1
      ∧ next.rows = k.rows := by
    unfold resolveMotion
    rw [if_neg (not_not.mpr h.current), if_neg (by rw [h.unresolved]; exact Bool.false_ne_true)]
    dsimp only
    rw [h.airborne]
    dsimp only
    rw [if_neg (not_not.mpr h.flying), hcontact]
    exact ⟨_, rfl, rfl⟩
  rw [hresolved]
  refine ⟨?_, fun before record hbefore hnone hrecord => ?_⟩
  · exact congrArg (·.landing) (drive_landDive (k := next) SaddleDiveEffects.empty)
  · have hevolves : Evolves next.windowTicks (fun _ _ => True)
        (next.touchDown airborne observation slope)
        (next.landDive airborne observation slope SaddleDiveEffects.empty).1 :=
      evolves_landed (fun _ => trivial) (fun _ => trivial) (fun _ _ _ _ => trivial) _
    obtain ⟨-, hgone⟩ | ⟨touched, other, htouched, hother, hedits⟩ := hevolves airborne.diveId
    · rw [hrecord] at hgone
      cases hgone
    · cases hrecord.symm.trans hother
      refine (hedits.outcome ?_).2
      unfold touchDown modifyRow at htouched
      rw [getElem?_modifyRecord, if_pos rfl] at htouched
      obtain ⟨before', hbefore', rfl⟩ := Option.map_eq_some_iff.mp htouched
      cases (hrows ▸ hbefore').symm.trans hbefore
      exact landed_withLanding _ _ _ _ _ hnone

end SaddleDiveKernel

/-- **The landing slope** of a normalised upward normal is within two millidegrees of its angle to
the vertical, and a landing is judged by that angle if it is more than two millidegrees away from
thirty degrees. -/
theorem landing_slope_accurate (normal : QuantizedDirection) (hup : 0 < normal.y.toInt)
    (hnormal : directionIsNormalizedInteger normal = true) :
    (∃ slope : UInt32, landingSlopeMillidegrees normal = some slope
      ∧ |slope.toNat * millidegree - slopeAngle normal| ≤ 2 * millidegree)
    ∧ ∀ k airborne observation, SaddleDiveKernel.TouchesDown k airborne observation normal →
      ∃ bad, SaddleDiveKernel.Judged k (k.resolveMotion observation).2 airborne observation bad
        ∧ (30002 * millidegree < slopeAngle normal → bad = true)
        ∧ (slopeAngle normal < 29998 * millidegree → bad = false) := by
  obtain ⟨slope, hslope, hnear⟩ := slope_near hup hnormal
  refine ⟨⟨slope, hslope, hnear⟩, fun k airborne observation htouches =>
    ⟨_, SaddleDiveKernel.judged_resolveMotion htouches hslope, fun hsteep => ?_, fun hflat => ?_⟩⟩
  · have hlt : (30000 : ℝ) * millidegree < slope.toNat * millidegree := by
      have herror := (abs_le.mp hnear).1
      linarith
    have hnat : 30000 < slope.toNat := by
      exact_mod_cast lt_of_mul_lt_mul_right hlt millidegree_pos.le
    exact decide_eq_true (UInt32.lt_iff_toNat_lt.mpr hnat)
  · have hlt : (slope.toNat : ℝ) * millidegree < 30000 * millidegree := by
      have herror := (abs_le.mp hnear).2
      linarith
    have hnat : slope.toNat < 30000 := by
      exact_mod_cast lt_of_mul_lt_mul_right hlt millidegree_pos.le
    exact decide_eq_false fun hgt => absurd (UInt32.lt_iff_toNat_lt.mp hgt) (not_lt.mpr hnat.le)

/-- The rider who dives at the second tick of a run and touches a slope of about thirty-seven
degrees. -/
def steepObservation : RiderMotionObservation :=
  { SaddleDiveKernel.fallingObservation 2 with landingNormal := some ⟨600000, 800000, 0⟩ }

theorem landing_slope_accurate_steep :
    0 < (⟨600000, 800000, 0⟩ : QuantizedDirection).y.toInt
    ∧ (∃ slope : UInt32, landingSlopeMillidegrees ⟨600000, 800000, 0⟩ = some slope
      ∧ |slope.toNat * millidegree - slopeAngle ⟨600000, 800000, 0⟩| ≤ 2 * millidegree)
    ∧ ∃ k airborne, SaddleDiveKernel.TouchesDown k airborne steepObservation ⟨600000, 800000, 0⟩
      ∧ ∃ bad, SaddleDiveKernel.Judged k (k.resolveMotion steepObservation).2 airborne
        steepObservation bad := by
  have hdives : (SaddleDiveKernel.new 60 (.ofTail 1) 7).toOption.any
      (fun kernel =>
        let flown := Runs.run SaddleDiveKernel.step kernel
          [.beginTick (SaddleDiveKernel.divingInput 1), .beginTick (SaddleDiveKernel.divingInput 2)]
        decide (flown.currentTick = some 2 ∧ flown.motionResolved = false
          ∧ flown.state = .saddleDiveAirborne) && flown.airborne.isSome) = true := by
    decide +kernel
  obtain ⟨hslope, hlands⟩ := landing_slope_accurate ⟨600000, 800000, 0⟩ (by decide) (by decide)
  refine ⟨by decide, hslope, ?_⟩
  obtain ⟨kernel, -, hflown⟩ := Option.any_eq_true _ _ |>.mp hdives
  rw [Bool.and_eq_true] at hflown
  obtain ⟨hcurrent, hresolved, hstate⟩ := of_decide_eq_true hflown.1
  obtain ⟨airborne, hairborne⟩ := Option.isSome_iff_exists.mp hflown.2
  have htouches : SaddleDiveKernel.TouchesDown _ airborne steepObservation ⟨600000, 800000, 0⟩ :=
    ⟨hcurrent, hresolved, hstate, hairborne, rfl, rfl⟩
  obtain ⟨bad, hjudged, -⟩ := hlands _ airborne steepObservation htouches
  exact ⟨_, airborne, htouches, bad, hjudged⟩

end Spurfire
