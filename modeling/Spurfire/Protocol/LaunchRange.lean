import Spurfire.Protocol.CordicDirection

/-!
# The range of the launch arithmetic

`clamp_launch_direction` and what it calls, with every sum, difference, product and negation of
`i128` and `i64` values checked for overflow.

* `Within`: the bound on the coordinates and the angle of a turn, which grows by `grown`;
* `clampLaunchDirectionChecked_eq`: no check fails, for any velocity and any direction.
-/

namespace Spurfire

/-! ## Checked operations -/

/-- The value, if an `i128` holds it. -/
def fitI128 (v : ℤ) : Option ℤ := if -2 ^ 127 ≤ v ∧ v < 2 ^ 127 then some v else none

/-- The value, if an `i64` holds it. -/
def fitI64 (v : ℤ) : Option ℤ := if -2 ^ 63 ≤ v ∧ v < 2 ^ 63 then some v else none

theorem fitI128_of_le {v : ℤ} (h : |v| ≤ 2 ^ 126) : fitI128 v = some v := by
  have h' := abs_le.mp h
  exact if_pos (by omega)

theorem fitI64_of_le {v : ℤ} (h : |v| ≤ 2 ^ 62) : fitI64 v = some v := by
  have h' := abs_le.mp h
  exact if_pos (by omega)

theorem bind_of_eq {α β : Type} {o : Option α} {a : α} (h : o = some a) (f : α → Option β) :
    (o >>= f) = f a := by
  rw [h]
  rfl

def divRoundHalfAwayChecked (numerator denominator : ℤ) : Option ℤ :=
  if 0 ≤ numerator then do
    let sum ← fitI128 (numerator + denominator / 2)
    return sum / denominator
  else do
    let size ← fitI128 (-numerator)
    let sum ← fitI128 (size + denominator / 2)
    let negated ← fitI128 (-sum)
    return negated.tdiv denominator

def directionIsNormalizedIntegerChecked (direction : QuantizedDirection) : Option Bool := do
  let xx ← fitI128 (direction.x.toInt * direction.x.toInt)
  let yy ← fitI128 (direction.y.toInt * direction.y.toInt)
  let xy ← fitI128 (xx + yy)
  let zz ← fitI128 (direction.z.toInt * direction.z.toInt)
  let squared ← fitI128 (xy + zz)
  return NORMALIZED_LOWER_UNITS * NORMALIZED_LOWER_UNITS ≤ squared
    && squared ≤ NORMALIZED_UPPER_UNITS * NORMALIZED_UPPER_UNITS

def normalizePlanarChecked (x z : ℤ) : Option (Option Planar) := do
  let xx ← fitI128 (x * x)
  let zz ← fitI128 (z * z)
  let squared ← fitI128 (xx + zz)
  if squared = 0 then return none
  else
    let length : ℤ := max squared.natAbs.sqrt 1
    let scaledX ← fitI128 (x * DIRECTION_UNITS.toInt)
    let quotientX ← divRoundHalfAwayChecked scaledX length
    let scaledZ ← fitI128 (z * DIRECTION_UNITS.toInt)
    let quotientZ ← divRoundHalfAwayChecked scaledZ length
    return some (.new (saturatingI128ToI32 quotientX) (saturatingI128ToI32 quotientZ))

/-- The results of one turn, a sum or a difference each. -/
def Cordic.checked (c : Cordic) : Option Cordic := do
  let x ← fitI128 c.x
  let y ← fitI128 c.y
  let angle ← fitI64 c.angle
  return ⟨x, y, angle⟩

def cordicSinCosChecked (angleMillidegrees : ℤ) : Option (ℤ × ℤ) := do
  let turned := angleMillidegrees % 360000
  let reduced := if turned > 180000 then turned - 360000 else turned
  let folded :=
    if reduced > 90000 then reduced - 180000
    else if reduced < -90000 then reduced + 180000
    else reduced
  let angle ← fitI64 (folded * NANODEGREES_PER_MILLIDEGREE)
  let c ← CORDIC_ANGLES_NANODEGREES.zipIdx.foldlM (fun c step => (c.rotate step).checked)
    (⟨CORDIC_GAIN_INVERSE, 0, angle⟩ : Cordic)
  if folded = reduced then return (c.x, c.y)
  else
    let x ← fitI128 (-c.x)
    let y ← fitI128 (-c.y)
    return (x, y)

def atan2MillidegreesChecked (y x : ℤ) : Option ℤ :=
  if x = 0 ∧ y = 0 then some 0
  else do
    let start ←
      if x < 0 then
        Cordic.checked ⟨-x, -y, if y ≥ 0 then NANODEGREES_180 else -NANODEGREES_180⟩
      else some ⟨x, y, 0⟩
    let c ← CORDIC_ANGLES_NANODEGREES.zipIdx.foldlM (fun c step => (c.flatten step).checked) start
    let rounded ← divRoundHalfAwayChecked c.angle NANODEGREES_PER_MILLIDEGREE
    return (saturatingI128ToI32 rounded).toInt

def rotatePlanarChecked (base : Planar) (angleMillidegrees : ℤ) : Option Planar :=
  if angleMillidegrees % 360000 = 0 then some base
  else do
    let (cosine, sine) ← cordicSinCosChecked angleMillidegrees
    let xc ← fitI128 (base.x * cosine)
    let zs ← fitI128 (base.z * sine)
    let xSum ← fitI128 (xc + zs)
    let x ← divRoundHalfAwayChecked xSum CORDIC_SCALE
    let negated ← fitI128 (-base.x)
    let xs ← fitI128 (negated * sine)
    let zc ← fitI128 (base.z * cosine)
    let zSum ← fitI128 (xs + zc)
    let z ← divRoundHalfAwayChecked zSum CORDIC_SCALE
    let normalized ← normalizePlanarChecked x z
    return normalized.getD base

/-- The chosen direction at unit length, if it is normalised and not vertical. -/
def requestedPlanarChecked (chosenDirection : Option QuantizedDirection) :
    Option (Option Planar) :=
  match chosenDirection with
  | none => some none
  | some direction => do
    let normalized ← directionIsNormalizedIntegerChecked direction
    if normalized then normalizePlanarChecked direction.x.toInt direction.z.toInt
    else return none

/-- The launch between the direction of travel and the one asked for. -/
def launchBetweenChecked (base requested : Planar) : Option LaunchDirection := do
  let xx ← fitI128 (base.x * requested.x)
  let zz ← fitI128 (base.z * requested.z)
  let dot ← fitI128 (xx + zz)
  let zx ← fitI128 (base.z * requested.x)
  let xz ← fitI128 (base.x * requested.z)
  let crossY ← fitI128 (zx - xz)
  let requestedAngle ← atan2MillidegreesChecked crossY dot
  let clampedAngle := max (-LAUNCH_CONE_HALF_ANGLE_MILLIDEGREES)
    (min requestedAngle LAUNCH_CONE_HALF_ANGLE_MILLIDEGREES)
  let clamped ← rotatePlanarChecked base clampedAngle
  return {
    requestedDirection := requested.level
    requestedAngleMillidegrees := Int32.ofInt requestedAngle
    clampedDirection := clamped.level
    clampedAngleMillidegrees := Int32.ofInt clampedAngle
    directionWasClamped := decide (requestedAngle ≠ clampedAngle) }

def clampLaunchDirectionChecked (horseVelocityMmps : Velocity)
    (chosenDirection : Option QuantizedDirection) : Option LaunchDirection := do
  let moving ← normalizePlanarChecked horseVelocityMmps.planar.x horseVelocityMmps.planar.z
  let base := moving.getD (.new 0 (-DIRECTION_UNITS))
  let chosen ← requestedPlanarChecked chosenDirection
  launchBetweenChecked base (chosen.getD base)

/-! ## The parts of a launch direction -/

/-- The direction of travel. -/
def launchBase (horseVelocityMmps : Velocity) : Planar :=
  (normalizePlanar horseVelocityMmps.planar.x horseVelocityMmps.planar.z).getD
    (.new 0 (-DIRECTION_UNITS))

def launchRequested (base : Planar) (chosenDirection : Option QuantizedDirection) : Planar :=
  ((chosenDirection.filter directionIsNormalizedInteger).bind fun direction =>
    normalizePlanar direction.x.toInt direction.z.toInt).getD base

def requestedAngle (base requested : Planar) : ℤ :=
  atan2Millidegrees (base.z * requested.x - base.x * requested.z)
    (base.x * requested.x + base.z * requested.z)

def clampedAngle (base requested : Planar) : ℤ :=
  max (-LAUNCH_CONE_HALF_ANGLE_MILLIDEGREES)
    (min (requestedAngle base requested) LAUNCH_CONE_HALF_ANGLE_MILLIDEGREES)

theorem abs_clampedAngle_le (base requested : Planar) : |clampedAngle base requested| ≤ 75000 := by
  unfold clampedAngle LAUNCH_CONE_HALF_ANGLE_MILLIDEGREES
  rw [abs_le]
  omega

def launchBetween (base requested : Planar) : LaunchDirection where
  requestedDirection := requested.level
  requestedAngleMillidegrees := Int32.ofInt (requestedAngle base requested)
  clampedDirection := (rotatePlanar base (clampedAngle base requested)).level
  clampedAngleMillidegrees := Int32.ofInt (clampedAngle base requested)
  directionWasClamped := decide (requestedAngle base requested ≠ clampedAngle base requested)

theorem clampLaunchDirection_eq (horseVelocityMmps : Velocity)
    (chosenDirection : Option QuantizedDirection) :
    clampLaunchDirection horseVelocityMmps chosenDirection
      = launchBetween (launchBase horseVelocityMmps)
        (launchRequested (launchBase horseVelocityMmps) chosenDirection) := rfl

/-! ## The bounds -/

theorem divRoundHalfAwayChecked_eq {n d : ℤ} (hn : |n| ≤ 2 ^ 125) (hd : 0 < d)
    (hd' : d ≤ 2 ^ 125) : divRoundHalfAwayChecked n d = some (divRoundHalfAway n d) := by
  have hn' := abs_le.mp hn
  unfold divRoundHalfAwayChecked divRoundHalfAway
  split_ifs with hpos
  · rw [fitI128_of_le (abs_le.mpr (by omega))]
    rfl
  · have hsize : 0 ≤ -n + d / 2 := by omega
    rw [bind_of_eq (fitI128_of_le (abs_le.mpr (by omega))),
      bind_of_eq (fitI128_of_le (abs_le.mpr (by omega))),
      bind_of_eq (fitI128_of_le (abs_le.mpr (by omega))), Int.neg_tdiv,
      Int.tdiv_eq_ediv_of_nonneg hsize]
    rfl

theorem abs_mul_le {a b m n : ℤ} (ha : |a| ≤ m) (hb : |b| ≤ n) : |a * b| ≤ m * n := by
  rw [abs_mul]
  exact mul_le_mul ha hb (abs_nonneg b) ((abs_nonneg a).trans ha)

theorem abs_add_le_add {a b m n : ℤ} (ha : |a| ≤ m) (hb : |b| ≤ n) : |a + b| ≤ m + n :=
  (abs_add_le a b).trans (add_le_add ha hb)

theorem abs_toInt_le (v : Int32) : |v.toInt| ≤ 2 ^ 31 := by
  have hlow := Int32.le_toInt v
  have hhigh := Int32.toInt_lt v
  exact abs_le.mpr (by omega)

theorem directionIsNormalizedIntegerChecked_eq (direction : QuantizedDirection) :
    directionIsNormalizedIntegerChecked direction
      = some (directionIsNormalizedInteger direction) := by
  have hx := abs_mul_le (abs_toInt_le direction.x) (abs_toInt_le direction.x)
  have hy := abs_mul_le (abs_toInt_le direction.y) (abs_toInt_le direction.y)
  have hz := abs_mul_le (abs_toInt_le direction.z) (abs_toInt_le direction.z)
  have hxy := abs_add_le_add hx hy
  unfold directionIsNormalizedIntegerChecked
  rw [bind_of_eq (fitI128_of_le (hx.trans (by norm_num))),
    bind_of_eq (fitI128_of_le (hy.trans (by norm_num))),
    bind_of_eq (fitI128_of_le (hxy.trans (by norm_num))),
    bind_of_eq (fitI128_of_le (hz.trans (by norm_num))),
    bind_of_eq (fitI128_of_le ((abs_add_le_add hxy hz).trans (by norm_num)))]
  rfl

theorem normalizePlanarChecked_eq {x z : ℤ} (hx : |x| ≤ 2 ^ 60) (hz : |z| ≤ 2 ^ 60) :
    normalizePlanarChecked x z = some (normalizePlanar x z) := by
  have hxx := abs_mul_le hx hx
  have hzz := abs_mul_le hz hz
  have hsum := abs_add_le_add hxx hzz
  have hunits : |DIRECTION_UNITS.toInt| ≤ 1000000 := by decide
  have hx' := abs_mul_le hx hunits
  have hz' := abs_mul_le hz hunits
  have hroot : max ((x * x + z * z).natAbs.sqrt : ℤ) 1 ≤ 2 ^ 125 := by
    have hsqrt := Nat.sqrt_le_self (x * x + z * z).natAbs
    have hsum' := abs_le.mp hsum
    omega
  unfold normalizePlanarChecked normalizePlanar
  rw [bind_of_eq (fitI128_of_le (hxx.trans (by norm_num))),
    bind_of_eq (fitI128_of_le (hzz.trans (by norm_num))),
    bind_of_eq (fitI128_of_le (hsum.trans (by norm_num)))]
  dsimp only
  split_ifs
  · rfl
  · rw [bind_of_eq (fitI128_of_le (hx'.trans (by norm_num))),
    bind_of_eq (divRoundHalfAwayChecked_eq (hx'.trans (by norm_num)) (by omega) hroot),
    bind_of_eq (fitI128_of_le (hz'.trans (by norm_num))),
    bind_of_eq (divRoundHalfAwayChecked_eq (hz'.trans (by norm_num)) (by omega) hroot)]
    rfl

/-! ## Turns -/

structure Within (b a : ℤ) (c : Cordic) : Prop where
  x : |c.x| ≤ b
  y : |c.y| ≤ b
  angle : |c.angle| ≤ a

theorem Within.checked {b a : ℤ} {c : Cordic} (h : Within b a c) (hb : b ≤ 2 ^ 126)
    (ha : a ≤ 2 ^ 62) : c.checked = some c := by
  unfold Cordic.checked
  rw [bind_of_eq (fitI128_of_le (h.x.trans hb)), bind_of_eq (fitI128_of_le (h.y.trans hb)),
    bind_of_eq (fitI64_of_le (h.angle.trans ha))]
  rfl

theorem abs_shiftRight_le {y b : ℤ} (hy : |y| ≤ b) (k : ℕ) : |y >>> k| ≤ b >>> k + 1 := by
  have hy' := abs_le.mp hy
  have hhigh := shiftRight_mono hy'.2 k
  have hlow := shiftRight_mono hy'.1 k
  have hneg : -(b >>> k) - 1 ≤ (-b) >>> k := by
    rw [Int.shiftRight_eq_div_pow, Int.shiftRight_eq_div_pow]
    have hpow : (0 : ℤ) < (2 ^ k : ℕ) := by positivity
    generalize ((2 ^ k : ℕ) : ℤ) = p at hpow
    have h1 := Int.ediv_mul_add_emod b p
    have h2 := Int.ediv_mul_add_emod (-b) p
    have h3 := Int.emod_lt_of_pos b hpow
    have h4 := Int.emod_lt_of_pos (-b) hpow
    nlinarith
  exact abs_le.mpr ⟨by omega, by omega⟩

/-- The bound after a turn. -/
def grown (b : ℤ) (step : ℤ × ℕ) : ℤ := b + (b >>> step.2 + 1)

theorem within_flatten {b a : ℤ} {c : Cordic} (h : Within b a c) (step : ℤ × ℕ) :
    Within (grown b step) (a + |step.1|) (c.flatten step) := by
  have hx := abs_shiftRight_le h.x step.2
  have hy := abs_shiftRight_le h.y step.2
  have hb := (abs_nonneg _).trans hx
  unfold Cordic.flatten
  split_ifs
  · exact ⟨abs_add_le_add h.x hy, (abs_sub _ _).trans (add_le_add h.y hx),
      abs_add_le_add h.angle le_rfl⟩
  · exact ⟨(abs_sub _ _).trans (add_le_add h.x hy), abs_add_le_add h.y hx,
      (abs_sub _ _).trans (add_le_add h.angle le_rfl)⟩
  · exact ⟨h.x.trans (le_add_of_nonneg_right hb), h.y.trans (le_add_of_nonneg_right hb),
      h.angle.trans (le_add_of_nonneg_right (abs_nonneg _))⟩

theorem within_rotate {b a : ℤ} {c : Cordic} (h : Within b a c) (step : ℤ × ℕ) :
    Within (grown b step) (a + |step.1|) (c.rotate step) := by
  have hx := abs_shiftRight_le h.x step.2
  have hy := abs_shiftRight_le h.y step.2
  have hb := (abs_nonneg _).trans hx
  unfold Cordic.rotate
  split_ifs
  · exact ⟨(abs_sub _ _).trans (add_le_add h.x hy), abs_add_le_add h.y hx,
      (abs_sub _ _).trans (add_le_add h.angle le_rfl)⟩
  · exact ⟨abs_add_le_add h.x hy, (abs_sub _ _).trans (add_le_add h.y hx),
      abs_add_le_add h.angle le_rfl⟩
  · exact ⟨h.x.trans (le_add_of_nonneg_right hb), h.y.trans (le_add_of_nonneg_right hb),
      h.angle.trans (le_add_of_nonneg_right (abs_nonneg _))⟩

theorem le_grown {b : ℤ} (hb : 0 ≤ b) (step : ℤ × ℕ) : b ≤ grown b step := by
  have hshift := shiftRight_mono hb step.2
  rw [Int.zero_shiftRight] at hshift
  unfold grown
  omega

theorem le_foldl_grown {b : ℤ} (hb : 0 ≤ b) (steps : List (ℤ × ℕ)) :
    b ≤ steps.foldl grown b := by
  induction steps generalizing b with
  | nil => exact le_rfl
  | cons step rest ih =>
    have hgrown := le_grown hb step
    exact hgrown.trans (ih (hb.trans hgrown))

/-- Turns whose bounds fit are not stopped by a check. -/
theorem foldlM_checked {f : Cordic → ℤ × ℕ → Cordic}
    (hf : ∀ {b a c}, Within b a c → ∀ step, Within (grown b step) (a + |step.1|) (f c step))
    {b a : ℤ} {c : Cordic} (h : Within b a c) {steps : List (ℤ × ℕ)}
    (hb : steps.foldl grown b ≤ 2 ^ 126) (ha : a + (steps.map (|·.1|)).sum ≤ 2 ^ 62) :
    steps.foldlM (fun c step => (f c step).checked) c = some (steps.foldl f c)
      ∧ Within (steps.foldl grown b) (a + (steps.map (|·.1|)).sum) (steps.foldl f c) := by
  induction steps generalizing b a c with
  | nil => exact ⟨rfl, by simpa using h⟩
  | cons step rest ih =>
    have hstep := hf h step
    have hb0 : 0 ≤ b := (abs_nonneg _).trans h.x
    have hgrown := le_foldl_grown (hb0.trans (le_grown hb0 step)) rest
    have hsum : 0 ≤ (rest.map (|·.1|)).sum :=
      List.sum_nonneg fun n hn => by
        obtain ⟨step, -, rfl⟩ := List.mem_map.mp hn
        exact abs_nonneg _
    rw [List.map_cons, List.sum_cons, ← add_assoc] at ha ⊢
    rw [List.foldl_cons] at hb ⊢
    rw [List.foldlM_cons, bind_of_eq (hstep.checked (hgrown.trans hb) (by omega)), List.foldl_cons]
    exact ih hstep hb ha

/-! ## The launch -/

theorem sum_CORDIC_ANGLES_NANODEGREES :
    (CORDIC_ANGLES_NANODEGREES.zipIdx.map (|·.1|)).sum = 99882965834 := by
  decide +kernel

theorem cordicSinCosChecked_eq {m : ℤ} (hm : |m| ≤ 90000) :
    cordicSinCosChecked m = some (cordicSinCos m)
      ∧ |(cordicSinCos m).1| ≤ 2 ^ 42 ∧ |(cordicSinCos m).2| ≤ 2 ^ 42 := by
  have hm' := abs_le.mp hm
  have hgrown : CORDIC_ANGLES_NANODEGREES.zipIdx.foldl grown CORDIC_GAIN_INVERSE ≤ 2 ^ 42 := by
    decide +kernel
  have hstart : Within CORDIC_GAIN_INVERSE 90000000000
      ⟨CORDIC_GAIN_INVERSE, 0, m * NANODEGREES_PER_MILLIDEGREE⟩ := by
    refine ⟨le_rfl, (by decide : |(0 : ℤ)| ≤ CORDIC_GAIN_INVERSE), ?_⟩
    unfold NANODEGREES_PER_MILLIDEGREE
    exact abs_le.mpr (by dsimp only; omega)
  obtain ⟨hfold, hwithin⟩ := foldlM_checked within_rotate hstart (hgrown.trans (by norm_num))
    (by rw [sum_CORDIC_ANGLES_NANODEGREES]; norm_num)
  have hreduced : (if m % 360000 > 180000 then m % 360000 - 360000 else m % 360000) = m := by
    split_ifs
    · omega
    · omega
  have hfolded : (if m > 90000 then m - 180000 else if m < -90000 then m + 180000 else m) = m := by
    rw [if_neg (not_lt.mpr hm'.2), if_neg (not_lt.mpr hm'.1)]
  change _ = some (gainTurned m) at hfold
  change Within _ _ (gainTurned m) at hwithin
  rw [cordicSinCos_of_le hm]
  dsimp only
  refine ⟨?_, hwithin.x.trans hgrown, hwithin.y.trans hgrown⟩
  unfold cordicSinCosChecked
  dsimp only
  rw [hreduced, hfolded, bind_of_eq (fitI64_of_le (hstart.angle.trans (by norm_num))),
    bind_of_eq hfold, if_pos rfl]
  rfl

theorem atan2MillidegreesChecked_eq {x y : ℤ} (hx : |x| ≤ 18446744073709551616)
    (hy : |y| ≤ 18446744073709551616) :
    atan2MillidegreesChecked y x = some (atan2Millidegrees y x) := by
  have hgrown : CORDIC_ANGLES_NANODEGREES.zipIdx.foldl grown 18446744073709551616
      ≤ 1180591620717411303424 := by
    decide +kernel
  have hturned : ∀ start, Within (18446744073709551616) NANODEGREES_180 start →
      (do
        let c ← CORDIC_ANGLES_NANODEGREES.zipIdx.foldlM
          (fun c step => (c.flatten step).checked) start
        let rounded ← divRoundHalfAwayChecked c.angle NANODEGREES_PER_MILLIDEGREE
        return (saturatingI128ToI32 rounded).toInt)
      = some (saturatingI128ToI32 (divRoundHalfAway
        (CORDIC_ANGLES_NANODEGREES.zipIdx.foldl Cordic.flatten start).angle
        NANODEGREES_PER_MILLIDEGREE)).toInt := by
    intro start hstart
    have hsum : NANODEGREES_180 + (CORDIC_ANGLES_NANODEGREES.zipIdx.map (|·.1|)).sum ≤ 2 ^ 62 := by
      rw [sum_CORDIC_ANGLES_NANODEGREES]
      decide
    obtain ⟨hfold, hwithin⟩ := foldlM_checked within_flatten hstart
      (hgrown.trans (by norm_num)) hsum
    rw [bind_of_eq hfold, bind_of_eq (divRoundHalfAwayChecked_eq
      (hwithin.angle.trans (hsum.trans (by norm_num))) (by decide) (by decide))]
    rfl
  unfold atan2MillidegreesChecked atan2Millidegrees
  by_cases hzero : x = 0 ∧ y = 0
  · rw [if_pos hzero, if_pos hzero]
  · rw [if_neg hzero, if_neg hzero]
    dsimp only
    by_cases hleft : x < 0
    · have hstart : Within (18446744073709551616) NANODEGREES_180
          ⟨-x, -y, if y ≥ 0 then NANODEGREES_180 else -NANODEGREES_180⟩ := by
        refine ⟨(abs_neg x).trans_le hx, (abs_neg y).trans_le hy, ?_⟩
        dsimp only
        split_ifs
        · exact le_rfl
        · exact (abs_neg _).trans_le le_rfl
      rw [if_pos hleft, if_pos hleft, bind_of_eq (hstart.checked (by norm_num) (by decide))]
      exact hturned _ hstart
    · rw [if_neg hleft, if_neg hleft, bind_of_eq rfl]
      exact hturned _ ⟨hx, hy, (by decide : |(0 : ℤ)| ≤ NANODEGREES_180)⟩

theorem abs_divRoundHalfAway_le {n d b : ℤ} (hd : 0 < d) (hn : |n| ≤ b * d) :
    |divRoundHalfAway n d| ≤ b + 1 := by
  have hnear := abs_le.mp (divRoundHalfAway_near n hd)
  have hn' := abs_le.mp hn
  rw [abs_le]
  constructor
  · by_contra hlow
    rw [not_le] at hlow
    nlinarith
  · by_contra hhigh
    rw [not_le] at hhigh
    nlinarith

theorem Planar.abs_x_le (v : Planar) : |v.x| ≤ 2 ^ 31 := abs_toInt_le _
theorem Planar.abs_z_le (v : Planar) : |v.z| ≤ 2 ^ 31 := abs_toInt_le _

theorem rotatePlanarChecked_eq (base : Planar) {m : ℤ} (hm : |m| ≤ 90000) :
    rotatePlanarChecked base m = some (rotatePlanar base m) := by
  unfold rotatePlanarChecked rotatePlanar
  by_cases hwhole : m % 360000 = 0
  · rw [if_pos hwhole, if_pos hwhole]
  · obtain ⟨hsc, hcos, hsin⟩ := cordicSinCosChecked_eq hm
    rw [if_neg hwhole, if_neg hwhole, bind_of_eq hsc]
    generalize cordicSinCos m = sc at hcos hsin ⊢
    have hneg : |-base.x| ≤ 2 ^ 31 := (abs_neg _).trans_le base.abs_x_le
    have hxc := abs_mul_le base.abs_x_le hcos
    have hzs := abs_mul_le base.abs_z_le hsin
    have hxs := abs_mul_le hneg hsin
    have hzc := abs_mul_le base.abs_z_le hcos
    have hx := abs_add_le_add hxc hzs
    have hz := abs_add_le_add hxs hzc
    have hscale : (0 : ℤ) < CORDIC_SCALE := by decide
    have hscale' : CORDIC_SCALE ≤ 2 ^ 125 := by decide
    have hfits : (2 : ℤ) ^ 31 * 2 ^ 42 + 2 ^ 31 * 2 ^ 42 ≤ 2 ^ 40 * CORDIC_SCALE := by decide
    have hx' := abs_divRoundHalfAway_le hscale (hx.trans hfits)
    have hz' := abs_divRoundHalfAway_le hscale (hz.trans hfits)
    dsimp only
    rw [bind_of_eq (fitI128_of_le (hxc.trans (by norm_num))),
      bind_of_eq (fitI128_of_le (hzs.trans (by norm_num))),
      bind_of_eq (fitI128_of_le (hx.trans (by norm_num))),
      bind_of_eq (divRoundHalfAwayChecked_eq (hx.trans (by norm_num)) hscale hscale'),
      bind_of_eq (fitI128_of_le (hneg.trans (by norm_num))),
      bind_of_eq (fitI128_of_le (hxs.trans (by norm_num))),
      bind_of_eq (fitI128_of_le (hzc.trans (by norm_num))),
      bind_of_eq (fitI128_of_le (hz.trans (by norm_num))),
      bind_of_eq (divRoundHalfAwayChecked_eq (hz.trans (by norm_num)) hscale hscale'),
      bind_of_eq (normalizePlanarChecked_eq (hx'.trans (by norm_num)) (hz'.trans (by norm_num)))]
    rfl

theorem requestedPlanarChecked_eq (chosenDirection : Option QuantizedDirection) :
    requestedPlanarChecked chosenDirection
      = some ((chosenDirection.filter directionIsNormalizedInteger).bind fun direction =>
        normalizePlanar direction.x.toInt direction.z.toInt) := by
  cases chosenDirection with
  | none => rfl
  | some direction =>
    unfold requestedPlanarChecked
    dsimp only
    rw [bind_of_eq (directionIsNormalizedIntegerChecked_eq direction), Option.filter_some]
    split_ifs
    · exact normalizePlanarChecked_eq ((abs_toInt_le _).trans (by norm_num))
        ((abs_toInt_le _).trans (by norm_num))
    · rfl

theorem launchBetweenChecked_eq (base requested : Planar) :
    launchBetweenChecked base requested = some (launchBetween base requested) := by
  have hxx := abs_mul_le base.abs_x_le requested.abs_x_le
  have hzz := abs_mul_le base.abs_z_le requested.abs_z_le
  have hzx := abs_mul_le base.abs_z_le requested.abs_x_le
  have hxz := abs_mul_le base.abs_x_le requested.abs_z_le
  have hdot := abs_add_le_add hxx hzz
  have hcross := (abs_sub _ _).trans (add_le_add hzx hxz)
  unfold launchBetweenChecked
  rw [bind_of_eq (fitI128_of_le (hxx.trans (by norm_num))),
    bind_of_eq (fitI128_of_le (hzz.trans (by norm_num))),
    bind_of_eq (fitI128_of_le (hdot.trans (by norm_num))),
    bind_of_eq (fitI128_of_le (hzx.trans (by norm_num))),
    bind_of_eq (fitI128_of_le (hxz.trans (by norm_num))),
    bind_of_eq (fitI128_of_le (hcross.trans (by norm_num))),
    bind_of_eq (atan2MillidegreesChecked_eq (hdot.trans (by norm_num))
      (hcross.trans (by norm_num)))]
  exact bind_of_eq (rotatePlanarChecked_eq base
    ((abs_clampedAngle_le base requested).trans (by norm_num))) _

/-- **No check fails**, for any velocity and any direction. -/
theorem clampLaunchDirectionChecked_eq (horseVelocityMmps : Velocity)
    (chosenDirection : Option QuantizedDirection) :
    clampLaunchDirectionChecked horseVelocityMmps chosenDirection
      = some (clampLaunchDirection horseVelocityMmps chosenDirection) := by
  rw [clampLaunchDirection_eq]
  unfold clampLaunchDirectionChecked
  rw [bind_of_eq (normalizePlanarChecked_eq
      (horseVelocityMmps.planar.abs_x_le.trans (by norm_num))
      (horseVelocityMmps.planar.abs_z_le.trans (by norm_num))),
    bind_of_eq (requestedPlanarChecked_eq chosenDirection)]
  exact launchBetweenChecked_eq _ _

end Spurfire
