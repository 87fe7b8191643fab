import Mathlib.Data.Nat.Sqrt
import Spurfire.Protocol.Combat

/-!
# The integer geometry of a saddle dive

Launch cones and landing slopes (`saddle_dive.rs`) are computed with integers alone: roots are
rounded, and angles come from a CORDIC table of thirty-seven steps.  Intermediate values are those
of `i128`, which none of the inputs, `i32` components and their products, can fill.
-/

namespace Spurfire

def LAUNCH_CONE_HALF_ANGLE_MILLIDEGREES : ℤ := 75000
def NANODEGREES_PER_MILLIDEGREE : ℤ := 1000000
def NANODEGREES_180 : ℤ := 180000000000
def CORDIC_SCALE : ℤ := 1000000000000
def CORDIC_GAIN_INVERSE : ℤ := 607252935009
def NORMALIZED_LOWER_UNITS : ℤ := 999000
def NORMALIZED_UPPER_UNITS : ℤ := 1001000

def CORDIC_ANGLES_NANODEGREES : List ℤ :=
  [45000000000, 26565051177, 14036243468, 7125016349, 3576334375, 1789910608, 895173710, 447614171,
    223810500, 111905677, 55952892, 27976453, 13988227, 6994114, 3497057, 1748528, 874264, 437132,
    218566, 109283, 54642, 27321, 13660, 6830, 3415, 1708, 854, 427, 213, 107, 53, 27, 13, 7, 3, 2,
    1]

/-! ## Rounding -/

/-- Quotients of halves are rounded away from zero; the denominator is positive. -/
def divRoundHalfAway (numerator denominator : ℤ) : ℤ :=
  if 0 ≤ numerator then (numerator + denominator / 2) / denominator
  else -((-numerator + denominator / 2) / denominator)

def saturatingI128ToI32 (value : ℤ) : Int32 := Int32.satOfInt value

def roundedSqrt (value : ℕ) : UInt32 :=
  let floor := value.sqrt
  let rounded := if value > floor * floor + floor then floor + 1 else floor
  if rounded < 2 ^ 32 then UInt32.ofNat rounded else 0xffffffff

/-! ## Planar vectors -/

abbrev Planar := Vector Int32 2

def Planar.new (x z : Int32) : Planar := ⟨#[x, z], rfl⟩

def Planar.x (v : Planar) : ℤ := (v.get 0).toInt
def Planar.z (v : Planar) : ℤ := (v.get 1).toInt

abbrev Velocity := Vector Int32 3

def Velocity.new (x y z : Int32) : Velocity := ⟨#[x, y, z], rfl⟩

def Velocity.planar (v : Velocity) : Planar := .new (v.get 0) (v.get 2)

/-- A planar vector by components, each from the two components there. -/
def Planar.zipWith (f : Int32 → Int32 → Int32) (v w : Planar) : Planar :=
  .new (f (v.get 0) (w.get 0)) (f (v.get 1) (w.get 1))

def Planar.map (f : Int32 → Int32) (v : Planar) : Planar := .new (f (v.get 0)) (f (v.get 1))

/-- The planar vector at the vertical speed `y`. -/
def Planar.lift (v : Planar) (y : Int32) : Velocity := .new (v.get 0) y (v.get 1)

def Planar.level (v : Planar) : QuantizedDirection := ⟨v.get 0, 0, v.get 1⟩

def horizontalDot (first second : Planar) : ℤ := first.x * second.x + first.z * second.z

def planarSpeedSquared (velocity : Velocity) : ℕ :=
  let x := (velocity.get 0).toInt
  let z := (velocity.get 2).toInt
  (x * x + z * z).natAbs

def planarDistanceSquared (first second : QuantizedOrigin) : ℕ :=
  let x := first.x.toInt - second.x.toInt
  let z := first.z.toInt - second.z.toInt
  (x * x + z * z).natAbs

def roundedMagnitude2d (value : Planar) : UInt32 :=
  roundedSqrt (value.x * value.x + value.z * value.z).natAbs

def roundedMagnitude3d (value : Velocity) : UInt32 :=
  let x := (value.get 0).toInt
  let y := (value.get 1).toInt
  let z := (value.get 2).toInt
  roundedSqrt (x * x + y * y + z * z).natAbs

def roundedPlanarMagnitude (velocity : Velocity) : UInt32 := roundedMagnitude2d velocity.planar

def directionIsNormalizedInteger (direction : QuantizedDirection) : Bool :=
  let x := direction.x.toInt
  let y := direction.y.toInt
  let z := direction.z.toInt
  let squared := x * x + y * y + z * z
  NORMALIZED_LOWER_UNITS * NORMALIZED_LOWER_UNITS ≤ squared
    && squared ≤ NORMALIZED_UPPER_UNITS * NORMALIZED_UPPER_UNITS

/-- The vector of length `DIRECTION_UNITS` in a direction, rounded. -/
def normalizePlanar (x z : ℤ) : Option Planar :=
  let squared := x * x + z * z
  if squared = 0 then none
  else
    let length : ℤ := max squared.natAbs.sqrt 1
    some (.new
      (saturatingI128ToI32 (divRoundHalfAway (x * DIRECTION_UNITS.toInt) length))
      (saturatingI128ToI32 (divRoundHalfAway (z * DIRECTION_UNITS.toInt) length)))

/-! ## CORDIC -/

/-- Coordinates and angle of one CORDIC turn. -/
structure Cordic where
  x : ℤ
  y : ℤ
  angle : ℤ

/-- A turn towards angle zero. -/
def Cordic.rotate (c : Cordic) (step : ℤ × ℕ) : Cordic :=
  if c.angle > 0 then
    ⟨c.x - c.y >>> step.2, c.y + c.x >>> step.2, c.angle - step.1⟩
  else if c.angle < 0 then
    ⟨c.x + c.y >>> step.2, c.y - c.x >>> step.2, c.angle + step.1⟩
  else c

/-- A turn towards the positive `x` axis. -/
def Cordic.flatten (c : Cordic) (step : ℤ × ℕ) : Cordic :=
  if c.y > 0 then
    ⟨c.x + c.y >>> step.2, c.y - c.x >>> step.2, c.angle + step.1⟩
  else if c.y < 0 then
    ⟨c.x - c.y >>> step.2, c.y + c.x >>> step.2, c.angle - step.1⟩
  else c

/-- Cosine and sine at `CORDIC_SCALE`. -/
def cordicSinCos (angleMillidegrees : ℤ) : ℤ × ℤ :=
  let turned := angleMillidegrees % 360000
  let reduced := if turned > 180000 then turned - 360000 else turned
  let folded :=
    if reduced > 90000 then reduced - 180000
    else if reduced < -90000 then reduced + 180000
    else reduced
  let c := CORDIC_ANGLES_NANODEGREES.zipIdx.foldl Cordic.rotate
    ⟨CORDIC_GAIN_INVERSE, 0, folded * NANODEGREES_PER_MILLIDEGREE⟩
  if folded = reduced then (c.x, c.y) else (-c.x, -c.y)

def atan2Millidegrees (y x : ℤ) : ℤ :=
  if x = 0 ∧ y = 0 then 0
  else
    let start : Cordic :=
      if x < 0 then ⟨-x, -y, if y ≥ 0 then NANODEGREES_180 else -NANODEGREES_180⟩ else ⟨x, y, 0⟩
    let c := CORDIC_ANGLES_NANODEGREES.zipIdx.foldl Cordic.flatten start
    (saturatingI128ToI32 (divRoundHalfAway c.angle NANODEGREES_PER_MILLIDEGREE)).toInt

def rotatePlanar (base : Planar) (angleMillidegrees : ℤ) : Planar :=
  if angleMillidegrees % 360000 = 0 then base
  else
    let (cosine, sine) := cordicSinCos angleMillidegrees
    let x := divRoundHalfAway (base.x * cosine + base.z * sine) CORDIC_SCALE
    let z := divRoundHalfAway (-base.x * sine + base.z * cosine) CORDIC_SCALE
    (normalizePlanar x z).getD base

/-! ## Launching and landing -/

structure LaunchDirection where
  requestedDirection : QuantizedDirection
  requestedAngleMillidegrees : Int32
  clampedDirection : QuantizedDirection
  clampedAngleMillidegrees : Int32
  directionWasClamped : Bool
deriving DecidableEq

def clampLaunchDirection (horseVelocityMmps : Velocity)
    (chosenDirection : Option QuantizedDirection) : LaunchDirection :=
  let base := (normalizePlanar (horseVelocityMmps.get 0).toInt
    (horseVelocityMmps.get 2).toInt).getD (.new 0 (-DIRECTION_UNITS))
  let requested := ((chosenDirection.filter directionIsNormalizedInteger).bind fun direction =>
    normalizePlanar direction.x.toInt direction.z.toInt).getD base
  let dot := base.x * requested.x + base.z * requested.z
  let crossY := base.z * requested.x - base.x * requested.z
  let requestedAngle := atan2Millidegrees crossY dot
  let clampedAngle := max (-LAUNCH_CONE_HALF_ANGLE_MILLIDEGREES)
    (min requestedAngle LAUNCH_CONE_HALF_ANGLE_MILLIDEGREES)
  let clamped := rotatePlanar base clampedAngle
  { requestedDirection := ⟨requested.get 0, 0, requested.get 1⟩
    requestedAngleMillidegrees := Int32.ofInt requestedAngle
    clampedDirection := ⟨clamped.get 0, 0, clamped.get 1⟩
    clampedAngleMillidegrees := Int32.ofInt clampedAngle
    directionWasClamped := decide (requestedAngle ≠ clampedAngle) }

def landingSlopeMillidegrees (normal : QuantizedDirection) : Option UInt32 :=
  if normal.y.toInt ≤ 0 ∨ !directionIsNormalizedInteger normal then none
  else
    let horizontal := (normal.x.toInt * normal.x.toInt + normal.z.toInt * normal.z.toInt).natAbs
    let angle := atan2Millidegrees horizontal.sqrt normal.y.toInt
    if 0 ≤ angle then some (UInt32.ofNat angle.natAbs) else none

end Spurfire
