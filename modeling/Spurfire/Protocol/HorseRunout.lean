import Mathlib.Analysis.Complex.Norm
import Spurfire.Protocol.SaddleDive

/-!
# The runout of a riderless horse

`HorseRunoutKernel` of `saddle_dive.rs`: after the rider has dived, the horse slows down along a
fixed heading, and the adapter clamps what its physics did to the step of the tick.

* `clampOriginToPlanarStep` searches for a point that the check of `resolveMotion` takes; `none` is
  a search without end or a counter below zero, `clampOriginToPlanarStep_spec` excludes both;
* `Ridden`: the kernel with the launch and the motions of its last runout;
* `Capped`: the invariant of every run of calls;
* `horse_runout_capped` is the result for every run.
-/

namespace Spurfire

def HORSE_MAX_TRAVEL_MM : UInt32 := 25000

inductive HorseRunoutState
  | playerControlled
  | runout
  | idleRetrievable
deriving DecidableEq

structure HorseRunoutTransition where
  previous : HorseRunoutState
  next : HorseRunoutState
  tick : SimulationTick

structure HorseRunoutTickOutput where
  state : HorseRunoutState
  requestedVelocityMmps : Velocity
  maximumStepMm : UInt32
  cumulativeTravelMm : UInt32
  transition : Option HorseRunoutTransition

inductive HorseRunoutError
  | invalidTickRate
  | notPlayerControlled
  | tickReplay
  | tickMismatch
  | motionAlreadyResolved
  | motionExceedsMaximumStep
  | notRetrievable
deriving DecidableEq

structure HorseRunoutKernel where
  tickRate : UInt32
  state : HorseRunoutState
  launchTick : Option SimulationTick
  currentTick : Option SimulationTick
  motionResolved : Bool
  initialPlanarVelocityMmps : Planar
  lastPosition : QuantizedOrigin
  currentMaximumStepMm : UInt32
  cumulativeTravelMm : UInt32

/-! ## Steps -/

def roundedPlanarDistance (first second : QuantizedOrigin) : UInt32 :=
  roundedSqrt (planarDistanceSquared first second)

/-- The point at `scaledStep` of `distance` towards the requested one. -/
def steppedOrigin (origin requested : QuantizedOrigin) (distance scaledStep : UInt32) :
    QuantizedOrigin :=
  let dx := requested.x.toInt - origin.x.toInt
  let dz := requested.z.toInt - origin.z.toInt
  { x := origin.x.satAdd
      (saturatingI128ToI32 (divRoundHalfAway (dx * scaledStep.toNat) distance.toNat))
    y := requested.y
    z := origin.z.satAdd
      (saturatingI128ToI32 (divRoundHalfAway (dz * scaledStep.toNat) distance.toNat)) }

/-- The loop of the clamp with bounded turns: `none` when they run out or the counter does. -/
def clampLoop (origin requested : QuantizedOrigin) (maximumStepMm distance : UInt32) :
    ℕ → UInt32 → Option QuantizedOrigin
  | 0, _ => none
  | turns + 1, scaledStep =>
    let clamped := steppedOrigin origin requested distance scaledStep
    if roundedPlanarDistance origin clamped ≤ maximumStepMm ∨ scaledStep = 0 then some clamped
    else if scaledStep < 1 then none
    else clampLoop origin requested maximumStepMm distance turns (scaledStep - 1)

def clampOriginToPlanarStep (origin requested : QuantizedOrigin) (maximumStepMm : UInt32) :
    Option QuantizedOrigin :=
  let distance := roundedPlanarDistance origin requested
  if distance ≤ maximumStepMm then some requested
  else if maximumStepMm = 0 then some ⟨origin.x, requested.y, origin.z⟩
  else
    clampLoop origin requested maximumStepMm distance (maximumStepMm.toNat + 1) maximumStepMm

def scaleRatioSymmetric (value : Int32) (numerator denominator : UInt64) : Int32 :=
  if denominator = 0 then 0
  else saturatingI128ToI32 (divRoundHalfAway (value.toInt * numerator.toNat) denominator.toNat)

def clampVelocityToStep (target : Planar) (maximumStepMm tickRate : UInt32) : Planar :=
  let magnitude := roundedMagnitude2d target
  if magnitude = 0 ∨ maximumStepMm = 0 then .new 0 0
  else
    let maximumVelocity := maximumStepMm.toUInt64.satMul tickRate.toUInt64
    if magnitude.toUInt64 ≤ maximumVelocity then target
    else
      .new
        (saturatingI128ToI32 (divRoundHalfAway (target.x * maximumVelocity.toNat) magnitude.toNat))
        (saturatingI128ToI32 (divRoundHalfAway (target.z * maximumVelocity.toNat) magnitude.toNat))

/-! ## The kernel -/

namespace HorseRunoutKernel

def new (tickRate : UInt32) : Except HorseRunoutError HorseRunoutKernel :=
  if tickRate = 0 then .error .invalidTickRate
  else .ok
    { tickRate
      state := .playerControlled
      launchTick := none
      currentTick := none
      motionResolved := false
      initialPlanarVelocityMmps := .new 0 0
      lastPosition := ⟨0, 0, 0⟩
      currentMaximumStepMm := 0
      cumulativeTravelMm := 0 }

/-- The travel that is left under the cap. -/
def remaining (k : HorseRunoutKernel) : UInt32 :=
  if k.cumulativeTravelMm ≤ HORSE_MAX_TRAVEL_MM then HORSE_MAX_TRAVEL_MM - k.cumulativeTravelMm
  else 0

def startRunout (k : HorseRunoutKernel) (tick : SimulationTick) (position : QuantizedOrigin)
    (velocityMmps : Velocity) :
    Except HorseRunoutError HorseRunoutTransition × HorseRunoutKernel :=
  if k.state ≠ .playerControlled then (.error .notPlayerControlled, k)
  else
    (.ok ⟨.playerControlled, .runout, tick⟩,
      { k with
        state := .runout
        launchTick := some tick
        currentTick := none
        motionResolved := false
        initialPlanarVelocityMmps := velocityMmps.planar
        lastPosition := position
        currentMaximumStepMm := 0
        cumulativeTravelMm := 0 })

def stopForDismount (k : HorseRunoutKernel) (tick : SimulationTick) (position : QuantizedOrigin) :
    HorseRunoutTransition × HorseRunoutKernel :=
  (⟨k.state, .idleRetrievable, tick⟩,
    { k with
      state := .idleRetrievable
      launchTick := none
      currentTick := none
      motionResolved := false
      initialPlanarVelocityMmps := .new 0 0
      lastPosition := position
      currentMaximumStepMm := 0
      cumulativeTravelMm := 0 })

/-- The timer and the cap at the begin of a tick; `none` is the panic of a runout without launch. -/
def endRunout (k : HorseRunoutKernel) (tick : SimulationTick) :
    Option (Option HorseRunoutTransition × HorseRunoutKernel) :=
  if k.state ≠ .runout then some (none, k)
  else
    k.launchTick.map fun launch =>
      let boundary := launch.satAdd (durationTicksCeil k.tickRate 2000)
      if boundary ≤ tick ∨ HORSE_MAX_TRAVEL_MM ≤ k.cumulativeTravelMm then
        (some ⟨.runout, .idleRetrievable,
            if HORSE_MAX_TRAVEL_MM ≤ k.cumulativeTravelMm then tick else boundary⟩,
          { k with state := .idleRetrievable })
      else (none, k)

def requestedStep (k : HorseRunoutKernel) (tick : SimulationTick) : Option (Velocity × UInt32) :=
  if k.state ≠ .runout then some (.new 0 0 0, 0)
  else
    k.launchTick.map fun launch =>
      let elapsed := if launch ≤ tick then tick - launch else 0
      let duration := max (durationTicksCeil k.tickRate 2000) 1
      let remainingTicks := duration.satSub elapsed
      let target := Planar.map (fun component =>
        scaleRatioSymmetric component remainingTicks duration) k.initialPlanarVelocityMmps
      let naturalStep := (roundedMagnitude2d target).toUInt64.divCeil k.tickRate.toUInt64
      let maximumStep :=
        min (if naturalStep < 2 ^ 32 then naturalStep.toUInt32 else 0xffffffff) k.remaining
      ((clampVelocityToStep target maximumStep k.tickRate).lift 0, maximumStep)

def beginTick (k : HorseRunoutKernel) (tick : SimulationTick) :
    Option (Except HorseRunoutError HorseRunoutTickOutput × HorseRunoutKernel) :=
  if k.currentTick.any (tick ≤ ·) then some (.error .tickReplay, k)
  else do
    let k := { k with currentTick := some tick, motionResolved := false }
    let (transition, k) ← k.endRunout tick
    let (velocity, maximumStepMm) ← k.requestedStep tick
    some (.ok ⟨k.state, velocity, maximumStepMm, k.cumulativeTravelMm, transition⟩,
      { k with currentMaximumStepMm := maximumStepMm })

def clampMotionPosition (k : HorseRunoutKernel) (position : QuantizedOrigin) :
    Option QuantizedOrigin :=
  if k.state ≠ .runout then some position
  else clampOriginToPlanarStep k.lastPosition position k.currentMaximumStepMm

def resolveMotion (k : HorseRunoutKernel) (tick : SimulationTick) (position : QuantizedOrigin)
    (_velocityMmps : Velocity) :
    Except HorseRunoutError (Option HorseRunoutTransition) × HorseRunoutKernel :=
  if k.currentTick ≠ some tick then (.error .tickMismatch, k)
  else if k.motionResolved then (.error .motionAlreadyResolved, k)
  else if k.state ≠ .runout then
    (.ok none, { k with motionResolved := true, lastPosition := position })
  else
    let travelled := roundedPlanarDistance k.lastPosition position
    if k.currentMaximumStepMm < travelled then (.error .motionExceedsMaximumStep, k)
    else
      let moved := { k with
        motionResolved := true
        cumulativeTravelMm := k.cumulativeTravelMm.satAdd (min travelled k.remaining)
        lastPosition := position }
      if moved.cumulativeTravelMm < HORSE_MAX_TRAVEL_MM then (.ok none, moved)
      else (.ok (some ⟨.runout, .idleRetrievable, tick⟩), { moved with state := .idleRetrievable })

def completeRemount (k : HorseRunoutKernel) (tick : SimulationTick) :
    Except HorseRunoutError HorseRunoutTransition × HorseRunoutKernel :=
  if k.state ≠ .idleRetrievable then (.error .notRetrievable, k)
  else
    (.ok ⟨.idleRetrievable, .playerControlled, tick⟩,
      { k with
        state := .playerControlled
        launchTick := none
        currentTick := none
        motionResolved := false
        initialPlanarVelocityMmps := .new 0 0
        currentMaximumStepMm := 0 })

end HorseRunoutKernel

inductive HorseRunoutCall
  | startRunout (tick : SimulationTick) (position : QuantizedOrigin) (velocityMmps : Velocity)
  | stopForDismount (tick : SimulationTick) (position : QuantizedOrigin)
  | beginTick (tick : SimulationTick)
  | resolveMotion (tick : SimulationTick) (position : QuantizedOrigin) (velocityMmps : Velocity)
  | completeRemount (tick : SimulationTick)

/-- A call: what it fails with, and the kernel after it; `none` is a panic. -/
def HorseRunoutKernel.call (k : HorseRunoutKernel) :
    HorseRunoutCall → Option (Except HorseRunoutError Unit × HorseRunoutKernel)
  | .startRunout tick position velocityMmps =>
    let started := k.startRunout tick position velocityMmps
    some (started.1.map fun _ => (), started.2)
  | .stopForDismount tick position => some (.ok (), (k.stopForDismount tick position).2)
  | .beginTick tick => (k.beginTick tick).map fun begun => (begun.1.map fun _ => (), begun.2)
  | .resolveMotion tick position velocityMmps =>
    let resolved := k.resolveMotion tick position velocityMmps
    some (resolved.1.map fun _ => (), resolved.2)
  | .completeRemount tick =>
    let completed := k.completeRemount tick
    some (completed.1.map fun _ => (), completed.2)

/-! ## The clamp -/

theorem divRoundHalfAway_zero (denominator : ℕ) : divRoundHalfAway 0 denominator = 0 := by
  unfold divRoundHalfAway
  rw [if_pos le_rfl, Int.zero_add]
  rcases Nat.eq_zero_or_pos denominator with rfl | hpositive
  · rfl
  · exact Int.ediv_eq_zero_of_lt (by omega) (by omega)

theorem roundedPlanarDistance_same (origin : QuantizedOrigin) (y : Int32) :
    roundedPlanarDistance origin ⟨origin.x, y, origin.z⟩ = 0 := by
  have hsquared : planarDistanceSquared origin ⟨origin.x, y, origin.z⟩ = 0 := by
    unfold planarDistanceSquared
    simp only [sub_self, mul_zero, add_zero, Int.natAbs_zero]
  unfold roundedPlanarDistance
  rw [hsquared]
  decide

theorem satAdd_zero (v : Int32) : v.satAdd 0 = v := by
  have hlow := v.le_toInt
  have hhigh := v.toInt_lt
  refine Int32.toInt_inj.mp ?_
  rw [Int32.toInt_satAdd, Int32.toInt_zero]
  omega

/-- A step of nothing stays. -/
theorem steppedOrigin_zero (origin requested : QuantizedOrigin) (distance : UInt32) :
    steppedOrigin origin requested distance 0 = ⟨origin.x, requested.y, origin.z⟩ := by
  have hzero : saturatingI128ToI32 0 = 0 := by decide
  unfold steppedOrigin
  simp only [UInt32.toNat_zero, Nat.cast_zero, mul_zero, divRoundHalfAway_zero, hzero, satAdd_zero]

/-- With a turn for every value of the counter, the loop ends, at a point within the step. -/
theorem clampLoop_spec (origin requested : QuantizedOrigin) (maximumStepMm distance : UInt32)
    {turns : ℕ} {scaledStep : UInt32} (hturns : scaledStep.toNat < turns) :
    ∃ clamped, clampLoop origin requested maximumStepMm distance turns scaledStep = some clamped
      ∧ roundedPlanarDistance origin clamped ≤ maximumStepMm := by
  induction turns generalizing scaledStep with
  | zero => exact absurd hturns (Nat.not_lt_zero _)
  | succ turns ih =>
    unfold clampLoop
    dsimp only
    split_ifs with hfits hbelow
    · refine ⟨_, rfl, ?_⟩
      rcases hfits with hfits | rfl
      · exact hfits
      · rw [steppedOrigin_zero, roundedPlanarDistance_same]
        exact UInt32.zero_le
    · rw [not_or] at hfits
      have hpositive : scaledStep.toNat ≠ 0 := fun h => hfits.2 (UInt32.toNat_inj.mp h)
      rw [UInt32.lt_iff_toNat_lt, UInt32.toNat_one] at hbelow
      omega
    · rw [UInt32.lt_iff_toNat_lt, UInt32.toNat_one] at hbelow
      refine ih ?_
      rw [UInt32.toNat_sub_of_le _ _ (by rw [UInt32.le_iff_toNat_le, UInt32.toNat_one]; omega),
        UInt32.toNat_one]
      omega

theorem clampOriginToPlanarStep_spec (origin requested : QuantizedOrigin)
    (maximumStepMm : UInt32) : ∃ clamped,
      clampOriginToPlanarStep origin requested maximumStepMm = some clamped
        ∧ roundedPlanarDistance origin clamped ≤ maximumStepMm := by
  unfold clampOriginToPlanarStep
  dsimp only
  split_ifs with hfits hzero
  · exact ⟨requested, rfl, hfits⟩
  · refine ⟨_, rfl, ?_⟩
    rw [roundedPlanarDistance_same]
    exact UInt32.zero_le
  · exact clampLoop_spec _ _ _ _ (Nat.lt_succ_self _)

/-! ## True distances -/

noncomputable def planarDistance (first second : QuantizedOrigin) : ℝ :=
  √(((first.x.toInt - second.x.toInt : ℤ) : ℝ) ^ 2 + ((first.z.toInt - second.z.toInt : ℤ) : ℝ) ^ 2)

/-- The same distance as that of points of the complex plane. -/
theorem planarDistance_eq (first second : QuantizedOrigin) : planarDistance first second
    = ‖(⟨first.x.toInt, first.z.toInt⟩ : ℂ) - ⟨second.x.toInt, second.z.toInt⟩‖ := by
  rw [Complex.norm_eq_sqrt_sq_add_sq]
  unfold planarDistance
  push_cast
  rfl

theorem planarDistance_self (origin : QuantizedOrigin) : planarDistance origin origin = 0 := by
  rw [planarDistance_eq, sub_self, norm_zero]

theorem planarDistance_triangle (first second third : QuantizedOrigin) :
    planarDistance first third ≤ planarDistance first second + planarDistance second third := by
  simp only [planarDistance_eq]
  exact norm_sub_le_norm_sub_add_norm_sub _ _ _

/-- The rounded root is at most half too small where it fits the word. -/
theorem sqrt_le_roundedSqrt {value : ℕ} (h : roundedSqrt value < 0xffffffff) :
    √(value : ℝ) ≤ (roundedSqrt value).toNat + 1 / 2 := by
  have hround : √(value : ℝ)
      ≤ ((if value > value.sqrt * value.sqrt + value.sqrt then value.sqrt + 1
        else value.sqrt : ℕ) : ℝ) + 1 / 2 := by
    rw [Real.sqrt_le_iff]
    refine ⟨by positivity, ?_⟩
    split_ifs with hmid
    · have hlt : (value : ℝ) < (value.sqrt + 1) * (value.sqrt + 1) :=
        mod_cast Nat.lt_succ_sqrt value
      push_cast
      nlinarith [Nat.cast_nonneg (α := ℝ) value.sqrt]
    · have hle : (value : ℝ) ≤ value.sqrt * value.sqrt + value.sqrt :=
        mod_cast not_lt.mp hmid
      linarith
  unfold roundedSqrt at h ⊢
  dsimp only at h ⊢
  split_ifs at h ⊢ with hmid hword hword
  · rw [if_pos hmid] at hround
    rwa [UInt32.toNat_ofNat_of_lt' hword]
  · exact absurd h (UInt32.lt_irrefl _)
  · rw [if_neg hmid] at hround
    rwa [UInt32.toNat_ofNat_of_lt' hword]
  · exact absurd h (UInt32.lt_irrefl _)

theorem planarDistance_le {first second : QuantizedOrigin}
    (h : roundedPlanarDistance first second < 0xffffffff) :
    planarDistance first second ≤ (roundedPlanarDistance first second).toNat + 1 / 2 := by
  have hsquared : ((planarDistanceSquared first second : ℕ) : ℝ)
      = ((first.x.toInt - second.x.toInt : ℤ) : ℝ) ^ 2
        + ((first.z.toInt - second.z.toInt : ℤ) : ℝ) ^ 2 := by
    unfold planarDistanceSquared
    dsimp only
    rw [Nat.cast_natAbs, abs_of_nonneg (add_nonneg (mul_self_nonneg _) (mul_self_nonneg _))]
    push_cast
    ring
  have hle := sqrt_le_roundedSqrt h
  rwa [hsquared] at hle

/-! ## Runs -/

/-- A kernel with what was done in its last runout: the position of the launch, the last motion
that was accepted, and their number. -/
structure Ridden where
  kernel : HorseRunoutKernel
  launch : QuantizedOrigin
  latest : QuantizedOrigin
  motions : ℕ

namespace Ridden

def start (kernel : HorseRunoutKernel) : Ridden :=
  ⟨kernel, kernel.lastPosition, kernel.lastPosition, 0⟩

/-- What a call that was accepted adds. -/
def note (r : Ridden) : HorseRunoutCall → HorseRunoutKernel → Ridden
  | .startRunout _ position _, kernel => ⟨kernel, position, position, 0⟩
  | .resolveMotion _ position _, kernel =>
    if r.kernel.state = .runout then ⟨kernel, r.launch, position, r.motions + 1⟩
    else { r with kernel }
  | _, kernel => { r with kernel }

/-- A call of any kind; `none` is a panic. -/
def step (r : Ridden) (call : HorseRunoutCall) : Option Ridden :=
  (r.kernel.call call).map fun (result, kernel) =>
    match result with
    | .ok _ => r.note call kernel
    | .error _ => { r with kernel }

/-- What holds at every point of a run. -/
structure Capped (r : Ridden) : Prop where
  launched : r.kernel.state = .runout → r.kernel.launchTick.isSome = true
  capped : r.kernel.cumulativeTravelMm ≤ HORSE_MAX_TRAVEL_MM
  pending : r.kernel.state = .runout → r.kernel.currentTick.isSome = true →
    r.kernel.motionResolved = false → r.kernel.currentMaximumStepMm ≤ r.kernel.remaining
  here : r.kernel.state = .runout → r.kernel.lastPosition = r.latest
  travelled : r.kernel.state = .runout →
    planarDistance r.launch r.latest ≤ r.kernel.cumulativeTravelMm.toNat + r.motions / 2
  displaced : planarDistance r.launch r.latest ≤ HORSE_MAX_TRAVEL_MM.toNat + r.motions / 2

theorem capped_start {tickRate : UInt32} {kernel : HorseRunoutKernel}
    (h : HorseRunoutKernel.new tickRate = .ok kernel) : (start kernel).Capped := by
  unfold HorseRunoutKernel.new at h
  split_ifs at h
  cases h
  refine ⟨nofun, UInt32.zero_le, nofun, nofun, nofun, ?_⟩
  unfold start
  dsimp only
  rw [planarDistance_self]
  positivity

variable {r : Ridden}

theorem Capped.startRunout (h : r.Capped) (tick : SimulationTick) (position : QuantizedOrigin)
    (velocityMmps : Velocity) : ∃ r', r.step (.startRunout tick position velocityMmps) = some r'
      ∧ r'.Capped := by
  refine ⟨_, rfl, ?_⟩
  unfold HorseRunoutKernel.startRunout
  split_ifs with hstate
  · exact h
  · refine ⟨fun _ => rfl, UInt32.zero_le, nofun, fun _ => rfl, fun _ => ?_, ?_⟩
    · change planarDistance position position ≤ _
      rw [planarDistance_self]
      positivity
    · change planarDistance position position ≤ _
      rw [planarDistance_self]
      positivity

theorem Capped.stopForDismount (h : r.Capped) (tick : SimulationTick)
    (position : QuantizedOrigin) : ∃ r', r.step (.stopForDismount tick position) = some r'
      ∧ r'.Capped :=
  ⟨_, rfl, nofun, UInt32.zero_le, nofun, nofun, nofun, h.displaced⟩

theorem Capped.completeRemount (h : r.Capped) (tick : SimulationTick) :
    ∃ r', r.step (.completeRemount tick) = some r' ∧ r'.Capped := by
  refine ⟨_, rfl, ?_⟩
  unfold HorseRunoutKernel.completeRemount
  split_ifs with hstate
  · exact h
  · exact ⟨nofun, h.capped, nofun, nofun, nofun, h.displaced⟩

end Ridden

namespace HorseRunoutKernel

variable {k : HorseRunoutKernel}

/-- The timer only ends the runout. -/
theorem endRunout_spec (hlaunch : k.state = .runout → k.launchTick.isSome = true)
    (tick : SimulationTick) : ∃ transition state, k.endRunout tick
      = some (transition, { k with state }) ∧ (state = .runout → k.state = .runout) := by
  by_cases hstate : k.state = .runout
  · obtain ⟨launch, hlaunch⟩ := Option.isSome_iff_exists.mp (hlaunch hstate)
    obtain ⟨tickRate, state, launchTick, currentTick, motionResolved, velocity, position, step,
      travel⟩ := k
    cases hlaunch
    unfold endRunout
    rw [if_neg (not_not.mpr hstate), Option.map_some]
    dsimp only
    split_ifs with hend
    · exact ⟨_, _, rfl, nofun⟩
    · exact ⟨_, _, rfl, nofun⟩
    · exact ⟨none, state, rfl, fun h => h⟩
  · exact ⟨none, k.state, if_pos hstate, fun h => h⟩

/-- The step of a runout is under its cap. -/
theorem requestedStep_spec (hlaunch : k.state = .runout → k.launchTick.isSome = true)
    (tick : SimulationTick) : ∃ velocity maximumStepMm,
      k.requestedStep tick = some (velocity, maximumStepMm)
        ∧ (k.state = .runout → maximumStepMm ≤ k.remaining) := by
  by_cases hstate : k.state = .runout
  · obtain ⟨launch, hlaunch⟩ := Option.isSome_iff_exists.mp (hlaunch hstate)
    unfold requestedStep
    rw [if_neg (not_not.mpr hstate), hlaunch, Option.map_some]
    refine ⟨_, _, rfl, fun _ => ?_⟩
    rw [UInt32.le_iff_toNat_le, UInt32.toNat_min]
    exact min_le_right _ _
  · exact ⟨_, _, if_pos hstate, fun h => absurd h hstate⟩

/-- A begun tick is current and not resolved; a refused one changes nothing. -/
theorem beginTick_spec (hlaunch : k.state = .runout → k.launchTick.isSome = true)
    (tick : SimulationTick) :
    k.beginTick tick = some (.error .tickReplay, k)
    ∨ ∃ output state maximumStepMm, k.beginTick tick = some (.ok output,
        { k with
          currentTick := some tick
          motionResolved := false
          state
          currentMaximumStepMm := maximumStepMm })
      ∧ (state = .runout → k.state = .runout ∧ maximumStepMm ≤ k.remaining) := by
  unfold beginTick
  split_ifs with hreplay
  · exact Or.inl rfl
  · right
    obtain ⟨transition, state, hend, hstate⟩ := endRunout_spec
      (k := { k with currentTick := some tick, motionResolved := false }) hlaunch tick
    obtain ⟨velocity, maximumStepMm, hrequested, hstep⟩ := requestedStep_spec
      (k := { k with currentTick := some tick, motionResolved := false, state })
      (fun h => hlaunch (hstate h)) tick
    refine ⟨⟨state, velocity, maximumStepMm, k.cumulativeTravelMm, transition⟩, state,
      maximumStepMm, ?_, fun h => ⟨hstate h, hstep h⟩⟩
    dsimp only at hend ⊢
    rw [hend]
    change Option.bind (requestedStep _ tick) _ = _
    rw [hrequested]
    rfl

end HorseRunoutKernel

namespace HorseRunoutKernel

variable {k : HorseRunoutKernel}

/-- Travel within what is left is added in full and stays under the cap. -/
theorem toNat_travel (hcapped : k.cumulativeTravelMm ≤ HORSE_MAX_TRAVEL_MM) {travelled : UInt32}
    (htravelled : travelled ≤ k.remaining) :
    (k.cumulativeTravelMm.satAdd (min travelled k.remaining)).toNat
      = k.cumulativeTravelMm.toNat + travelled.toNat
    ∧ k.cumulativeTravelMm.toNat + travelled.toNat ≤ HORSE_MAX_TRAVEL_MM.toNat := by
  have hcap : HORSE_MAX_TRAVEL_MM.toNat = 25000 := rfl
  unfold remaining at *
  rw [if_pos hcapped] at *
  rw [UInt32.le_iff_toNat_le] at hcapped htravelled
  rw [UInt32.toNat_sub_of_le _ _ (UInt32.le_iff_toNat_le.mpr hcapped)] at htravelled
  rw [UInt32.toNat_satAdd, UInt32.toNat_min,
    UInt32.toNat_sub_of_le _ _ (UInt32.le_iff_toNat_le.mpr hcapped)]
  omega

end HorseRunoutKernel

namespace Ridden

variable {r : Ridden}

theorem Capped.beginTick (h : r.Capped) (tick : SimulationTick) :
    ∃ r', r.step (.beginTick tick) = some r' ∧ r'.Capped := by
  rcases HorseRunoutKernel.beginTick_spec h.launched tick with
    hrefused | ⟨output, state, maximumStepMm, hbegun, hstate⟩
  · refine ⟨r, ?_, h⟩
    unfold step HorseRunoutKernel.call
    dsimp only
    rw [hrefused]
    rfl
  · refine ⟨{ r with
        kernel := { r.kernel with
          currentTick := some tick
          motionResolved := false
          state
          currentMaximumStepMm := maximumStepMm } },
      ?_, fun hs => h.launched (hstate hs).1, h.capped, fun hs _ _ => (hstate hs).2,
      fun hs => h.here (hstate hs).1, fun hs => h.travelled (hstate hs).1, h.displaced⟩
    unfold step HorseRunoutKernel.call
    dsimp only
    rw [hbegun]
    rfl

theorem Capped.moved (h : r.Capped) {tick : SimulationTick} {position : QuantizedOrigin}
    (hrunout : r.kernel.state = .runout) (htick : r.kernel.currentTick = some tick)
    (hresolved : r.kernel.motionResolved = false)
    (hstep : roundedPlanarDistance r.kernel.lastPosition position
      ≤ r.kernel.currentMaximumStepMm) :
    (r.kernel.cumulativeTravelMm.satAdd
        (min (roundedPlanarDistance r.kernel.lastPosition position) r.kernel.remaining))
      ≤ HORSE_MAX_TRAVEL_MM
    ∧ planarDistance r.launch position
      ≤ (r.kernel.cumulativeTravelMm.satAdd
        (min (roundedPlanarDistance r.kernel.lastPosition position) r.kernel.remaining)).toNat
        + (r.motions + 1 : ℕ) / 2 := by
  have hleft := UInt32.le_trans hstep
    (h.pending hrunout (Option.isSome_of_mem htick) hresolved)
  obtain ⟨hsum, hcap⟩ := HorseRunoutKernel.toNat_travel h.capped hleft
  refine ⟨by rw [UInt32.le_iff_toNat_le, hsum]; exact hcap, ?_⟩
  have hword : roundedPlanarDistance r.kernel.lastPosition position < 0xffffffff := by
    have hmax : HORSE_MAX_TRAVEL_MM.toNat = 25000 := rfl
    rw [UInt32.lt_iff_toNat_lt]
    change _ < 4294967295
    omega
  have hstep := planarDistance_le hword
  have htriangle := planarDistance_triangle r.launch r.kernel.lastPosition position
  have hbefore := h.travelled hrunout
  rw [← h.here hrunout] at hbefore
  rw [hsum]
  push_cast
  linarith

theorem note_moved (hrunout : r.kernel.state = .runout) {tick : SimulationTick}
    {position : QuantizedOrigin} {velocityMmps : Velocity} {kernel : HorseRunoutKernel} :
    r.note (.resolveMotion tick position velocityMmps) kernel
      = ⟨kernel, r.launch, position, r.motions + 1⟩ := if_pos hrunout

theorem note_idle (hrunout : r.kernel.state ≠ .runout) {tick : SimulationTick}
    {position : QuantizedOrigin} {velocityMmps : Velocity} {kernel : HorseRunoutKernel} :
    r.note (.resolveMotion tick position velocityMmps) kernel = { r with kernel } :=
  if_neg hrunout

theorem Capped.resolveMotion (h : r.Capped) (tick : SimulationTick) (position : QuantizedOrigin)
    (velocityMmps : Velocity) :
    ∃ r', r.step (.resolveMotion tick position velocityMmps) = some r' ∧ r'.Capped := by
  refine ⟨_, rfl, ?_⟩
  unfold HorseRunoutKernel.resolveMotion
  by_cases htick : r.kernel.currentTick = some tick
  · rw [if_neg (not_not.mpr htick)]
    by_cases hresolved : r.kernel.motionResolved = true
    · rw [if_pos hresolved]
      exact h
    · rw [if_neg hresolved]
      by_cases hrunout : r.kernel.state = .runout
      · rw [if_neg (not_not.mpr hrunout)]
        dsimp only
        by_cases hlong : r.kernel.currentMaximumStepMm
            < roundedPlanarDistance r.kernel.lastPosition position
        · rw [if_pos hlong]
          exact h
        · obtain ⟨hcapped, hmoved⟩ := h.moved hrunout htick (Bool.eq_false_of_not_eq_true hresolved)
            (UInt32.not_lt.mp hlong)
          have hdisplaced : planarDistance r.launch position
              ≤ HORSE_MAX_TRAVEL_MM.toNat + (r.motions + 1 : ℕ) / 2 :=
            hmoved.trans (by gcongr; exact UInt32.le_iff_toNat_le.mp hcapped)
          rw [if_neg hlong]
          split_ifs with hunder
          · change (note r _ _).Capped
            rw [note_moved hrunout]
            exact ⟨fun _ => h.launched hrunout, hcapped, nofun, fun _ => rfl, fun _ => hmoved,
              hdisplaced⟩
          · change (note r _ _).Capped
            rw [note_moved hrunout]
            exact ⟨nofun, hcapped, nofun, nofun, nofun, hdisplaced⟩
      · rw [if_pos hrunout]
        change (note r _ _).Capped
        rw [note_idle hrunout]
        exact ⟨fun hs => absurd hs hrunout, h.capped, nofun, fun hs => absurd hs hrunout,
          fun hs => absurd hs hrunout, h.displaced⟩
  · rw [if_pos htick]
    exact h

theorem Capped.step (h : r.Capped) (call : HorseRunoutCall) :
    ∃ r', r.step call = some r' ∧ r'.Capped := by
  cases call with
  | startRunout tick position velocityMmps => exact h.startRunout tick position velocityMmps
  | stopForDismount tick position => exact h.stopForDismount tick position
  | beginTick tick => exact h.beginTick tick
  | resolveMotion tick position velocityMmps => exact h.resolveMotion tick position velocityMmps
  | completeRemount tick => exact h.completeRemount tick

theorem Capped.run (h : r.Capped) (calls : List HorseRunoutCall) :
    ∃ r', calls.foldlM Ridden.step r = some r' ∧ r'.Capped := by
  induction calls generalizing r with
  | nil => exact ⟨r, rfl, h⟩
  | cons call calls ih =>
    obtain ⟨r', hstep, hcapped⟩ := h.step call
    obtain ⟨r'', hrun, hcapped⟩ := ih hcapped
    refine ⟨r'', ?_, hcapped⟩
    rw [List.foldlM_cons, hstep]
    exact hrun

end Ridden

/-! ## The clamp against the check -/

namespace HorseRunoutKernel

/-- The clamp ends, and `resolveMotion` takes its point for a tick that is begun and not yet
resolved. -/
theorem resolveMotion_clamped (k : HorseRunoutKernel) (position : QuantizedOrigin) :
    ∃ clamped, k.clampMotionPosition position = some clamped ∧ ∀ tick velocityMmps,
      k.currentTick = some tick → k.motionResolved = false →
        ∃ transition, (k.resolveMotion tick clamped velocityMmps).1 = .ok transition := by
  by_cases hrunout : k.state = .runout
  · obtain ⟨clamped, hclamped, hstep⟩ :=
      clampOriginToPlanarStep_spec k.lastPosition position k.currentMaximumStepMm
    refine ⟨clamped, (if_neg (not_not.mpr hrunout)).trans hclamped,
      fun tick velocityMmps htick hresolved => ?_⟩
    unfold resolveMotion
    rw [if_neg (not_not.mpr htick), if_neg (Bool.eq_false_iff.mp hresolved),
      if_neg (not_not.mpr hrunout)]
    dsimp only
    rw [if_neg (UInt32.not_lt.mpr hstep)]
    split_ifs
    · exact ⟨_, rfl⟩
    · exact ⟨_, rfl⟩
  · refine ⟨position, if_pos hrunout, fun tick velocityMmps htick hresolved => ⟨none, ?_⟩⟩
    unfold resolveMotion
    rw [if_neg (not_not.mpr htick), if_neg (Bool.eq_false_iff.mp hresolved), if_pos hrunout]

/-- A call that fails changes nothing. -/
theorem call_error {k k' : HorseRunoutKernel} {call : HorseRunoutCall} {error : HorseRunoutError}
    (hlaunch : k.state = .runout → k.launchTick.isSome = true)
    (h : k.call call = some (.error error, k')) : k' = k := by
  cases call with
  | startRunout tick position velocityMmps =>
    unfold call startRunout at h
    dsimp only at h
    split_ifs at h
    · cases h
      rfl
    · cases h
  | stopForDismount tick position => cases h
  | beginTick tick =>
    unfold call at h
    dsimp only at h
    rcases beginTick_spec hlaunch tick with hrefused | ⟨output, state, step, hbegun, -⟩
    · rw [hrefused] at h
      cases h
      rfl
    · rw [hbegun] at h
      cases h
  | resolveMotion tick position velocityMmps =>
    unfold call resolveMotion at h
    dsimp only at h
    split_ifs at h
    all_goals first
      | (cases h; rfl)
      | cases h
  | completeRemount tick =>
    unfold call completeRemount at h
    dsimp only at h
    split_ifs at h
    · cases h
      rfl
    · cases h

end HorseRunoutKernel

/-- **The runout is capped and its clamp is admissible.**  In every run from a new kernel no call
panics.  The clamp ends at every point, and the point that it gives is taken by `resolveMotion`,
whatever the velocity: after every tick that has been begun, and whenever a tick is current and not
resolved.  The recorded travel stays within the cap, and the horse within the cap and half a
millimetre for each motion of its launch.  A call that fails leaves the kernel as it was. -/
theorem horse_runout_capped (tickRate : UInt32) (kernel : HorseRunoutKernel)
    (hnew : HorseRunoutKernel.new tickRate = .ok kernel) (calls : List HorseRunoutCall) :
    ∃ r, calls.foldlM Ridden.step (Ridden.start kernel) = some r
      ∧ (∀ position, ∃ clamped, r.kernel.clampMotionPosition position = some clamped
        ∧ ∀ tick velocityMmps, r.kernel.currentTick = some tick →
          r.kernel.motionResolved = false →
            ∃ transition, (r.kernel.resolveMotion tick clamped velocityMmps).1 = .ok transition)
      ∧ (∀ tick output begun, r.kernel.beginTick tick = some (.ok output, begun) →
        ∀ position velocityMmps, ∃ clamped transition,
          begun.clampMotionPosition position = some clamped
            ∧ (begun.resolveMotion tick clamped velocityMmps).1 = .ok transition)
      ∧ r.kernel.cumulativeTravelMm ≤ HORSE_MAX_TRAVEL_MM
      ∧ planarDistance r.launch r.latest ≤ HORSE_MAX_TRAVEL_MM.toNat + r.motions / 2
      ∧ (r.kernel.state = .runout → r.kernel.lastPosition = r.latest)
      ∧ (∀ tick, ∃ result, r.kernel.beginTick tick = some result)
      ∧ ∀ call error after, r.kernel.call call = some (.error error, after) →
        after = r.kernel := by
  obtain ⟨r, hrun, h⟩ := (Ridden.capped_start hnew).run calls
  refine ⟨r, hrun, r.kernel.resolveMotion_clamped, fun tick output begun hbegun position velocity =>
    ?_, h.capped, h.displaced, h.here, fun tick => ?_,
    fun call error after => HorseRunoutKernel.call_error h.launched⟩
  · obtain ⟨clamped, hclamped, htaken⟩ := begun.resolveMotion_clamped position
    rcases HorseRunoutKernel.beginTick_spec h.launched tick with
      hrefused | ⟨output', state, step, hok, -⟩
    · rw [hrefused] at hbegun
      cases hbegun
    · rw [hok] at hbegun
      cases hbegun
      obtain ⟨transition, htransition⟩ := htaken tick velocity rfl rfl
      exact ⟨clamped, transition, hclamped, htransition⟩
  · rcases HorseRunoutKernel.beginTick_spec h.launched tick with
      hrefused | ⟨output, state, step, hok, -⟩
    · exact ⟨_, hrefused⟩
    · exact ⟨_, hok⟩

def riddenHorse : HorseRunoutKernel where
  tickRate := 60
  state := .playerControlled
  launchTick := none
  currentTick := none
  motionResolved := false
  initialPlanarVelocityMmps := .new 0 0
  lastPosition := ⟨0, 0, 0⟩
  currentMaximumStepMm := 0
  cumulativeTravelMm := 0

/-- A launch, a tick, and a motion far beyond its step. -/
theorem horse_runout_capped_bolting :
    ∃ r, [HorseRunoutCall.startRunout 0 ⟨0, 0, 0⟩ (.new 12000 0 0), .beginTick 1].foldlM
        Ridden.step (Ridden.start riddenHorse) = some r
      ∧ ∃ clamped, r.kernel.clampMotionPosition ⟨2000000000, 0, -2000000000⟩ = some clamped := by
  obtain ⟨r, hrun, hclamp, -⟩ := horse_runout_capped 60 riddenHorse rfl
    [.startRunout 0 ⟨0, 0, 0⟩ (.new 12000 0 0), .beginTick 1]
  obtain ⟨clamped, hclamped, -⟩ := hclamp ⟨2000000000, 0, -2000000000⟩
  exact ⟨r, hrun, clamped, hclamped⟩

end Spurfire
