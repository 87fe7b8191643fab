import Mathlib.Tactic.Linarith
import Spurfire.Lib.Runs
import Spurfire.Protocol.Gameplay
import Spurfire.Protocol.SaddleGeometry

/-!
# The on-foot kernel

Stance, stamina, tactical roll and spook stun of a rider without a horse (`m3.rs`).  Planar velocity
approaches its target one component at a time, while `stateIsValid` bounds its Euclidean length.

* `OnFootKernel.beginSpookStun`, `advanceTick`: the two operations;
* `OnFootKernel.rollStart`: the direction of the roll that an input starts;
* `OnFootKernel.Kept`: the invariant of every run, which bounds both components outside a roll;
* **`onFoot_valid_iff`**: a run stays valid exactly as long as no roll starts along a direction whose
  planar part is longer than the roll speed.
-/

namespace Spurfire

def ON_FOOT_WALK_SPEED_MMPS : UInt32 := 2000
def ON_FOOT_SPRINT_SPEED_MMPS : UInt32 := 4500
def ON_FOOT_CROUCH_SPEED_MMPS : UInt32 := 1200
def ON_FOOT_WALK_ACCEL_MMPS2 : UInt32 := 12000
def ON_FOOT_WALK_DECEL_MMPS2 : UInt32 := 16000
def ON_FOOT_SPRINT_ACCEL_MMPS2 : UInt32 := 15000
def ON_FOOT_SPRINT_DECEL_MMPS2 : UInt32 := 18000
def ON_FOOT_CROUCH_ACCEL_MMPS2 : UInt32 := 8000
def ON_FOOT_CROUCH_DECEL_MMPS2 : UInt32 := 12000
def ON_FOOT_STAMINA_REGEN_TICKS : UInt32 := 6 * M3_TICK_RATE_HZ
def TACTICAL_ROLL_TICKS : UInt64 := 60 / 2
def TACTICAL_ROLL_SPEED_MMPS : UInt32 := 7000
def TACTICAL_ROLL_COOLDOWN_TICKS : UInt64 := 3 * 60 / 2
def ROLL_EXIT_SWAY_IMPULSE_MILLI : UInt16 := 300
def ROLL_EXIT_SWAY_DECAY_TICKS : UInt64 := 3 * 60 / 5
def ON_FOOT_INPUT_BUFFER_TICKS : UInt64 := 3 * 60 / 20

def ON_FOOT_STAMINA_UNITS : UInt32 := ON_FOOT_STAMINA_TICKS * ON_FOOT_STAMINA_REGEN_TICKS

/-! ## Planar movement -/

/-- `[0, 0]`. -/
def Planar.zero : Planar := .new 0 0

def scalePlanarDirection (direction : QuantizedDirection) (speedMmps : UInt32) : Planar :=
  .new (Int32.satOfInt ((direction.x.toInt * speedMmps.toNat).tdiv DIRECTION_UNITS.toInt))
    (Int32.satOfInt ((direction.z.toInt * speedMmps.toNat).tdiv DIRECTION_UNITS.toInt))

/-- Squared length in `i64`, where two components of `i32::MIN` wrap. -/
def Planar.squared (v : Planar) : ℤ := (v.x ^ 2 + v.z ^ 2).bmod (2 ^ 64)

def moveToward (current target maxDelta : Int32) : Int32 :=
  if current < target then min (current.satAdd maxDelta) target
  else if current > target then max (current.satSub maxDelta) target
  else current

def approachPlanarVelocity (current target : Planar) (accelerationMmps2 decelerationMmps2 : UInt32)
    (elapsedTicks : UInt64) : Planar :=
  let accelerating := (current.x * target.x + current.z * target.z).bmod (2 ^ 64) ≥ 0
    ∧ target.squared > current.squared
  let rate := if accelerating then accelerationMmps2 else decelerationMmps2
  let maxDelta := Int32.satOfInt
    ((rate.toUInt64.satMul elapsedTicks).divCeil M3_TICK_RATE_HZ.toUInt64).toNat
  current.zipWith (fun current target => moveToward current target maxDelta) target

def rollExitSway (elapsedTicks : UInt64) : UInt16 :=
  if elapsedTicks ≥ ROLL_EXIT_SWAY_DECAY_TICKS then 0
  else u16OrElse (ROLL_EXIT_SWAY_IMPULSE_MILLI.toNat
    * (ROLL_EXIT_SWAY_DECAY_TICKS - elapsedTicks).toNat / ROLL_EXIT_SWAY_DECAY_TICKS.toNat) 0

/-! ## Inputs and outputs -/

inductive M3RiderStance
  | spookStunned
  | standing
  | sprinting
  | crouched
  | rolling
deriving DecidableEq

structure OnFootTickInput where
  tick : SimulationTick
  moveDirection : Option QuantizedDirection
  sprintPressed : Bool
  crouchPressed : Bool
  reloadActive : Bool
deriving DecidableEq

/-- The desired direction, with malformed values dropped. -/
def OnFootTickInput.direction (input : OnFootTickInput) : Option QuantizedDirection :=
  input.moveDirection.filter fun value =>
    value.isNormalized && decide (value.y.abs ≤ DIRECTION_UNITS / 100)

structure OnFootTickOutput where
  state : OnFootState
  stance : M3RiderStance
  speedMmps : UInt32
  requestedVelocityMmps : Planar
  staminaTicks : UInt32
  canFire : Bool
  reloadPauseStarted : Bool
  swayMultiplierMilli : UInt16
  rollExitSwayMilli : UInt16
deriving DecidableEq

namespace OnFootState

def stance : OnFootState → M3RiderStance
  | spookStunned => .spookStunned
  | standing => .standing
  | sprinting => .sprinting
  | crouched => .crouched
  | rolling => .rolling

def speedMmps : OnFootState → UInt32
  | spookStunned => 0
  | standing => ON_FOOT_WALK_SPEED_MMPS
  | sprinting => ON_FOOT_SPRINT_SPEED_MMPS
  | crouched => ON_FOOT_CROUCH_SPEED_MMPS
  | rolling => TACTICAL_ROLL_SPEED_MMPS

def canFire : OnFootState → Bool
  | standing | sprinting | crouched => true
  | spookStunned | rolling => false

def swayMultiplierMilli (moving : Bool) : OnFootState → UInt16
  | spookStunned | sprinting => 1500
  | standing => if moving then 1200 else 900
  | crouched => 800
  | rolling => 1200

end OnFootState

/-! ## The kernel -/

namespace OnFootKernel

protected def default : OnFootKernel where
  currentTick := none
  state := .standing
  staminaUnits := ON_FOOT_STAMINA_UNITS
  previousCrouchLevel := false
  bufferedRollUntil := none
  rollStartedTick := none
  rollDirection := ⟨0, 0, -DIRECTION_UNITS⟩
  rollCooldownUntil := 0
  rollExitTick := none
  spookStunUntil := none
  velocityMmps := .zero

def staminaTicks (k : OnFootKernel) : UInt32 := k.staminaUnits / ON_FOOT_STAMINA_REGEN_TICKS

/-- Enters the stun of a spook, unless the rider is in one. -/
def beginSpookStun (k : OnFootKernel) (tick : SimulationTick) : Bool × OnFootKernel :=
  if (k.currentTick.any fun current => tick ≤ current) ∨ k.state = .spookStunned then (false, k)
  else
    (true, { k with
      state := .spookStunned
      spookStunUntil := some (tick.satAdd SPOOK_STUN_TICKS)
      bufferedRollUntil := none
      rollStartedTick := none
      velocityMmps := .zero })

def stunnedOutput (k : OnFootKernel) : OnFootTickOutput where
  state := k.state
  stance := k.state.stance
  speedMmps := 0
  requestedVelocityMmps := .zero
  staminaTicks := k.staminaTicks
  canFire := false
  reloadPauseStarted := false
  swayMultiplierMilli := 1500
  rollExitSwayMilli := 0

def wantsSprint (k : OnFootKernel) (input : OnFootTickInput) : Bool :=
  input.sprintPressed && input.direction.isSome && k.staminaTicks > 0

/-- The direction a roll that starts now is locked to. -/
def lockedDirection (k : OnFootKernel) (input : OnFootTickInput) : Option QuantizedDirection :=
  if k.wantsSprint input ∧ (k.bufferedRollUntil.any fun deadline => input.tick ≤ deadline)
      ∧ input.tick ≥ k.rollCooldownUntil then input.direction else none

/-- Remembers a crouch edge as a request for a roll. -/
def bufferRoll (k : OnFootKernel) (input : OnFootTickInput) (crouchEdge : Bool) : OnFootKernel :=
  if crouchEdge then
    { k with bufferedRollUntil := some (input.tick.satAdd ON_FOOT_INPUT_BUFFER_TICKS) }
  else k

/-- Ends a roll that has run out, and says so; `none` where the roll has no start. -/
def endRoll (k : OnFootKernel) (tick : SimulationTick) : Option (Bool × OnFootKernel) :=
  if k.state = .rolling then
    k.rollStartedTick.map fun started =>
      if (UInt64.checkedSub tick started).getD 0 ≥ TACTICAL_ROLL_TICKS then
        (true, { k with
          state := .standing
          rollStartedTick := none
          rollExitTick := some (started.satAdd TACTICAL_ROLL_TICKS) })
      else (false, k)
  else some (false, k)

/-- Chooses the state of the tick, and says whether a reload pauses for a roll. -/
def chooseState (k : OnFootKernel) (input : OnFootTickInput) : Bool × OnFootKernel :=
  if k.state = .rolling then (false, k)
  else
    match k.lockedDirection input with
    | some direction => (input.reloadActive, { k with
        state := .rolling
        rollStartedTick := some input.tick
        rollDirection := direction
        rollCooldownUntil := input.tick.satAdd TACTICAL_ROLL_COOLDOWN_TICKS
        bufferedRollUntil := none })
    | none => (false, { k with
        state := if input.crouchPressed then .crouched
          else if k.wantsSprint input then .sprinting else .standing })

def spendStamina (k : OnFootKernel) : OnFootKernel :=
  { k with
    staminaUnits := if k.state = .sprinting then k.staminaUnits.satSub ON_FOOT_STAMINA_REGEN_TICKS
      else min (k.staminaUnits.satAdd ON_FOOT_STAMINA_TICKS) ON_FOOT_STAMINA_UNITS }

def targetVelocity (k : OnFootKernel) (direction : Option QuantizedDirection) : Planar :=
  let movementDirection := match k.state with
    | .spookStunned => none
    | .standing | .sprinting | .crouched => direction
    | .rolling => some k.rollDirection
  (movementDirection.map fun value => scalePlanarDirection value k.state.speedMmps).getD .zero

def nextVelocity (k : OnFootKernel) (direction : Option QuantizedDirection) (rollEnded : Bool)
    (elapsedTicks : UInt64) : Planar :=
  let target := k.targetVelocity direction
  let approach := fun acceleration deceleration =>
    approachPlanarVelocity k.velocityMmps target acceleration deceleration elapsedTicks
  match k.state with
  | .spookStunned => .zero
  | .rolling => target
  | .standing =>
    if rollEnded then .zero else approach ON_FOOT_WALK_ACCEL_MMPS2 ON_FOOT_WALK_DECEL_MMPS2
  | .sprinting =>
    if rollEnded then .zero else approach ON_FOOT_SPRINT_ACCEL_MMPS2 ON_FOOT_SPRINT_DECEL_MMPS2
  | .crouched =>
    if rollEnded then .zero else approach ON_FOOT_CROUCH_ACCEL_MMPS2 ON_FOOT_CROUCH_DECEL_MMPS2

/-- The part of a tick after the stun: roll, stance, stamina, velocity. -/
def moveTick (k : OnFootKernel) (input : OnFootTickInput) (crouchEdge : Bool)
    (elapsedTicks : UInt64) : Except M3Error OnFootTickOutput × OnFootKernel :=
  let buffered := k.bufferRoll input crouchEdge
  match buffered.endRoll input.tick with
  | none => (.error .invalidState, buffered)
  | some (rollEnded, ended) =>
    let chosen := ended.chooseState input
    let spent := chosen.2.spendStamina
    let moved := { spent with
      velocityMmps := spent.nextVelocity input.direction rollEnded elapsedTicks }
    (.ok {
      state := moved.state
      stance := moved.state.stance
      speedMmps := moved.state.speedMmps
      requestedVelocityMmps := moved.velocityMmps
      staminaTicks := moved.staminaTicks
      canFire := moved.state.canFire
      reloadPauseStarted := chosen.1
      swayMultiplierMilli := moved.state.swayMultiplierMilli input.direction.isSome
      rollExitSwayMilli :=
        ((moved.rollExitTick.bind fun exit => UInt64.checkedSub input.tick exit).map
          rollExitSway).getD 0 }, moved)

def advanceTick (k : OnFootKernel) (input : OnFootTickInput) :
    Except M3Error OnFootTickOutput × OnFootKernel :=
  if k.currentTick.any fun current => input.tick ≤ current then (.error .tickReplay, k)
  else
    let elapsedTicks := (k.currentTick.bind fun current => UInt64.checkedSub input.tick current).getD 1
    let crouchEdge := input.crouchPressed && !k.previousCrouchLevel
    let ticked := { k with
      currentTick := some input.tick
      previousCrouchLevel := input.crouchPressed }
    if k.state = .spookStunned then
      match k.spookStunUntil with
      | none => (.error .invalidState, ticked)
      | some stunUntil =>
        if input.tick < stunUntil then
          (.ok ticked.stunnedOutput, { ticked with velocityMmps := .zero })
        else
          { ticked with state := .standing, spookStunUntil := none }.moveTick input crouchEdge
            elapsedTicks
    else ticked.moveTick input crouchEdge elapsedTicks

/-- The roll, stun and clock fields agree with the state. -/
def stanceIsValid (k : OnFootKernel) : Bool :=
  match k.state with
  | .spookStunned => k.rollStartedTick.isNone
      && k.spookStunUntil.any fun stunUntil => k.currentTick.all fun current => current < stunUntil
  | .rolling => k.spookStunUntil.isNone
      && (k.rollStartedTick.any fun started => k.currentTick.all fun current =>
        started ≤ current ∧ (UInt64.checkedSub current started).getD 0 < TACTICAL_ROLL_TICKS)
      && k.rollDirection.isNormalized
  | .standing | .sprinting | .crouched => k.spookStunUntil.isNone && k.rollStartedTick.isNone

def stateIsValid (k : OnFootKernel) : Bool :=
  decide (k.staminaUnits ≤ ON_FOOT_STAMINA_UNITS)
    && decide (Planar.squared k.velocityMmps ≤ (TACTICAL_ROLL_SPEED_MMPS.toNat : ℤ) ^ 2)
    && k.stanceIsValid
    && tickIsNotAfter k.rollExitTick k.currentTick

/-! ## Calls -/

def RollLasts (k : OnFootKernel) (tick : SimulationTick) : Prop :=
  k.state = .rolling ∧ k.rollStartedTick.any fun started =>
    (UInt64.checkedSub tick started).getD 0 < TACTICAL_ROLL_TICKS

instance (k : OnFootKernel) (tick : SimulationTick) : Decidable (k.RollLasts tick) :=
  inferInstanceAs (Decidable (_ ∧ _))

/-- A sprint with stamina meets a crouch edge, now or buffered, after the cooldown. -/
def RollRequested (k : OnFootKernel) (input : OnFootTickInput) : Prop :=
  input.sprintPressed ∧ k.staminaTicks > 0
    ∧ ((input.crouchPressed ∧ ¬k.previousCrouchLevel)
      ∨ k.bufferedRollUntil.any fun deadline => input.tick ≤ deadline)
    ∧ input.tick ≥ k.rollCooldownUntil

instance (k : OnFootKernel) (input : OnFootTickInput) : Decidable (k.RollRequested input) :=
  inferInstanceAs (Decidable (_ ∧ _))

/-- The direction of the roll that `input` starts: the tick is new, no stun and no roll lasts beyond
it, and a roll is requested along a direction. -/
def rollStart (k : OnFootKernel) (input : OnFootTickInput) : Option QuantizedDirection :=
  if (k.currentTick.any fun current => input.tick ≤ current)
      ∨ (k.state = .spookStunned ∧ k.spookStunUntil.any fun stunUntil => input.tick < stunUntil)
      ∨ k.RollLasts input.tick ∨ ¬k.RollRequested input then none
  else input.direction

end OnFootKernel

inductive OnFootCall
  | beginSpookStun (tick : SimulationTick)
  | advanceTick (input : OnFootTickInput)
deriving DecidableEq

inductive OnFootAnswer
  | stunned (begun : Bool)
  | ticked (output : Except M3Error OnFootTickOutput)

def OnFootKernel.step (k : OnFootKernel) : OnFootCall → OnFootAnswer × OnFootKernel
  | .beginSpookStun tick =>
    let (begun, k') := k.beginSpookStun tick
    (.stunned begun, k')
  | .advanceTick input =>
    let (output, k') := k.advanceTick input
    (.ticked output, k')

/-- At roll speed the planar part of the direction is not longer than `TACTICAL_ROLL_SPEED_MMPS`. -/
def QuantizedDirection.RollFits (direction : QuantizedDirection) : Prop :=
  (direction.x.toInt * 7000).tdiv 1000000 ^ 2 + (direction.z.toInt * 7000).tdiv 1000000 ^ 2 ≤ 7000 ^ 2

instance (direction : QuantizedDirection) : Decidable direction.RollFits :=
  inferInstanceAs (Decidable (_ ≤ _))

def OnFootKernel.RollsFit (k : OnFootKernel) : OnFootCall → Prop
  | .beginSpookStun _ => True
  | .advanceTick input => ∀ direction ∈ k.rollStart input, direction.RollFits

/-! ## Unit directions are short -/

namespace QuantizedDirection

open Binary64

/-- A component beyond 1.05 alone makes the squared length exceed 1.1. -/
theorem lt_squaredComponent {c : Int32} (h : 1050000 < c.toInt.natAbs) :
    one + one / 10 ≤ squaredComponent c := by
  have hvalue : 1049 * one / 1000 ≤ ofRatio c.toInt.natAbs 1000000 := by
    apply le_roundQuot_of_le
    rw [one_eq]
    omega
  have hsquare := Nat.div_le_div_right (c := one) (Nat.mul_le_mul hvalue hvalue)
  apply le_roundQuot_of_le
  refine le_trans ?_ hsquare
  rw [one_eq]
  decide

theorem not_unit_of_le {s : ℕ} (h : one + one / 12 ≤ s) :
    ¬absSub (sqrt s) one ≤ ofRatio 1 1000 := by
  have hlength : one + one / 30 ≤ sqrt s := by
    apply le_sqrt_of_le
    refine le_trans ?_ (Nat.mul_le_mul_right one h)
    rw [one_eq]
    decide
  have hsub : one / 40 ≤ absSub (sqrt s) one := by
    apply le_roundQuot_of_le
    rw [Nat.div_one, Nat.max_eq_left (by omega), Nat.min_eq_right (by omega)]
    rw [one_eq] at *
    omega
  have htolerance : ofRatio 1 1000 < one / 40 := by decide
  omega

theorem natAbs_le_of_isNormalized {d : QuantizedDirection} (h : d.isNormalized = true) :
    d.x.toInt.natAbs ≤ 1050000 ∧ d.z.toInt.natAbs ≤ 1050000 := by
  have hunit := of_decide_eq_true h
  have hslack : one + one / 12 + (one + one / 12) / 2 ^ 40 + 1 ≤ one + one / 11 := by
    rw [one_eq]
    decide
  have hslack' : one + one / 11 + (one + one / 11) / 2 ^ 40 + 1 ≤ one + one / 10 := by
    rw [one_eq]
    decide
  constructor
  · by_contra hx
    have hlong := lt_squaredComponent (Nat.lt_of_not_le hx)
    have hplane : one + one / 11 ≤ add (squaredComponent d.x) (squaredComponent d.y) :=
      le_add_of_le (by omega)
    exact not_unit_of_le (le_add_of_le (by omega)) hunit
  · by_contra hz
    have hlong := lt_squaredComponent (Nat.lt_of_not_le hz)
    exact not_unit_of_le (le_add_of_le (by omega)) hunit

end QuantizedDirection

theorem OnFootTickInput.isNormalized_of_direction {input : OnFootTickInput}
    {direction : QuantizedDirection} (h : input.direction = some direction) :
    direction.isNormalized = true := by
  unfold OnFootTickInput.direction at h
  have hfilter := (Option.filter_eq_some_iff.mp h).2
  simp only [Bool.and_eq_true] at hfilter
  exact hfilter.1

/-! ## Velocities outside a roll -/

@[simp] theorem Planar.x_new (x z : Int32) : (Planar.new x z).x = x.toInt := rfl

@[simp] theorem Planar.z_new (x z : Int32) : (Planar.new x z).z = z.toInt := rfl

/-- Both components are at most 4725 mm/s, which 1.05 times the sprint speed is. -/
def Planar.Slow (v : Planar) : Prop := v.x.natAbs ≤ 4725 ∧ v.z.natAbs ≤ 4725

theorem Planar.slow_zero : Planar.zero.Slow := by
  unfold Slow zero
  decide

theorem moveToward_between (current target : Int32) {maxDelta : Int32} (h : 0 ≤ maxDelta.toInt) :
    min current.toInt target.toInt ≤ (moveToward current target maxDelta).toInt
      ∧ (moveToward current target maxDelta).toInt ≤ max current.toInt target.toInt := by
  have hc := current.toInt_lt
  have hc' := current.le_toInt
  unfold moveToward
  by_cases hlt : current < target
  · rw [if_pos hlt, Int32.toInt_min, Int32.toInt_satAdd]
    rw [Int32.lt_iff_toInt_lt] at hlt
    omega
  · rw [if_neg hlt]
    by_cases hgt : current > target
    · rw [if_pos hgt, Int32.toInt_max, Int32.toInt_satSub]
      rw [gt_iff_lt, Int32.lt_iff_toInt_lt] at hgt
      omega
    · rw [if_neg hgt]
      omega

/-- Each component stays between where it is and where it goes. -/
theorem moveToward_slow {current target : Planar} (hc : current.Slow) (ht : target.Slow)
    {maxDelta : Int32} (h : 0 ≤ maxDelta.toInt) :
    (Planar.new (moveToward (current.get 0) (target.get 0) maxDelta)
      (moveToward (current.get 1) (target.get 1) maxDelta)).Slow := by
  have hx := moveToward_between (current.get 0) (target.get 0) h
  have hz := moveToward_between (current.get 1) (target.get 1) h
  unfold Planar.Slow at *
  unfold Planar.x Planar.z at hc ht
  rw [Planar.x_new, Planar.z_new]
  constructor
  · refine le_trans ?_ (max_le hc.1 ht.1)
    omega
  · refine le_trans ?_ (max_le hc.2 ht.2)
    omega

theorem approachPlanarVelocity_slow {current target : Planar} (hc : current.Slow) (ht : target.Slow)
    (accelerationMmps2 decelerationMmps2 : UInt32) (elapsedTicks : UInt64) :
    (approachPlanarVelocity current target accelerationMmps2 decelerationMmps2 elapsedTicks).Slow := by
  have hdelta : ∀ n : ℕ, 0 ≤ (Int32.satOfInt n).toInt := by
    intro n
    rw [Int32.toInt_satOfInt]
    omega
  exact moveToward_slow hc ht (hdelta _)

/-- A component scaled to a speed, by cases of the truncated division. -/
theorem natAbs_scaled_le {c : ℤ} {speed bound : ℕ} (hc : c.natAbs ≤ 1050000)
    (hspeed : speed * 1050000 ≤ bound * 1000000) :
    ((c * speed).tdiv 1000000).natAbs ≤ bound := by
  rw [Int.natAbs_tdiv, Int.natAbs_mul, Int.natAbs_natCast]
  have hmul := Nat.mul_le_mul_right speed hc
  have h1000000 : (1000000 : ℤ).natAbs = 1000000 := rfl
  rw [h1000000]
  apply Nat.div_le_of_le_mul
  omega

theorem scalePlanarDirection_eq {direction : QuantizedDirection}
    (h : direction.isNormalized = true) {speedMmps : UInt32} (hspeed : speedMmps.toNat ≤ 7000) :
    (scalePlanarDirection direction speedMmps).x
        = (direction.x.toInt * speedMmps.toNat).tdiv 1000000
      ∧ (scalePlanarDirection direction speedMmps).z
        = (direction.z.toInt * speedMmps.toNat).tdiv 1000000 := by
  obtain ⟨hx, hz⟩ := QuantizedDirection.natAbs_le_of_isNormalized h
  have hx' := @natAbs_scaled_le _ speedMmps.toNat 7350 hx (by omega)
  have hz' := @natAbs_scaled_le _ speedMmps.toNat 7350 hz (by omega)
  have hunits : DIRECTION_UNITS.toInt = 1000000 := by decide
  unfold scalePlanarDirection
  rw [Planar.x_new, Planar.z_new, Int32.toInt_satOfInt, Int32.toInt_satOfInt, hunits]
  omega

theorem scalePlanarDirection_slow {direction : QuantizedDirection}
    (h : direction.isNormalized = true) {speedMmps : UInt32} (hspeed : speedMmps.toNat ≤ 4500) :
    (scalePlanarDirection direction speedMmps).Slow := by
  obtain ⟨hx, hz⟩ := QuantizedDirection.natAbs_le_of_isNormalized h
  obtain ⟨hsx, hsz⟩ := @scalePlanarDirection_eq _ h speedMmps (by omega)
  unfold Planar.Slow
  rw [hsx, hsz]
  exact ⟨natAbs_scaled_le hx (by omega), natAbs_scaled_le hz (by omega)⟩

theorem sq_le_of_natAbs_le {c : ℤ} {bound : ℕ} (h : c.natAbs ≤ bound) :
    c ^ 2 ≤ ((bound ^ 2 : ℕ) : ℤ) := by
  rw [← Int.natAbs_sq, ← Nat.cast_pow, Nat.cast_le]
  exact Nat.pow_le_pow_left h 2

theorem Planar.squared_eq {v : Planar} (hx : v.x.natAbs ≤ 10000) (hz : v.z.natAbs ≤ 10000) :
    v.squared = v.x ^ 2 + v.z ^ 2 := by
  have hx' := sq_le_of_natAbs_le hx
  have hz' := sq_le_of_natAbs_le hz
  have hx0 := sq_nonneg v.x
  have hz0 := sq_nonneg v.z
  unfold squared
  rw [Int.bmod_eq_of_le (by omega) (by omega)]

theorem Planar.Slow.squared_le {v : Planar} (h : v.Slow) : v.squared ≤ 7000 ^ 2 := by
  obtain ⟨hx, hz⟩ := h
  rw [squared_eq (by omega) (by omega)]
  have hx' := sq_le_of_natAbs_le hx
  have hz' := sq_le_of_natAbs_le hz
  omega

theorem squared_scaled_le_iff {direction : QuantizedDirection}
    (h : direction.isNormalized = true) :
    (scalePlanarDirection direction TACTICAL_ROLL_SPEED_MMPS).squared ≤ 7000 ^ 2
      ↔ direction.RollFits := by
  obtain ⟨hx, hz⟩ := QuantizedDirection.natAbs_le_of_isNormalized h
  have hspeed : TACTICAL_ROLL_SPEED_MMPS.toNat = 7000 := rfl
  obtain ⟨hsx, hsz⟩ := @scalePlanarDirection_eq _ h TACTICAL_ROLL_SPEED_MMPS (by omega)
  have hx' := @natAbs_scaled_le _ 7000 7350 hx (by omega)
  have hz' := @natAbs_scaled_le _ 7000 7350 hz (by omega)
  rw [hspeed] at hsx hsz
  rw [Planar.squared_eq (by omega) (by omega), hsx, hsz]
  rfl

/-! ## The invariant -/

namespace OnFootKernel

/-- What every run of the kernel keeps. -/
structure Kept (k : OnFootKernel) : Prop where
  stamina : k.staminaUnits ≤ ON_FOOT_STAMINA_UNITS
  unstunned : k.state ≠ .spookStunned → k.spookStunUntil = none
  stunned : k.state = .spookStunned → ∃ stunUntil, k.spookStunUntil = some stunUntil
    ∧ ∀ current ∈ k.currentTick, current < stunUntil
  idle : k.state ≠ .rolling → k.rollStartedTick = none ∧ Planar.Slow k.velocityMmps
  rolling : k.state = .rolling → ∃ started current, k.rollStartedTick = some started
    ∧ k.currentTick = some current ∧ started ≤ current
    ∧ current.toNat - started.toNat < TACTICAL_ROLL_TICKS.toNat
    ∧ k.rollDirection.isNormalized = true
    ∧ k.velocityMmps = scalePlanarDirection k.rollDirection TACTICAL_ROLL_SPEED_MMPS
  exit : ∀ exit ∈ k.rollExitTick, ∃ current ∈ k.currentTick, exit ≤ current

theorem kept_default : OnFootKernel.default.Kept where
  stamina := UInt32.le_refl _
  unstunned _ := rfl
  stunned h := nomatch h
  idle _ := ⟨rfl, Planar.slow_zero⟩
  rolling h := nomatch h
  exit _ h := nomatch h

theorem Kept.tickIsNotAfter_exit {k : OnFootKernel} (h : k.Kept) :
    tickIsNotAfter k.rollExitTick k.currentTick = true := by
  cases hexit : k.rollExitTick with
  | none => rfl
  | some exit =>
    obtain ⟨current, hcurrent, hle⟩ := h.exit exit hexit
    rw [Option.mem_def] at hcurrent
    rw [hcurrent]
    exact decide_eq_true hle

/-- The state fields always agree; only the speed of a roll can fail the check. -/
theorem Kept.stanceIsValid {k : OnFootKernel} (h : k.Kept) : k.stanceIsValid = true := by
  unfold OnFootKernel.stanceIsValid
  cases hstate : k.state with
  | spookStunned =>
    obtain ⟨stunUntil, huntil, hclock⟩ := h.stunned hstate
    have hroll := (h.idle (by rw [hstate]; decide)).1
    simp only [hroll, huntil, Option.isNone_none, Option.any_some, Bool.true_and, Option.all_eq_true,
      decide_eq_true_eq]
    exact hclock
  | rolling =>
    obtain ⟨started, current, hstarted, hcurrent, hle, hshort, hunit, -⟩ := h.rolling hstate
    have hstun := h.unstunned (by rw [hstate]; decide)
    have hlast : (UInt64.checkedSub current started).getD 0 < TACTICAL_ROLL_TICKS := by
      rw [UInt64.lt_iff_toNat_lt, UInt64.toNat_checkedSub_getD]
      exact hshort
    simp [hstun, hstarted, hcurrent, hunit, hle, hlast]
  | standing | sprinting | crouched =>
    have hroll := (h.idle (by rw [hstate]; decide)).1
    have hstun := h.unstunned (by rw [hstate]; decide)
    rw [hroll, hstun]
    rfl

theorem Kept.stateIsValid_iff {k : OnFootKernel} (h : k.Kept) :
    k.stateIsValid = true ↔ (k.state = .rolling → k.rollDirection.RollFits) := by
  have hspeed : k.stateIsValid = true ↔ Planar.squared k.velocityMmps ≤ 7000 ^ 2 := by
    unfold OnFootKernel.stateIsValid
    rw [h.stanceIsValid, h.tickIsNotAfter_exit]
    simp only [Bool.and_true, Bool.and_eq_true, decide_eq_true_eq, h.stamina, true_and]
    rfl
  rw [hspeed]
  by_cases hroll : k.state = .rolling
  · obtain ⟨_, _, -, -, -, -, hunit, hvelocity⟩ := h.rolling hroll
    rw [hvelocity, squared_scaled_le_iff hunit]
    exact ⟨fun hfits _ => hfits, fun hfits => hfits hroll⟩
  · have hslow := (h.idle hroll).2.squared_le
    exact ⟨fun _ hrolling => absurd hrolling hroll, fun _ => hslow⟩

theorem Kept.beginSpookStun {k : OnFootKernel} (h : k.Kept) (tick : SimulationTick) :
    (k.beginSpookStun tick).2.Kept := by
  unfold OnFootKernel.beginSpookStun
  by_cases hrefused : (k.currentTick.any fun current => tick ≤ current) ∨ k.state = .spookStunned
  · rw [if_pos hrefused]
    exact h
  · rw [if_neg hrefused]
    have hnew := lt_of_not_any_le fun hstale => hrefused (Or.inl hstale)
    constructor
    · exact h.stamina
    · exact fun hstate => absurd rfl hstate
    · refine fun _ => ⟨_, rfl, fun current hcurrent => ?_⟩
      exact UInt64.lt_of_lt_of_le (hnew current hcurrent) (UInt64.le_satAdd _ _)
    · exact fun _ => ⟨rfl, Planar.slow_zero⟩
    · exact fun hstate => nomatch hstate
    · exact h.exit

/-! ### The parts of a tick -/

/-- A kernel between the end of an old roll and the choice of the new velocity. -/
structure Moving (k : OnFootKernel) (tick : SimulationTick) (rollEnded : Bool) : Prop where
  clock : k.currentTick = some tick
  stamina : k.staminaUnits ≤ ON_FOOT_STAMINA_UNITS
  unstunned : k.state ≠ .spookStunned ∧ k.spookStunUntil = none
  idle : k.state ≠ .rolling →
    k.rollStartedTick = none ∧ (rollEnded = true ∨ Planar.Slow k.velocityMmps)
  rolling : k.state = .rolling → ∃ started, k.rollStartedTick = some started ∧ started ≤ tick
    ∧ tick.toNat - started.toNat < TACTICAL_ROLL_TICKS.toNat
    ∧ k.rollDirection.isNormalized = true
  exit : ∀ exit ∈ k.rollExitTick, exit ≤ tick

theorem isNormalized_of_lockedDirection {k : OnFootKernel} {input : OnFootTickInput}
    {direction : QuantizedDirection} (h : k.lockedDirection input = some direction) :
    direction.isNormalized = true := by
  unfold lockedDirection at h
  split_ifs at h
  exact OnFootTickInput.isNormalized_of_direction h

theorem Moving.chooseState {k : OnFootKernel} {input : OnFootTickInput} {rollEnded : Bool}
    (h : k.Moving input.tick rollEnded) : (k.chooseState input).2.Moving input.tick rollEnded := by
  unfold OnFootKernel.chooseState
  by_cases hroll : k.state = .rolling
  · rw [if_pos hroll]
    exact h
  · rw [if_neg hroll]
    cases hlocked : k.lockedDirection input with
    | some direction =>
      refine ⟨h.clock, h.stamina, ⟨nofun, h.unstunned.2⟩, fun hstate => absurd rfl hstate, ?_, h.exit⟩
      refine fun _ => ⟨input.tick, rfl, UInt64.le_refl _, ?_, isNormalized_of_lockedDirection hlocked⟩
      rw [Nat.sub_self]
      decide
    | none =>
      have hstate : ∀ state, state = (if input.crouchPressed then OnFootState.crouched
          else if k.wantsSprint input then .sprinting else .standing) →
          state ≠ .spookStunned ∧ state ≠ .rolling := by
        intro state hstate
        split_ifs at hstate <;> rw [hstate] <;> decide
      have hchosen := hstate _ rfl
      exact ⟨h.clock, h.stamina, ⟨hchosen.1, h.unstunned.2⟩, fun _ => h.idle hroll,
        fun hrolling => absurd hrolling hchosen.2, h.exit⟩

theorem Moving.spendStamina {k : OnFootKernel} {tick : SimulationTick} {rollEnded : Bool}
    (h : k.Moving tick rollEnded) : k.spendStamina.Moving tick rollEnded := by
  refine ⟨h.clock, ?_, h.unstunned, h.idle, h.rolling, h.exit⟩
  have hfull := h.stamina
  unfold OnFootKernel.spendStamina
  dsimp only
  split_ifs with hsprint
  · rw [UInt32.le_iff_toNat_le] at hfull ⊢
    rw [UInt32.toNat_satSub]
    omega
  · change (if _ ≤ _ then _ else _) ≤ ON_FOOT_STAMINA_UNITS
    split_ifs with hle
    · exact hle
    · exact UInt32.le_refl _

theorem targetVelocity_slow {k : OnFootKernel} {direction : Option QuantizedDirection}
    (hunit : ∀ value ∈ direction, value.isNormalized = true) (hroll : k.state ≠ .rolling) :
    (k.targetVelocity direction).Slow := by
  unfold targetVelocity
  cases hstate : k.state with
  | rolling => exact absurd hstate hroll
  | spookStunned => exact Planar.slow_zero
  | standing | sprinting | crouched =>
    cases hdirection : direction with
    | none => exact Planar.slow_zero
    | some value => exact scalePlanarDirection_slow (hunit value hdirection) (by decide)

theorem Moving.kept {k : OnFootKernel} {tick : SimulationTick} {rollEnded : Bool}
    (h : k.Moving tick rollEnded) {direction : Option QuantizedDirection}
    (hunit : ∀ value ∈ direction, value.isNormalized = true) (elapsedTicks : UInt64) :
    { k with velocityMmps := k.nextVelocity direction rollEnded elapsedTicks }.Kept := by
  constructor
  · exact h.stamina
  · exact fun _ => h.unstunned.2
  · exact fun hstate => absurd hstate h.unstunned.1
  · intro hroll
    have hidle := h.idle hroll
    have htarget := targetVelocity_slow hunit hroll
    have happroach : ∀ acceleration deceleration : UInt32,
        Planar.Slow (if rollEnded = true then Planar.zero else approachPlanarVelocity k.velocityMmps
          (k.targetVelocity direction) acceleration deceleration elapsedTicks) := by
      intro acceleration deceleration
      by_cases hended : rollEnded = true
      · rw [if_pos hended]
        exact Planar.slow_zero
      · rw [if_neg hended]
        exact approachPlanarVelocity_slow (hidle.2.resolve_left hended) htarget _ _ _
    refine ⟨hidle.1, ?_⟩
    change Planar.Slow (k.nextVelocity direction rollEnded elapsedTicks)
    unfold nextVelocity
    cases hstate : k.state with
    | rolling => exact absurd hstate hroll
    | spookStunned => exact Planar.slow_zero
    | standing | sprinting | crouched => exact happroach _ _
  · intro hroll
    obtain ⟨started, hstarted, hle, hshort, hnormalized⟩ := h.rolling hroll
    refine ⟨started, tick, hstarted, h.clock, hle, hshort, hnormalized, ?_⟩
    have hstate : k.state = .rolling := hroll
    change k.nextVelocity direction rollEnded elapsedTicks = _
    simp only [nextVelocity, targetVelocity, hstate]
    rfl
  · exact fun exit hexit => ⟨tick, h.clock, h.exit exit hexit⟩

/-- A kernel whose clock has moved to `tick` and whose stun is over. -/
structure Waiting (k : OnFootKernel) (tick : SimulationTick) : Prop where
  clock : k.currentTick = some tick
  stamina : k.staminaUnits ≤ ON_FOOT_STAMINA_UNITS
  unstunned : k.state ≠ .spookStunned ∧ k.spookStunUntil = none
  idle : k.state ≠ .rolling → k.rollStartedTick = none ∧ Planar.Slow k.velocityMmps
  rolling : k.state = .rolling → ∃ started, k.rollStartedTick = some started ∧ started ≤ tick
    ∧ k.rollDirection.isNormalized = true
  exit : ∀ exit ∈ k.rollExitTick, exit ≤ tick

/-- What a roll leaves of the fields that a next roll depends on. -/
theorem Waiting.endRoll {k : OnFootKernel} {tick : SimulationTick} (h : k.Waiting tick) :
    ∃ rollEnded ended, k.endRoll tick = some (rollEnded, ended) ∧ ended.Moving tick rollEnded
      ∧ (k.RollLasts tick → ended = k)
      ∧ (¬k.RollLasts tick → ended.state ≠ .rolling)
      ∧ ended.staminaUnits = k.staminaUnits ∧ ended.bufferedRollUntil = k.bufferedRollUntil
      ∧ ended.rollCooldownUntil = k.rollCooldownUntil := by
  unfold OnFootKernel.endRoll RollLasts
  by_cases hroll : k.state = .rolling
  · obtain ⟨started, hstarted, hle, hunit⟩ := h.rolling hroll
    rw [if_pos hroll, hstarted, Option.map_some]
    by_cases hover : (UInt64.checkedSub tick started).getD 0 ≥ TACTICAL_ROLL_TICKS
    · rw [if_pos hover]
      have hlong := UInt64.le_iff_toNat_le.mp hover
      rw [UInt64.toNat_checkedSub_getD] at hlong
      have hexit : started.satAdd TACTICAL_ROLL_TICKS ≤ tick := by
        rw [UInt64.le_iff_toNat_le] at hle ⊢
        rw [UInt64.toNat_satAdd]
        omega
      refine ⟨true, _, rfl, ⟨h.clock, h.stamina, ⟨nofun, h.unstunned.2⟩, fun _ => ⟨rfl, Or.inl rfl⟩,
        nofun, ?_⟩, ?_, fun _ => nofun, rfl, rfl, rfl⟩
      · rintro exit ⟨⟩
        exact hexit
      · rintro ⟨-, hlasts⟩
        rw [Option.any_some, decide_eq_true_eq] at hlasts
        exact absurd hover (UInt64.not_le.mpr hlasts)
    · rw [if_neg hover]
      have hlasts := UInt64.not_le.mp hover
      refine ⟨false, k, rfl, ⟨h.clock, h.stamina, h.unstunned, fun hidle => absurd hroll hidle,
        fun _ => ⟨started, hstarted, hle, ?_, hunit⟩, h.exit⟩, fun _ => rfl, fun hover' => ?_,
        rfl, rfl, rfl⟩
      · rw [UInt64.lt_iff_toNat_lt, UInt64.toNat_checkedSub_getD] at hlasts
        exact hlasts
      · refine absurd ⟨hroll, ?_⟩ hover'
        rw [Option.any_some, decide_eq_true_eq]
        exact hlasts
  · rw [if_neg hroll]
    refine ⟨false, k, rfl, ⟨h.clock, h.stamina, h.unstunned, fun _ => ?_,
      fun hrolling => absurd hrolling hroll, h.exit⟩, fun _ => rfl, fun _ => hroll, rfl, rfl, rfl⟩
    exact ⟨(h.idle hroll).1, Or.inr (h.idle hroll).2⟩

/-- A roll starts exactly where a direction is locked. -/
theorem chooseState_rolling {k : OnFootKernel} {input : OnFootTickInput}
    (h : k.state ≠ .rolling) (direction : QuantizedDirection) :
    ((k.chooseState input).2.state = .rolling ∧ (k.chooseState input).2.rollDirection = direction)
      ↔ k.lockedDirection input = some direction := by
  unfold chooseState
  rw [if_neg h]
  cases k.lockedDirection input with
  | some locked => simp
  | none =>
    simp only [reduceCtorEq, iff_false, not_and]
    intro hstate
    split_ifs at hstate

theorem lockedDirection_eq_some {k ended : OnFootKernel} {input : OnFootTickInput}
    (hstamina : ended.staminaUnits = k.staminaUnits)
    (hbuffer : ended.bufferedRollUntil = if (input.crouchPressed && !k.previousCrouchLevel) = true
      then some (input.tick.satAdd ON_FOOT_INPUT_BUFFER_TICKS) else k.bufferedRollUntil)
    (hcooldown : ended.rollCooldownUntil = k.rollCooldownUntil) (direction : QuantizedDirection) :
    ended.lockedDirection input = some direction
      ↔ k.RollRequested input ∧ input.direction = some direction := by
  have hlive : (ended.bufferedRollUntil.any fun deadline => input.tick ≤ deadline) = true
      ↔ (input.crouchPressed ∧ ¬k.previousCrouchLevel)
        ∨ k.bufferedRollUntil.any fun deadline => input.tick ≤ deadline := by
    rw [hbuffer]
    by_cases hedge : (input.crouchPressed && !k.previousCrouchLevel) = true
    · rw [if_pos hedge, Option.any_some, decide_eq_true_eq]
      simp only [Bool.and_eq_true, Bool.not_eq_true', ← Bool.not_eq_true] at hedge
      exact iff_of_true (UInt64.le_satAdd _ _) (Or.inl hedge)
    · rw [if_neg hedge]
      simp only [Bool.and_eq_true, Bool.not_eq_true', ← Bool.not_eq_true] at hedge
      rw [or_iff_right hedge]
  have hsprint : ended.staminaTicks = k.staminaTicks := by
    unfold staminaTicks
    rw [hstamina]
  unfold lockedDirection RollRequested wantsSprint
  rw [hsprint, hcooldown]
  simp only [hlive]
  cases input.direction with
  | none => simp
  | some wanted => simp [and_assoc]

/-- **One tick outside a stun** keeps the invariant; it goes on with the roll that lasts, or starts
the roll that is requested. -/
theorem Waiting.moveTick {k ticked : OnFootKernel} {input : OnFootTickInput}
    (h : ticked.Waiting input.tick) (hstamina : ticked.staminaUnits = k.staminaUnits)
    (hbuffer : ticked.bufferedRollUntil = k.bufferedRollUntil)
    (hcooldown : ticked.rollCooldownUntil = k.rollCooldownUntil) (elapsedTicks : UInt64)
    {moved : OnFootKernel}
    (hmoved : (ticked.moveTick input (input.crouchPressed && !k.previousCrouchLevel)
      elapsedTicks).2 = moved) :
    moved.Kept
      ∧ (ticked.RollLasts input.tick → moved.rollDirection = ticked.rollDirection)
      ∧ (¬ticked.RollLasts input.tick → ∀ direction,
        (moved.state = .rolling ∧ moved.rollDirection = direction)
          ↔ k.RollRequested input ∧ input.direction = some direction) := by
  have hwaiting : (ticked.bufferRoll input (input.crouchPressed && !k.previousCrouchLevel)).Waiting
      input.tick := by
    unfold bufferRoll
    split_ifs
    · exact ⟨h.clock, h.stamina, h.unstunned, h.idle, h.rolling, h.exit⟩
    · exact h
  have hlasts : (ticked.bufferRoll input (input.crouchPressed && !k.previousCrouchLevel)).RollLasts
      input.tick ↔ ticked.RollLasts input.tick := by
    unfold bufferRoll RollLasts
    split_ifs <;> rfl
  obtain ⟨rollEnded, ended, hended, hmoving, hon, hoff, hs, hb, hc⟩ := hwaiting.endRoll
  rw [hlasts] at hon hoff
  unfold OnFootKernel.moveTick at hmoved
  dsimp only at hmoved
  rw [hended] at hmoved
  dsimp only at hmoved
  subst hmoved
  refine ⟨hmoving.chooseState.spendStamina.kept
    (fun _ => OnFootTickInput.isNormalized_of_direction) elapsedTicks, fun hlast => ?_,
    fun hlast direction => ?_⟩
  · have hsame := hon hlast
    have hrolling : ended.state = .rolling := by
      rw [hsame]
      exact (hlasts.mpr hlast).1
    change (ended.chooseState input).2.rollDirection = _
    unfold chooseState
    rw [if_pos hrolling, hsame]
    unfold bufferRoll
    split_ifs <;> rfl
  · have hs' : ended.staminaUnits = k.staminaUnits := by
      rw [hs, ← hstamina]
      unfold bufferRoll
      split_ifs <;> rfl
    have hc' : ended.rollCooldownUntil = k.rollCooldownUntil := by
      rw [hc, ← hcooldown]
      unfold bufferRoll
      split_ifs <;> rfl
    have hb' : ended.bufferedRollUntil = if (input.crouchPressed && !k.previousCrouchLevel) = true
        then some (input.tick.satAdd ON_FOOT_INPUT_BUFFER_TICKS) else k.bufferedRollUntil := by
      rw [hb, ← hbuffer]
      unfold bufferRoll
      split_ifs <;> rfl
    rw [← lockedDirection_eq_some hs' hb' hc' direction]
    exact chooseState_rolling (hoff hlast) direction

/-- A tick is refused, or a stun goes on, or the rider moves. -/
theorem Kept.advanceTick_cases {k : OnFootKernel} (h : k.Kept) (input : OnFootTickInput) :
    ((k.currentTick.any fun current => input.tick ≤ current) = true
        ∧ k.advanceTick input = (.error .tickReplay, k))
      ∨ ((∀ current ∈ k.currentTick, current < input.tick) ∧ k.state = .spookStunned
        ∧ ∃ stunUntil output, k.spookStunUntil = some stunUntil ∧ input.tick < stunUntil
          ∧ k.advanceTick input = (.ok output, { k with
              currentTick := some input.tick
              previousCrouchLevel := input.crouchPressed
              velocityMmps := .zero }))
      ∨ (¬(k.currentTick.any fun current => input.tick ≤ current) = true
        ∧ ¬(k.state = .spookStunned ∧ k.spookStunUntil.any fun stunUntil => input.tick < stunUntil)
        ∧ ∃ (ticked : OnFootKernel) (elapsedTicks : UInt64),
          ticked.Waiting input.tick ∧ ticked.staminaUnits = k.staminaUnits
          ∧ ticked.bufferedRollUntil = k.bufferedRollUntil
          ∧ ticked.rollCooldownUntil = k.rollCooldownUntil
          ∧ ticked.rollDirection = k.rollDirection
          ∧ (ticked.RollLasts input.tick ↔ k.RollLasts input.tick)
          ∧ k.advanceTick input = ticked.moveTick input
            (input.crouchPressed && !k.previousCrouchLevel) elapsedTicks) := by
  unfold OnFootKernel.advanceTick
  by_cases hstale : (k.currentTick.any fun current => input.tick ≤ current) = true
  · rw [if_pos hstale]
    exact Or.inl ⟨hstale, rfl⟩
  · rw [if_neg hstale]
    have hnew := lt_of_not_any_le hstale
    have hexit : ∀ exit ∈ k.rollExitTick, exit ≤ input.tick := by
      intro exit hexit
      obtain ⟨current, hcurrent, hle⟩ := h.exit exit hexit
      exact UInt64.le_of_lt (UInt64.lt_of_le_of_lt hle (hnew current hcurrent))
    refine Or.inr ?_
    dsimp only
    by_cases hstun : k.state = .spookStunned
    · obtain ⟨stunUntil, huntil, -⟩ := h.stunned hstun
      have hnone := (h.idle (by rw [hstun]; decide)).1
      rw [if_pos hstun, huntil]
      dsimp only
      by_cases hearly : input.tick < stunUntil
      · rw [if_pos hearly]
        exact Or.inl ⟨hnew, hstun, stunUntil, _, rfl, hearly, rfl⟩
      · rw [if_neg hearly]
        refine Or.inr ⟨hstale, fun hlasts => hearly (of_decide_eq_true hlasts.2), { k with
          currentTick := some input.tick
          previousCrouchLevel := input.crouchPressed
          state := .standing
          spookStunUntil := none }, _, ?_, rfl, rfl, rfl, rfl, ?_, rfl⟩
        · exact ⟨rfl, h.stamina, ⟨nofun, rfl⟩, fun _ => h.idle (by rw [hstun]; decide), nofun, hexit⟩
        · exact iff_of_false (fun hlasts => nomatch hlasts.1)
            fun hlasts => nomatch hstun.symm.trans hlasts.1
    · rw [if_neg hstun]
      refine Or.inr ⟨hstale, fun hlasts => hstun hlasts.1, { k with
        currentTick := some input.tick
        previousCrouchLevel := input.crouchPressed }, _, ?_, rfl, rfl, rfl, rfl, Iff.rfl, rfl⟩
      refine ⟨rfl, h.stamina, ⟨hstun, h.unstunned hstun⟩, h.idle, fun hroll => ?_, hexit⟩
      obtain ⟨started, current, hstarted, hcurrent, hle, -, hunit, -⟩ := h.rolling hroll
      exact ⟨started, hstarted, UInt64.le_of_lt (UInt64.lt_of_le_of_lt hle (hnew current hcurrent)),
        hunit⟩

/-- **What a tick keeps**: the invariant stays, and the direction of a roll after it is that of the
roll before it or of the one it starts. -/
theorem Kept.advanceTick {k : OnFootKernel} (h : k.Kept) (input : OnFootTickInput) :
    (k.advanceTick input).2.Kept
      ∧ (∀ direction, k.rollStart input = some direction →
        (k.advanceTick input).2.state = .rolling
          ∧ (k.advanceTick input).2.rollDirection = direction)
      ∧ (k.rollStart input = none → (k.advanceTick input).2.state = .rolling →
        k.state = .rolling ∧ (k.advanceTick input).2.rollDirection = k.rollDirection) := by
  rcases h.advanceTick_cases input with ⟨hstale, heq⟩ | ⟨hnew, hstun, stunUntil, output, huntil,
    hearly, heq⟩ | ⟨hfresh, hover, ticked, elapsedTicks, hwaiting, hs, hb, hc, hd, hlasts, heq⟩
  · rw [heq]
    refine ⟨h, fun direction hstart => ?_, fun _ hroll => ⟨hroll, rfl⟩⟩
    rw [rollStart, if_pos (Or.inl hstale)] at hstart
    exact nomatch hstart
  · rw [heq]
    refine ⟨⟨h.stamina, fun hstate => absurd hstun hstate, fun _ => ⟨stunUntil, huntil, ?_⟩,
      fun hidle => ⟨(h.idle hidle).1, Planar.slow_zero⟩,
      fun hroll => (nomatch hstun.symm.trans hroll), fun exit hexit => ?_⟩, fun direction hstart => ?_, fun _ hroll => nomatch hstun.symm.trans hroll⟩
    · rintro current ⟨⟩
      exact hearly
    · obtain ⟨current, hcurrent, hle⟩ := h.exit exit hexit
      exact ⟨input.tick, rfl, UInt64.le_of_lt (UInt64.lt_of_le_of_lt hle (hnew current hcurrent))⟩
    · have hlasts : (k.spookStunUntil.any fun stunUntil => input.tick < stunUntil) = true := by
        rw [huntil, Option.any_some, decide_eq_true_eq]
        exact hearly
      rw [rollStart, if_pos (Or.inr (Or.inl ⟨hstun, hlasts⟩))] at hstart
      exact nomatch hstart
  · obtain ⟨hkept, hon, hoff⟩ := hwaiting.moveTick hs hb hc elapsedTicks (congrArg Prod.snd heq.symm)
    rw [hlasts] at hon hoff
    refine ⟨hkept, fun direction hstart => ?_, fun hnone hroll => ?_⟩
    · unfold rollStart at hstart
      split_ifs at hstart with hblocked
      push Not at hblocked
      exact (hoff hblocked.2.2.1 direction).mpr ⟨hblocked.2.2.2, hstart⟩
    · by_cases hlast : k.RollLasts input.tick
      · exact ⟨hlast.1, (hon hlast).trans hd⟩
      · -- a roll after the tick was requested along a direction, so it has started
        obtain ⟨hrequested, hdirection⟩ := (hoff hlast _).mp ⟨hroll, rfl⟩
        unfold rollStart at hnone
        rw [if_neg (by tauto), hdirection] at hnone
        exact nomatch hnone

end OnFootKernel

/-! ## Ticks that cannot fail -/

namespace OnFootKernel

/-- A stun has an end, and a roll has a start. -/
structure Armed (k : OnFootKernel) : Prop where
  stunned : k.state = .spookStunned → ∃ stunUntil, k.spookStunUntil = some stunUntil
  rolling : k.state = .rolling → ∃ started, k.rollStartedTick = some started

theorem armed_default : OnFootKernel.default.Armed := ⟨nofun, nofun⟩

theorem armed_of_stateIsValid {k : OnFootKernel} (h : k.stateIsValid = true) : k.Armed := by
  unfold stateIsValid at h
  simp only [Bool.and_eq_true] at h
  have hstance := h.1.2
  unfold stanceIsValid at hstance
  constructor
  · intro hstate
    rw [hstate] at hstance
    simp only [Bool.and_eq_true, Option.any_eq_true] at hstance
    obtain ⟨-, stunUntil, huntil, -⟩ := hstance
    exact ⟨stunUntil, huntil⟩
  · intro hstate
    rw [hstate] at hstance
    simp only [Bool.and_eq_true, Option.any_eq_true] at hstance
    obtain ⟨⟨-, started, hstarted, -⟩, -⟩ := hstance
    exact ⟨started, hstarted⟩

theorem Armed.moveTick {k : OnFootKernel} (h : k.Armed) (hstun : k.state ≠ .spookStunned)
    (input : OnFootTickInput) (crouchEdge : Bool) (elapsedTicks : UInt64) :
    ∃ output k', k.moveTick input crouchEdge elapsedTicks = (.ok output, k')
      ∧ k'.currentTick = k.currentTick ∧ k'.Armed := by
  -- the roll that may end has a start, and the one that may begin gets one
  have hended : ∃ rollEnded ended,
      (k.bufferRoll input crouchEdge).endRoll input.tick = some (rollEnded, ended)
        ∧ ended.currentTick = k.currentTick ∧ ended.state ≠ .spookStunned ∧ ended.Armed := by
    have hbuffered : (k.bufferRoll input crouchEdge).currentTick = k.currentTick
        ∧ (k.bufferRoll input crouchEdge).state = k.state
        ∧ (k.bufferRoll input crouchEdge).Armed := by
      unfold bufferRoll
      split_ifs
      · exact ⟨rfl, rfl, h.stunned, h.rolling⟩
      · exact ⟨rfl, rfl, h⟩
    generalize k.bufferRoll input crouchEdge = buffered at hbuffered ⊢
    obtain ⟨hclock, hstate, harmed⟩ := hbuffered
    rw [← hclock]
    rw [← hstate] at hstun
    unfold endRoll
    by_cases hroll : buffered.state = .rolling
    · obtain ⟨started, hstarted⟩ := harmed.rolling hroll
      rw [if_pos hroll, hstarted, Option.map_some]
      split_ifs
      · exact ⟨_, _, rfl, rfl, nofun, nofun, nofun⟩
      · exact ⟨_, _, rfl, rfl, hstun, harmed⟩
    · rw [if_neg hroll]
      exact ⟨_, _, rfl, rfl, hstun, harmed⟩
  obtain ⟨rollEnded, ended, heq, hclock, hstanding, harmed⟩ := hended
  have hchosen : (ended.chooseState input).2.currentTick = k.currentTick
      ∧ (ended.chooseState input).2.Armed := by
    unfold chooseState
    by_cases hroll : ended.state = .rolling
    · rw [if_pos hroll]
      exact ⟨hclock, harmed⟩
    · rw [if_neg hroll]
      cases ended.lockedDirection input with
      | some direction => exact ⟨hclock, nofun, fun _ => ⟨input.tick, rfl⟩⟩
      | none =>
        refine ⟨hclock, fun hstate => ?_, fun hstate => ?_⟩
        · dsimp only at hstate
          split_ifs at hstate
        · dsimp only at hstate
          split_ifs at hstate
  unfold OnFootKernel.moveTick
  dsimp only
  rw [heq]
  exact ⟨_, _, rfl, hchosen.1, hchosen.2.stunned, hchosen.2.rolling⟩

/-- A tick that is not stale succeeds. -/
theorem Armed.advanceTick {k : OnFootKernel} (h : k.Armed) {input : OnFootTickInput}
    (hnew : ∀ current ∈ k.currentTick, current < input.tick) :
    ∃ output k', k.advanceTick input = (.ok output, k') ∧ k'.currentTick = some input.tick
      ∧ k'.Armed := by
  unfold OnFootKernel.advanceTick
  rw [if_neg (not_any_le hnew)]
  dsimp only
  by_cases hstun : k.state = .spookStunned
  · obtain ⟨stunUntil, huntil⟩ := h.stunned hstun
    rw [if_pos hstun, huntil]
    dsimp only
    split_ifs
    · exact ⟨_, _, rfl, rfl, fun _ => ⟨stunUntil, rfl⟩, h.rolling⟩
    · refine Armed.moveTick ?_ ?_ input _ _
      · exact ⟨nofun, nofun⟩
      · exact nofun
  · rw [if_neg hstun]
    refine Armed.moveTick ?_ ?_ input _ _
    · exact ⟨h.stunned, h.rolling⟩
    · exact hstun

theorem Armed.beginSpookStun {k : OnFootKernel} (h : k.Armed) (tick : SimulationTick) :
    (k.beginSpookStun tick).2.Armed ∧ (k.beginSpookStun tick).2.currentTick = k.currentTick := by
  unfold OnFootKernel.beginSpookStun
  split_ifs
  · exact ⟨h, rfl⟩
  · exact ⟨⟨fun _ => ⟨_, rfl⟩, nofun⟩, rfl⟩

end OnFootKernel

/-! ## Runs -/

namespace OnFootKernel

theorem Kept.step {k : OnFootKernel} (h : k.Kept) (call : OnFootCall) : (k.step call).2.Kept := by
  cases call with
  | beginSpookStun tick => exact h.beginSpookStun tick
  | advanceTick input => exact (h.advanceTick input).1

/-- A call keeps a valid kernel valid exactly when the roll it starts, if any, fits. -/
theorem Kept.step_valid_iff {k : OnFootKernel} (h : k.Kept) (hvalid : k.stateIsValid = true)
    (call : OnFootCall) : (k.step call).2.stateIsValid = true ↔ k.RollsFit call := by
  have hbefore := h.stateIsValid_iff.mp hvalid
  rw [(h.step call).stateIsValid_iff]
  cases call with
  | beginSpookStun tick =>
    refine iff_of_true (fun hroll => ?_) trivial
    change (k.beginSpookStun tick).2.state = _ at hroll
    change (k.beginSpookStun tick).2.rollDirection.RollFits
    unfold OnFootKernel.beginSpookStun at hroll ⊢
    split_ifs at hroll ⊢
    exact hbefore hroll
  | advanceTick input =>
    obtain ⟨-, hstarts, hgoes⟩ := h.advanceTick input
    change ((k.advanceTick input).2.state = .rolling → (k.advanceTick input).2.rollDirection.RollFits)
      ↔ ∀ direction ∈ k.rollStart input, direction.RollFits
    cases hstart : k.rollStart input with
    | none =>
      refine iff_of_true (fun hroll => ?_) nofun
      obtain ⟨hrolling, hdirection⟩ := hgoes hstart hroll
      rw [hdirection]
      exact hbefore hrolling
    | some direction =>
      obtain ⟨hrolling, hdirection⟩ := hstarts direction hstart
      rw [hdirection]
      constructor
      · rintro hfits wanted ⟨⟩
        exact hfits hrolling
      · exact fun hfits _ => hfits direction rfl

end OnFootKernel

/-- **The on-foot kernel keeps its own invariant exactly as long as its rolls fit.**  In every run
from the default kernel, whatever the ticks, directions and levels of its calls, `stateIsValid` holds
in every state that is reached if and only if no roll starts along a direction whose planar part,
scaled to the roll speed, exceeds it. -/
theorem onFoot_valid_iff (calls : List OnFootCall) :
    (∀ before, before <+: calls →
        (Runs.run OnFootKernel.step .default before).stateIsValid = true)
      ↔ Runs.Along OnFootKernel.step OnFootKernel.RollsFit .default calls :=
  Runs.forall_prefix_iff_along (fun _ call h => h.step call)
    (fun _ call h hvalid => h.step_valid_iff hvalid call) OnFootKernel.kept_default (by decide) calls

/-- A unit direction in the sense of `is_normalized` that is a two-thousandth too long. -/
def longDirection : QuantizedDirection := ⟨1000500, 0, 0⟩

/-- The first tick of a run may already leave an invalid kernel: a roll along a direction of length
1.0005 moves at 7003 mm/s. -/
theorem onFoot_roll_invalid :
    longDirection.isNormalized = true
      ∧ (OnFootKernel.default.step (.advanceTick ⟨1, some longDirection, true, true, false⟩)).2.state
        = .rolling
      ∧ (OnFootKernel.default.step
        (.advanceTick ⟨1, some longDirection, true, true, false⟩)).2.stateIsValid = false := by
  refine ⟨by decide +kernel, by decide +kernel, by decide +kernel⟩

end Spurfire
