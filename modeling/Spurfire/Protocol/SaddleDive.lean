import Mathlib.Data.Prod.Lex
import Spurfire.Lib.Runs
import Spurfire.Protocol.SaddleGeometry
import Spurfire.Protocol.ShotLedger

/-!
# The saddle dive kernel

`SaddleDiveKernel` of `saddle_dive.rs`: mounting and dismounting by absolute ticks, rider health, and
one telemetry row for each dive.  An operation returns its effects and the kernel it leaves, also
where it fails part of the way.
-/

namespace Spurfire

open Std (ExtTreeMap)

def MIN_DIVE_SPEED_MMPS : ℕ := 8000
def HORIZONTAL_LAUNCH_IMPULSE_MMPS : UInt32 := 6000
def VERTICAL_POP_MMPS : UInt32 := 6000
def SADDLE_DIVE_GRAVITY_MMPS2 : ℤ := 22000
def ANALYTIC_AIRTIME_MICROSECONDS : UInt64 := 741593
def BAD_LANDING_THRESHOLD_MILLIDEGREES : UInt32 := 30000
def BAD_LANDING_DAMAGE : UInt16 := 15
def REMOUNT_RANGE_MM : ℕ := 3000
def MOVEMENT_SCALE_FULL_MILLI : UInt16 := 1000
def MOVEMENT_SCALE_PRONE_MILLI : UInt16 := 0
def MOVEMENT_SCALE_RECOVERY_MILLI : UInt16 := 500
def PROTOTYPE_RIDER_HEALTH : UInt16 := 100

def durationTicksCeil (tickRate milliseconds : UInt32) : UInt64 :=
  if tickRate = 0 then 0 else (tickRate.toUInt64.satMul milliseconds.toUInt64).divCeil 1000

def nominalAirtimeTicks (tickRate : UInt32) : UInt64 :=
  if tickRate = 0 then 0
  else (tickRate.toUInt64.satMul ANALYTIC_AIRTIME_MICROSECONDS).divCeil 1000000

def airborneVerticalVelocityMmps (elapsedTicks : UInt64) (tickRate : UInt32) : Int32 :=
  if tickRate = 0 then Int32.ofInt VERTICAL_POP_MMPS.toNat
  else
    let gravityDelta :=
      divRoundHalfAway (SADDLE_DIVE_GRAVITY_MMPS2 * elapsedTicks.toNat) tickRate.toNat
    saturatingI128ToI32 (VERTICAL_POP_MMPS.toNat - gravityDelta)

/-! ## Identifiers in order -/

namespace DiveId

theorem value_injective : Function.Injective DiveId.value := by
  rintro ⟨a, _⟩ ⟨b, _⟩ h
  simpa using h

instance instLinearOrder : LinearOrder DiveId := LinearOrder.lift' (·.value.toNat) fun _ _ h =>
  value_injective (UInt64.toNat_inj.mp h)

instance instTransCmp : Std.TransCmp (compare : DiveId → DiveId → Ordering) := inferInstance

instance instLawfulEqCmp : Std.LawfulEqCmp (compare : DiveId → DiveId → Ordering) where
  eq_of_compare h := compare_eq_iff_eq.mp h

end DiveId

/-- Identity of one externally applied damage aggregate. -/
structure DamageObservationId where
  authorityEpoch : UInt64
  actor : PlayerId
  tick : SimulationTick
  sequence : UInt64
deriving DecidableEq

namespace DamageObservationId

/-- The fields in the order in which identities compare. -/
def key (id : DamageObservationId) : ℕ ×ₗ ℕ ×ₗ ℕ ×ₗ ℕ :=
  toLex (id.authorityEpoch.toNat,
    toLex (id.actor.value, toLex (id.tick.toNat, id.sequence.toNat)))

theorem key_injective : Function.Injective key := by
  rintro ⟨epoch, actor, tick, sequence⟩ ⟨epoch', actor', tick', sequence'⟩ h
  simp only [key, EmbeddingLike.apply_eq_iff_eq, Prod.mk.injEq, UInt64.toNat_inj] at h
  obtain ⟨rfl, hactor, rfl, rfl⟩ := h
  rw [ProtocolId.value_injective hactor]

instance instLinearOrder : LinearOrder DamageObservationId := LinearOrder.lift' key key_injective

instance instTransCmp :
    Std.TransCmp (compare : DamageObservationId → DamageObservationId → Ordering) := inferInstance

instance instLawfulEqCmp :
    Std.LawfulEqCmp (compare : DamageObservationId → DamageObservationId → Ordering) where
  eq_of_compare h := compare_eq_iff_eq.mp h

end DamageObservationId

/-! ## Telemetry -/

inductive SaddleDiveState
  | mounted
  | saddleDiveAirborne
  | landingProne
  | landingRecovery
  | onFootReady
deriving DecidableEq

inductive LandingTerrain
  | flat
  | scrub
  | mud
  | riverbed
  | unknown
deriving DecidableEq

inductive LandingOutcome
  | good
  | bad
deriving DecidableEq

inductive DiveCensorReason
  | diedAirborne
  | diedBeforeRemount
  | matchEnded
  | reset
  | notObserved
deriving DecidableEq

structure DiveInstrumentationRow where
  schemaVersion : UInt16
  authorityEpoch : UInt64
  actor : PlayerId
  diveId : DiveId
  launchTick : SimulationTick
  launchWeapon : WeaponId
  launchGait : CombatGait
  prelaunchVelocityMmps : Planar
  prelaunchSpeedMmps : UInt32
  requestedDirection : QuantizedDirection
  requestedAngleMillidegrees : Int32
  clampedDirection : QuantizedDirection
  clampedAngleMillidegrees : Int32
  directionWasClamped : Bool
  horizontalImpulseMmps : UInt32
  resultingPlanarSpeedMmps : UInt32
  resultingTotalSpeedMmps : UInt32
  verticalPopMmps : UInt32
  launchHeightMm : Int32
  nominalAirtimeTicks : UInt64
  landingTick : Option SimulationTick
  airtimeTicks : Option UInt64
  shotAttempts : UInt16
  shotsFired : UInt16
  shotsHit : UInt16
  headshots : UInt16
  reversalHits : UInt16
  damageDealt : UInt32
  landingTerrain : Option LandingTerrain
  landingSlopeMillidegrees : Option UInt32
  landingOutcome : Option LandingOutcome
  landingDamage : UInt16
  damageTakenLandingThrough3s : UInt32
  deathTick : Option SimulationTick
  deathWithin3s : Option Bool
  remountTick : Option SimulationTick
  timeToRemountTicks : Option UInt64
  censorReason : Option DiveCensorReason
deriving DecidableEq

structure DiveRecord where
  row : DiveInstrumentationRow
  attemptTicks : Finset SimulationTick
  acceptedShots : ExtTreeMap SimulationTick AcceptedShotMetadata
  resolvedShots : Finset SimulationTick
  attributedDamageObservations : Finset DamageObservationId
  finalized : Bool

/-! ## Effects -/

structure SaddleDiveTransition where
  source : SaddleDiveState
  target : SaddleDiveState
  tick : SimulationTick
  diveId : Option DiveId
deriving DecidableEq

structure RiderDamageCommandId where
  authorityEpoch : UInt64
  actor : PlayerId
  diveId : DiveId
  landingTick : SimulationTick
deriving DecidableEq

structure RiderDamageCommand where
  id : RiderDamageCommandId
  amount : UInt16
  tick : SimulationTick
  source : String
deriving DecidableEq

inductive SaddleDiveCommand
  | startHorseRunout (diveId : DiveId) (tick : SimulationTick) (horsePosition : QuantizedOrigin)
      (horseVelocityMmps : Velocity)
  | detachRider (diveId : Option DiveId) (tick : SimulationTick) (launchVelocityMmps : Velocity)
  | applyRiderDamage (command : RiderDamageCommand)
  | attachRider (tick : SimulationTick) (horsePosition : QuantizedOrigin)
deriving DecidableEq

structure SaddleDiveEffects where
  transitions : List SaddleDiveTransition
  commands : List SaddleDiveCommand
  events : List GameplayEventRow
  telemetryUpdates : List DiveInstrumentationRow
  telemetryFinalized : List DiveInstrumentationRow
deriving DecidableEq

def SaddleDiveEffects.empty : SaddleDiveEffects := ⟨[], [], [], [], []⟩

namespace SaddleDiveEffects

def transition (e : SaddleDiveEffects) (t : SaddleDiveTransition) : SaddleDiveEffects :=
  { e with transitions := e.transitions ++ [t] }

def command (e : SaddleDiveEffects) (c : SaddleDiveCommand) : SaddleDiveEffects :=
  { e with commands := e.commands ++ [c] }

def extendEvents (e : SaddleDiveEffects) (rows : List GameplayEventRow) : SaddleDiveEffects :=
  { e with events := e.events ++ rows }

end SaddleDiveEffects

/-- Output policy and motion request for one begun tick. -/
structure SaddleDiveTickOutput where
  tick : SimulationTick
  state : SaddleDiveState
  stance : RiderStance
  diveId : Option DiveId
  movementInputScaleMilli : UInt16
  canFire : Bool
  canReload : Bool
  swayScaleMilli : UInt16
  requestedRiderVelocityMmps : Option Velocity
  interactConsumed : Bool
  effects : SaddleDiveEffects

/-! ## Inputs -/

structure SaddleDiveTickInput where
  tick : SimulationTick
  interactPressed : Bool
  chosenDirection : Option QuantizedDirection
  horseGrounded : Bool
  horsePosition : QuantizedOrigin
  horseVelocityMmps : Velocity
  horseGait : CombatGait
  equippedWeapon : WeaponId
  riderPosition : QuantizedOrigin
  horseRetrievable : Bool
  authorityEpoch : UInt64
  actor : PlayerId

structure RiderMotionObservation where
  tick : SimulationTick
  riderPosition : QuantizedOrigin
  riderVelocityMmps : Velocity
  descending : Bool
  landingNormal : Option QuantizedDirection
  landingTerrain : LandingTerrain

structure DamageObservation where
  id : DamageObservationId
  amount : UInt16

/-! ## Rider health -/

structure RiderHealthApplication where
  healthBefore : UInt16
  healthAfter : UInt16
  died : Bool

structure RiderHealthKernel where
  health : UInt16
  landingCommands : Finset RiderDamageCommandId
  externalObservations : Finset DamageObservationId

namespace RiderHealthKernel

def initial : RiderHealthKernel := ⟨PROTOTYPE_RIDER_HEALTH, ∅, ∅⟩

def applyAmount (h : RiderHealthKernel) (amount : UInt16) :
    RiderHealthApplication × RiderHealthKernel :=
  let health := if amount ≤ h.health then h.health - amount else 0
  (⟨h.health, health, h.health > 0 && health == 0⟩, { h with health })

def applyLandingCommand (h : RiderHealthKernel) (command : RiderDamageCommand) :
    Option RiderHealthApplication × RiderHealthKernel :=
  if command.id ∈ h.landingCommands then (none, h)
  else
    let applied := { h with
      landingCommands := insert command.id h.landingCommands }.applyAmount command.amount
    (some applied.1, applied.2)

def applyExternal (h : RiderHealthKernel) (observation : DamageObservation) :
    Option RiderHealthApplication × RiderHealthKernel :=
  if observation.id ∈ h.externalObservations then (none, h)
  else
    let applied := { h with
      externalObservations :=
        insert observation.id h.externalObservations }.applyAmount observation.amount
    (some applied.1, applied.2)

def observeDeath (h : RiderHealthKernel) : RiderHealthKernel := { h with health := 0 }

/-- Replay keys outlive a reset. -/
def reset (h : RiderHealthKernel) : RiderHealthKernel := { h with health := PROTOTYPE_RIDER_HEALTH }

end RiderHealthKernel

/-! ## The kernel -/

inductive SaddleDiveError
  | invalidTickRate
  | tickReplay
  | tickMismatch
  | motionAlreadyResolved
  | actorMismatch
  | authorityEpochMismatch
  | diveIdExhausted
deriving DecidableEq

structure AirborneState where
  diveId : DiveId
  launchTick : SimulationTick
  launchVelocityMmps : Velocity
  resolvedHorizontalVelocityMmps : Planar

structure LandingState where
  diveId : DiveId
  landingTick : SimulationTick
  bad : Bool

structure SaddleDiveKernel where
  tickRate : UInt32
  actor : PlayerId
  authorityEpoch : UInt64
  currentTick : Option SimulationTick
  motionResolved : Bool
  previousInteractLevel : Bool
  state : SaddleDiveState
  stateEnterTick : SimulationTick
  stateDiveId : Option DiveId
  mountedHorseGrounded : Bool
  nextDiveId : Option DiveId
  airborne : Option AirborneState
  landing : Option LandingState
  riderPosition : QuantizedOrigin
  health : RiderHealthKernel
  damageObservations : ExtTreeMap DamageObservationId UInt16
  observationWatermark : Option SimulationTick
  rows : ExtTreeMap DiveId DiveRecord

namespace SaddleDiveKernel

def new (tickRate : UInt32) (actor : PlayerId) (authorityEpoch : UInt64) :
    Except SaddleDiveError SaddleDiveKernel :=
  if tickRate = 0 then .error .invalidTickRate
  else
    .ok {
      tickRate, actor, authorityEpoch
      currentTick := none
      motionResolved := false
      previousInteractLevel := false
      state := .mounted
      stateEnterTick := 0
      stateDiveId := none
      mountedHorseGrounded := true
      nextDiveId := DiveId.new 1
      airborne := none
      landing := none
      riderPosition := ⟨0, 0, 0⟩
      health := .initial
      damageObservations := ∅
      observationWatermark := none
      rows := ∅ }

def setAuthorityEpoch (k : SaddleDiveKernel) (authorityEpoch : UInt64) :
    Bool × SaddleDiveKernel :=
  if authorityEpoch < k.authorityEpoch then (false, k) else (true, { k with authorityEpoch })

def stance (k : SaddleDiveKernel) : RiderStance :=
  match k.state with
  | .mounted => if k.mountedHorseGrounded then .mounted else .mountedAirborne
  | .saddleDiveAirborne => .saddleDiveAirborne
  | .landingProne => .landingProne
  | .landingRecovery => .landingRecovery
  | .onFootReady => .onFootStanding

def instrumentationRow (k : SaddleDiveKernel) (diveId : DiveId) : Option DiveInstrumentationRow :=
  k.rows[diveId]?.map (·.row)

def validateIdentity (k : SaddleDiveKernel) (actor : PlayerId) (authorityEpoch : UInt64) :
    Except SaddleDiveError Unit :=
  if actor ≠ k.actor then .error .actorMismatch
  else if authorityEpoch ≠ k.authorityEpoch then .error .authorityEpochMismatch
  else .ok ()

/-! ### Rows -/

/-- A change to one retained record. -/
def modifyRecord (k : SaddleDiveKernel) (diveId : DiveId) (f : DiveRecord → DiveRecord) :
    SaddleDiveKernel :=
  { k with rows := k.rows.modify diveId f }

def modifyRow (k : SaddleDiveKernel) (diveId : DiveId)
    (f : DiveInstrumentationRow → DiveInstrumentationRow) : SaddleDiveKernel :=
  k.modifyRecord diveId fun record => { record with row := f record.row }

/-- The snapshot of a row replaces an earlier one among the same effects. -/
def pushUpdate (k : SaddleDiveKernel) (diveId : DiveId) (e : SaddleDiveEffects) :
    SaddleDiveEffects :=
  match k.rows[diveId]? with
  | none => e
  | some record =>
    let isExisting := fun row : DiveInstrumentationRow => decide (row.diveId = diveId)
    { e with
      telemetryUpdates :=
        if e.telemetryUpdates.any isExisting then
          e.telemetryUpdates.modify (e.telemetryUpdates.findIdx isExisting) fun _ => record.row
        else e.telemetryUpdates ++ [record.row] }

def shouldFinalize (k : SaddleDiveKernel) (record : DiveRecord) : Bool :=
  let allAcceptedResultsSettled := decide (record.acceptedShots.size = record.resolvedShots.card)
  !record.finalized && match record.row.censorReason with
    | some .matchEnded | some .reset | some .notObserved => true
    | some .diedAirborne =>
      allAcceptedResultsSettled && (k.motionResolved || k.currentTick.any fun tick =>
        record.row.deathTick.any fun death => tick > death)
    | some .diedBeforeRemount => allAcceptedResultsSettled
    | none =>
      allAcceptedResultsSettled && record.row.deathWithin3s.isSome
        && record.row.remountTick.isSome

def maybeFinalize (k : SaddleDiveKernel) (diveId : DiveId) (e : SaddleDiveEffects) :
    SaddleDiveKernel × SaddleDiveEffects :=
  match k.rows[diveId]?.filter k.shouldFinalize with
  | none => (k, e)
  | some record =>
    (k.modifyRecord diveId fun record => { record with finalized := true },
      { e with telemetryFinalized := e.telemetryFinalized ++ [record.row] })

/-- The dives whose records have a property, in their order. -/
def diveIds (k : SaddleDiveKernel) (p : DiveRecord → Bool) : List DiveId :=
  k.rows.toList.filterMap fun entry => if p entry.2 then some entry.1 else none

/-- The body of a loop over dives: a row changes, is reported, and may be final. -/
def settleRow (f : DiveInstrumentationRow → DiveInstrumentationRow)
    (turn : SaddleDiveKernel × SaddleDiveEffects) (diveId : DiveId) :
    SaddleDiveKernel × SaddleDiveEffects :=
  let k := turn.1.modifyRow diveId f
  k.maybeFinalize diveId (k.pushUpdate diveId turn.2)

def windowTicks (k : SaddleDiveKernel) : UInt64 := durationTicksCeil k.tickRate 3000

def resolveElapsedDeathWindows (k : SaddleDiveKernel) (currentTick : SimulationTick)
    (e : SaddleDiveEffects) : SaddleDiveKernel × SaddleDiveEffects :=
  let ids := k.diveIds fun record =>
    !(record.finalized || record.row.deathWithin3s.isSome)
      && record.row.landingTick.any fun landing => currentTick ≥ landing.satAdd k.windowTicks
  ids.foldl (settleRow fun row => { row with deathWithin3s := some false }) (k, e)

/-- A row whose rider died at a tick. -/
def withDeath (window : UInt64) (tick : SimulationTick) (row : DiveInstrumentationRow) :
    DiveInstrumentationRow :=
  let row := { row with deathTick := some tick }
  match row.landingTick with
  | none => { row with censorReason := some .diedAirborne }
  | some landing =>
    { row with
      deathWithin3s := some (tick ≤ landing.satAdd window)
      censorReason :=
        if row.remountTick.all (tick < ·) then some .diedBeforeRemount else row.censorReason }

def observeDeathInternal (k : SaddleDiveKernel) (tick : SimulationTick) (e : SaddleDiveEffects) :
    SaddleDiveKernel × SaddleDiveEffects :=
  let ids := k.diveIds fun record =>
    !record.finalized && record.row.deathTick.isNone && tick ≥ record.row.launchTick
  ids.foldl (settleRow (withDeath k.windowTicks tick)) (k, e)

def censorOpenRows (k : SaddleDiveKernel) (reason : DiveCensorReason) :
    SaddleDiveKernel × SaddleDiveEffects :=
  let ids := k.diveIds fun record => !record.finalized
  ids.foldl (settleRow fun row => { row with censorReason := some reason })
    (k, SaddleDiveEffects.empty)

def attributeDamage (observation : DamageObservation)
    (turn : SaddleDiveKernel × SaddleDiveEffects) (diveId : DiveId) :
    SaddleDiveKernel × SaddleDiveEffects :=
  if turn.1.rows[diveId]?.any (observation.id ∈ ·.attributedDamageObservations) then turn
  else
    let k := turn.1.modifyRecord diveId fun record => { record with
      attributedDamageObservations := insert observation.id record.attributedDamageObservations
      row := { record.row with
        damageTakenLandingThrough3s :=
          record.row.damageTakenLandingThrough3s.satAdd observation.amount.toUInt32 } }
    (k, k.pushUpdate diveId turn.2)

def recordDamageInWindows (k : SaddleDiveKernel) (observation : DamageObservation)
    (e : SaddleDiveEffects) : SaddleDiveKernel × SaddleDiveEffects :=
  let ids := k.diveIds fun record =>
    !(record.finalized || decide (observation.id ∈ record.attributedDamageObservations))
      && record.row.landingTick.any fun landing =>
        observation.id.tick ≥ landing && observation.id.tick ≤ landing.satAdd k.windowTicks
  ids.foldl (attributeDamage observation) (k, e)

def damageTaken (k : SaddleDiveKernel) (diveId : DiveId) : Option UInt32 :=
  k.rows[diveId]?.map (·.row.damageTakenLandingThrough3s)

/-- One observation of the loop over retained damage. -/
def attributeRetained (diveId : DiveId) (turn : SaddleDiveKernel × SaddleDiveEffects)
    (observation : DamageObservation) : SaddleDiveKernel × SaddleDiveEffects :=
  let next := turn.1.recordDamageInWindows observation turn.2
  if turn.1.damageTaken diveId ≠ next.1.damageTaken diveId then
    (next.1, next.1.pushUpdate diveId next.2)
  else next

def attributeRetainedDamageForDive (k : SaddleDiveKernel) (diveId : DiveId)
    (e : SaddleDiveEffects) : SaddleDiveKernel × SaddleDiveEffects :=
  (k.damageObservations.toList.map fun entry => (⟨entry.1, entry.2⟩ : DamageObservation)).foldl
    (attributeRetained diveId) (k, e)

/-! ### Transitions -/

def ordinaryDismount (k : SaddleDiveKernel) (tick : SimulationTick) (e : SaddleDiveEffects) :
    SaddleDiveKernel × SaddleDiveEffects :=
  ({ k with
      state := .onFootReady
      stateEnterTick := tick
      stateDiveId := none
      airborne := none
      landing := none },
    (e.transition ⟨k.state, .onFootReady, tick, none⟩).command
      (.detachRider none tick (.new 0 0 0)))

def launchVelocity (horseVelocity : Velocity) (clamped : QuantizedDirection) : Velocity :=
  let impulse := fun c : Int32 => divRoundHalfAway
    (c.toInt * HORIZONTAL_LAUNCH_IMPULSE_MMPS.toNat) DIRECTION_UNITS.toInt
  .new (saturatingI128ToI32 (horseVelocity.planar.x + impulse clamped.x))
    (Int32.ofInt VERTICAL_POP_MMPS.toNat)
    (saturatingI128ToI32 (horseVelocity.planar.z + impulse clamped.z))

/-- The row of a dive that has just been launched. -/
def launchRow (k : SaddleDiveKernel) (diveId : DiveId) (input : SaddleDiveTickInput) :
    DiveInstrumentationRow :=
  let launch := clampLaunchDirection input.horseVelocityMmps input.chosenDirection
  let velocity := launchVelocity input.horseVelocityMmps launch.clampedDirection
  { schemaVersion := 1
    authorityEpoch := k.authorityEpoch
    actor := k.actor
    diveId
    launchTick := input.tick
    launchWeapon := input.equippedWeapon
    launchGait := input.horseGait
    prelaunchVelocityMmps := input.horseVelocityMmps.planar
    prelaunchSpeedMmps := roundedPlanarMagnitude input.horseVelocityMmps
    requestedDirection := launch.requestedDirection
    requestedAngleMillidegrees := launch.requestedAngleMillidegrees
    clampedDirection := launch.clampedDirection
    clampedAngleMillidegrees := launch.clampedAngleMillidegrees
    directionWasClamped := launch.directionWasClamped
    horizontalImpulseMmps := HORIZONTAL_LAUNCH_IMPULSE_MMPS
    resultingPlanarSpeedMmps := roundedMagnitude2d velocity.planar
    resultingTotalSpeedMmps := roundedMagnitude3d velocity
    verticalPopMmps := VERTICAL_POP_MMPS
    launchHeightMm := input.riderPosition.y.satSub input.horsePosition.y
    nominalAirtimeTicks := nominalAirtimeTicks k.tickRate
    landingTick := none
    airtimeTicks := none
    shotAttempts := 0
    shotsFired := 0
    shotsHit := 0
    headshots := 0
    reversalHits := 0
    damageDealt := 0
    landingTerrain := none
    landingSlopeMillidegrees := none
    landingOutcome := none
    landingDamage := 0
    damageTakenLandingThrough3s := 0
    deathTick := none
    deathWithin3s := none
    remountTick := none
    timeToRemountTicks := none
    censorReason := none }

def flyingDismountEvent (k : SaddleDiveKernel) (diveId : DiveId) (input : SaddleDiveTickInput) :
    GameplayEventRow where
  id := ⟨k.authorityEpoch, k.actor, input.tick, .flyingDismount, diveId.value⟩
  kind := .flyingDismount
  tick := input.tick
  actor := k.actor
  diveId := some diveId
  weaponId := some input.equippedWeapon
  targetId := none
  hitZone := none
  damage := 0
  text := GameplayEventKind.flyingDismount.text

/-- A launch takes the next identifier, and fails where none is left. -/
def launchDive (k : SaddleDiveKernel) (input : SaddleDiveTickInput) (e : SaddleDiveEffects) :
    Except SaddleDiveError SaddleDiveEffects × SaddleDiveKernel :=
  match k.nextDiveId with
  | none => (.error .diveIdExhausted, k)
  | some diveId =>
    let velocity := launchVelocity input.horseVelocityMmps
      (clampLaunchDirection input.horseVelocityMmps input.chosenDirection).clampedDirection
    let launched := { k with
      nextDiveId := (diveId.value.checkedAdd 1).bind DiveId.new
      rows := k.rows.insert diveId {
        row := k.launchRow diveId input
        attemptTicks := ∅
        acceptedShots := ∅
        resolvedShots := ∅
        attributedDamageObservations := ∅
        finalized := false }
      state := .saddleDiveAirborne
      stateEnterTick := input.tick
      stateDiveId := some diveId
      airborne := some {
        diveId
        launchTick := input.tick
        launchVelocityMmps := velocity
        resolvedHorizontalVelocityMmps := velocity.planar }
      landing := none }
    let e := (e.transition ⟨k.state, .saddleDiveAirborne, input.tick, some diveId⟩)
      |>.command (.detachRider (some diveId) input.tick velocity)
      |>.command (.startHorseRunout diveId input.tick input.horsePosition
        (input.horseVelocityMmps.planar.lift 0))
      |>.extendEvents [k.flyingDismountEvent diveId input]
    (.ok (launched.pushUpdate diveId e), launched)

/-- The timer boundaries of a landing: prone, recovery, on foot. -/
def recoveryBoundaries (tick : SimulationTick) :
    ℕ → SaddleDiveKernel × SaddleDiveEffects → SaddleDiveKernel × SaddleDiveEffects
  | 0, turn => turn
  | fuel + 1, (k, e) =>
    match k.landing with
    | none => (k, e)
    | some landing =>
      match k.state with
      | .landingProne =>
        let proneTicks := (durationTicksCeil k.tickRate 400).satAdd
          (if landing.bad then durationTicksCeil k.tickRate 400 else 0)
        let boundary := landing.landingTick.satAdd proneTicks
        if tick < boundary then (k, e)
        else recoveryBoundaries tick fuel
          ({ k with state := .landingRecovery, stateEnterTick := boundary },
            e.transition ⟨.landingProne, .landingRecovery, boundary, some landing.diveId⟩)
      | .landingRecovery =>
        let boundary := k.stateEnterTick.satAdd (durationTicksCeil k.tickRate 400)
        if tick < boundary then (k, e)
        else recoveryBoundaries tick fuel
          ({ k with
              state := .onFootReady
              stateEnterTick := boundary
              stateDiveId := some landing.diveId },
            e.transition ⟨.landingRecovery, .onFootReady, boundary, some landing.diveId⟩)
      | _ => (k, e)

/-- A landing passes two boundaries at most. -/
def advanceRecoveryBoundaries (k : SaddleDiveKernel) (tick : SimulationTick)
    (e : SaddleDiveEffects) : SaddleDiveKernel × SaddleDiveEffects :=
  recoveryBoundaries tick 3 (k, e)

def withRemount (tick : SimulationTick) (record : DiveRecord) : DiveRecord :=
  if !record.finalized && record.row.remountTick.isNone then
    { record with row := { record.row with
      remountTick := some tick
      timeToRemountTicks := record.row.landingTick.bind tick.checkedSub } }
  else record

def completeRemount (k : SaddleDiveKernel) (tick : SimulationTick)
    (horsePosition : QuantizedOrigin) (e : SaddleDiveEffects) :
    SaddleDiveKernel × SaddleDiveEffects :=
  let mounted := { k with
    state := .mounted
    stateEnterTick := tick
    stateDiveId := none
    airborne := none
    landing := none }
  let e := (e.transition ⟨k.state, .mounted, tick, k.stateDiveId⟩).command
    (.attachRider tick horsePosition)
  match k.stateDiveId with
  | none => (mounted, e)
  | some diveId =>
    let mounted := mounted.modifyRecord diveId (withRemount tick)
    mounted.maybeFinalize diveId (mounted.pushUpdate diveId e)

def withLanding (window : UInt64) (launchTick : SimulationTick)
    (observation : RiderMotionObservation) (slope : UInt32) (bad : Bool)
    (row : DiveInstrumentationRow) : DiveInstrumentationRow :=
  if row.landingTick.isNone then
    let row := { row with
      landingTick := some observation.tick
      airtimeTicks := UInt64.checkedSub observation.tick launchTick
      landingTerrain := some observation.landingTerrain
      landingSlopeMillidegrees := some slope
      landingOutcome := some (if bad then .bad else .good)
      landingDamage := if bad then BAD_LANDING_DAMAGE else row.landingDamage
      damageTakenLandingThrough3s :=
        if bad then row.damageTakenLandingThrough3s.satAdd BAD_LANDING_DAMAGE.toUInt32
        else row.damageTakenLandingThrough3s }
    match row.deathTick with
    | none => row
    | some death =>
      { row with
        deathWithin3s := some (death ≤ UInt64.satAdd observation.tick window)
        censorReason := some .diedBeforeRemount }
  else row

/-- Damage and death from a bad landing. -/
def applyLandingDamage (k : SaddleDiveKernel) (diveId : DiveId) (tick : SimulationTick)
    (e : SaddleDiveEffects) : SaddleDiveKernel × SaddleDiveEffects :=
  let command : RiderDamageCommand := {
    id := ⟨k.authorityEpoch, k.actor, diveId, tick⟩
    amount := BAD_LANDING_DAMAGE
    tick
    source := "bad_landing" }
  let applied := k.health.applyLandingCommand command
  let k := { k with health := applied.2 }
  match applied.1 with
  | none => (k, e)
  | some application =>
    let e := e.command (.applyRiderDamage command)
    if application.died then k.observeDeathInternal tick e else (k, e)

def landDive (k : SaddleDiveKernel) (airborne : AirborneState)
    (observation : RiderMotionObservation) (slope : UInt32) (e : SaddleDiveEffects) :
    SaddleDiveKernel × SaddleDiveEffects :=
  let bad := decide (slope > BAD_LANDING_THRESHOLD_MILLIDEGREES)
  let landed := { k with
    state := .landingProne
    stateEnterTick := observation.tick
    stateDiveId := some airborne.diveId
    airborne := none
    landing := some ⟨airborne.diveId, observation.tick, bad⟩ }
  let e := e.transition ⟨k.state, .landingProne, observation.tick, some airborne.diveId⟩
  let landed := landed.modifyRow airborne.diveId
    (withLanding k.windowTicks airborne.launchTick observation slope bad)
  let attributed := landed.attributeRetainedDamageForDive airborne.diveId e
  let hurt :=
    if bad then attributed.1.applyLandingDamage airborne.diveId observation.tick attributed.2
    else attributed
  hurt.1.maybeFinalize airborne.diveId (hurt.1.pushUpdate airborne.diveId hurt.2)

def tickOutput (k : SaddleDiveKernel) (tick : SimulationTick) (interactConsumed : Bool)
    (e : SaddleDiveEffects) : SaddleDiveTickOutput :=
  let motion := k.airborne.map fun airborne =>
    let elapsed := (UInt64.checkedSub tick airborne.launchTick).getD 0
    (diveSwayScaleMilli elapsed (nominalAirtimeTicks k.tickRate),
      airborne.resolvedHorizontalVelocityMmps.lift
        (airborneVerticalVelocityMmps elapsed k.tickRate))
  { tick
    state := k.state
    stance := k.stance
    diveId := k.stateDiveId
    movementInputScaleMilli :=
      match k.state with
      | .landingProne => MOVEMENT_SCALE_PRONE_MILLI
      | .landingRecovery => MOVEMENT_SCALE_RECOVERY_MILLI
      | .mounted | .saddleDiveAirborne | .onFootReady => MOVEMENT_SCALE_FULL_MILLI
    canFire := k.stance == .mounted || k.stance == .saddleDiveAirborne
    canReload := k.stance == .mounted
    swayScaleMilli := (motion.map (·.1)).getD 1000
    requestedRiderVelocityMmps := motion.map (·.2)
    interactConsumed
    effects := e }

/-! ### Operations -/

/-- The rider may mount the idle horse. -/
def inRemountRange (input : SaddleDiveTickInput) : Bool :=
  input.horseRetrievable
    && planarDistanceSquared input.riderPosition input.horsePosition ≤ REMOUNT_RANGE_MM ^ 2

/-- The rising edge of E in the state that the timers have left. -/
def interact (k : SaddleDiveKernel) (input : SaddleDiveTickInput) (edge : Bool)
    (e : SaddleDiveEffects) :
    Except SaddleDiveError (Bool × SaddleDiveEffects) × SaddleDiveKernel :=
  match k.state with
  | .mounted =>
    let k := { k with mountedHorseGrounded := input.horseGrounded }
    if edge then
      if input.horseGrounded then
        if planarSpeedSquared input.horseVelocityMmps ≥ MIN_DIVE_SPEED_MMPS ^ 2 then
          let launched := k.launchDive input e
          (launched.1.map fun e => (true, e), launched.2)
        else
          let dismounted := k.ordinaryDismount input.tick e
          (.ok (true, dismounted.2), dismounted.1)
      else (.ok (true, e), k)
    else (.ok (false, e), k)
  | .onFootReady =>
    if edge && inRemountRange input then
      let remounted := k.completeRemount input.tick input.horsePosition e
      (.ok (true, remounted.2), { remounted.1 with mountedHorseGrounded := input.horseGrounded })
    else (.ok (false, e), k)
  | .saddleDiveAirborne | .landingProne | .landingRecovery => (.ok (false, e), k)

/-- The part of `begin_tick` before the rising edge. -/
def enterTick (k : SaddleDiveKernel) (input : SaddleDiveTickInput) :
    SaddleDiveKernel × SaddleDiveEffects :=
  advanceRecoveryBoundaries { k with
    currentTick := some input.tick
    motionResolved := false
    riderPosition := input.riderPosition } input.tick SaddleDiveEffects.empty

def beginTick (k : SaddleDiveKernel) (input : SaddleDiveTickInput) :
    Except SaddleDiveError SaddleDiveTickOutput × SaddleDiveKernel :=
  match k.validateIdentity input.actor input.authorityEpoch with
  | .error error => (.error error, k)
  | .ok () =>
    if k.currentTick.any (input.tick ≤ ·) then (.error .tickReplay, k)
    else
      let entered := k.enterTick input
      let edge := input.interactPressed && !entered.1.previousInteractLevel
      let pressed := { entered.1 with previousInteractLevel := input.interactPressed }
      let interacted := pressed.interact input edge entered.2
      (interacted.1.map fun answer => interacted.2.tickOutput input.tick answer.1 answer.2,
        interacted.2)

def settleObservationsThrough (k : SaddleDiveKernel) (tick : SimulationTick) :
    SaddleDiveEffects × SaddleDiveKernel :=
  if k.currentTick.all (tick > ·) || k.observationWatermark.any (tick ≤ ·) then
    (SaddleDiveEffects.empty, k)
  else
    ({ k with observationWatermark := some tick }.resolveElapsedDeathWindows tick
      SaddleDiveEffects.empty).swap

/-- The slope of the contact that ends a dive, if the observation has one. -/
def contactSlope (observation : RiderMotionObservation) : Option UInt32 :=
  if observation.descending then observation.landingNormal.bind landingSlopeMillidegrees else none

def resolveMotion (k : SaddleDiveKernel) (observation : RiderMotionObservation) :
    Except SaddleDiveError SaddleDiveEffects × SaddleDiveKernel :=
  if k.currentTick ≠ some observation.tick then (.error .tickMismatch, k)
  else if k.motionResolved then (.error .motionAlreadyResolved, k)
  else
    let k := { k with motionResolved := true, riderPosition := observation.riderPosition }
    match k.airborne with
    | none => (.ok SaddleDiveEffects.empty, k)
    | some airborne =>
      if k.state ≠ .saddleDiveAirborne then (.ok SaddleDiveEffects.empty, k)
      else
        match contactSlope observation with
        | some slope =>
          let landed := k.landDive airborne observation slope SaddleDiveEffects.empty
          (.ok landed.2, landed.1)
        | none =>
          (.ok SaddleDiveEffects.empty, { k with
            airborne := some { airborne with
              resolvedHorizontalVelocityMmps := observation.riderVelocityMmps.planar } })

def recordShotAttempt (k : SaddleDiveKernel) (tick : SimulationTick) :
    SaddleDiveEffects × SaddleDiveKernel :=
  if k.currentTick ≠ some tick ∨ k.state ≠ .saddleDiveAirborne then (SaddleDiveEffects.empty, k)
  else
    match k.stateDiveId with
    | none => (SaddleDiveEffects.empty, k)
    | some diveId =>
      match k.rows[diveId]? with
      | none => (SaddleDiveEffects.empty, k)
      | some record =>
        if tick ∈ record.attemptTicks then (SaddleDiveEffects.empty, k)
        else
          let counted := k.modifyRecord diveId fun record => { record with
            attemptTicks := insert tick record.attemptTicks
            row := { record.row with shotAttempts := record.row.shotAttempts.satAdd 1 } }
          (counted.pushUpdate diveId SaddleDiveEffects.empty, counted)

/-- A shot that the row of its dive does not take. -/
def refusesShot (record : DiveRecord) (shot : AcceptedShotMetadata) : Bool :=
  record.finalized
    || shot.tick < record.row.launchTick
    || shot.weaponId != record.row.launchWeapon
    || shot.prelaunchHorizontalVelocityMmps != record.row.prelaunchVelocityMmps
    || record.row.landingTick.any (shot.tick > ·)
    || record.acceptedShots.contains shot.tick

def recordAcceptedShot (k : SaddleDiveKernel) (shot : AcceptedShotMetadata) :
    SaddleDiveEffects × SaddleDiveKernel :=
  match shot.diveId with
  | none => (SaddleDiveEffects.empty, k)
  | some diveId =>
    if shot.shooter ≠ k.actor ∨ !shot.isConsistent then (SaddleDiveEffects.empty, k)
    else
      match k.rows[diveId]? with
      | none => (SaddleDiveEffects.empty, k)
      | some record =>
        if refusesShot record shot then (SaddleDiveEffects.empty, k)
        else
          let counted := k.modifyRecord diveId fun record => { record with
            acceptedShots := record.acceptedShots.insert shot.tick shot
            row := { record.row with shotsFired := record.row.shotsFired.satAdd 1 } }
          (counted.pushUpdate diveId SaddleDiveEffects.empty, counted)

def withHit (result : ShotResult) (row : DiveInstrumentationRow) : DiveInstrumentationRow :=
  if result.outcome = .hit then
    { row with
      shotsHit := row.shotsHit.satAdd 1
      damageDealt := row.damageDealt.satAdd result.damage.toUInt32
      headshots :=
        if result.hitZone = some .head then row.headshots.satAdd 1 else row.headshots
      reversalHits :=
        if result.resolvedDirection.any (fun direction =>
            horizontalDot row.prelaunchVelocityMmps (.new direction.x direction.z) < 0) then
          row.reversalHits.satAdd 1
        else row.reversalHits }
  else row

def recordAuthorityResult (k : SaddleDiveKernel) (attribution : ShotResultAttribution) :
    SaddleDiveEffects × SaddleDiveKernel :=
  if attribution.result.shooterPeerId ≠ k.actor ∨ attribution.duplicate then
    (SaddleDiveEffects.empty, k)
  else
    match attribution.acceptedShot with
    | none => (SaddleDiveEffects.empty, k)
    | some shot =>
      let reported := SaddleDiveEffects.empty.extendEvents attribution.events
      match shot.diveId with
      | none => (reported, k)
      | some diveId =>
        match k.rows[diveId]? with
        | none => (SaddleDiveEffects.empty, k)
        | some record =>
          if record.finalized || record.acceptedShots[shot.tick]? != some shot
              || decide (shot.tick ∈ record.resolvedShots) then
            (SaddleDiveEffects.empty, k)
          else
            let counted := k.modifyRecord diveId fun record => { record with
              resolvedShots := insert shot.tick record.resolvedShots
              row := withHit attribution.result record.row }
            (counted.maybeFinalize diveId (counted.pushUpdate diveId reported)).swap

def applyExternalDamage (k : SaddleDiveKernel) (observation : DamageObservation) :
    SaddleDiveEffects × SaddleDiveKernel :=
  if observation.id.actor ≠ k.actor ∨ observation.id.authorityEpoch ≠ k.authorityEpoch then
    (SaddleDiveEffects.empty, k)
  else
    let applied := k.health.applyExternal observation
    match applied.1 with
    | none => (SaddleDiveEffects.empty, { k with health := applied.2 })
    | some application =>
      let hurt := { k with
        health := applied.2
        damageObservations := k.damageObservations.insert observation.id observation.amount }
      let recorded := hurt.recordDamageInWindows observation SaddleDiveEffects.empty
      if application.died then
        (recorded.1.observeDeathInternal observation.id.tick recorded.2).swap
      else recorded.swap

def observeDeath (k : SaddleDiveKernel) (tick : SimulationTick) :
    SaddleDiveEffects × SaddleDiveKernel :=
  ({ k with health := k.health.observeDeath }.observeDeathInternal tick
    SaddleDiveEffects.empty).swap

def endMatch (k : SaddleDiveKernel) (_tick : SimulationTick) :
    SaddleDiveEffects × SaddleDiveKernel :=
  (k.censorOpenRows .matchEnded).swap

def censorNotObserved (k : SaddleDiveKernel) : SaddleDiveEffects × SaddleDiveKernel :=
  (k.censorOpenRows .notObserved).swap

def reset (k : SaddleDiveKernel) (tick : SimulationTick) : SaddleDiveEffects × SaddleDiveKernel :=
  let censored := k.censorOpenRows .reset
  (if k.state = .mounted then censored.2
    else censored.2.transition ⟨k.state, .mounted, tick, k.stateDiveId⟩,
    { censored.1 with
      state := .mounted
      stateEnterTick := tick
      currentTick := if k.currentTick.all (tick > ·) then some tick else k.currentTick
      motionResolved := true
      stateDiveId := none
      airborne := none
      landing := none
      mountedHorseGrounded := true
      previousInteractLevel := false
      health := censored.1.health.reset })

end SaddleDiveKernel

/-! ## Calls -/

inductive SaddleDiveCall
  | setAuthorityEpoch (authorityEpoch : UInt64)
  | beginTick (input : SaddleDiveTickInput)
  | settleObservationsThrough (tick : SimulationTick)
  | resolveMotion (observation : RiderMotionObservation)
  | recordShotAttempt (tick : SimulationTick)
  | recordAcceptedShot (shot : AcceptedShotMetadata)
  | recordAuthorityResult (attribution : ShotResultAttribution)
  | applyExternalDamage (observation : DamageObservation)
  | observeDeath (tick : SimulationTick)
  | endMatch (tick : SimulationTick)
  | censorNotObserved
  | reset (tick : SimulationTick)

namespace SaddleDiveKernel

/-- The effects that a call hands out: none where it fails. -/
def emitted : Except SaddleDiveError SaddleDiveEffects → SaddleDiveEffects
  | .ok e => e
  | .error _ => SaddleDiveEffects.empty

def step (k : SaddleDiveKernel) : SaddleDiveCall → SaddleDiveEffects × SaddleDiveKernel
  | .setAuthorityEpoch authorityEpoch =>
    (SaddleDiveEffects.empty, (k.setAuthorityEpoch authorityEpoch).2)
  | .beginTick input =>
    let begun := k.beginTick input
    (emitted (begun.1.map (·.effects)), begun.2)
  | .settleObservationsThrough tick => k.settleObservationsThrough tick
  | .resolveMotion observation =>
    let resolved := k.resolveMotion observation
    (emitted resolved.1, resolved.2)
  | .recordShotAttempt tick => k.recordShotAttempt tick
  | .recordAcceptedShot shot => k.recordAcceptedShot shot
  | .recordAuthorityResult attribution => k.recordAuthorityResult attribution
  | .applyExternalDamage observation => k.applyExternalDamage observation
  | .observeDeath tick => k.observeDeath tick
  | .endMatch tick => k.endMatch tick
  | .censorNotObserved => k.censorNotObserved
  | .reset tick => k.reset tick

end SaddleDiveKernel

end Spurfire
