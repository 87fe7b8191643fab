import Spurfire.Protocol.Combat

/-!
# Horse, on-foot, recall and Spur state

The data of the gameplay kernels (`m3.rs`, `m4.rs`, `m3_combat.rs`) as a migration checkpoint
carries it, with the mode derived from it.  The transition functions of the kernels have modules of
their own.
-/

namespace Spurfire

def M3_TICK_RATE_HZ : UInt32 := 60
def ON_FOOT_STAMINA_TICKS : UInt32 := 4 * M3_TICK_RATE_HZ
def SPOOK_STUN_TICKS : UInt64 := 3 * 60 / 5
def SPUR_METER_MAX : UInt8 := 100
def MAJESTIC_CHARGE_TICKS : UInt64 := 6 * 60
def MAX_M3_AUTHORITY_ACTORS : ℕ := 16

inductive HorseVitalityClass
  | courser
  | warhorse
  | mustang
deriving DecidableEq

def HorseVitalityClass.maxHealth : HorseVitalityClass → UInt16
  | courser => 200
  | warhorse => 320
  | mustang => 250

inductive HorseVitalityState
  | available
  | bolting
  | despawned
deriving DecidableEq

inductive M3ActorStance
  | mounted
  | mountedAirborne
  | saddleDiveAirborne
  | landingProne
  | landingRecovery
  | spookStunned
  | onFootStanding
  | onFootSprinting
  | onFootCrouched
  | onFootRolling
deriving DecidableEq

def M3ActorStance.asU8 : M3ActorStance → UInt8
  | mounted => 0
  | mountedAirborne => 1
  | saddleDiveAirborne => 2
  | landingProne => 3
  | landingRecovery => 4
  | spookStunned => 5
  | onFootStanding => 6
  | onFootSprinting => 7
  | onFootCrouched => 8
  | onFootRolling => 9

inductive RecallState
  | horsePresent
  | coolingDown
  | ready
  | hoofbeats
  | dustReveal
  | gallopIn
  | mountWindow
  | waitingMount
deriving DecidableEq

inductive OnFootState
  | spookStunned
  | standing
  | sprinting
  | crouched
  | rolling
deriving DecidableEq

/-- Ordering and state rejections of the kernels. -/
inductive M3Error
  | tickReplay
  | invalidState
deriving DecidableEq

def tickIsNotAfter : Option SimulationTick → Option SimulationTick → Bool
  | none, _ => true
  | some _, none => false
  | some earlier, some later => earlier ≤ later

/-- A tick that no clock refuses is newer than the clock. -/
theorem lt_of_not_any_le {clock : Option SimulationTick} {tick : SimulationTick}
    (h : ¬(clock.any fun current => tick ≤ current) = true) : ∀ current ∈ clock, current < tick := by
  intro current hcurrent
  rw [Option.mem_def] at hcurrent
  rw [hcurrent, Option.any_some, decide_eq_true_eq, UInt64.not_le] at h
  exact h

theorem not_any_le {clock : Option SimulationTick} {tick : SimulationTick}
    (h : ∀ current ∈ clock, current < tick) : ¬(clock.any fun current => tick ≤ current) = true := by
  cases clock with
  | none => simp
  | some current =>
    rw [Option.any_some, decide_eq_true_eq, UInt64.not_le]
    exact h current rfl

/-- The shape shared by `HorseDamageId`, `RecallCreditId` and `SpurCreditId`. -/
structure AuthorityReceiptId where
  authorityEpoch : UInt64
  tick : SimulationTick
  sequence : UInt64
deriving DecidableEq

structure HorseDamageApplication where
  healthBefore : UInt16
  healthAfter : UInt16
  spooked : Bool
  boltAwayDeltaMm : Vector Int32 2
  riderThrowDistanceMm : UInt32
  riderStunTicks : UInt64
  riderFallDamage : Bool
deriving DecidableEq

structure HorseBoltedEvent where
  id : AuthorityReceiptId
  horseClass : HorseVitalityClass
  boltAwayDeltaMm : Vector Int32 2
  notificationPoints : UInt16
deriving DecidableEq

structure HorseDamageEffects where
  application : HorseDamageApplication
  horseBolted : Option HorseBoltedEvent
deriving DecidableEq

structure HorseVitalityKernel where
  horseClass : HorseVitalityClass
  health : UInt16
  state : HorseVitalityState
  boltStartedTick : Option SimulationTick
  boltAwayDeltaMm : Vector Int32 2
  lastDamageId : Option AuthorityReceiptId
  currentTick : Option SimulationTick
  lastDamageTick : Option SimulationTick
  regenUnits : UInt32
deriving DecidableEq

structure OnFootKernel where
  currentTick : Option SimulationTick
  state : OnFootState
  staminaUnits : UInt32
  previousCrouchLevel : Bool
  bufferedRollUntil : Option SimulationTick
  rollStartedTick : Option SimulationTick
  rollDirection : QuantizedDirection
  rollCooldownUntil : SimulationTick
  rollExitTick : Option SimulationTick
  spookStunUntil : Option SimulationTick
  velocityMmps : Vector Int32 2
deriving DecidableEq

structure RemountTelemetryRow where
  horseLostTick : SimulationTick
  remountTick : Option SimulationTick
  loseHorseToRemountTicks : Option UInt64
  runningMount : Bool
deriving DecidableEq

structure RecallKernel where
  state : RecallState
  currentTick : Option SimulationTick
  horseLossTick : Option SimulationTick
  lostTick : Option SimulationTick
  phaseEnterTick : Option SimulationTick
  earnedReductionTicks : UInt64
  damageRemainder : UInt32
  lastCreditId : Option AuthorityReceiptId
  telemetry : Option RemountTelemetryRow
deriving DecidableEq

structure SpurKernel where
  currentTick : Option SimulationTick
  meter : UInt8
  movementStylePoints : UInt8
  lastCreditId : Option AuthorityReceiptId
  nextCreditSequence : UInt64
  spendHeld : Bool
  chargeStartedTick : Option SimulationTick
  chargeEndTick : Option SimulationTick
deriving DecidableEq

/-- Complete authority state of one actor. -/
structure ActorGameplayKernel where
  currentTick : Option SimulationTick
  horse : HorseVitalityKernel
  onFoot : OnFootKernel
  recallKernel : RecallKernel
  horseLossTick : Option SimulationTick
  pendingHorseLossEffects : Option HorseDamageEffects
  spur : SpurKernel
deriving DecidableEq

inductive ActorM3Mode
  | mounted
  | spookStunned
  | onFoot
  | returningHorse
deriving DecidableEq

def ActorGameplayKernel.mode (actor : ActorGameplayKernel) : ActorM3Mode :=
  if actor.horse.state = .available then .mounted
  else if actor.onFoot.state = .spookStunned then .spookStunned
  else match actor.recallKernel.state with
    | .hoofbeats | .dustReveal | .gallopIn | .mountWindow | .waitingMount => .returningHorse
    | .horsePresent | .coolingDown | .ready => .onFoot

/-! ## Checkpoint rows -/

structure ActorGameplayCheckpointV2 where
  wireVersion : WireVersion
  actor : ActorGameplayKernel
deriving DecidableEq

namespace ActorGameplayCheckpointV2

def currentTick (c : ActorGameplayCheckpointV2) : Option SimulationTick := c.actor.currentTick

def mode (c : ActorGameplayCheckpointV2) : ActorM3Mode := c.actor.mode

end ActorGameplayCheckpointV2

structure M3AuthorityActorCheckpoint where
  riderPlayerId : PlayerId
  horseEntityId : EntityId
  actor : ActorGameplayCheckpointV2
deriving DecidableEq

/-- Horse, on-foot and recall state of every actor, in player order. -/
structure M3AuthorityCheckpointV2 where
  wireVersion : WireVersion
  sourceAuthorityEpoch : UInt64
  actors : List M3AuthorityActorCheckpoint
deriving DecidableEq

structure ReloadSnapshot where
  weaponId : WeaponId
  activeTicks : UInt64
  requiredTicks : UInt64
deriving DecidableEq

structure M3ReloadCheckpointV2 where
  riderPlayerId : PlayerId
  currentTick : Option SimulationTick
  reloadHeld : Bool
  reload : Option ReloadSnapshot
deriving DecidableEq

end Spurfire
