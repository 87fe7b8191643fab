import Spurfire.Net.Checkpoint

/-!
# Peer messages

The payloads of both wires.  `M3PeerPayloadV2` is the live wire-v2 set, with the canonicality
checks that every locally built and every received payload must pass (`validatePayload`);
`PeerPayload` is the retained wire-1.2 set that `SessionState.accept` reads.

`M3ActorSnapshotDelta` is a field-level delta against a complete snapshot: a field is present
exactly when it changed, and the three optional fields carry a flag of their own that says so.
-/

namespace Spurfire

/-! ## Outcomes and errors -/

inductive AcceptOutcome
  | accepted
  | duplicateOrReplay
  | wrongLobby
  | staleAuthorityEpoch
  | unknownSender
  | unsignedInSecureMode
  | endpointMismatch
  | nodeKeyMismatch
  | wrongGeneration
  | rosterMismatch
  | badSignature
  | invalidAuthorityClaim
  | invalidPayloadRole
  | invalidPayloadSubject
  | invalidCheckpoint
  | duplicateShotResult
  | pendingMigration
  | pendingFragment
deriving DecidableEq

inductive CodecError
  | tooLarge
  | malformed (message : String)
  | incompatibleVersion
deriving DecidableEq

def noncanonicalPayload : CodecError := .malformed "noncanonical wire-v2 payload"

/-! ## Actor payloads -/

def M3_CHECKPOINT_FRAGMENT_BYTES : ℕ := 384
def MAX_M3_CHECKPOINT_FRAGMENTS : ℕ := 192
def M5_MATCH_STATE_FRAGMENT_BYTES : ℕ := 384
def MAX_M5_MATCH_STATE_FRAGMENTS : ℕ := 16
def M3_ACTOR_KEYFRAME_TICKS : UInt64 := 30
/-- The complement of the seven assigned input bits. -/
def M3_INPUT_RESERVED_MASK : UInt16 := 0xff80

structure M3ActorLoadout where
  horseClass : HorseVitalityClass
  weaponId : WeaponId
deriving DecidableEq

structure M3ActorInput where
  throttleMilli : Int16
  steerMilli : Int16
  moveXMilli : Int16
  moveZMilli : Int16
  buttons : UInt16
deriving DecidableEq

def M3ActorInput.isCanonical (input : M3ActorInput) : Bool :=
  let bounded := fun value : Int16 => decide (-1000 ≤ value.toInt ∧ value.toInt ≤ 1000)
  let x := input.moveXMilli.toInt
  let z := input.moveZMilli.toInt
  bounded input.throttleMilli && bounded input.steerMilli && bounded input.moveXMilli
    && bounded input.moveZMilli && x * x + z * z ≤ 1000000
    && input.buttons &&& M3_INPUT_RESERVED_MASK == 0

structure M3HorseSnapshot where
  entityId : EntityId
  horseClass : HorseVitalityClass
  state : HorseVitalityState
  positionMm : Vector Int32 3
  velocityMmps : Vector Int32 3
  yawMillidegrees : Int32
  health : UInt16
  boltAwayDirection : QuantizedDirection
deriving DecidableEq

def M3HorseSnapshot.isCanonical (h : M3HorseSnapshot) : Bool :=
  h.health ≤ h.horseClass.maxHealth
    && h.boltAwayDirection.isNormalized
    && h.boltAwayDirection.y.toInt.natAbs ≤ (DIRECTION_UNITS / 100).toInt.natAbs
    && match h.state with
      | .available => h.health > 0
      | .bolting | .despawned => h.health == 0

/-- Complete authority snapshot of one actor. -/
structure M3ActorSnapshot where
  riderPlayerId : PlayerId
  riderPositionMm : Vector Int32 3
  riderVelocityMmps : Vector Int32 3
  riderYawMillidegrees : Int32
  stance : M3ActorStance
  riderHealth : UInt16
  staminaTicks : UInt32
  horse : M3HorseSnapshot
  recallState : RecallState
  recallReadyTick : Option SimulationTick
  spurMeter : UInt8
  chargeStartedTick : Option SimulationTick
  chargeEndTick : Option SimulationTick
deriving DecidableEq

def M3ActorSnapshot.isCanonical (s : M3ActorSnapshot) : Bool :=
  let chargeIsCoherent : Bool := match s.chargeStartedTick, s.chargeEndTick with
    | none, none => true
    | some start, some finish => finish == start.satAdd MAJESTIC_CHARGE_TICKS
    | _, _ => false
  if s.riderHealth > 100 || s.staminaTicks > ON_FOOT_STAMINA_TICKS
      || s.spurMeter > SPUR_METER_MAX || !s.horse.isCanonical || !chargeIsCoherent then
    false
  else match s.recallState with
    | .horsePresent =>
      (s.horse.state == .available || s.horse.state == .bolting) && s.recallReadyTick.isNone
    | .coolingDown | .ready | .hoofbeats | .dustReveal | .gallopIn | .mountWindow
    | .waitingMount => s.horse.state == .despawned && s.recallReadyTick.isSome

/-- Field-level delta against one complete snapshot. -/
structure M3ActorSnapshotDelta where
  riderPlayerId : PlayerId
  baseTick : UInt64
  riderPositionMm : Option (Vector Int32 3)
  riderVelocityMmps : Option (Vector Int32 3)
  riderYawMillidegrees : Option Int32
  stance : Option M3ActorStance
  riderHealth : Option UInt16
  staminaTicks : Option UInt32
  horseEntityId : Option EntityId
  horseClass : Option HorseVitalityClass
  horseState : Option HorseVitalityState
  horsePositionMm : Option (Vector Int32 3)
  horseVelocityMmps : Option (Vector Int32 3)
  horseYawMillidegrees : Option Int32
  horseHealth : Option UInt16
  boltAwayDirection : Option QuantizedDirection
  recallState : Option RecallState
  recallReadyChanged : Bool
  recallReadyTick : Option SimulationTick
  spurMeter : Option UInt8
  chargeStartedChanged : Bool
  chargeStartedTick : Option SimulationTick
  chargeEndChanged : Bool
  chargeEndTick : Option SimulationTick
deriving DecidableEq

namespace M3ActorSnapshotDelta

/-- The new value of a field, when it differs from the base. -/
def changed {α : Type} [DecidableEq α] (base current : α) : Option α :=
  if base = current then none else some current

/-- The new value of an optional field, when it differs from the base. -/
def changedOption {α : Type} [DecidableEq α] (base current : Option α) : Option α :=
  if base ≠ current then current else none

def between (baseTick : UInt64) (base current : M3ActorSnapshot) : M3ActorSnapshotDelta where
  riderPlayerId := current.riderPlayerId
  baseTick := baseTick
  riderPositionMm := changed base.riderPositionMm current.riderPositionMm
  riderVelocityMmps := changed base.riderVelocityMmps current.riderVelocityMmps
  riderYawMillidegrees := changed base.riderYawMillidegrees current.riderYawMillidegrees
  stance := changed base.stance current.stance
  riderHealth := changed base.riderHealth current.riderHealth
  staminaTicks := changed base.staminaTicks current.staminaTicks
  horseEntityId := changed base.horse.entityId current.horse.entityId
  horseClass := changed base.horse.horseClass current.horse.horseClass
  horseState := changed base.horse.state current.horse.state
  horsePositionMm := changed base.horse.positionMm current.horse.positionMm
  horseVelocityMmps := changed base.horse.velocityMmps current.horse.velocityMmps
  horseYawMillidegrees := changed base.horse.yawMillidegrees current.horse.yawMillidegrees
  horseHealth := changed base.horse.health current.horse.health
  boltAwayDirection := changed base.horse.boltAwayDirection current.horse.boltAwayDirection
  recallState := changed base.recallState current.recallState
  recallReadyChanged := base.recallReadyTick ≠ current.recallReadyTick
  recallReadyTick := changedOption base.recallReadyTick current.recallReadyTick
  spurMeter := changed base.spurMeter current.spurMeter
  chargeStartedChanged := base.chargeStartedTick ≠ current.chargeStartedTick
  chargeStartedTick := changedOption base.chargeStartedTick current.chargeStartedTick
  chargeEndChanged := base.chargeEndTick ≠ current.chargeEndTick
  chargeEndTick := changedOption base.chargeEndTick current.chargeEndTick

def apply (d : M3ActorSnapshotDelta) (base : M3ActorSnapshot) : Option M3ActorSnapshot :=
  if d.riderPlayerId ≠ base.riderPlayerId
      ∨ (!d.recallReadyChanged && d.recallReadyTick.isSome)
      ∨ (!d.chargeStartedChanged && d.chargeStartedTick.isSome)
      ∨ (!d.chargeEndChanged && d.chargeEndTick.isSome) then
    none
  else
    let snapshot : M3ActorSnapshot :=
      { riderPlayerId := base.riderPlayerId
        riderPositionMm := d.riderPositionMm.getD base.riderPositionMm
        riderVelocityMmps := d.riderVelocityMmps.getD base.riderVelocityMmps
        riderYawMillidegrees := d.riderYawMillidegrees.getD base.riderYawMillidegrees
        stance := d.stance.getD base.stance
        riderHealth := d.riderHealth.getD base.riderHealth
        staminaTicks := d.staminaTicks.getD base.staminaTicks
        horse :=
          { entityId := d.horseEntityId.getD base.horse.entityId
            horseClass := d.horseClass.getD base.horse.horseClass
            state := d.horseState.getD base.horse.state
            positionMm := d.horsePositionMm.getD base.horse.positionMm
            velocityMmps := d.horseVelocityMmps.getD base.horse.velocityMmps
            yawMillidegrees := d.horseYawMillidegrees.getD base.horse.yawMillidegrees
            health := d.horseHealth.getD base.horse.health
            boltAwayDirection := d.boltAwayDirection.getD base.horse.boltAwayDirection }
        recallState := d.recallState.getD base.recallState
        recallReadyTick :=
          if d.recallReadyChanged then d.recallReadyTick else base.recallReadyTick
        spurMeter := d.spurMeter.getD base.spurMeter
        chargeStartedTick :=
          if d.chargeStartedChanged then d.chargeStartedTick else base.chargeStartedTick
        chargeEndTick := if d.chargeEndChanged then d.chargeEndTick else base.chargeEndTick }
    if snapshot.isCanonical then some snapshot else none

def isCanonical (d : M3ActorSnapshotDelta) : Bool :=
  (d.recallReadyChanged || d.recallReadyTick.isNone)
    && (d.chargeStartedChanged || d.chargeStartedTick.isNone)
    && (d.chargeEndChanged || d.chargeEndTick.isNone)
    && d.spurMeter.all (· ≤ 100)
    && d.boltAwayDirection.all (·.isNormalized)

end M3ActorSnapshotDelta

/-! ## Match-state keyframe -/

structure M5ScoreRowV2 where
  playerId : PlayerId
  score : UInt32
  eliminations : UInt16
  assists : UInt16
  deaths : UInt16
  alive : Bool
  respawnAtTick : Option SimulationTick
  respawnSpeedBuffEndTick : Option SimulationTick
  horseBuffEndTick : Option SimulationTick
  scoreBreakdown : Option (Vector UInt32 8)
deriving DecidableEq

structure M5RevealV2 where
  playerId : PlayerId
  startedTick : SimulationTick
  endTick : SimulationTick
deriving DecidableEq

structure M5ObjectiveV2 where
  objectiveId : UInt64
  kind : DynamicObjectiveKind
  startedTick : SimulationTick
  endTick : SimulationTick
  completed : Bool
  xMm : Int32
  zMm : Int32
deriving DecidableEq

structure M5MatchStateV2 where
  authorityEpoch : UInt64
  lobbySeed : UInt64
  currentTick : SimulationTick
  endTick : SimulationTick
  players : List M5ScoreRowV2
  activeReveal : Option M5RevealV2
  activeObjective : Option M5ObjectiveV2
  finished : Bool
  winner : Option PlayerId
deriving DecidableEq

namespace M5MatchStateV2

/-- The clock that respawns and buffs are measured against. -/
def effectiveTick (m : M5MatchStateV2) : SimulationTick :=
  if m.currentTick ≤ m.endTick then m.currentTick else m.endTick

def rowIsCanonical (m : M5MatchStateV2) (row : M5ScoreRowV2) : Bool :=
  !(row.score > MAX_BOUNTY_SCORE
    || row.scoreBreakdown.isSome != m.finished
    || row.scoreBreakdown.any (fun breakdown =>
        row.score != min (breakdown.toList.foldl UInt32.satAdd 0) MAX_BOUNTY_SCORE)
    || row.alive == row.respawnAtTick.isSome
    || row.respawnAtTick.any (fun respawn => !m.finished && respawn ≤ m.effectiveTick)
    || row.respawnSpeedBuffEndTick.any (· ≤ m.effectiveTick)
    || row.horseBuffEndTick.any (· ≤ m.effectiveTick))

def revealIsCanonical (m : M5MatchStateV2) (reveal : M5RevealV2) : Bool :=
  !(m.finished
    || !m.players.any (fun row => row.playerId == reveal.playerId)
    || reveal.endTick != reveal.startedTick.satAdd MOST_WANTED_REVEAL_TICKS
    || m.effectiveTick ≥ reveal.endTick)

def objectiveIsCanonical (m : M5MatchStateV2) (objective : M5ObjectiveV2) : Bool :=
  !(m.finished
    || objective.objectiveId == 0
    || objective.endTick != objective.startedTick.satAdd OBJECTIVE_LIFETIME_TICKS
    || m.effectiveTick ≥ objective.endTick
    || (⟨objective.xMm, objective.zMm⟩ : BountyWorldPoint)
        != bountyObjectiveWorldPoint m.lobbySeed objective.objectiveId m.players.length)

/-- `max_by` by score, then by the smaller identifier: a later row replaces the best one unless the
best one is strictly greater. -/
def expectedWinner (m : M5MatchStateV2) : Option M5ScoreRowV2 :=
  m.players.foldl (fun best row =>
    match best with
    | none => some row
    | some best =>
      if best.score > row.score || (best.score == row.score && row.playerId > best.playerId) then
        some best
      else
        some row) none

def isCanonical (m : M5MatchStateV2) : Bool :=
  if m.players.isEmpty
      || m.players.length > MAX_M3_AUTHORITY_ACTORS
      || m.finished != decide (m.currentTick ≥ m.endTick)
      || (m.players.zip m.players.tail).any (fun rows => rows.1.playerId ≥ rows.2.playerId) then
    false
  else if m.players.any fun row => !m.rowIsCanonical row then false
  else if m.activeReveal.any (fun reveal => !m.revealIsCanonical reveal)
      || m.activeObjective.any (fun objective => !m.objectiveIsCanonical objective) then
    false
  else match m.finished, m.winner, m.expectedWinner with
    | false, none, some _ => true
    | true, some winner, some expected => winner == expected.playerId
    | _, _, _ => false

end M5MatchStateV2

/-! ## Wire-v2 envelopes -/

inductive M3PeerPayloadV2
  | hello (hostname : String)
  | heartbeat
  | probe (nonce : UInt64) (reply : Bool)
  | actorLoadout (loadout : M3ActorLoadout)
  | actorInput (input : M3ActorInput)
  | actorSnapshot (snapshot : M3ActorSnapshot)
  | actorSnapshotDelta (delta : M3ActorSnapshotDelta)
  | shotCommand (command : ShotCommand)
  | shotResult (result : ShotResult)
  | matchState (state : M5MatchStateV2)
  | matchStateFragment (stateHash : Vector UInt8 32) (fragmentIndex fragmentCount : UInt16)
      (fragment : List UInt8)
  | authority (authority : PlayerId) (epoch : UInt64)
  | migrationFragment (authority : PlayerId) (epoch : UInt64) (stateHash : Vector UInt8 32)
      (fragmentIndex fragmentCount : UInt16) (fragment : List UInt8)
  | leave
deriving DecidableEq

structure M3EnvelopeV2 where
  wireVersion : WireVersion
  lobbyId : LobbyId
  sender : PlayerId
  sequence : UInt64
  authorityEpoch : UInt64
  simulationTick : UInt64
  payload : M3PeerPayloadV2
  session : Option SessionBinding
deriving DecidableEq

/-- Bounds shared by the two fragment payloads. -/
def fragmentIsValid (maxFragments maxBytes : ℕ) (fragmentIndex fragmentCount : UInt16)
    (fragment : List UInt8) : Bool :=
  fragmentCount.toNat ≤ maxFragments && fragmentCount > 0 && fragmentIndex < fragmentCount
    && !fragment.isEmpty && fragment.length ≤ maxBytes

def M3PeerPayloadV2.isValid : M3PeerPayloadV2 → Bool
  | hello hostname => !hostname.isEmpty && hostname.utf8ByteSize ≤ 255
  | actorInput input => input.isCanonical
  | actorSnapshot snapshot => snapshot.isCanonical
  | actorSnapshotDelta delta => delta.isCanonical
  | matchState state => state.isCanonical
  | migrationFragment _ _ _ index count fragment =>
    fragmentIsValid MAX_M3_CHECKPOINT_FRAGMENTS M3_CHECKPOINT_FRAGMENT_BYTES index count fragment
  | matchStateFragment _ index count fragment =>
    fragmentIsValid MAX_M5_MATCH_STATE_FRAGMENTS M5_MATCH_STATE_FRAGMENT_BYTES index count
      fragment
  | heartbeat | probe .. | actorLoadout _ | shotCommand _ | shotResult _ | authority .. | leave =>
    true

def validatePayload (payload : M3PeerPayloadV2) : Except CodecError Unit :=
  if payload.isValid then .ok () else .error noncanonicalPayload

/-! ## Wire-1.2 envelopes -/

inductive PeerPayload
  | hello (hostname : String)
  | heartbeat
  | probe (nonce : UInt64) (reply : Bool)
  | riderInput (throttleMilli steerMilli : Int16) (buttons : UInt16)
  | riderSnapshot (riderPlayerId : PlayerId) (positionMm velocityMmps : Vector Int32 3)
      (yawMillidegrees : Int32) (stance : RiderStance)
  | shotCommand (command : ShotCommand)
  | shotResult (result : ShotResult)
  | authority (authority : PlayerId) (epoch : UInt64)
  | migrationSnapshot (authority : PlayerId) (epoch : UInt64) (checkpoint : MatchCheckpoint)
      (stateHash : Vector UInt8 32)
  | leave
deriving DecidableEq

structure Envelope where
  wireVersion : WireVersion
  lobbyId : LobbyId
  sender : PlayerId
  sequence : UInt64
  authorityEpoch : UInt64
  simulationTick : UInt64
  payload : PeerPayload
  session : Option SessionBinding
deriving DecidableEq

/-! ## Code outside this repository -/

/-- The cryptographic crates and the JSON codecs of the three documents that are hashed or
reassembled from fragments. -/
structure Externals extends Crypto where
  matchCheckpointToVec : MatchCheckpoint → List UInt8
  checkpointToVec : M3MatchCheckpointV2 → List UInt8
  checkpointFromSlice : List UInt8 → Except String M3MatchCheckpointV2
  matchStateToVec : M5MatchStateV2 → List UInt8
  matchStateFromSlice : List UInt8 → Except String M5MatchStateV2

namespace Externals

variable (X : Externals)

def matchCheckpointHash (c : MatchCheckpoint) : Vector UInt8 32 :=
  X.sha256 (X.matchCheckpointToVec c)

def checkpointHash (c : M3MatchCheckpointV2) : Vector UInt8 32 :=
  X.sha256 (X.checkpointToVec c)

end Externals

end Spurfire
