import Spurfire.Net.Messages

/-!
# Canonical signing bytes

The fixed-layout bytes that application signatures cover, as `v2.rs` and `lib.rs` append them.
JSON is never signed.  A payload starts with its tag; optional fields carry a presence byte;
strings are length-prefixed; a trailing fragment runs to the end of the payload, whose length the
envelope preimage carries.
-/

namespace Spurfire

open Wire (beBytes option)

/-! ## Scalars -/

def u16be (v : UInt16) : List UInt8 := beBytes 2 v.toNat
def u32be (v : UInt32) : List UInt8 := beBytes 4 v.toNat
def u64be (v : UInt64) : List UInt8 := beBytes 8 v.toNat
def i16be (v : Int16) : List UInt8 := beBytes 2 v.toUInt16.toNat
def i32be (v : Int32) : List UInt8 := beBytes 4 v.toUInt32.toNat
def boolByte (b : Bool) : List UInt8 := [if b then 1 else 0]

def stringBytes (s : String) : List UInt8 := s.toByteArray.data.toList

def string (s : String) : List UInt8 := lenU32 (stringBytes s).length ++ stringBytes s

def i32Array (v : Vector Int32 3) : List UInt8 := v.toList.flatMap i32be

def direction (d : QuantizedDirection) : List UInt8 := i32be d.x ++ (i32be d.y ++ i32be d.z)

def horseClassCode : HorseVitalityClass → UInt8
  | .courser => 0
  | .warhorse => 1
  | .mustang => 2

def horseStateCode : HorseVitalityState → UInt8
  | .available => 0
  | .bolting => 1
  | .despawned => 2

def recallStateCode : RecallState → UInt8
  | .horsePresent => 0
  | .coolingDown => 1
  | .ready => 2
  | .hoofbeats => 3
  | .dustReveal => 4
  | .gallopIn => 5
  | .mountWindow => 6
  | .waitingMount => 7

def objectiveKindCode : DynamicObjectiveKind → UInt8
  | .movingBounty => 0
  | .supplyHerd => 1
  | .ammoWagon => 2
  | .signalTower => 3
  | .horseBuffStation => 4

/-! ## Shots, in the wire-1.2 layout -/

def claimedTargetBytes (t : ClaimedTarget) : List UInt8 :=
  u64be t.targetId ++ (option (fun zone : HitZone => string zone.asStr) t.hitZone
    ++ (option u16be t.damage ++ option u32be t.distanceMm))

/-- `canonical_payload_bytes` of a shot command, behind its wire-1.2 tag. -/
def shotCommandBytes (c : ShotCommand) : List UInt8 :=
  5 :: (u64be c.tick ++ (c.shooterPeerId.asBytes ++ (c.weaponId.asU8 :: (i32be c.origin.x
    ++ (i32be c.origin.y ++ (i32be c.origin.z ++ (direction c.direction ++ (u64be c.spreadSeed
    ++ option claimedTargetBytes c.claimedTarget))))))))

/-- `canonical_payload_bytes` of a shot result, behind its wire-1.2 tag. -/
def shotResultBytes (r : ShotResult) : List UInt8 :=
  6 :: (u64be r.tick ++ (r.shooterPeerId.asBytes ++ (r.weaponId.asU8 :: (string r.outcome.asStr
    ++ (option (fun reason : ShotRejectionReason => string reason.asStr) r.rejectionReason
    ++ (option direction r.resolvedDirection ++ (option u64be r.targetId
    ++ (option (fun zone : HitZone => string zone.asStr) r.hitZone ++ (u16be r.damage
    ++ (option u32be r.distanceMm ++ boolByte r.eliminated))))))))))

/-! ## Actors -/

def actorInputBytes (i : M3ActorInput) : List UInt8 :=
  i16be i.throttleMilli ++ (i16be i.steerMilli ++ (i16be i.moveXMilli ++ (i16be i.moveZMilli
    ++ u16be i.buttons)))

def horseSnapshotBytes (h : M3HorseSnapshot) : List UInt8 :=
  u64be h.entityId ++ (horseClassCode h.horseClass :: horseStateCode h.state
    :: (i32Array h.positionMm ++ (i32Array h.velocityMmps ++ (i32be h.yawMillidegrees
    ++ (u16be h.health ++ direction h.boltAwayDirection)))))

def actorSnapshotBytes (s : M3ActorSnapshot) : List UInt8 :=
  s.riderPlayerId.asBytes ++ (i32Array s.riderPositionMm ++ (i32Array s.riderVelocityMmps
    ++ (i32be s.riderYawMillidegrees ++ (s.stance.asU8 :: (u16be s.riderHealth
    ++ (u32be s.staminaTicks ++ (horseSnapshotBytes s.horse ++ (recallStateCode s.recallState
    :: (option u64be s.recallReadyTick ++ (s.spurMeter :: (option u64be s.chargeStartedTick
    ++ option u64be s.chargeEndTick)))))))))))

/-- An optional value that is written as one code byte. -/
def optionCode {α : Type} (code : α → UInt8) : Option α → List UInt8 :=
  option fun a => [code a]

def actorSnapshotDeltaBytes (d : M3ActorSnapshotDelta) : List UInt8 :=
  d.riderPlayerId.asBytes ++ (u64be d.baseTick ++ (option i32Array d.riderPositionMm
    ++ (option i32Array d.riderVelocityMmps ++ (option i32be d.riderYawMillidegrees
    ++ (optionCode M3ActorStance.asU8 d.stance ++ (option u16be d.riderHealth
    ++ (option u32be d.staminaTicks ++ (option u64be d.horseEntityId
    ++ (optionCode horseClassCode d.horseClass ++ (optionCode horseStateCode d.horseState
    ++ (option i32Array d.horsePositionMm ++ (option i32Array d.horseVelocityMmps
    ++ (option i32be d.horseYawMillidegrees ++ (option u16be d.horseHealth
    ++ (option direction d.boltAwayDirection ++ (optionCode recallStateCode d.recallState
    ++ (boolByte d.recallReadyChanged ++ (option u64be d.recallReadyTick
    ++ (optionCode id d.spurMeter ++ (boolByte d.chargeStartedChanged
    ++ (option u64be d.chargeStartedTick ++ (boolByte d.chargeEndChanged
    ++ option u64be d.chargeEndTick))))))))))))))))))))))

/-! ## Match states -/

def scoreRowBytes (r : M5ScoreRowV2) : List UInt8 :=
  r.playerId.asBytes ++ (u32be r.score ++ (u16be r.eliminations ++ (u16be r.assists
    ++ (u16be r.deaths ++ (boolByte r.alive ++ (option u64be r.respawnAtTick
    ++ (option u64be r.respawnSpeedBuffEndTick ++ (option u64be r.horseBuffEndTick
    ++ option (fun breakdown : Vector UInt32 8 => breakdown.toList.flatMap u32be)
        r.scoreBreakdown))))))))

def revealBytes (r : M5RevealV2) : List UInt8 :=
  r.playerId.asBytes ++ (u64be r.startedTick ++ u64be r.endTick)

def objectiveBytes (o : M5ObjectiveV2) : List UInt8 :=
  u64be o.objectiveId ++ (objectiveKindCode o.kind :: (u64be o.startedTick ++ (u64be o.endTick
    ++ (boolByte o.completed ++ (i32be o.xMm ++ i32be o.zMm)))))

def matchStateBytes (m : M5MatchStateV2) : List UInt8 :=
  u64be m.authorityEpoch ++ (u64be m.lobbySeed ++ (u64be m.currentTick ++ (u64be m.endTick
    ++ (beBytes 2 (min m.players.length (2 ^ 16 - 1)) ++ (m.players.flatMap scoreRowBytes
    ++ (option revealBytes m.activeReveal ++ (option objectiveBytes m.activeObjective
    ++ (boolByte m.finished ++ option ProtocolId.asBytes m.winner))))))))

/-! ## Payloads -/

def canonicalM3PayloadBytes : M3PeerPayloadV2 → List UInt8
  | .hello hostname => 0 :: string hostname
  | .heartbeat => [1]
  | .probe nonce reply => 2 :: (u64be nonce ++ boolByte reply)
  | .actorLoadout loadout => [3, horseClassCode loadout.horseClass, loadout.weaponId.asU8]
  | .actorInput input => 4 :: actorInputBytes input
  | .actorSnapshot snapshot => 5 :: actorSnapshotBytes snapshot
  | .shotCommand command => 6 :: shotCommandBytes command
  | .shotResult result => 7 :: shotResultBytes result
  | .authority authority epoch => 8 :: (authority.asBytes ++ u64be epoch)
  | .migrationFragment authority epoch stateHash index count fragment =>
    9 :: (authority.asBytes ++ (u64be epoch ++ (stateHash.toList ++ (u16be index ++ (u16be count
      ++ fragment)))))
  | .leave => [10]
  | .matchState state => 11 :: matchStateBytes state
  | .actorSnapshotDelta delta => 12 :: actorSnapshotDeltaBytes delta
  | .matchStateFragment stateHash index count fragment =>
    13 :: (stateHash.toList ++ (u16be index ++ (u16be count ++ fragment)))

/-! ## Envelopes -/

namespace M3EnvelopeV2

/-- The signed header of an envelope under given generations and roster hash. -/
def header (env : M3EnvelopeV2) (networkGeneration sessionGeneration : UInt64)
    (rosterHash : RosterHash) : EnvelopeHeader where
  wireVersion := env.wireVersion
  lobbyId := env.lobbyId
  networkGeneration := networkGeneration
  sessionGeneration := sessionGeneration
  rosterHash := rosterHash
  sender := env.sender
  authorityEpoch := env.authorityEpoch
  sequence := env.sequence
  simulationTick := env.simulationTick

def digest (X : Crypto) (env : M3EnvelopeV2) (networkGeneration sessionGeneration : UInt64)
    (rosterHash : RosterHash) : Vector UInt8 32 :=
  canonicalEnvelopeDigest X (env.header networkGeneration sessionGeneration rosterHash)
    (canonicalM3PayloadBytes env.payload)

end M3EnvelopeV2

end Spurfire
