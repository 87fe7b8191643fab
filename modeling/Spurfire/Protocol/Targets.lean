import Spurfire.Protocol.CombatAuthority

/-!
# The target registry

`TargetRegistry` of `combat/kernel.rs`: the identity, health and recent geometry of every rider and
horse that a shot can hit.  Ray intersections are floating point and enter through `RayGeometry`.

* `TargetRecord.pushGeometry`, `geometryAt`: the rewind history of one target;
* `TargetRegistry.nearestHit`, `applyDamage`: what shot validation uses.
-/

namespace Spurfire

open Std (ExtTreeMap)

def ROLLBACK_WINDOW_MS : UInt32 := 250

structure TargetDefinition where
  entityId : EntityId
  ownerPeerId : Option PlayerId
  teamId : TeamId
  maxHealth : UInt16
deriving DecidableEq

/-- Rider geometry at one tick: a vertical body capsule and a head sphere. -/
structure TargetPoseSnapshot where
  tick : SimulationTick
  entityId : EntityId
  stance : RiderStance
  bodyCenter : QuantizedOrigin
  bodyHalfHeightMm : UInt16
  bodyRadiusMm : UInt16
  headCenter : QuantizedOrigin
  headRadiusMm : UInt16
  active : Bool
deriving DecidableEq

/-- Horse geometry at one tick: a capsule along the body and a head sphere. -/
structure HorseTargetPoseSnapshot where
  tick : SimulationTick
  entityId : EntityId
  bodyCenter : QuantizedOrigin
  bodyForward : QuantizedDirection
  bodyHalfLengthMm : UInt16
  bodyRadiusMm : UInt16
  headCenter : QuantizedOrigin
  headRadiusMm : UInt16
  active : Bool
deriving DecidableEq

inductive TargetRegistryError
  | invalidTickRate
  | duplicateTarget
  | unknownTarget
  | invalidTarget
  | tickReplay
deriving DecidableEq

inductive TargetGeometryKind
  | rider
  | horse
deriving DecidableEq

inductive TargetGeometrySnapshot
  | rider (pose : TargetPoseSnapshot)
  | horse (pose : HorseTargetPoseSnapshot)
deriving DecidableEq

namespace TargetGeometrySnapshot

def tick : TargetGeometrySnapshot → SimulationTick
  | rider pose => pose.tick
  | horse pose => pose.tick

def kind : TargetGeometrySnapshot → TargetGeometryKind
  | rider _ => .rider
  | horse _ => .horse

def active : TargetGeometrySnapshot → Bool
  | rider pose => pose.active
  | horse pose => pose.active

end TargetGeometrySnapshot

/-- Identity, health and history, the oldest geometry first. -/
structure TargetRecord where
  definition : TargetDefinition
  health : UInt16
  history : List TargetGeometrySnapshot
  geometryKind : Option TargetGeometryKind
deriving DecidableEq

structure TargetRegistry where
  historyTicks : UInt64
  targets : ExtTreeMap EntityId TargetRecord

/-- The rounded distance at which a ray meets a zone of a geometry, where it does within reach. -/
structure RayGeometry where
  distanceMm : TargetGeometrySnapshot → HitZone → QuantizedOrigin → QuantizedDirection → UInt32 →
    Option UInt32

namespace ResolvedTargetHit

/-- The order of `sort_key`: distance, then target, then the head before the body. -/
def precedes (a b : ResolvedTargetHit) : Bool :=
  decide (a.distanceMm < b.distanceMm)
    || decide (a.distanceMm = b.distanceMm)
      && (decide (a.targetId < b.targetId)
        || decide (a.targetId = b.targetId) && decide (a.hitZone = .head ∧ b.hitZone = .body))

end ResolvedTargetHit

namespace TargetRecord

def geometryAt (record : TargetRecord) (tick : SimulationTick) : Option TargetGeometrySnapshot :=
  record.history.reverse.find? fun snapshot => snapshot.tick ≤ tick

/-- Adds one newer geometry of the same kind, and drops what has left the rewind window. -/
def pushGeometry (record : TargetRecord) (geometry : TargetGeometrySnapshot)
    (historyTicks : UInt64) : Except TargetRegistryError TargetRecord :=
  if record.geometryKind.any fun existing => existing ≠ geometry.kind then .error .invalidTarget
  else if record.history.getLast?.any fun previous => geometry.tick ≤ previous.tick then
    .error .tickReplay
  else
    let oldest := geometry.tick.satSub historyTicks
    .ok { record with
      history := (record.history ++ [geometry]).dropWhile fun snapshot => snapshot.tick < oldest
      geometryKind := some geometry.kind }

end TargetRecord

namespace TargetRegistry

protected def new (tickRate : UInt32) : Except TargetRegistryError TargetRegistry :=
  if tickRate = 0 then .error .invalidTickRate
  else .ok ⟨(tickRate.toUInt64.satMul ROLLBACK_WINDOW_MS.toUInt64).divCeil 1000, ∅⟩

/-- Restores a definition and its health, without history. -/
def restore (t : TargetRegistry) (definition : TargetDefinition) (health : UInt16) :
    Except TargetRegistryError TargetRegistry :=
  if definition.maxHealth = 0 ∨ health > definition.maxHealth then .error .invalidTarget
  else if definition.entityId ∈ t.targets then .error .duplicateTarget
  else .ok { t with targets := t.targets.insert definition.entityId ⟨definition, health, [], none⟩ }

def register (t : TargetRegistry) (definition : TargetDefinition) :
    Except TargetRegistryError TargetRegistry :=
  t.restore definition definition.maxHealth

def definition (t : TargetRegistry) (entityId : EntityId) : Option TargetDefinition :=
  t.targets[entityId]?.map (·.definition)

def health (t : TargetRegistry) (entityId : EntityId) : Option UInt16 :=
  t.targets[entityId]?.map (·.health)

def pushGeometry (t : TargetRegistry) (entityId : EntityId) (geometry : TargetGeometrySnapshot) :
    Except TargetRegistryError TargetRegistry :=
  match t.targets[entityId]? with
  | none => .error .unknownTarget
  | some record =>
    (record.pushGeometry geometry t.historyTicks).map fun record =>
      { t with targets := t.targets.insert entityId record }

def recordPose (t : TargetRegistry) (pose : TargetPoseSnapshot) :
    Except TargetRegistryError TargetRegistry :=
  if pose.bodyRadiusMm = 0 ∨ pose.headRadiusMm = 0 then .error .invalidTarget
  else t.pushGeometry pose.entityId (.rider pose)

def recordHorsePose (t : TargetRegistry) (pose : HorseTargetPoseSnapshot) :
    Except TargetRegistryError TargetRegistry :=
  if pose.bodyHalfLengthMm = 0 ∨ pose.bodyRadiusMm = 0 ∨ pose.headRadiusMm = 0
      ∨ !pose.bodyForward.isNormalized ∨ pose.bodyForward.y.abs > DIRECTION_UNITS / 100 then
    .error .invalidTarget
  else t.pushGeometry pose.entityId (.horse pose)

def synchronizeHealth (t : TargetRegistry) (entityId : EntityId) (health : UInt16) :
    Except TargetRegistryError TargetRegistry :=
  match t.targets[entityId]? with
  | none => .error .unknownTarget
  | some record =>
    if health > record.definition.maxHealth then .error .invalidTarget
    else .ok { t with targets := t.targets.insert entityId { record with health } }

def horsePoseAt (t : TargetRegistry) (entityId : EntityId) (tick : SimulationTick) :
    Option HorseTargetPoseSnapshot :=
  match t.targets[entityId]?.bind (·.geometryAt tick) with
  | some (.horse pose) => some pose
  | _ => none

def respawn (t : TargetRegistry) (entityId : EntityId) :
    Except TargetRegistryError TargetRegistry :=
  match t.targets[entityId]? with
  | none => .error .unknownTarget
  | some record => .ok { t with
      targets := t.targets.insert entityId { record with health := record.definition.maxHealth } }

/-- The hits on one target: its head and its body, where the shooter may hit it at all. -/
def candidates (G : RayGeometry) (tick : SimulationTick) (origin : QuantizedOrigin)
    (direction : QuantizedDirection) (maximumDistanceMm : UInt32) (shooterPeerId : PlayerId)
    (shooterTeam : TeamId) (record : TargetRecord) : List ResolvedTargetHit :=
  if record.health = 0 ∨ record.definition.ownerPeerId = some shooterPeerId
      ∨ record.definition.teamId = shooterTeam then []
  else
    match record.geometryAt tick with
    | none => []
    | some geometry =>
      if !geometry.active then []
      else [HitZone.head, .body].filterMap fun zone =>
        (G.distanceMm geometry zone origin direction maximumDistanceMm).map fun distanceMm =>
          ⟨record.definition.entityId, zone, distanceMm⟩

def nearestHit (G : RayGeometry) (t : TargetRegistry) (tick : SimulationTick)
    (origin : QuantizedOrigin) (direction : QuantizedDirection) (maximumDistanceMm : UInt32)
    (shooterPeerId : PlayerId) (shooterTeam : TeamId) : Option ResolvedTargetHit :=
  let hits := t.targets.values.flatMap
    (candidates G tick origin direction maximumDistanceMm shooterPeerId shooterTeam)
  hits.foldl (fun nearest hit =>
    if nearest.all hit.precedes then some hit else nearest) none

def applyDamage (t : TargetRegistry) (targetId : EntityId) (damage : UInt16) :
    DamageApplication × TargetRegistry :=
  match t.targets[targetId]? with
  | none => (⟨0, false⟩, t)
  | some record =>
    let health := record.health.satSub damage
    (⟨health, record.health > 0 && health = 0⟩,
      { t with targets := t.targets.insert targetId { record with health } })

/-- The registry as shot validation sees it. -/
def range (G : RayGeometry) : TargetRange TargetRegistry where
  nearestHit := nearestHit G
  applyDamage := applyDamage

end TargetRegistry

end Spurfire
