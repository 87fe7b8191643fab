import Mathlib.Data.Finset.Insert
import Spurfire.Protocol.CombatKernel

/-!
# Shot attribution

The match-lifetime ledger of accepted shots and their results (`saddle_dive.rs`).  A shot is known
by its shooter and tick; a result is attributed to the retained shot at most once, and derives the
style notifications of that shot.
-/

namespace Spurfire

inductive GameplayEventKind
  | flyingDismount
  | saddleDiveHeadshot
  | fullGallopHit
  | airborneReversal
deriving DecidableEq

def GameplayEventKind.text : GameplayEventKind → String
  | flyingDismount => "FLYING DISMOUNT"
  | saddleDiveHeadshot => "SADDLE DIVE HEADSHOT"
  | fullGallopHit => "FULL-GALLOP HIT"
  | airborneReversal => "AIRBORNE REVERSAL"

structure GameplayEventId where
  authorityEpoch : UInt64
  actor : PlayerId
  sourceTick : SimulationTick
  kind : GameplayEventKind
  sequence : UInt64
deriving DecidableEq

structure GameplayEventRow where
  id : GameplayEventId
  kind : GameplayEventKind
  tick : SimulationTick
  actor : PlayerId
  diveId : Option DiveId
  weaponId : Option WeaponId
  targetId : Option EntityId
  hitZone : Option HitZone
  damage : UInt16
  text : String
deriving DecidableEq

/-- What is retained of an accepted shot for late attribution. -/
structure AcceptedShotMetadata where
  shooter : PlayerId
  tick : SimulationTick
  acceptedShotIndex : UInt64
  weaponId : WeaponId
  stance : RiderStance
  gait : CombatGait
  diveId : Option DiveId
  prelaunchHorizontalVelocityMmps : Vector Int32 2
deriving DecidableEq

def AcceptedShotMetadata.isConsistent (s : AcceptedShotMetadata) : Bool :=
  (s.stance == .saddleDiveAirborne) == s.diveId.isSome
    && (s.stance == .mounted || s.stance == .saddleDiveAirborne)

structure ShotResultAttribution where
  result : ShotResult
  acceptedShot : Option AcceptedShotMetadata
  duplicate : Bool
  events : List GameplayEventRow
deriving DecidableEq

def shotEvent (authorityEpoch : UInt64) (shot : AcceptedShotMetadata) (result : ShotResult)
    (kind : GameplayEventKind) : GameplayEventRow where
  id := ⟨authorityEpoch, shot.shooter, shot.tick, kind, shot.acceptedShotIndex⟩
  kind := kind
  tick := shot.tick
  actor := shot.shooter
  diveId := shot.diveId
  weaponId := some shot.weaponId
  targetId := result.targetId
  hitZone := result.hitZone
  damage := result.damage
  text := kind.text

/-- The retained shots, each under the shooter and tick it carries, and the results seen. -/
structure ShotAttributionLedger where
  accepted : List AcceptedShotMetadata
  resolved : Finset (PlayerId × SimulationTick)

namespace ShotAttributionLedger

def empty : ShotAttributionLedger := ⟨[], ∅⟩

def acceptedShot (l : ShotAttributionLedger) (shooter : PlayerId) (tick : SimulationTick) :
    Option AcceptedShotMetadata :=
  l.accepted.find? fun shot => shot.shooter = shooter ∧ shot.tick = tick

def recordAccepted (l : ShotAttributionLedger) (shot : AcceptedShotMetadata) :
    Bool × ShotAttributionLedger :=
  if !shot.isConsistent then (false, l)
  else if (l.acceptedShot shot.shooter shot.tick).isSome then (false, l)
  else (true, { l with accepted := shot :: l.accepted })

/-- The notifications of an attributed hit, in stable kind order. -/
def hitEvents (authorityEpoch : UInt64) (shot : AcceptedShotMetadata) (result : ShotResult) :
    List GameplayEventRow :=
  let kinds :=
    (if shot.diveId.isSome ∧ result.hitZone = some .head then [GameplayEventKind.saddleDiveHeadshot]
      else [])
    ++ (if shot.stance = .mounted ∧ shot.gait = .gallop then [.fullGallopHit] else [])
    ++ (if shot.diveId.isSome ∧ result.resolvedDirection.any (fun direction =>
          let v := shot.prelaunchHorizontalVelocityMmps
          v[0].toInt * direction.x.toInt + v[1].toInt * direction.z.toInt < 0) then
        [.airborneReversal] else [])
  kinds.map (shotEvent authorityEpoch shot result)

def observeResult (l : ShotAttributionLedger) (authorityEpoch : UInt64) (result : ShotResult) :
    ShotResultAttribution × ShotAttributionLedger :=
  let key := (result.shooterPeerId, result.tick)
  let accepted := (l.acceptedShot result.shooterPeerId result.tick).filter fun shot =>
    shot.weaponId = result.weaponId ∧ result.outcome ≠ .reject
  -- only a linkable result is spent
  let duplicate := accepted.isSome && decide (key ∈ l.resolved)
  let resolved := if accepted.isSome then insert key l.resolved else l.resolved
  let events :=
    match accepted with
    | some shot =>
      if !duplicate ∧ result.outcome = .hit then hitEvents authorityEpoch shot result else []
    | none => []
  (⟨result, accepted, duplicate, events⟩, { l with resolved })

end ShotAttributionLedger

end Spurfire
