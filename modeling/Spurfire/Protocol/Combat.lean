import Spurfire.Protocol.Identity
import Spurfire.Lib.Binary64

/-!
# Combat wire types

The shot vocabulary of `combat.rs` and the rider stances of `stance.rs`: weapon rows, quantized
vectors, commands and results.  Vectors are integers on the wire; the one predicate that goes
through floating point, `QuantizedDirection.isNormalized`, is computed with `Binary64`.
-/

namespace Spurfire

def ORIGIN_LEASH_MM : ℕ := 1500
def PICKUP_RANGE_MM : UInt32 := 3000
def MAX_LAG_COMPENSATION_MS : UInt32 := 150
def DROPPED_WEAPON_LIFETIME_MS : UInt32 := 30000
def RECOIL_RECOVERY_MILLIDEGREES_PER_SECOND : UInt32 := 6000

abbrev TeamId := UInt16

/-! ## Weapons -/

inductive WeaponId
  | dustwalker
  | longspur
  | rattler
deriving DecidableEq

structure WeaponStats where
  id : WeaponId
  magazineCapacity : UInt16
  reserveCapacity : UInt16
  roundsPerSecondMilli : UInt32
  reloadMs : UInt32
  baseSpreadMillidegrees : UInt32
  movingSpreadMillidegrees : UInt32
  gallopSpreadMillidegrees : UInt32
  recoilVerticalMillidegrees : UInt32
  recoilYawMillidegrees : UInt32
  bodyDamage : UInt16
  falloffStartMm : UInt32
  falloffEndMm : UInt32
  minimumBodyDamage : UInt16
  headshotMultiplierMilli : UInt32
  effectiveRangeMm : UInt32
  hitscanClampMm : UInt32
deriving DecidableEq

def DUSTWALKER_STATS : WeaponStats where
  id := .dustwalker
  magazineCapacity := 30
  reserveCapacity := 120
  roundsPerSecondMilli := 7500
  reloadMs := 2100
  baseSpreadMillidegrees := 800
  movingSpreadMillidegrees := 1600
  gallopSpreadMillidegrees := 2600
  recoilVerticalMillidegrees := 550
  recoilYawMillidegrees := 200
  bodyDamage := 14
  falloffStartMm := 60000
  falloffEndMm := 120000
  minimumBodyDamage := 9
  headshotMultiplierMilli := 2000
  effectiveRangeMm := 120000
  hitscanClampMm := 300000

def LONGSPUR_STATS : WeaponStats where
  id := .longspur
  magazineCapacity := 18
  reserveCapacity := 72
  roundsPerSecondMilli := 4000
  reloadMs := 2400
  baseSpreadMillidegrees := 450
  movingSpreadMillidegrees := 1000
  gallopSpreadMillidegrees := 1800
  recoilVerticalMillidegrees := 1100
  recoilYawMillidegrees := 350
  bodyDamage := 26
  falloffStartMm := 120000
  falloffEndMm := 200000
  minimumBodyDamage := 17
  headshotMultiplierMilli := 2200
  effectiveRangeMm := 200000
  hitscanClampMm := 400000

def RATTLER_STATS : WeaponStats where
  id := .rattler
  magazineCapacity := 40
  reserveCapacity := 160
  roundsPerSecondMilli := 11000
  reloadMs := 2600
  baseSpreadMillidegrees := 1400
  movingSpreadMillidegrees := 2400
  gallopSpreadMillidegrees := 3800
  recoilVerticalMillidegrees := 350
  recoilYawMillidegrees := 300
  bodyDamage := 9
  falloffStartMm := 30000
  falloffEndMm := 60000
  minimumBodyDamage := 5
  headshotMultiplierMilli := 1800
  effectiveRangeMm := 60000
  hitscanClampMm := 150000

namespace WeaponId

def asU8 : WeaponId → UInt8
  | dustwalker => 0
  | longspur => 1
  | rattler => 2

def stats : WeaponId → WeaponStats
  | dustwalker => DUSTWALKER_STATS
  | longspur => LONGSPUR_STATS
  | rattler => RATTLER_STATS

/-- `WeaponId::try_from`; the error carries nothing but the rejected number. -/
def tryFrom? : UInt8 → Option WeaponId
  | 0 => some dustwalker
  | 1 => some longspur
  | 2 => some rattler
  | _ => none

theorem asU8_injective : Function.Injective asU8 := by
  intro a b h
  cases a <;> cases b <;> first | rfl | simp [asU8] at h

/-- Rifles compare by their declaration order, which is that of their numbers. -/
instance instLinearOrder : LinearOrder WeaponId :=
  LinearOrder.lift' (fun w => w.asU8.toNat) fun _ _ h => asU8_injective (UInt8.toNat_inj.mp h)

instance instTransCmp : Std.TransCmp (compare : WeaponId → WeaponId → Ordering) :=
  inferInstance

instance instLawfulEqCmp : Std.LawfulEqCmp (compare : WeaponId → WeaponId → Ordering) where
  eq_of_compare h := compare_eq_iff_eq.mp h

end WeaponId

namespace WeaponStats

def cadenceTicks (w : WeaponStats) (tickRate : UInt32) : UInt64 :=
  if tickRate = 0 then 0
  else (tickRate.toUInt64.satMul 1000).divCeil w.roundsPerSecondMilli.toUInt64

def reloadTicks (w : WeaponStats) (tickRate : UInt32) : UInt64 :=
  if tickRate = 0 then 0
  else (tickRate.toUInt64.satMul w.reloadMs.toUInt64).divCeil 1000

end WeaponStats

/-! ## Quantized vectors -/

def DIRECTION_UNITS : Int32 := 1000000

/-- Integer-millimetre world position. -/
structure QuantizedOrigin where
  x : Int32
  y : Int32
  z : Int32
deriving DecidableEq

namespace QuantizedOrigin

def squaredDistanceMm (a b : QuantizedOrigin) : ℕ :=
  let dx := a.x.toInt - b.x.toInt
  let dy := a.y.toInt - b.y.toInt
  let dz := a.z.toInt - b.z.toInt
  (dx * dx + dy * dy + dz * dz).natAbs

end QuantizedOrigin

/-- Direction in millionths of a unit vector, decoded without validation. -/
structure QuantizedDirection where
  x : Int32
  y : Int32
  z : Int32
deriving DecidableEq

namespace QuantizedDirection

/-- One squared component of `to_components`: the sign disappears in the square. -/
def squaredComponent (c : Int32) : ℕ :=
  let v := Binary64.ofRatio c.toInt.natAbs 1000000
  Binary64.mul v v

/-- Unit length within `DIRECTION_NORMALIZATION_EPSILON`, in binary64. -/
def isNormalized (d : QuantizedDirection) : Bool :=
  let length := Binary64.sqrt (Binary64.add
    (Binary64.add (squaredComponent d.x) (squaredComponent d.y)) (squaredComponent d.z))
  Binary64.absSub length Binary64.one ≤ Binary64.ofRatio 1 1000

end QuantizedDirection

/-! ## Commands and results -/

inductive HitZone
  | body
  | head
deriving DecidableEq

def HitZone.asStr : HitZone → String
  | body => "body"
  | head => "head"

/-- `u16::try_from(v).unwrap_or(fallback)`. -/
def u16OrElse (v : ℕ) (fallback : UInt16) : UInt16 :=
  if v < 2 ^ 16 then UInt16.ofNat v else fallback

/-- Damage at a distance: full up to the falloff, linear inside it, minimal beyond it. -/
def WeaponStats.damageAt (w : WeaponStats) (distanceMm : UInt32) (hitZone : HitZone) : UInt16 :=
  let body :=
    if distanceMm ≤ w.falloffStartMm then w.bodyDamage
    else if w.falloffEndMm ≤ distanceMm then w.minimumBodyDamage
    else
      let distanceIntoFalloff := (distanceMm - w.falloffStartMm).toNat
      let falloffSpan := (w.falloffEndMm - w.falloffStartMm).toNat
      let weightedDamage := w.bodyDamage.toNat * (falloffSpan - distanceIntoFalloff)
        + w.minimumBodyDamage.toNat * distanceIntoFalloff
      u16OrElse ((weightedDamage + falloffSpan / 2) / falloffSpan) w.minimumBodyDamage
  match hitZone with
  | .body => body
  | .head => u16OrElse ((body.toNat * w.headshotMultiplierMilli.toNat + 500) / 1000) 0xffff

inductive ShotOutcome
  | hit
  | miss
  | reject
deriving DecidableEq

def ShotOutcome.asStr : ShotOutcome → String
  | hit => "hit"
  | miss => "miss"
  | reject => "reject"

inductive ShotRejectionReason
  | unknownShooter
  | riderSnapshot
  | tickReplay
  | tickStale
  | tickFuture
  | weapon
  | spreadSeed
  | rate
  | empty
  | reloading
  | invalidDirection
  | originLeash
  | holstered
  | dismounted
  | airborne
  | stumble
deriving DecidableEq

def ShotRejectionReason.asStr : ShotRejectionReason → String
  | unknownShooter => "unknown_shooter"
  | riderSnapshot => "rider_snapshot"
  | tickReplay => "tick_replay"
  | tickStale => "tick_stale"
  | tickFuture => "tick_future"
  | weapon => "weapon"
  | spreadSeed => "spread_seed"
  | rate => "rate"
  | empty => "empty"
  | reloading => "reloading"
  | invalidDirection => "invalid_direction"
  | originLeash => "origin_leash"
  | holstered => "holstered"
  | dismounted => "dismounted"
  | airborne => "airborne"
  | stumble => "stumble"

/-- Client-provided target assertion, advisory only. -/
structure ClaimedTarget where
  targetId : EntityId
  hitZone : Option HitZone
  damage : Option UInt16
  distanceMm : Option UInt32
deriving DecidableEq

/-- Fire request sent to the elected authority. -/
structure ShotCommand where
  tick : SimulationTick
  shooterPeerId : PlayerId
  weaponId : WeaponId
  origin : QuantizedOrigin
  direction : QuantizedDirection
  spreadSeed : UInt64
  claimedTarget : Option ClaimedTarget
deriving DecidableEq

/-- Authority-computed result of one command. -/
structure ShotResult where
  tick : SimulationTick
  shooterPeerId : PlayerId
  weaponId : WeaponId
  outcome : ShotOutcome
  rejectionReason : Option ShotRejectionReason
  resolvedDirection : Option QuantizedDirection
  targetId : Option EntityId
  hitZone : Option HitZone
  damage : UInt16
  distanceMm : Option UInt32
  eliminated : Bool
deriving DecidableEq

/-! ## Rider stance -/

inductive RiderStance
  | unknown (value : UInt8)
  | mounted
  | mountedAirborne
  | saddleDiveAirborne
  | landingProne
  | landingRecovery
  | onFootStanding
deriving DecidableEq

namespace RiderStance

def asU8 : RiderStance → UInt8
  | unknown value => value
  | mounted => 1
  | mountedAirborne => 2
  | saddleDiveAirborne => 3
  | landingProne => 4
  | landingRecovery => 5
  | onFootStanding => 6

def fromU8 : UInt8 → RiderStance
  | 1 => mounted
  | 2 => mountedAirborne
  | 3 => saddleDiveAirborne
  | 4 => landingProne
  | 5 => landingRecovery
  | 6 => onFootStanding
  | other => unknown other

def isKnown : RiderStance → Bool
  | unknown _ => false
  | _ => true

def carriesMountedWeapon : RiderStance → Bool
  | mounted | mountedAirborne | saddleDiveAirborne => true
  | _ => false

/-- `unknown` may not alias the number of a known stance. -/
def isCanonical : RiderStance → Bool
  | unknown value => value < 1 || value > 6
  | _ => true

end RiderStance

inductive CombatGait
  | idle
  | walk
  | trot
  | canter
  | gallop
deriving DecidableEq

end Spurfire
