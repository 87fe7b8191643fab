import Spurfire.Protocol.ShotLedger

/-!
# The combat authority

`CombatAuthority` of `combat/kernel.rs`: the elected peer's own kernel for every shooter, and
`validateShot`, which checks a received command against it and resolves the hit.  Target geometry
is floating point and enters through `TargetRange`, with the registry as its state.
-/

namespace Spurfire

open Std (ExtTreeMap)

/-- Rewound authority state of a rider for one command tick. -/
structure RiderSnapshot where
  tick : SimulationTick
  shooterPeerId : PlayerId
  muzzleOrigin : QuantizedOrigin
  teamId : TeamId
  riding : RidingState
deriving DecidableEq

structure ResolvedTargetHit where
  targetId : EntityId
  hitZone : HitZone
  distanceMm : UInt32
deriving DecidableEq

structure DamageApplication where
  remainingHealth : UInt16
  eliminated : Bool
deriving DecidableEq

/-- The target registry: the nearest rewound hit on a ray, and the damage of a hit. -/
structure TargetRange (T : Type) where
  nearestHit : T → SimulationTick → QuantizedOrigin → QuantizedDirection → UInt32 → PlayerId →
    TeamId → Option ResolvedTargetHit
  applyDamage : T → EntityId → UInt16 → DamageApplication × T

structure ShotTelemetry where
  tick : SimulationTick
  shooter : PlayerId
  weaponId : WeaponId
  ammoMag : UInt16
  ammoReserve : UInt16
  spreadMillidegrees : UInt32
  swayMillidegrees : UInt32
  gait : CombatGait
  stance : RiderStance
  speedMmps : UInt32
  origin : QuantizedOrigin
  direction : QuantizedDirection
  result : ShotOutcome
  rejectReason : Option ShotRejectionReason
  targetId : Option EntityId
  hitZone : Option HitZone
  damage : UInt16
  distanceMm : Option UInt32
deriving DecidableEq

structure AuthorityShot where
  result : ShotResult
  telemetry : ShotTelemetry
  diveFireRejection : Option DiveFireRejection
  acceptedShot : Option AcceptedShotMetadata
  gameplayEvents : List GameplayEventRow
deriving DecidableEq

/-- `rejected_authority_shot_detailed`; `rejected_authority_shot` passes no dive reason. -/
def rejectedAuthorityShot (B : Ballistics) (command : ShotCommand) (authorityWeapon : WeaponId)
    (ammo : WeaponAmmo) (riding : RidingState) (tickRate : UInt32)
    (rejection : FireRejection) : AuthorityShot where
  result := {
    tick := command.tick
    shooterPeerId := command.shooterPeerId
    weaponId := authorityWeapon
    outcome := .reject
    rejectionReason := some rejection.wireReason
    resolvedDirection := none
    targetId := none
    hitZone := none
    damage := 0
    distanceMm := none
    eliminated := false }
  telemetry := {
    tick := command.tick
    shooter := command.shooterPeerId
    weaponId := authorityWeapon
    ammoMag := ammo.magazine
    ammoReserve := ammo.reserve
    spreadMillidegrees := effectiveSpreadMillidegrees authorityWeapon.stats riding
    swayMillidegrees :=
      (deterministicSway B command.tick tickRate riding).magnitudeMillidegrees
    gait := riding.gait
    stance := riding.stance
    speedMmps := riding.planarSpeedMmps
    origin := command.origin
    direction := command.direction
    result := .reject
    rejectReason := some rejection.wireReason
    targetId := none
    hitZone := none
    damage := 0
    distanceMm := none }
  diveFireRejection := rejection.diveReason
  acceptedShot := none
  gameplayEvents := []

structure AuthorityShooter where
  kernel : CombatKernel
  lastCommandTick : Option SimulationTick

structure CombatAuthority where
  tickRate : UInt32
  lobbySeed : UInt64
  authorityEpoch : UInt64
  shooters : ExtTreeMap PlayerId AuthorityShooter
  shotLedger : ShotAttributionLedger
  tickRate_ne : tickRate ≠ 0

namespace CombatAuthority

def new (tickRate : UInt32) (lobbySeed : UInt64) : Option CombatAuthority :=
  if h : tickRate = 0 then none else some ⟨tickRate, lobbySeed, 0, ∅, .empty, h⟩

def setAuthorityEpoch (a : CombatAuthority) (authorityEpoch : UInt64) : Bool × CombatAuthority :=
  if authorityEpoch < a.authorityEpoch then (false, a) else (true, { a with authorityEpoch })

def observeAuthorityResult (a : CombatAuthority) (result : ShotResult) :
    ShotResultAttribution × CombatAuthority :=
  let observed := a.shotLedger.observeResult a.authorityEpoch result
  (observed.1, { a with shotLedger := observed.2 })

def shooterKernel (a : CombatAuthority) (shooterPeerId : PlayerId) : Option CombatKernel :=
  a.shooters[shooterPeerId]?.map (·.kernel)

/-- Writes through `shooter_kernel_mut`. -/
def setShooterKernel (a : CombatAuthority) (shooterPeerId : PlayerId) (kernel : CombatKernel) :
    CombatAuthority :=
  { a with shooters := a.shooters.modify shooterPeerId fun shooter => { shooter with kernel } }

/-- A shooter that is already known is left alone. -/
def registerShooter (a : CombatAuthority) (shooterPeerId : PlayerId) (weaponId : WeaponId) :
    Bool × CombatAuthority :=
  if shooterPeerId ∈ a.shooters then (false, a)
  else
    let kernel := CombatKernel.armed a.tickRate_ne a.lobbySeed shooterPeerId weaponId
    (true, { a with shooters := a.shooters.insert shooterPeerId ⟨kernel, none⟩ })

/-! ### Shot validation -/

def rollbackTicks (a : CombatAuthority) : UInt64 :=
  (a.tickRate.toUInt64.satMul MAX_LAG_COMPENSATION_MS.toUInt64).divCeil 1000

/-- The checks made before the command tick counts as seen. -/
def tickRefusal (a : CombatAuthority) (shooter : AuthorityShooter) (command : ShotCommand)
    (authorityTick : SimulationTick) (rider : RiderSnapshot) : Option ShotRejectionReason :=
  if rider.shooterPeerId ≠ command.shooterPeerId ∨ rider.tick ≠ command.tick
      ∨ !rider.riding.isConsistent then
    some .riderSnapshot
  else if command.tick > authorityTick then some .tickFuture
  else if (authorityTick.checkedSub command.tick).getD 0xffffffffffffffff > a.rollbackTicks then
    some .tickStale
  else if shooter.lastCommandTick.any (command.tick ≤ ·) then some .tickReplay
  else none

/-- The checks of the command itself. -/
def commandRefusal (shooter : AuthorityShooter) (command : ShotCommand) (rider : RiderSnapshot) :
    Option ShotRejectionReason :=
  if command.weaponId ≠ shooter.kernel.equipped then some .weapon
  else if !command.direction.isNormalized then some .invalidDirection
  else if command.origin.squaredDistanceMm rider.muzzleOrigin > ORIGIN_LEASH_MM ^ 2 then
    some .originLeash
  else none

variable {T : Type} (B : Ballistics) (R : TargetRange T)

/-- The result, telemetry and attribution of a shot the kernel accepted. -/
def resolveAccepted (a : CombatAuthority) (command : ShotCommand) (rider : RiderSnapshot)
    (kernel : CombatKernel) (prepared : PreparedShot) (targets : T) :
    AuthorityShot × CombatAuthority × T :=
  let stats := prepared.weaponId.stats
  let resolvedHit := R.nearestHit targets command.tick command.origin prepared.resolvedDirection
    stats.hitscanClampMm command.shooterPeerId rider.teamId
  let damage := (resolvedHit.map fun hit => stats.damageAt hit.distanceMm hit.hitZone).getD 0
  let applied := resolvedHit.map fun hit => R.applyDamage targets hit.targetId damage
  let outcome := if resolvedHit.isSome then ShotOutcome.hit else .miss
  let result : ShotResult := {
    tick := command.tick
    shooterPeerId := command.shooterPeerId
    weaponId := prepared.weaponId
    outcome
    rejectionReason := none
    resolvedDirection := some prepared.resolvedDirection
    targetId := resolvedHit.map (·.targetId)
    hitZone := resolvedHit.map (·.hitZone)
    damage
    distanceMm := resolvedHit.map (·.distanceMm)
    eliminated := applied.any (·.1.eliminated) }
  let telemetry : ShotTelemetry := {
    tick := command.tick
    shooter := command.shooterPeerId
    weaponId := prepared.weaponId
    ammoMag := prepared.ammo.magazine
    ammoReserve := prepared.ammo.reserve
    spreadMillidegrees := prepared.spreadMillidegrees
    swayMillidegrees := prepared.sway.magnitudeMillidegrees
    gait := rider.riding.gait
    stance := rider.riding.stance
    speedMmps := rider.riding.planarSpeedMmps
    origin := command.origin
    direction := prepared.resolvedDirection
    result := outcome
    rejectReason := none
    targetId := result.targetId
    hitZone := result.hitZone
    damage
    distanceMm := result.distanceMm }
  let launchVelocity := prepared.diveId.bind fun diveId =>
    (kernel.diveContext.filter (·.diveId = diveId)).map (·.prelaunchHorizontalVelocityMmps)
  let acceptedShot : AcceptedShotMetadata := {
    shooter := command.shooterPeerId
    tick := command.tick
    acceptedShotIndex := prepared.acceptedShotIndex
    weaponId := prepared.weaponId
    stance := rider.riding.stance
    gait := rider.riding.gait
    diveId := prepared.diveId
    prelaunchHorizontalVelocityMmps := launchVelocity.getD #v[0, 0] }
  let ledger := (a.shotLedger.recordAccepted acceptedShot).2
  let observed := ledger.observeResult a.authorityEpoch result
  (⟨result, telemetry, none, some acceptedShot, observed.1.events⟩,
    { a with shotLedger := observed.2 }, (applied.map (·.2)).getD targets)

/-- Validates a command and computes nearest hit, damage and telemetry. -/
def validateShot (a : CombatAuthority) (command : ShotCommand) (authorityTick : SimulationTick)
    (rider : RiderSnapshot) (targets : T) : AuthorityShot × CombatAuthority × T :=
  match a.shooters[command.shooterPeerId]? with
  | none =>
    (rejectedAuthorityShot B command command.weaponId .empty rider.riding a.tickRate
      (.wire .unknownShooter), a, targets)
  | some shooter =>
    let refuse := fun kernel : CombatKernel =>
      rejectedAuthorityShot B command shooter.kernel.equipped kernel.equippedAmmo rider.riding
        a.tickRate
    match a.tickRefusal shooter command authorityTick rider with
    | some reason => (refuse shooter.kernel (.wire reason), a, targets)
    | none =>
      let store := fun kernel : CombatKernel => { a with
        shooters := a.shooters.insert command.shooterPeerId ⟨kernel, some command.tick⟩ }
      match commandRefusal shooter command rider with
      | some reason => (refuse shooter.kernel (.wire reason), store shooter.kernel, targets)
      | none =>
        match shooter.kernel.requestFireDetailed B command.tick command.direction rider.riding
            command.spreadSeed with
        | (.error rejection, kernel) => (refuse kernel rejection, store kernel, targets)
        | (.ok prepared, kernel) =>
          (store kernel).resolveAccepted R command rider kernel prepared targets

end CombatAuthority

end Spurfire
