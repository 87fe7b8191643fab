import Spurfire.Protocol.Actor
import Spurfire.Protocol.ShotRuns
import Spurfire.Protocol.Targets

/-!
# The composed combat authority

`M3AuthorityBank` of `m3.rs` and `M3CombatAuthority` of `m3_combat.rs`: one owner of the rifles, the
targets and the actors of a match.  An operation that fails anywhere leaves all of them alone.

* `tryAdvanceActor`, `tryRespawnRider`, `tryResolveShot` and their relatives: the operations, up to
  the point where the source replaces the authority by its changed clone;
* `M3CombatAuthority.step`: the operations as calls that change everything or nothing;
* `M3CombatAuthority.Started`: an authority that is new, or reassembled from migrated parts.
-/

namespace Spurfire

open Std (ExtTreeMap)

def M3_RIDER_MAX_HEALTH : UInt16 := 100
def M3_HORSE_BODY_HALF_LENGTH_MM : UInt16 := 900
def M3_HORSE_BODY_RADIUS_MM : UInt16 := 650
def M3_HORSE_HEAD_RADIUS_MM : UInt16 := 350

/-! ## The actor bank -/

/-- An error of the bank; `panicked` stands for its `expect` and for the assertion of an actor. -/
inductive M3AuthorityError
  | unknownHorseTarget
  | unknownActor
  | authorityEpochMismatch
  | actorState (e : M3Error)
  | panicked
deriving DecidableEq

structure M3AuthorityHorseDamage where
  riderPlayerId : PlayerId
  horseEntityId : EntityId
  effects : HorseDamageEffects
deriving DecidableEq

structure M3AuthorityActor where
  horseEntityId : EntityId
  actor : ActorGameplayKernel

structure M3AuthorityBank where
  authorityEpoch : UInt64
  actors : ExtTreeMap PlayerId M3AuthorityActor
  horseOwners : ExtTreeMap EntityId PlayerId

namespace M3AuthorityBank

protected def new (authorityEpoch : UInt64) : M3AuthorityBank := ⟨authorityEpoch, ∅, ∅⟩

def registerActor (b : M3AuthorityBank) (riderPlayerId : PlayerId) (horseEntityId : EntityId)
    (horseClass : HorseVitalityClass) : Option M3AuthorityBank :=
  if b.actors.size ≥ MAX_M3_AUTHORITY_ACTORS ∨ riderPlayerId ∈ b.actors
      ∨ horseEntityId ∈ b.horseOwners then none
  else some { b with
    actors := b.actors.insert riderPlayerId ⟨horseEntityId, .new horseClass⟩
    horseOwners := b.horseOwners.insert horseEntityId riderPlayerId }

def actor (b : M3AuthorityBank) (riderPlayerId : PlayerId) : Option ActorGameplayKernel :=
  b.actors[riderPlayerId]?.map (·.actor)

def horseEntityId (b : M3AuthorityBank) (riderPlayerId : PlayerId) : Option EntityId :=
  b.actors[riderPlayerId]?.map (·.horseEntityId)

def horseOwner (b : M3AuthorityBank) (horseEntityId : EntityId) : Option PlayerId :=
  b.horseOwners[horseEntityId]?

/-- Writes through the row of one actor. -/
def setActor (b : M3AuthorityBank) (riderPlayerId : PlayerId) (actor : ActorGameplayKernel) :
    M3AuthorityBank :=
  { b with actors := b.actors.modify riderPlayerId fun row => { row with actor } }

def respawnActor (b : M3AuthorityBank) (riderPlayerId : PlayerId) : Option M3AuthorityBank :=
  (b.actor riderPlayerId).map fun actor => b.setActor riderPlayerId actor.respawn

/-- Routes damage to the owner of the horse. -/
def applyHorseDamage (b : M3AuthorityBank) (horseEntityId : EntityId)
    (command : HorseDamageCommand) :
    Except M3AuthorityError (Option M3AuthorityHorseDamage × M3AuthorityBank) :=
  if command.id.authorityEpoch ≠ b.authorityEpoch then .error .authorityEpochMismatch
  else
    match b.horseOwner horseEntityId with
    | none => .error .unknownHorseTarget
    | some riderPlayerId =>
      match b.actor riderPlayerId with
      | none => .error .panicked
      | some actor =>
        let (effects, actor) := actor.applyHorseDamage command
        .ok (effects.map fun effects => ⟨riderPlayerId, horseEntityId, effects⟩,
          b.setActor riderPlayerId actor)

def issueSpurCredit (b : M3AuthorityBank) (riderPlayerId : PlayerId) (tick : SimulationTick)
    (kind : SpurCreditKind) : Except M3AuthorityError (Option UInt8 × M3AuthorityBank) :=
  match b.actor riderPlayerId with
  | none => .error .unknownActor
  | some actor =>
    let (points, actor) := actor.issueSpurCredit b.authorityEpoch tick kind
    .ok (points, b.setActor riderPlayerId actor)

def advanceActor (b : M3AuthorityBank) (riderPlayerId : PlayerId) (input : ActorM3TickInput) :
    Except M3AuthorityError (ActorM3TickOutput × M3AuthorityBank) :=
  match b.actor riderPlayerId with
  | none => .error .unknownActor
  | some actor =>
    match actor.advanceTick input with
    | (.error (.error e), _) => .error (.actorState e)
    | (.error .assertion, _) => .error .panicked
    | (.ok output, actor) => .ok (output, b.setActor riderPlayerId actor)

end M3AuthorityBank

/-! ## The authority -/

structure M3HorseTargetPose where
  tick : SimulationTick
  riderPlayerId : PlayerId
  bodyCenter : QuantizedOrigin
  bodyForward : QuantizedDirection
  headCenter : QuantizedOrigin
deriving DecidableEq

structure M3AuthorityShot where
  shot : AuthorityShot
  horseDamage : Option M3AuthorityHorseDamage
deriving DecidableEq

/-- When a reload last advanced, and whether its button was held. -/
structure M3ReloadClock where
  currentTick : Option SimulationTick
  reloadHeld : Bool
deriving DecidableEq

def M3ReloadClock.idle : M3ReloadClock := ⟨none, false⟩

structure M3ReloadCheckpoint where
  riderPlayerId : PlayerId
  currentTick : Option SimulationTick
  reloadHeld : Bool
  reload : Option ReloadSnapshot
deriving DecidableEq

inductive M3CombatAuthorityError
  | invalidTickRate
  | unknownActorOrTarget
  | actorState (e : M3AuthorityError)
  | targetState (e : TargetRegistryError)
  | crossKernelInvariant
  | damageSequenceExhausted
deriving DecidableEq

structure M3CombatAuthority where
  combat : CombatAuthority
  targets : TargetRegistry
  actors : M3AuthorityBank
  riderEntities : ExtTreeMap PlayerId EntityId
  reloadClocks : ExtTreeMap PlayerId M3ReloadClock
  nextHorseDamageSequence : UInt64

namespace M3CombatAuthority

/-- The error of a part, as the composed operation reports it. -/
def actorFailed {α : Type} (result : Except M3AuthorityError α) : Except M3CombatAuthorityError α :=
  result.mapError .actorState

def targetFailed {α : Type} (result : Except TargetRegistryError α) :
    Except M3CombatAuthorityError α :=
  result.mapError .targetState

/-- `ok_or`. -/
def found {α : Type} (value : Option α) (error : M3CombatAuthorityError) :
    Except M3CombatAuthorityError α :=
  match value with
  | none => .error error
  | some value => .ok value

protected def new (tickRate : UInt32) (lobbySeed authorityEpoch : UInt64) :
    Except M3CombatAuthorityError M3CombatAuthority := do
  let combat ← found (CombatAuthority.new tickRate lobbySeed) .invalidTickRate
  let (newer, combat) := combat.setAuthorityEpoch authorityEpoch
  if !newer then throw .crossKernelInvariant
  let targets ← (TargetRegistry.new tickRate).mapError fun _ => M3CombatAuthorityError.invalidTickRate
  return ⟨combat, targets, .new authorityEpoch, ∅, ∅, 1⟩

def registerActor (s : M3CombatAuthority) (riderPlayerId : PlayerId)
    (riderEntityId horseEntityId : EntityId) (horseClass : HorseVitalityClass)
    (weaponId : WeaponId) (targetTeam : TeamId) : Option M3CombatAuthority :=
  if riderEntityId = horseEntityId ∨ riderPlayerId ∈ s.riderEntities then none
  else do
    let actors ← s.actors.registerActor riderPlayerId horseEntityId horseClass
    let (registered, combat) := s.combat.registerShooter riderPlayerId weaponId
    if !registered then none
    let targets ← (s.targets.register {
      entityId := riderEntityId
      ownerPeerId := some riderPlayerId
      teamId := targetTeam
      maxHealth := M3_RIDER_MAX_HEALTH }).toOption
    let targets ← (targets.register {
      entityId := horseEntityId
      ownerPeerId := some riderPlayerId
      teamId := targetTeam
      maxHealth := horseClass.maxHealth }).toOption
    return { s with
      combat
      targets
      actors
      riderEntities := s.riderEntities.insert riderPlayerId riderEntityId
      reloadClocks := s.reloadClocks.insert riderPlayerId .idle }

def reload (s : M3CombatAuthority) (riderPlayerId : PlayerId) : Option ReloadSnapshot :=
  (s.combat.shooterKernel riderPlayerId).bind (·.reload)

def actor (s : M3CombatAuthority) (riderPlayerId : PlayerId) : Option ActorGameplayKernel :=
  s.actors.actor riderPlayerId

/-- The reload of a shooter after `elapsed` ticks, and after a press of its button. -/
def reloadKernel (kernel : CombatKernel) (elapsed : UInt64) (paused edge : Bool) : CombatKernel :=
  let (outcome, kernel) := kernel.advanceM3Reload elapsed paused
  if edge && !paused && !outcome.reloadCompleted && kernel.reload.isNone then
    kernel.requestM3Reload.2
  else kernel

/-- Advances one actor, its reload, and the health of its horse in the registry. -/
def tryAdvanceActor (s : M3CombatAuthority) (riderPlayerId : PlayerId) (input : ActorM3TickInput) :
    Except M3CombatAuthorityError (ActorM3TickOutput × M3CombatAuthority) := do
  let reloadPressed := input.onFoot.reloadActive
  let input := { input with
    onFoot := { input.onFoot with reloadActive := (s.reload riderPlayerId).isSome } }
  let (output, actors) ← actorFailed (s.actors.advanceActor riderPlayerId input)
  let clock ← found s.reloadClocks[riderPlayerId]? .unknownActorOrTarget
  let elapsed := (clock.currentTick.map fun tick =>
    (UInt64.checkedSub input.tick tick).getD 0).getD 0
  let paused := output.onFoot.any fun state => !state.canFire
  let kernel ← found (s.combat.shooterKernel riderPlayerId) .unknownActorOrTarget
  let combat := s.combat.setShooterKernel riderPlayerId
    (reloadKernel kernel elapsed paused (reloadPressed && !clock.reloadHeld))
  let horseEntityId ← found (actors.horseEntityId riderPlayerId) .unknownActorOrTarget
  let actor ← found (actors.actor riderPlayerId) .unknownActorOrTarget
  let targets ← targetFailed (s.targets.synchronizeHealth horseEntityId actor.horse.health)
  return (output, { s with
    combat
    targets
    actors
    reloadClocks := s.reloadClocks.insert riderPlayerId ⟨some input.tick, reloadPressed⟩ })

def tryIssueSpurCredit (s : M3CombatAuthority) (riderPlayerId : PlayerId) (tick : SimulationTick)
    (kind : SpurCreditKind) : Except M3CombatAuthorityError (Option UInt8 × M3CombatAuthority) := do
  let (points, actors) ← actorFailed (s.actors.issueSpurCredit riderPlayerId tick kind)
  return (points, { s with actors })

def tryRefillRiderAmmo (s : M3CombatAuthority) (riderPlayerId : PlayerId) :
    Except M3CombatAuthorityError (WeaponAmmo × M3CombatAuthority) := do
  let kernel ← found (s.combat.shooterKernel riderPlayerId) .unknownActorOrTarget
  let (ammo, kernel) := kernel.refillEquippedAmmo
  return (ammo, { s with
    combat := s.combat.setShooterKernel riderPlayerId kernel
    reloadClocks := s.reloadClocks.modify riderPlayerId fun clock =>
      { clock with reloadHeld := false } })

def tryRespawnRider (s : M3CombatAuthority) (riderPlayerId : PlayerId) (tick : SimulationTick) :
    Except M3CombatAuthorityError M3CombatAuthority := do
  let riderEntity ← found s.riderEntities[riderPlayerId]? .unknownActorOrTarget
  let horseEntity ← found (s.actors.horseEntityId riderPlayerId) .unknownActorOrTarget
  let actors ← found (s.actors.respawnActor riderPlayerId) .unknownActorOrTarget
  let kernel ← found (s.combat.shooterKernel riderPlayerId) .unknownActorOrTarget
  let (respawned, kernel) := kernel.respawnAt tick
  if !respawned then throw .unknownActorOrTarget
  let targets ← targetFailed (s.targets.respawn riderEntity)
  let targets ← targetFailed (targets.respawn horseEntity)
  return { s with
    combat := s.combat.setShooterKernel riderPlayerId kernel
    targets
    actors
    reloadClocks := s.reloadClocks.insert riderPlayerId ⟨some tick, false⟩ }

/-- Records the geometry of a horse; whether it can be hit derives from its vitality. -/
def tryRecordHorsePose (s : M3CombatAuthority) (pose : M3HorseTargetPose) :
    Except M3CombatAuthorityError M3CombatAuthority := do
  let horseEntityId ← found (s.actors.horseEntityId pose.riderPlayerId) .unknownActorOrTarget
  let actor ← found (s.actors.actor pose.riderPlayerId) .unknownActorOrTarget
  if actor.currentTick ≠ some pose.tick then throw .crossKernelInvariant
  let targets ← targetFailed (s.targets.recordHorsePose {
    tick := pose.tick
    entityId := horseEntityId
    bodyCenter := pose.bodyCenter
    bodyForward := pose.bodyForward
    bodyHalfLengthMm := M3_HORSE_BODY_HALF_LENGTH_MM
    bodyRadiusMm := M3_HORSE_BODY_RADIUS_MM
    headCenter := pose.headCenter
    headRadiusMm := M3_HORSE_HEAD_RADIUS_MM
    active := actor.horse.state = .available && actor.horse.health > 0 })
  return { s with targets }

def tryRecordRiderPose (s : M3CombatAuthority) (riderPlayerId : PlayerId)
    (pose : TargetPoseSnapshot) : Except M3CombatAuthorityError M3CombatAuthority := do
  let expected ← found s.riderEntities[riderPlayerId]? .unknownActorOrTarget
  if pose.entityId ≠ expected then throw .unknownActorOrTarget
  if (s.actors.actor riderPlayerId).all fun actor => actor.currentTick ≠ some pose.tick then
    throw .crossKernelInvariant
  let targets ← targetFailed (s.targets.recordPose pose)
  return { s with targets }

/-! ### Shots -/

variable (B : Ballistics) (G : RayGeometry)

/-- Routes the damage of a hit on a horse to its actor, and checks that both agree on it. -/
def routeHorse (s : M3CombatAuthority) (shot : AuthorityShot) (command : ShotCommand)
    (authorityTick : SimulationTick) (rider : RiderSnapshot) (targetId : EntityId) :
    Except M3CombatAuthorityError (M3AuthorityShot × M3CombatAuthority) := do
  let pose ← found (s.targets.horsePoseAt targetId command.tick) .crossKernelInvariant
  let sequence := s.nextHorseDamageSequence
  let nextHorseDamageSequence ← found (sequence.checkedAdd 1) .damageSequenceExhausted
  let (routed, actors) ← actorFailed (s.actors.applyHorseDamage targetId {
    id := ⟨s.actors.authorityEpoch, authorityTick, sequence⟩
    amount := shot.result.damage
    horsePosition := pose.bodyCenter
    damageSourcePosition := rider.muzzleOrigin })
  let routed ← found routed .crossKernelInvariant
  let actor ← found (actors.actor routed.riderPlayerId) .crossKernelInvariant
  let targetHealth ← found (s.targets.health targetId) .crossKernelInvariant
  if actor.horse.health ≠ targetHealth ∨ routed.effects.application.healthAfter ≠ targetHealth
      ∨ routed.effects.application.spooked ≠ shot.result.eliminated then
    throw .crossKernelInvariant
  -- a depleted horse spooks; it is never a rider elimination
  return (⟨{ shot with result := { shot.result with eliminated := false } }, some routed⟩,
    { s with actors, nextHorseDamageSequence })

def horseHit (s : M3CombatAuthority) (shot : AuthorityShot) : Option EntityId :=
  if shot.result.outcome = .hit then
    shot.result.targetId.filter fun targetId => (s.actors.horseOwner targetId).isSome
  else none

def spurKind (stance : RiderStance) (outcome : ShotOutcome) (eliminated : Bool) :
    Option SpurCreditKind :=
  match stance, outcome, eliminated with
  | .saddleDiveAirborne, .hit, true => some .saddleDiveElimination
  | .mounted, .hit, true => some .mountedElimination
  | .mounted, .hit, false => some .mountedHit
  | _, _, _ => none

def creditShot (s : M3CombatAuthority) (shot : M3AuthorityShot) (command : ShotCommand)
    (authorityTick : SimulationTick) (rider : RiderSnapshot) :
    Except M3CombatAuthorityError (M3AuthorityShot × M3CombatAuthority) :=
  match spurKind rider.riding.stance shot.shot.result.outcome shot.shot.result.eliminated with
  | none => .ok (shot, s)
  | some kind => do
    let (points, actors) ← actorFailed
      (s.actors.issueSpurCredit command.shooterPeerId authorityTick kind)
    let _ ← found points .crossKernelInvariant
    return (shot, { s with actors })

def tryResolveShot (s : M3CombatAuthority) (command : ShotCommand) (authorityTick : SimulationTick)
    (rider : RiderSnapshot) : Except M3CombatAuthorityError (M3AuthorityShot × M3CombatAuthority) :=
  let (shot, combat, targets) :=
    s.combat.validateShot B (TargetRegistry.range G) command authorityTick rider s.targets
  let s := { s with combat, targets }
  match s.horseHit shot with
  | none => s.creditShot ⟨shot, none⟩ command authorityTick rider
  | some targetId => do
    let (shot, s) ← s.routeHorse shot command authorityTick rider targetId
    s.creditShot shot command authorityTick rider

/-! ### Reassembly after a hand-over -/

end M3CombatAuthority

/-- Restores one shooter in an authenticated hand-over of the authority. -/
def CombatAuthority.restoreShooter (a : CombatAuthority) (shooterPeerId : PlayerId)
    (weaponId : WeaponId) (ammo : WeaponAmmo)
    (lastCommandTick lastAcceptedTick : Option SimulationTick) (shotIndex : UInt64) :
    Bool × CombatAuthority :=
  let (stocked, kernel) :=
    (CombatKernel.armed a.tickRate_ne a.lobbySeed shooterPeerId weaponId).setAmmo weaponId ammo
  if !stocked || lastAcceptedTick.isSome != decide (shotIndex > 0)
      || lastAcceptedTick.isSome && lastCommandTick.isNone
      || lastCommandTick.any (fun command => lastAcceptedTick.any (command < ·)) then
    (false, a)
  else
    let kernel := { kernel with
      lastAcceptedTick
      lastAdvancedTick := (lastCommandTick.or lastAcceptedTick).getD 0
      shotIndex }
    (true, { a with shooters := a.shooters.insert shooterPeerId ⟨kernel, lastCommandTick⟩ })

namespace M3CombatAuthority

/-- One row of the restored graph; `seen` holds the entities of the rows before it. -/
def restoreRow (targets : TargetRegistry) (riderEntities : ExtTreeMap PlayerId EntityId)
    (player : PlayerId) (row : M3AuthorityActor) (reload : M3ReloadCheckpoint)
    (state : List EntityId × CombatAuthority × ExtTreeMap PlayerId M3ReloadClock) :
    Option (List EntityId × CombatAuthority × ExtTreeMap PlayerId M3ReloadClock) := do
  let (seen, combat, reloadClocks) := state
  let riderEntity ← riderEntities[player]?
  let riderDefinition ← targets.definition riderEntity
  let horseDefinition ← targets.definition row.horseEntityId
  let kernel ← combat.shooterKernel player
  if riderEntity = row.horseEntityId ∨ riderEntity ∈ seen ∨ row.horseEntityId ∈ seen
      ∨ riderDefinition.ownerPeerId ≠ some player
      ∨ riderDefinition.maxHealth ≠ M3_RIDER_MAX_HEALTH
      ∨ horseDefinition.ownerPeerId ≠ some player
      ∨ horseDefinition.teamId ≠ riderDefinition.teamId
      ∨ horseDefinition.maxHealth ≠ row.actor.horse.horseClass.maxHealth
      ∨ targets.health row.horseEntityId ≠ some row.actor.horse.health
      ∨ reload.riderPlayerId ≠ player
      ∨ row.actor.currentTick ≠ reload.currentTick then none
  let (restored, kernel) := kernel.restoreM3Reload reload.reload
  if !restored then none
  return (riderEntity :: row.horseEntityId :: seen, combat.setShooterKernel player kernel,
    reloadClocks.insert player ⟨reload.currentTick, reload.reloadHeld⟩)

def restoreRows (targets : TargetRegistry) (riderEntities : ExtTreeMap PlayerId EntityId) :
    List ((PlayerId × M3AuthorityActor) × M3ReloadCheckpoint) →
      List EntityId × CombatAuthority × ExtTreeMap PlayerId M3ReloadClock →
      Option (List EntityId × CombatAuthority × ExtTreeMap PlayerId M3ReloadClock)
  | [], state => some state
  | ((player, row), reload) :: rows, state =>
    (restoreRow targets riderEntities player row reload state).bind
      (restoreRows targets riderEntities rows)

/-- Reassembles a migrated authority; `none` is `CrossKernelInvariant`. -/
def restoreComponents (combat : CombatAuthority) (targets : TargetRegistry)
    (actors : M3AuthorityBank) (riderEntities : ExtTreeMap PlayerId EntityId)
    (reloads : List M3ReloadCheckpoint) (nextHorseDamageSequence : UInt64) :
    Option M3CombatAuthority :=
  if nextHorseDamageSequence = 0 ∨ combat.authorityEpoch ≠ actors.authorityEpoch
      ∨ actors.actors.size ≠ riderEntities.size ∨ actors.actors.size ≠ reloads.length
      ∨ combat.shooters.size ≠ actors.actors.size
      ∨ targets.targets.size ≠ actors.actors.size * 2 then none
  else
    (restoreRows targets riderEntities (actors.actors.toList.zip reloads) ([], combat, ∅)).map
      fun (_, combat, reloadClocks) =>
        ⟨combat, targets, actors, riderEntities, reloadClocks, nextHorseDamageSequence⟩

end M3CombatAuthority

/-- The combat authorities of a start: new, with shooters registered or restored. -/
inductive CombatAuthority.Assembled : CombatAuthority → Prop
  | new {tickRate : UInt32} {lobbySeed : UInt64} {a : CombatAuthority}
      (h : CombatAuthority.new tickRate lobbySeed = some a) : Assembled a
  | setAuthorityEpoch {a : CombatAuthority} (h : Assembled a) (authorityEpoch : UInt64) :
      Assembled (a.setAuthorityEpoch authorityEpoch).2
  | registerShooter {a : CombatAuthority} (h : Assembled a) (shooterPeerId : PlayerId)
      (weaponId : WeaponId) : Assembled (a.registerShooter shooterPeerId weaponId).2
  | restoreShooter {a : CombatAuthority} (h : Assembled a) (shooterPeerId : PlayerId)
      (weaponId : WeaponId) (ammo : WeaponAmmo)
      (lastCommandTick lastAcceptedTick : Option SimulationTick) (shotIndex : UInt64) :
      Assembled (a.restoreShooter shooterPeerId weaponId ammo lastCommandTick lastAcceptedTick
        shotIndex).2

/-! ## Calls -/

inductive M3CombatCall
  | registerActor (riderPlayerId : PlayerId) (riderEntityId horseEntityId : EntityId)
      (horseClass : HorseVitalityClass) (weaponId : WeaponId) (targetTeam : TeamId)
  | advanceActor (riderPlayerId : PlayerId) (input : ActorM3TickInput)
  | issueSpurCredit (riderPlayerId : PlayerId) (tick : SimulationTick) (kind : SpurCreditKind)
  | refillRiderAmmo (riderPlayerId : PlayerId)
  | respawnRider (riderPlayerId : PlayerId) (tick : SimulationTick)
  | recordHorsePose (pose : M3HorseTargetPose)
  | recordRiderPose (riderPlayerId : PlayerId) (pose : TargetPoseSnapshot)
  | resolveShot (command : ShotCommand) (authorityTick : SimulationTick) (rider : RiderSnapshot)

inductive M3CombatAnswer
  | registered (accepted : Bool)
  | advanced (result : Except M3CombatAuthorityError ActorM3TickOutput)
  | credited (result : Except M3CombatAuthorityError (Option UInt8))
  | refilled (result : Except M3CombatAuthorityError WeaponAmmo)
  | done (result : Except M3CombatAuthorityError Unit)
  | resolved (result : Except M3CombatAuthorityError M3AuthorityShot)

namespace M3CombatAuthority

/-- An operation on a clone of the authority, which replaces it when nothing has failed. -/
def transact {α : Type} (s : M3CombatAuthority)
    (result : Except M3CombatAuthorityError (α × M3CombatAuthority)) :
    Except M3CombatAuthorityError α × M3CombatAuthority :=
  match result with
  | .error error => (.error error, s)
  | .ok (answer, candidate) => (.ok answer, candidate)

variable (B : Ballistics) (G : RayGeometry)

def resolveShot (s : M3CombatAuthority) (command : ShotCommand) (authorityTick : SimulationTick)
    (rider : RiderSnapshot) : Except M3CombatAuthorityError M3AuthorityShot × M3CombatAuthority :=
  s.transact (s.tryResolveShot B G command authorityTick rider)

def respawnRider (s : M3CombatAuthority) (riderPlayerId : PlayerId) (tick : SimulationTick) :
    Except M3CombatAuthorityError Unit × M3CombatAuthority :=
  s.transact ((s.tryRespawnRider riderPlayerId tick).map ((), ·))

def step (s : M3CombatAuthority) : M3CombatCall → M3CombatAnswer × M3CombatAuthority
  | .registerActor riderPlayerId riderEntityId horseEntityId horseClass weaponId targetTeam =>
    match s.registerActor riderPlayerId riderEntityId horseEntityId horseClass weaponId
      targetTeam with
    | none => (.registered false, s)
    | some candidate => (.registered true, candidate)
  | .advanceActor riderPlayerId input =>
    (s.transact (s.tryAdvanceActor riderPlayerId input)).map .advanced id
  | .issueSpurCredit riderPlayerId tick kind =>
    (s.transact (s.tryIssueSpurCredit riderPlayerId tick kind)).map .credited id
  | .refillRiderAmmo riderPlayerId =>
    (s.transact (s.tryRefillRiderAmmo riderPlayerId)).map .refilled id
  | .respawnRider riderPlayerId tick => (s.respawnRider riderPlayerId tick).map .done id
  | .recordHorsePose pose =>
    (s.transact ((s.tryRecordHorsePose pose).map ((), ·))).map .done id
  | .recordRiderPose riderPlayerId pose =>
    (s.transact ((s.tryRecordRiderPose riderPlayerId pose).map ((), ·))).map .done id
  | .resolveShot command authorityTick rider =>
    (s.resolveShot B G command authorityTick rider).map .resolved id

/-- An authority at the start of a run. -/
inductive Started : M3CombatAuthority → Prop
  | new {tickRate : UInt32} {lobbySeed authorityEpoch : UInt64} {s : M3CombatAuthority}
      (h : M3CombatAuthority.new tickRate lobbySeed authorityEpoch = .ok s) : Started s
  | restored {combat : CombatAuthority} {targets : TargetRegistry} {actors : M3AuthorityBank}
      {riderEntities : ExtTreeMap PlayerId EntityId} {reloads : List M3ReloadCheckpoint}
      {nextHorseDamageSequence : UInt64} {s : M3CombatAuthority} (assembled : combat.Assembled)
      (h : restoreComponents combat targets actors riderEntities reloads nextHorseDamageSequence
        = some s) : Started s

end M3CombatAuthority

end Spurfire
