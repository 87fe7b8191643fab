import Spurfire.Game.MountedWeapon
import Spurfire.Game.Restore
import Spurfire.Protocol.BountyLives
import Spurfire.Protocol.CombatRoster

/-!
# The authority of a match in play

What `PeerSession` of `peer_session.rs` does from the activation of the M3 wire to a hand-over, on
the peer that has the authority: the combat graph and the bounty match are two kernels, cloned,
changed and committed together or not at all.

* `MatchSession`, `MatchCall`, `MatchSession.step`: the operations the scene calls;
* `KernelPair`: the kernels know the same players, and whom the bounty match has down is down;
* **`lives_along`**: a rider has no health exactly while the bounty match has it down;
* **`shots_commit_along`**: the bounty match refuses no shot that the combat graph has resolved.
-/

namespace Spurfire

open Std (ExtTreeMap)
open Fallible

/-! ## The session -/

/-- `u16::try_from` of a scene integer. -/
def tryU16 (v : Int64) : Option UInt16 :=
  if v < 0 ∨ 65535 < v then none else some v.toUInt64.toUInt16

structure M3LoadoutConfiguration where
  playerId : PlayerId
  horseClass : HorseVitalityClass
  weaponId : WeaponId
deriving DecidableEq

/-- What the scene reports of one rider at one tick, quantized. -/
structure RiderReport where
  playerId : PlayerId
  tick : Int64
  muzzleOrigin : QuantizedOrigin
  bodyCenter : QuantizedOrigin
  headCenter : QuantizedOrigin
  planarSpeedMmps : UInt32
  stanceId : Int64
  rawDiveId : Int64
deriving DecidableEq

/-- The controls and positions of one actor at one tick, quantized. -/
structure ActorControls where
  moveInput : Option QuantizedDirection
  sprintPressed : Bool
  crouchPressed : Bool
  reloadActive : Bool
  interactPressed : Bool
  spurPressed : Bool
  mountedForSpur : Bool
  riderPosition : QuantizedOrigin
  returnHorsePosition : QuantizedOrigin
  returnHorseMoving : Bool
deriving DecidableEq

/-- The fields of `PeerSession` that a match reads.  `allowedPlayers` is in ascending order; the
player names are `none` where there is no session. -/
structure MatchSession where
  localPlayerId : Option PlayerId
  authorityPlayerId : Option PlayerId
  authorityEpoch : Int64
  m5LobbySeed : UInt64
  hasSession : Bool
  hasSecureSession : Bool
  allowedPlayers : List PlayerId
  m3WireActive : Bool
  authorityRiderHistory : ExtTreeMap PlayerId (List RiderSnapshot)
  m3CombatAuthority : Option M3CombatAuthority
  m5MatchAuthority : Option BountyMatchKernel

/-- What a resolved shot answers to the scene. -/
structure M3ShotReply where
  result : ShotResult
  shooterOnFoot : Bool
  spurAwardedPoints : UInt8
  spurMeter : UInt8
  shooterChargeActive : Bool
  bountyAwards : List BountyAward
  authorityOrigin : QuantizedOrigin
  spurAwardSource : Option String
  eliminatedRider : Option (PlayerId × Bool)
  horseDamage : Option M3AuthorityHorseDamage
deriving DecidableEq

def snapshotDiveId (stance : RiderStance) (rawDiveId : Int64) : Option (Option DiveId) :=
  if stance = .saddleDiveAirborne then ((tryU64 rawDiveId).bind DiveId.new).map some
  else if rawDiveId < 0 then some none
  else none

def reportedGait (planarSpeedMmps : UInt32) : CombatGait :=
  if planarSpeedMmps < 500 then .idle
  else if planarSpeedMmps < 3000 then .walk
  else if planarSpeedMmps < 8000 then .trot
  else .gallop

/-- The answer of a kernel and the kernel after it, where it has not failed. -/
def committed {ε α β : Type} (r : Except ε α × β) : Option (α × β) := r.1.toOption.map (·, r.2)

/-- The rider a target entity stands for. -/
def M3CombatAuthority.riderOwner (s : M3CombatAuthority) (entityId : EntityId) : Option PlayerId :=
  (s.riderEntities.toList.find? (·.2 == entityId)).map (·.1)

namespace MatchSession

def holdsMatch (s : MatchSession) : Bool :=
  s.m3WireActive && s.localPlayerId == s.authorityPlayerId

/-! ### Activation -/

/-- The loadout table: every row of an allowed player, and of no player twice. -/
def collectLoadouts (allowed : List PlayerId) :
    List M3LoadoutConfiguration → ExtTreeMap PlayerId (HorseVitalityClass × WeaponId) →
      Option (ExtTreeMap PlayerId (HorseVitalityClass × WeaponId))
  | [], loadouts => some loadouts
  | row :: rows, loadouts =>
    if row.playerId ∉ allowed ∨ row.playerId ∈ loadouts then none
    else collectLoadouts allowed rows (loadouts.insert row.playerId (row.horseClass, row.weaponId))

def registerActors (loadouts : ExtTreeMap PlayerId (HorseVitalityClass × WeaponId)) :
    List PlayerId → M3CombatAuthority → Option M3CombatAuthority
  | [], authority => some authority
  | player :: players, authority => do
    let (horseClass, weaponId) ← loadouts[player]?
    let authority ← authority.registerActor player (riderEntityId player) (horseEntityId player)
      horseClass weaponId 1
    registerActors loadouts players authority

def activateM3Wire (s : MatchSession) (rows : List M3LoadoutConfiguration) :
    Option MatchSession := do
  guard (s.hasSession && !s.m3WireActive && !s.hasSecureSession && !s.allowedPlayers.isEmpty)
  let loadouts ← collectLoadouts s.allowedPlayers rows ∅
  guard (loadouts.size = s.allowedPlayers.length)
  let epoch ← tryU64 s.authorityEpoch
  let authority ← (M3CombatAuthority.new 60 0 epoch).toOption
  let bounty ← (BountyMatchKernel.new epoch s.m5LobbySeed 0 s.allowedPlayers).toOption
  let authority ← registerActors loadouts s.allowedPlayers authority
  return { s with
    m3CombatAuthority := some authority
    m5MatchAuthority := some bounty
    m3WireActive := true }

/-! ### The match clock -/

def respawnRiders (tick : SimulationTick) :
    List PlayerId → M3CombatAuthority → Option M3CombatAuthority
  | [], combat => some combat
  | player :: players, combat =>
    (combat.tryRespawnRider player tick).toOption.bind (respawnRiders tick players)

def advanceM5Match (s : MatchSession) (tick : Int64) :
    Option (BountyMatchTickOutput × MatchSession) := do
  guard s.holdsMatch
  let tick ← tryU64 tick
  let bounty ← s.m5MatchAuthority
  let combat ← s.m3CombatAuthority
  let (output, bounty) ← committed (bounty.advanceTick tick)
  let combat ← respawnRiders tick output.respawnedPlayers combat
  return (output, { s with m5MatchAuthority := some bounty, m3CombatAuthority := some combat })

/-! ### Objectives -/

/-- An ammo wagon fills the rifle of its taker. -/
def refilled (combat : M3CombatAuthority) (player : PlayerId) (kind : DynamicObjectiveKind) :
    Option M3CombatAuthority :=
  if kind = .ammoWagon then (combat.tryRefillRiderAmmo player).toOption.map (·.2) else some combat

def completeM5Objective (s : MatchSession) (player : PlayerId) (tick objectiveId : Int64) :
    Option (BountyAward × MatchSession) := do
  let tick ← tryU64 tick
  let objectiveId ← tryU64 objectiveId
  guard s.holdsMatch
  let bounty ← s.m5MatchAuthority
  let combat ← s.m3CombatAuthority
  guard (bounty.currentTick = tick ∧ player ∈ s.allowedPlayers)
  let objective ← bounty.activeObjective
  guard (objective.objectiveId = objectiveId)
  let (award, bounty) ← committed (bounty.completeObjective tick player objectiveId)
  let combat ← refilled combat player objective.kind
  return (award, { s with m5MatchAuthority := some bounty, m3CombatAuthority := some combat })

def recordM5SignalHold (s : MatchSession) (player : PlayerId)
    (tick objectiveId totalHoldTicks : Int64) : Option (Option BountyAward × MatchSession) := do
  let tick ← tryU64 tick
  let objectiveId ← tryU64 objectiveId
  let totalHoldTicks ← tryU64 totalHoldTicks
  guard s.holdsMatch
  let bounty ← s.m5MatchAuthority
  guard (bounty.currentTick = tick ∧ player ∈ s.allowedPlayers)
  let (award, bounty) ←
    committed (bounty.recordSignalTowerHold tick player objectiveId totalHoldTicks)
  return (award, { s with m5MatchAuthority := some bounty })

/-! ### Actors and poses -/

def advanceM3Actor (s : MatchSession) (player : PlayerId) (tick : Int64)
    (controls : ActorControls) : Option (ActorM3TickOutput × MatchSession) := do
  guard s.holdsMatch
  let tick ← tryU64 tick
  let authority ← s.m3CombatAuthority
  let (output, authority) ← (authority.tryAdvanceActor player {
    tick
    onFoot := {
      tick
      moveDirection := controls.moveInput
      sprintPressed := controls.sprintPressed
      crouchPressed := controls.crouchPressed
      reloadActive := controls.reloadActive }
    interactPressed := controls.interactPressed
    spurPressed := controls.spurPressed
    mountedForSpur := controls.mountedForSpur
    riderPosition := controls.riderPosition
    returnHorsePosition := controls.returnHorsePosition
    returnHorseMoving := controls.returnHorseMoving }).toOption
  return (output, { s with m3CombatAuthority := some authority })

/-- The awards the scene may ask for. -/
def creditKind (sourceId evidenceA evidenceB : Int64) : Option SpurCreditKind :=
  if sourceId = 0 then some .jump
  else if sourceId = 1 then (tryU16 evidenceB).map (.cleanLanding (evidenceA == 1))
  else if sourceId = 2 then (tryU16 evidenceB).map (.nearMiss (evidenceA == 1))
  else none

def issueM4SpurCredit (s : MatchSession) (player : PlayerId)
    (tick sourceId evidenceA evidenceB : Int64) : Option (Option UInt8 × MatchSession) := do
  guard s.holdsMatch
  let tick ← tryU64 tick
  let kind ← creditKind sourceId evidenceA evidenceB
  let authority ← s.m3CombatAuthority
  let (points, authority) ← (authority.tryIssueSpurCredit player tick kind).toOption
  return (points, { s with m3CombatAuthority := some authority })

def recordM3HorsePose (s : MatchSession) (player : PlayerId) (tick : Int64)
    (bodyCenter : QuantizedOrigin) (bodyForward : QuantizedDirection)
    (headCenter : QuantizedOrigin) : Option MatchSession := do
  let tick ← tryU64 tick
  guard s.holdsMatch
  let authority ← s.m3CombatAuthority
  let authority ← (authority.tryRecordHorsePose {
    tick
    riderPlayerId := player
    bodyCenter
    bodyForward
    headCenter }).toOption
  return { s with m3CombatAuthority := some authority }

def historyOf (s : MatchSession) (player : PlayerId) : List RiderSnapshot :=
  s.authorityRiderHistory[player]?.getD []

def reportedSnapshot (s : MatchSession) (report : RiderReport) :
    Option (RiderSnapshot × TargetPoseSnapshot) := do
  let tick ← tryU64 report.tick
  let stance := RiderStance.fromU8 (← tryU8 report.stanceId)
  guard (report.playerId ∈ s.allowedPlayers)
  let diveId ← snapshotDiveId stance report.rawDiveId
  let majesticCharge := (s.m3CombatAuthority.bind (·.actor report.playerId)).any
    (·.spur.chargeActive)
  let riding : RidingState := {
    stance, diveId
    gait := reportedGait report.planarSpeedMmps
    planarSpeedMmps := report.planarSpeedMmps
    gaitTopSpeedMmps := 13000
    yawRateMillidegreesPerSecond := 0
    stumbling := false
    ads := false
    sprintGallop := false
    majesticCharge }
  guard riding.isConsistent
  return ({
      tick
      shooterPeerId := report.playerId
      muzzleOrigin := report.muzzleOrigin
      teamId := 0
      riding }, {
      tick
      entityId := riderEntityId report.playerId
      stance
      bodyCenter := report.bodyCenter
      bodyHalfHeightMm := 500
      bodyRadiusMm := 350
      headCenter := report.headCenter
      headRadiusMm := 250
      active := true })

/-- Snapshots kept of one rider. -/
def RIDER_HISTORY : ℕ := 32

/-- On the M3 wire: the pose goes to the rewind registry, the snapshot to the history. -/
def recordAuthorityRiderSnapshot (s : MatchSession) (report : RiderReport) :
    Bool × MatchSession :=
  if !s.holdsMatch then (false, s)
  else
    match s.reportedSnapshot report with
    | none => (false, s)
    | some (snapshot, pose) =>
      let history := s.historyOf report.playerId
      -- the entry is made before the checks below
      let s := { s with
        authorityRiderHistory := s.authorityRiderHistory.insert report.playerId history }
      if history.getLast?.any (snapshot.tick ≤ ·.tick) then (false, s)
      else
        match s.m3CombatAuthority.bind fun authority =>
            (authority.tryRecordRiderPose report.playerId pose).toOption with
        | none => (false, s)
        | some authority =>
          let history := history ++ [snapshot]
          (true, { s with
            m3CombatAuthority := some authority
            authorityRiderHistory := s.authorityRiderHistory.insert report.playerId
              (history.drop (history.length - RIDER_HISTORY)) })

/-! ### Shots -/

variable (B : Ballistics) (G : RayGeometry)

def riderSnapshotAt (s : MatchSession) (player : PlayerId) (tick : SimulationTick) :
    Option RiderSnapshot :=
  (s.historyOf player).find? (·.tick = tick)

def scoreDamage (bounty : BountyMatchKernel) (tick : SimulationTick) (shooter : PlayerId)
    (damage : UInt16) (hitRider : Option PlayerId) : Option BountyMatchKernel :=
  match hitRider with
  | none => some bounty
  | some target => (committed (bounty.recordDamage tick shooter target damage)).map (·.2)

def scoreLongHit (bounty : BountyMatchKernel) (tick : SimulationTick) (shooter : PlayerId)
    (distanceMm : Option UInt32) : Option (List BountyAward × BountyMatchKernel) :=
  match distanceMm with
  | none => some ([], bounty)
  | some distance =>
    (committed (bounty.recordMountedLongHit tick shooter distance)).map fun scored =>
      (scored.1.toList, scored.2)

/-- Damage to a rider, and the bonus of a long shot from the saddle. -/
def scoreHit (bounty : BountyMatchKernel) (tick : SimulationTick) (shooter : PlayerId)
    (stance : RiderStance) (result : ShotResult) (hitRider : Option PlayerId) :
    Option (List BountyAward × BountyMatchKernel) :=
  if result.outcome ≠ .hit then some ([], bounty)
  else
    (scoreDamage bounty tick shooter result.damage hitRider).bind fun bounty =>
      scoreLongHit bounty tick shooter (if stance = .mounted then result.distanceMm else none)

def scoreBolt (bounty : BountyMatchKernel) (tick : SimulationTick) (shooter : PlayerId)
    (horseDamage : Option M3AuthorityHorseDamage) :
    Option (List BountyAward × BountyMatchKernel) :=
  match horseDamage.filter (·.effects.application.spooked) with
  | none => some ([], bounty)
  | some damage =>
    (committed (bounty.recordHorseBolt tick shooter damage.riderPlayerId)).map fun scored =>
      ([scored.1], scored.2)

def scoreElimination (bounty : BountyMatchKernel) (tick : SimulationTick) (shooter : PlayerId)
    (stance : RiderStance) (eliminatedRider : Option PlayerId) :
    Option (List BountyAward × BountyMatchKernel) :=
  match eliminatedRider with
  | none => some ([], bounty)
  | some target =>
    committed (bounty.recordElimination tick shooter target (stance == .saddleDiveAirborne))

def scoreShot (bounty : BountyMatchKernel) (tick : SimulationTick) (shooter : PlayerId)
    (stance : RiderStance) (resolved : M3AuthorityShot)
    (hitRider eliminatedRider : Option PlayerId) :
    Option (List BountyAward × BountyMatchKernel) := do
  let (hits, bounty) ← scoreHit bounty tick shooter stance resolved.shot.result hitRider
  let (bolts, bounty) ← scoreBolt bounty tick shooter resolved.horseDamage
  let (eliminations, bounty) ← scoreElimination bounty tick shooter stance eliminatedRider
  return (hits ++ bolts ++ eliminations, bounty)

/-- The text of the Spur award of a shot. -/
def spurAwardSource (stance : RiderStance) (eliminated : Bool) : String :=
  if stance = .saddleDiveAirborne && eliminated then "saddle_dive_elimination"
  else if stance = .mounted && eliminated then "mounted_elimination"
  else "mounted_hit"

def onFoot (authority : M3CombatAuthority) (player : PlayerId) : Bool :=
  (authority.actor player).any (·.mode ≠ .mounted)

/-- The answer to the scene, from the authority before and after the shot. -/
def shotReply (before after : M3CombatAuthority) (shooter : PlayerId) (rider : RiderSnapshot)
    (resolved : M3AuthorityShot) (eliminatedRider : Option PlayerId)
    (bountyAwards : List BountyAward) : M3ShotReply :=
  let spurBefore := ((before.actor shooter).map (·.spur.meter)).getD 0
  let spurAfter := ((after.actor shooter).map (·.spur.meter)).getD spurBefore
  { result := resolved.shot.result
    shooterOnFoot := onFoot after shooter
    spurAwardedPoints := spurAfter.satSub spurBefore
    spurMeter := spurAfter
    shooterChargeActive := (after.actor shooter).any (·.spur.chargeActive)
    bountyAwards
    authorityOrigin := rider.muzzleOrigin
    spurAwardSource :=
      if spurBefore < spurAfter then
        some (spurAwardSource rider.riding.stance resolved.shot.result.eliminated)
      else none
    eliminatedRider := eliminatedRider.map fun player => (player, onFoot after player)
    horseDamage := resolved.horseDamage }

def resolveM3ShotCommand (s : MatchSession) (command : ShotCommand) (authorityTick : Int64) :
    Option (M3ShotReply × MatchSession) := do
  let authorityTick ← tryU64 authorityTick
  guard (s.holdsMatch ∧ command.shooterPeerId ∈ s.allowedPlayers)
  let authority ← s.m3CombatAuthority
  let bounty ← s.m5MatchAuthority
  guard (bounty.currentTick = authorityTick ∧ !bounty.finished)
  let rider ← s.riderSnapshotAt command.shooterPeerId command.tick
  let (resolved, after) ←
    (authority.tryResolveShot B G command authorityTick rider).toOption
  let hitRider := resolved.shot.result.targetId.bind after.riderOwner
  let eliminatedRider := if resolved.shot.result.eliminated then hitRider else none
  let (awards, bounty) ← scoreShot bounty authorityTick command.shooterPeerId rider.riding.stance
    resolved hitRider eliminatedRider
  return (shotReply authority after command.shooterPeerId rider resolved eliminatedRider awards,
    { s with m3CombatAuthority := some after, m5MatchAuthority := some bounty })

/-- The older entry, which resolves a shot without telling the bounty match.  Without the M3 wire it
works on other fields. -/
def resolveShotCommand (s : MatchSession) (command : ShotCommand) :
    Option (ShotResult × MatchSession) := do
  guard (s.holdsMatch ∧ command.shooterPeerId ∈ s.allowedPlayers)
  let authority ← s.m3CombatAuthority
  let rider ← s.riderSnapshotAt command.shooterPeerId command.tick
  let (resolved, authority) ←
    (authority.tryResolveShot B G command command.tick rider).toOption
  return (resolved.shot.result, { s with m3CombatAuthority := some authority })

end MatchSession

/-! ## Calls -/

inductive MatchCall
  | activateM3Wire (rows : List M3LoadoutConfiguration)
  | advanceM5Match (tick : Int64)
  | completeM5Objective (player : PlayerId) (tick objectiveId : Int64)
  | recordM5SignalHold (player : PlayerId) (tick objectiveId totalHoldTicks : Int64)
  | advanceM3Actor (player : PlayerId) (tick : Int64) (controls : ActorControls)
  | issueM4SpurCredit (player : PlayerId) (tick sourceId evidenceA evidenceB : Int64)
  | recordM3HorsePose (player : PlayerId) (tick : Int64) (bodyCenter : QuantizedOrigin)
      (bodyForward : QuantizedDirection) (headCenter : QuantizedOrigin)
  | recordAuthorityRiderSnapshot (report : RiderReport)
  | resolveM3ShotCommand (command : ShotCommand) (authorityTick : Int64)
  | resolveShotCommand (command : ShotCommand)

/-- The scene does not use the older entry on the M3 wire. -/
def MatchCall.OfScene (call : MatchCall) : Prop := ∀ command, call ≠ .resolveShotCommand command

inductive MatchReply
  | refused
  | activated
  | advanced (output : BountyMatchTickOutput)
  | awarded (award : Option BountyAward)
  | actor (output : ActorM3TickOutput)
  | credited (points : Option UInt8)
  | recorded
  | resolved (reply : M3ShotReply)
  | shot (result : ShotResult)

namespace MatchSession

/-- An answer with the session after it, or a refusal that leaves the session. -/
def orKept {α : Type} (s : MatchSession) (reply : α → MatchReply) (r : Option (α × MatchSession)) :
    MatchReply × MatchSession :=
  match r with
  | none => (.refused, s)
  | some (answer, s) => (reply answer, s)

variable (B : Ballistics) (G : RayGeometry)

def step (s : MatchSession) : MatchCall → MatchReply × MatchSession
  | .activateM3Wire rows => s.orKept (fun _ => .activated) ((s.activateM3Wire rows).map ((), ·))
  | .advanceM5Match tick => s.orKept .advanced (s.advanceM5Match tick)
  | .completeM5Objective player tick objectiveId =>
    s.orKept (.awarded ∘ some) (s.completeM5Objective player tick objectiveId)
  | .recordM5SignalHold player tick objectiveId totalHoldTicks =>
    s.orKept .awarded (s.recordM5SignalHold player tick objectiveId totalHoldTicks)
  | .advanceM3Actor player tick controls =>
    s.orKept .actor (s.advanceM3Actor player tick controls)
  | .issueM4SpurCredit player tick sourceId evidenceA evidenceB =>
    s.orKept .credited (s.issueM4SpurCredit player tick sourceId evidenceA evidenceB)
  | .recordM3HorsePose player tick bodyCenter bodyForward headCenter =>
    s.orKept (fun _ => .recorded)
      ((s.recordM3HorsePose player tick bodyCenter bodyForward headCenter).map ((), ·))
  | .recordAuthorityRiderSnapshot report =>
    (s.recordAuthorityRiderSnapshot report).map (fun kept => bif kept then .recorded else .refused)
      id
  | .resolveM3ShotCommand command authorityTick =>
    s.orKept .resolved (s.resolveM3ShotCommand B G command authorityTick)
  | .resolveShotCommand command => s.orKept .shot (s.resolveShotCommand B G command)

end MatchSession

/-! ## The two kernels -/

namespace M3CombatAuthority

variable {s s' : M3CombatAuthority} {player : PlayerId}

theorem riderOwner_eq_some (hr : s.Roster) {entity : EntityId} :
    s.riderOwner entity = some player ↔ s.riderEntities[player]? = some entity := by
  unfold riderOwner
  constructor
  · intro h
    obtain ⟨⟨owner, rider⟩, hfound, rfl⟩ := Option.map_eq_some_iff.mp h
    have hbeq := List.find?_some hfound
    have hrider : rider = entity := eq_of_beq hbeq
    rw [← hrider]
    exact ExtTreeMap.mem_toList_iff_getElem?_eq_some.mp (List.mem_of_find?_eq_some hfound)
  · intro h
    have hmem := ExtTreeMap.mem_toList_iff_getElem?_eq_some.mpr h
    cases hfound : s.riderEntities.toList.find? (·.2 == entity) with
    | none => exact absurd (beq_self_eq_true entity) (List.find?_eq_none.mp hfound _ hmem)
    | some row =>
      obtain ⟨owner, rider⟩ := row
      have hbeq := List.find?_some hfound
      have hrider : rider = entity := eq_of_beq hbeq
      have howner := ExtTreeMap.mem_toList_iff_getElem?_eq_some.mp
        (List.mem_of_find?_eq_some hfound)
      obtain ⟨definition, hdefinition, hplayer, -⟩ := hr.riders player entity h
      obtain ⟨definition', hdefinition', howner', -⟩ := hr.riders owner rider howner
      rw [hrider, hdefinition] at hdefinition'
      obtain rfl := Option.some.inj hdefinition'
      exact hplayer.symm.trans howner' ▸ rfl

theorem SameRoster.riderOwner (h : SameRoster s s') (entity : EntityId) :
    s'.riderOwner entity = s.riderOwner entity := by
  unfold M3CombatAuthority.riderOwner
  rw [h.riderEntities]

end M3CombatAuthority

/-- The kernels know the same players, and whoever is down in the bounty match has no health. -/
structure KernelPair (combat : M3CombatAuthority) (bounty : BountyMatchKernel) : Prop where
  roster : combat.Roster
  sound : bounty.Sound
  players : ∀ player, player ∈ combat.riderEntities ↔ player ∈ bounty.players
  fallen : ∀ player, bounty.lives player = some false → combat.riderHealth player = some 0

/-- Whoever has no health is down in the bounty match. -/
def Scored (combat : M3CombatAuthority) (bounty : BountyMatchKernel) : Prop :=
  ∀ player, combat.riderHealth player = some 0 → bounty.lives player = some false

variable {combat combat' : M3CombatAuthority} {bounty bounty' : BountyMatchKernel}
  {tick : SimulationTick}

/-- A step of both kernels that keeps them paired. -/
structure PairStep (combat combat' : M3CombatAuthority) (bounty bounty' : BountyMatchKernel) :
    Prop where
  riders : combat'.riderEntities = combat.riderEntities
  paired : KernelPair combat' bounty'
  scored : Scored combat bounty → Scored combat' bounty'

/-- Nothing that a kernel does alone touches riders or lives. -/
theorem KernelPair.steady (h : KernelPair combat bounty)
    (hcombat : M3CombatAuthority.Steady combat combat')
    (hbounty : bounty.KeepsLives bounty') (hsound : bounty'.Sound) :
    PairStep combat combat' bounty bounty' := by
  have hriders := hcombat.riders h.roster
  refine ⟨hcombat.roster.riderEntities, ⟨h.roster.same hcombat.roster, hsound, fun player => ?_,
    fun player hdown => ?_⟩, fun hscored player hempty => ?_⟩
  · rw [hcombat.roster.riderEntities, hbounty.mem, h.players]
  · rw [hriders]
    exact h.fallen player ((hbounty player).symm.trans hdown)
  · rw [hriders] at hempty
    exact (hbounty player).trans (hscored player hempty)

/-! ### The clock -/

theorem respawnRiders_spec {players : List PlayerId} (hr : combat.Roster)
    (h : MatchSession.respawnRiders tick players combat = some combat') :
    M3CombatAuthority.SameRoster combat combat' ∧ ∀ player, combat'.riderHealth player
      = if player ∈ players then some M3_RIDER_MAX_HEALTH else combat.riderHealth player := by
  induction players generalizing combat with
  | nil =>
    obtain rfl := Option.some.inj h
    exact ⟨.refl _, fun _ => rfl⟩
  | cons first rest ih =>
    obtain ⟨healed, hhealed, h⟩ := Option.bind_eq_some_iff.mp h
    have hfirst := M3CombatAuthority.healed_tryRespawnRider (toOption_eq_some.mp hhealed)
    have hsame := hfirst.roster hr
    obtain ⟨hrest, hhealth⟩ := ih (hr.same hsame) h
    refine ⟨hsame.trans hrest, fun player => ?_⟩
    rw [hhealth]
    by_cases hin : player ∈ rest
    · rw [if_pos hin, if_pos (List.mem_cons_of_mem _ hin)]
    rw [if_neg hin]
    by_cases heq : player = first
    · rw [heq, if_pos List.mem_cons_self]
      exact hfirst.rider hr
    · rw [if_neg (List.not_mem_cons_of_ne_of_not_mem heq hin)]
      exact hfirst.others hr player heq

theorem KernelPair.clock (h : KernelPair combat bounty) {output : BountyMatchTickOutput}
    (hclock : bounty.advanceTick tick = (.ok output, bounty'))
    (hriders : MatchSession.respawnRiders tick output.respawnedPlayers combat = some combat') :
    PairStep combat combat' bounty bounty' := by
  obtain ⟨hsame, hhealth⟩ := respawnRiders_spec h.roster hriders
  have hlives := BountyMatchKernel.lives_advanceTick h.sound hclock
  have hsound := BountyMatchKernel.sound_advanceTick h.sound tick
  rw [hclock] at hsound
  refine ⟨hsame.riderEntities, ⟨h.roster.same hsame, hsound, fun player => ?_,
    fun player hdown => ?_⟩, fun hscored player hempty => ?_⟩
  · rw [hsame.riderEntities, h.players, ← BountyMatchKernel.lives_isSome,
      ← BountyMatchKernel.lives_isSome, hlives, Option.isSome_map]
  · rw [hlives] at hdown
    obtain ⟨alive, halive, hor⟩ := Option.map_eq_some_iff.mp hdown
    obtain ⟨rfl, hout⟩ := Bool.or_eq_false_iff.mp hor
    rw [hhealth, if_neg (of_decide_eq_false hout)]
    exact h.fallen player halive
  · rw [hhealth] at hempty
    split_ifs at hempty with hin
    · exact nomatch hempty
    · rw [hlives, hscored player hempty, Option.map_some, decide_eq_false hin]
      rfl

/-! ### Shots -/

/-- A shot that the bounty match is not told of. -/
theorem KernelPair.unscored {command : ShotCommand} {rider : RiderSnapshot} {B : Ballistics}
    {G : RayGeometry} {shot : M3AuthorityShot} (h : KernelPair combat bounty)
    (hshot : combat.tryResolveShot B G command tick rider = .ok (shot, combat')) :
    KernelPair combat' bounty := by
  obtain ⟨hsame, -, hfate⟩ := M3CombatAuthority.tryResolveShot_fate hshot h.roster
  refine ⟨h.roster.same hsame, h.sound, fun player => ?_, fun player hdown => ?_⟩
  · rw [hsame.riderEntities]
    exact h.players player
  · have hempty := h.fallen player hdown
    cases hfate with
    | spared _ _ _ riders => exact (riders player).trans hempty
    | horse _ _ _ _ _ _ riders => exact (riders player).trans hempty
    | @rider victim _ _ _ _ _ _ _ before living _ _ _ others =>
      -- the victim had health, so the match has it alive
      have hne : player ≠ victim := by
        rintro rfl
        exact living (Option.some.inj (before.symm.trans hempty))
      exact (others player hne).trans hempty

theorem committed_eq_some {ε α β : Type} {r : Except ε α × β} {answer : α} {after : β}
    (h : committed r = some (answer, after)) : r = (.ok answer, after) := by
  obtain ⟨found, hfound, heq⟩ := Option.map_eq_some_iff.mp h
  obtain ⟨rfl, hafter⟩ := Prod.mk.inj heq
  exact Prod.ext (toOption_eq_some.mp hfound) hafter

section Scoring

variable {shooter : PlayerId} {stance : RiderStance} {result : ShotResult}
  {resolved : M3AuthorityShot} {hitRider eliminatedRider : Option PlayerId}
  {awards : List BountyAward}

open MatchSession BountyMatchKernel

theorem scoreDamage_kept {damage : UInt16} (hsound : bounty.Sound)
    (h : scoreDamage bounty tick shooter damage hitRider = some bounty') :
    bounty.KeepsLives bounty' ∧ EventStep bounty bounty' := by
  unfold scoreDamage at h
  split at h
  · obtain rfl := Option.some.inj h
    exact ⟨fun _ => rfl, .refl hsound⟩
  · rename_i target
    obtain ⟨⟨_, after⟩, hcommitted, rfl⟩ := Option.map_eq_some_iff.mp h
    have hlives := keepsLives_recordDamage bounty tick shooter target damage
    have hstep : EventStep bounty (bounty.recordDamage tick shooter target damage).2 :=
      recordDamage_step hsound shooter target damage
    rw [committed_eq_some hcommitted] at hlives hstep
    exact ⟨hlives, hstep⟩

theorem scoreLongHit_kept {distanceMm : Option UInt32} (hsound : bounty.Sound)
    (h : scoreLongHit bounty tick shooter distanceMm = some (awards, bounty')) :
    bounty.KeepsLives bounty' ∧ EventStep bounty bounty' := by
  unfold scoreLongHit at h
  split at h
  · obtain ⟨-, rfl⟩ := Prod.mk.inj (Option.some.inj h)
    exact ⟨fun _ => rfl, .refl hsound⟩
  · rename_i distance
    obtain ⟨⟨award, after⟩, hcommitted, heq⟩ := Option.map_eq_some_iff.mp h
    obtain ⟨-, rfl⟩ := Prod.mk.inj heq
    have hlives := keepsLives_recordMountedLongHit bounty tick shooter distance
    have hstep : EventStep bounty (bounty.recordMountedLongHit tick shooter distance).2 :=
      recordMountedLongHit_step hsound shooter distance
    rw [committed_eq_some hcommitted] at hlives hstep
    exact ⟨hlives, hstep⟩

theorem scoreHit_kept (hsound : bounty.Sound)
    (h : scoreHit bounty tick shooter stance result hitRider = some (awards, bounty')) :
    bounty.KeepsLives bounty' ∧ EventStep bounty bounty' := by
  unfold scoreHit at h
  by_cases houtcome : result.outcome ≠ .hit
  · rw [if_pos houtcome] at h
    obtain ⟨-, rfl⟩ := Prod.mk.inj (Option.some.inj h)
    exact ⟨fun _ => rfl, .refl hsound⟩
  · rw [if_neg houtcome] at h
    obtain ⟨damaged, hdamaged, h⟩ := Option.bind_eq_some_iff.mp h
    obtain ⟨hdamage, hstep⟩ := scoreDamage_kept hsound hdamaged
    obtain ⟨hlong, hstep'⟩ := scoreLongHit_kept hstep.sound h
    exact ⟨hdamage.trans hlong, hstep.trans hstep'⟩

theorem scoreBolt_kept {horseDamage : Option M3AuthorityHorseDamage} (hsound : bounty.Sound)
    (h : scoreBolt bounty tick shooter horseDamage = some (awards, bounty')) :
    bounty.KeepsLives bounty' ∧ EventStep bounty bounty' := by
  unfold scoreBolt at h
  split at h
  · obtain ⟨-, rfl⟩ := Prod.mk.inj (Option.some.inj h)
    exact ⟨fun _ => rfl, .refl hsound⟩
  · rename_i damage _
    obtain ⟨⟨award, after⟩, hcommitted, heq⟩ := Option.map_eq_some_iff.mp h
    obtain ⟨-, rfl⟩ := Prod.mk.inj heq
    have hlives := keepsLives_recordHorseBolt bounty tick shooter damage.riderPlayerId
    have hstep : EventStep bounty (bounty.recordHorseBolt tick shooter damage.riderPlayerId).2 :=
      recordHorseBolt_step hsound shooter damage.riderPlayerId
    rw [committed_eq_some hcommitted] at hlives hstep
    exact ⟨hlives, hstep⟩

/-- A scored shot takes the life of the eliminated rider, and no other. -/
theorem scoreShot_lives (hsound : bounty.Sound)
    (h : scoreShot bounty tick shooter stance resolved hitRider eliminatedRider
      = some (awards, bounty')) :
    bounty'.Sound
      ∧ (∀ player, eliminatedRider = some player → bounty.lives player = some true)
      ∧ ∀ player, bounty'.lives player
        = if eliminatedRider = some player then some false else bounty.lives player := by
  unfold scoreShot at h
  obtain ⟨⟨hits, hit⟩, hhit, h⟩ := Option.bind_eq_some_iff.mp h
  obtain ⟨⟨bolts, bolted⟩, hbolt, h⟩ := Option.bind_eq_some_iff.mp h
  obtain ⟨⟨eliminations, after⟩, hlast, h⟩ := Option.bind_eq_some_iff.mp h
  obtain ⟨-, rfl⟩ := Prod.mk.inj (Option.some.inj h)
  obtain ⟨hhits, hstep⟩ := scoreHit_kept hsound hhit
  obtain ⟨hbolts, hstep'⟩ := scoreBolt_kept hstep.sound hbolt
  have hsound := hstep'.sound
  have hkept := hhits.trans hbolts
  unfold scoreElimination at hlast
  cases eliminatedRider with
  | none =>
    obtain ⟨-, rfl⟩ := Prod.mk.inj (Option.some.inj hlast)
    exact ⟨hsound, nofun, fun player => (hkept player).trans (if_neg nofun).symm⟩
  | some target =>
    have hstep : EventStep bolted (bolted.recordElimination tick shooter target
        (stance == .saddleDiveAirborne)).2 :=
      recordElimination_step hsound shooter target (stance == .saddleDiveAirborne)
    have hdone := committed_eq_some hlast
    rw [hdone] at hstep
    refine ⟨hstep.sound, fun player heq => ?_, fun player => ?_⟩
    · obtain rfl := Option.some.inj heq
      exact (hkept _).symm.trans (lives_recordElimination hdone target).1
    · rw [(lives_recordElimination hdone player).2, hkept player]
      by_cases heq : player = target
      · rw [heq, if_pos rfl, if_pos rfl]
      · rw [if_neg heq, if_neg fun h => heq (Option.some.inj h).symm]

theorem committed_isSome {ε α β : Type} {r : Except ε α × β} {answer : α} {after : β}
    (h : r = (.ok answer, after)) : committed r = some (answer, after) := by
  rw [h]
  rfl

theorem scoreHit_isSome (hlive : bounty.requireLiveTick tick = none)
    (hshooter : shooter ∈ bounty.players)
    (htarget : result.outcome = .hit → ∀ target, hitRider = some target →
      result.damage ≠ 0 ∧ shooter ≠ target ∧ bounty.lives target = some true) :
    ∃ awards bounty', scoreHit bounty tick shooter stance result hitRider
      = some (awards, bounty') := by
  unfold scoreHit
  by_cases houtcome : result.outcome ≠ .hit
  · rw [if_pos houtcome]
    exact ⟨_, _, rfl⟩
  rw [if_neg houtcome]
  have hdamaged : ∃ damaged, scoreDamage bounty tick shooter result.damage hitRider = some damaged
      ∧ damaged.requireLiveTick tick = none ∧ shooter ∈ damaged.players := by
    unfold scoreDamage
    split
    · exact ⟨_, rfl, hlive, hshooter⟩
    · rename_i target
      obtain ⟨hdamage, hne, halive⟩ := htarget (not_not.mp houtcome) target rfl
      have hlives := keepsLives_recordDamage bounty tick shooter target result.damage
      have hkept := recordDamage_live bounty tick shooter target result.damage
      obtain ⟨damaged, hdamaged⟩ := recordDamage_ok hlive hdamage hne hshooter halive
      rw [hdamaged] at hlives hkept
      rw [committed_isSome hdamaged]
      exact ⟨damaged, rfl, hkept.trans hlive, (hlives.mem shooter).mpr hshooter⟩
  obtain ⟨damaged, heq, hlive, hshooter⟩ := hdamaged
  rw [heq, Option.bind_some]
  unfold scoreLongHit
  split
  · exact ⟨_, _, rfl⟩
  · rename_i distance _
    obtain ⟨award, after, hscored⟩ := recordMountedLongHit_ok hlive hshooter distance
    rw [committed_isSome hscored]
    exact ⟨_, _, rfl⟩

theorem scoreShot_isSome (hsound : bounty.Sound) (hlive : bounty.requireLiveTick tick = none)
    (hshooter : shooter ∈ bounty.players)
    (htarget : resolved.shot.result.outcome = .hit → ∀ target, hitRider = some target →
      resolved.shot.result.damage ≠ 0 ∧ shooter ≠ target ∧ bounty.lives target = some true)
    (hhorse : ∀ damage, resolved.horseDamage = some damage →
      shooter ≠ damage.riderPlayerId ∧ damage.riderPlayerId ∈ bounty.players)
    (hvictim : ∀ target, eliminatedRider = some target →
      shooter ≠ target ∧ bounty.lives target = some true) :
    ∃ awards bounty', scoreShot bounty tick shooter stance resolved hitRider eliminatedRider
      = some (awards, bounty') := by
  unfold scoreShot
  obtain ⟨hits, hit, hhit⟩ : ∃ awards bounty', scoreHit bounty tick shooter stance
      resolved.shot.result hitRider = some (awards, bounty') :=
    scoreHit_isSome hlive hshooter htarget
  obtain ⟨hhits, hstep⟩ := scoreHit_kept hsound hhit
  have hlive₁ := hstep.requireLiveTick.trans hlive
  have hbolted : ∃ bolts bolted, scoreBolt hit tick shooter resolved.horseDamage
      = some (bolts, bolted) := by
    unfold scoreBolt
    split
    · exact ⟨_, _, rfl⟩
    · rename_i damage hspooked
      obtain ⟨hne, hmem⟩ := hhorse damage (Option.filter_eq_some_iff.mp hspooked).1
      obtain ⟨award, after, hscored⟩ := recordHorseBolt_ok hlive₁ hne
        ((hhits.mem shooter).mpr hshooter) ((hhits.mem _).mpr hmem)
      rw [committed_isSome hscored]
      exact ⟨_, _, rfl⟩
  obtain ⟨bolts, bolted, hbolt⟩ := hbolted
  obtain ⟨hbolts, hstep'⟩ := scoreBolt_kept hstep.sound hbolt
  have hlive₂ := hstep'.requireLiveTick.trans hlive₁
  have hkept := hhits.trans hbolts
  have heliminated : ∃ eliminations after, scoreElimination bolted tick shooter stance
      eliminatedRider = some (eliminations, after) := by
    unfold scoreElimination
    split
    · exact ⟨_, _, rfl⟩
    · rename_i target
      obtain ⟨hne, halive⟩ := hvictim target rfl
      obtain ⟨eliminations, after, hscored⟩ := recordElimination_ok hstep'.sound hlive₂ hne
        ((hkept.mem shooter).mpr hshooter) ((hkept target).trans halive)
        (stance == .saddleDiveAirborne)
      exact ⟨_, _, committed_isSome hscored⟩
  obtain ⟨eliminations, after, hlast⟩ := heliminated
  refine ⟨hits ++ bolts ++ eliminations, after, ?_⟩
  refine Option.bind_eq_some_iff.mpr ⟨(hits, hit), hhit, ?_⟩
  refine Option.bind_eq_some_iff.mpr ⟨(bolts, bolted), hbolt, ?_⟩
  exact Option.bind_eq_some_iff.mpr ⟨(eliminations, after), hlast, rfl⟩

end Scoring

/-- A shot that both kernels take. -/
theorem KernelPair.scored {command : ShotCommand} {rider : RiderSnapshot} {B : Ballistics}
    {G : RayGeometry} {shot : M3AuthorityShot} {awards : List BountyAward} {stance : RiderStance}
    {hitRider : Option PlayerId} (h : KernelPair combat bounty)
    (hshot : combat.tryResolveShot B G command tick rider = .ok (shot, combat'))
    (hhit : hitRider = shot.shot.result.targetId.bind combat'.riderOwner)
    (hscore : MatchSession.scoreShot bounty tick command.shooterPeerId stance shot hitRider
      (if shot.shot.result.eliminated = true then hitRider else none) = some (awards, bounty')) :
    PairStep combat combat' bounty bounty' := by
  obtain ⟨hsame, -, hfate⟩ := M3CombatAuthority.tryResolveShot_fate hshot h.roster
  have hpaired := h.unscored hshot
  obtain ⟨hsound, hstood, hlives⟩ := scoreShot_lives h.sound hscore
  have hplayers : ∀ player, player ∈ combat'.riderEntities ↔ player ∈ bounty'.players := by
    intro player
    rw [hpaired.players, ← BountyMatchKernel.lives_isSome, ← BountyMatchKernel.lives_isSome, hlives]
    by_cases hdown : (if shot.shot.result.eliminated = true then hitRider else none) = some player
    · rw [if_pos hdown, hstood player hdown]
      exact ⟨fun _ => rfl, fun _ => rfl⟩
    · rw [if_neg hdown]
  cases hfate with
  | spared _ eliminated _ riders =>
    rw [eliminated] at hlives
    have hkept : bounty.KeepsLives bounty' := fun player => (hlives player).trans (if_neg nofun)
    refine ⟨hsame.riderEntities, ⟨hpaired.roster, hsound, hplayers, fun player hdown => ?_⟩,
      fun hscored player hempty => ?_⟩
    · exact hpaired.fallen player ((hkept player).symm.trans hdown)
    · exact (hkept player).trans (hscored player ((riders player).symm.trans hempty))
  | horse _ _ _ _ eliminated _ riders =>
    rw [eliminated] at hlives
    have hkept : bounty.KeepsLives bounty' := fun player => (hlives player).trans (if_neg nofun)
    refine ⟨hsame.riderEntities, ⟨hpaired.roster, hsound, hplayers, fun player hdown => ?_⟩,
      fun hscored player hempty => ?_⟩
    · exact hpaired.fallen player ((hkept player).symm.trans hdown)
    · exact (hkept player).trans (hscored player ((riders player).symm.trans hempty))
  | @rider victim entity health _ targetId known _ _ before _ after eliminated _ others =>
    have howner : hitRider = some victim := by
      rw [hhit, targetId, Option.bind_some, hsame.riderOwner]
      exact (M3CombatAuthority.riderOwner_eq_some h.roster).mpr known
    rw [howner, eliminated] at hlives
    refine ⟨hsame.riderEntities, ⟨hpaired.roster, hsound, hplayers, fun player hdown => ?_⟩,
      fun hscored player hempty => ?_⟩
    · by_cases heq : player = victim
      · rw [heq] at hdown ⊢
        rw [after]
        by_cases hdead : health.satSub shot.shot.result.damage = 0
        · rw [hdead]
        · rw [hlives, decide_eq_false hdead, if_neg nofun] at hdown
          exact absurd (Option.some.inj ((hpaired.fallen victim hdown).symm.trans after)).symm hdead
      · rw [hlives, if_neg ?_] at hdown
        · exact hpaired.fallen player hdown
        · split_ifs
          · exact fun h => heq (Option.some.inj h).symm
          · exact nofun
    · by_cases heq : player = victim
      · rw [heq] at hempty ⊢
        have hdead := Option.some.inj (after.symm.trans hempty)
        rw [hlives, if_pos (if_pos (decide_eq_true hdead))]
      · rw [others player heq] at hempty
        rw [hlives, if_neg ?_]
        · exact hscored player hempty
        · split_ifs
          · exact fun h => heq (Option.some.inj h).symm
          · exact nofun

/-! ### Activation -/

/-- A fresh graph: these players, all of them with health. -/
structure Fresh (combat : M3CombatAuthority) (players : List PlayerId) : Prop where
  roster : combat.Roster
  players : ∀ player, player ∈ combat.riderEntities ↔ player ∈ players
  health : ∀ player, combat.riderHealth player ≠ some 0

theorem registerActors_fresh {loadouts : ExtTreeMap PlayerId (HorseVitalityClass × WeaponId)}
    {players before : List PlayerId} (hfresh : Fresh combat before)
    (h : MatchSession.registerActors loadouts players combat = some combat') :
    Fresh combat' (before ++ players) := by
  induction players generalizing combat before with
  | nil =>
    obtain rfl := Option.some.inj h
    rwa [List.append_nil]
  | cons player rest ih =>
    obtain ⟨loadout, -, h⟩ := Option.bind_eq_some_iff.mp h
    obtain ⟨registered, hregister, h⟩ := Option.bind_eq_some_iff.mp h
    have hregistered := M3CombatAuthority.registered_registerActor hregister
    have hnext : Fresh registered (before ++ [player]) := by
      refine ⟨hregistered.roster hfresh.roster, fun other => ?_, fun other => ?_⟩
      · rw [hregistered.riderEntities, ExtTreeMap.mem_insert_iff_eq, hfresh.players,
          List.mem_append, List.mem_singleton, or_comm]
      · rw [hregistered.riderHealth hfresh.roster]
        split_ifs
        · decide
        · exact hfresh.health other
    rw [List.append_cons]
    exact ih hnext h

namespace MatchSession

/-! ## The session -/

/-- While there is a match, its kernels are paired and know every allowed player. -/
def Agrees (s : MatchSession) : Prop :=
  ∀ combat bounty, s.m3CombatAuthority = some combat → s.m5MatchAuthority = some bounty →
    KernelPair combat bounty ∧ ∀ player ∈ s.allowedPlayers, player ∈ combat.riderEntities

/-- While there is a match, its kernels agree on who is down. -/
def AllScored (s : MatchSession) : Prop :=
  ∀ combat bounty, s.m3CombatAuthority = some combat → s.m5MatchAuthority = some bounty →
    Scored combat bounty

def Keeps (s s' : MatchSession) : Prop := s.Agrees → s'.Agrees ∧ (s.AllScored → s'.AllScored)

variable {s s' : MatchSession}

theorem Keeps.refl (s : MatchSession) : Keeps s s := fun h => ⟨h, id⟩

theorem keeps_of_fields (hcombat : s'.m3CombatAuthority = s.m3CombatAuthority)
    (hbounty : s'.m5MatchAuthority = s.m5MatchAuthority)
    (hallowed : s'.allowedPlayers = s.allowedPlayers) : Keeps s s' := by
  unfold Keeps Agrees AllScored
  rw [hcombat, hbounty, hallowed]
  exact fun h => ⟨h, id⟩

/-- Both kernels have moved, together. -/
theorem keeps_of_pairStep (hcombat : s.m3CombatAuthority = some combat)
    (hbounty : s.m5MatchAuthority = some bounty)
    (hcombat' : s'.m3CombatAuthority = some combat')
    (hbounty' : s'.m5MatchAuthority = some bounty')
    (hallowed : s'.allowedPlayers = s.allowedPlayers)
    (hstep : KernelPair combat bounty → PairStep combat combat' bounty bounty') : Keeps s s' := by
  intro h
  obtain ⟨hpaired, hplayers⟩ := h combat bounty hcombat hbounty
  have hstep := hstep hpaired
  refine ⟨fun combat₂ bounty₂ hcombat₂ hbounty₂ => ?_,
    fun hscored combat₂ bounty₂ hcombat₂ hbounty₂ => ?_⟩
  · obtain rfl := Option.some.inj (hcombat'.symm.trans hcombat₂)
    obtain rfl := Option.some.inj (hbounty'.symm.trans hbounty₂)
    rw [hallowed, hstep.riders]
    exact ⟨hstep.paired, hplayers⟩
  · obtain rfl := Option.some.inj (hcombat'.symm.trans hcombat₂)
    obtain rfl := Option.some.inj (hbounty'.symm.trans hbounty₂)
    exact hstep.scored (hscored combat bounty hcombat hbounty)

/-- The combat graph alone has moved. -/
theorem keeps_of_steady (hcombat : s.m3CombatAuthority = some combat)
    (hcombat' : s'.m3CombatAuthority = some combat')
    (hbounty : s'.m5MatchAuthority = s.m5MatchAuthority)
    (hallowed : s'.allowedPlayers = s.allowedPlayers)
    (hsteady : M3CombatAuthority.Steady combat combat') : Keeps s s' := by
  cases hmatch : s.m5MatchAuthority with
  | none =>
    have hnone := hbounty.trans hmatch
    exact fun _ => ⟨fun _ _ _ hb => absurd (hnone.symm.trans hb) nofun,
      fun _ _ _ _ hb => absurd (hnone.symm.trans hb) nofun⟩
  | some bounty =>
    exact keeps_of_pairStep hcombat hmatch hcombat' (hbounty.trans hmatch) hallowed fun h =>
      h.steady hsteady (fun _ => rfl) h.sound

/-- The bounty match alone has moved. -/
theorem keeps_of_keepsLives (hbounty : s.m5MatchAuthority = some bounty)
    (hbounty' : s'.m5MatchAuthority = some bounty')
    (hcombat : s'.m3CombatAuthority = s.m3CombatAuthority)
    (hallowed : s'.allowedPlayers = s.allowedPlayers) (hkept : bounty.KeepsLives bounty')
    (hsound : bounty.Sound → bounty'.Sound) : Keeps s s' := by
  cases hgraph : s.m3CombatAuthority with
  | none =>
    have hnone := hcombat.trans hgraph
    exact fun _ => ⟨fun _ _ hc _ => absurd (hnone.symm.trans hc) nofun,
      fun _ _ _ hc _ => absurd (hnone.symm.trans hc) nofun⟩
  | some combat =>
    exact keeps_of_pairStep hgraph hbounty (hcombat.trans hgraph) hbounty' hallowed fun h =>
      h.steady ⟨.refl combat, fun _ hm => hm, fun _ _ => rfl⟩ hkept (hsound h.sound)

/-! ### The operations -/

theorem agrees_activateM3Wire {rows : List M3LoadoutConfiguration}
    (h : s.activateM3Wire rows = some s') : s'.Agrees ∧ s'.AllScored := by
  unfold activateM3Wire at h
  obtain ⟨_, -, h⟩ := Option.bind_eq_some_iff.mp h
  obtain ⟨loadouts, -, h⟩ := Option.bind_eq_some_iff.mp h
  obtain ⟨_, -, h⟩ := Option.bind_eq_some_iff.mp h
  obtain ⟨epoch, -, h⟩ := Option.bind_eq_some_iff.mp h
  obtain ⟨authority, hauthority, h⟩ := Option.bind_eq_some_iff.mp h
  obtain ⟨bounty, hbounty, h⟩ := Option.bind_eq_some_iff.mp h
  obtain ⟨combat, hregistered, h⟩ := Option.bind_eq_some_iff.mp h
  obtain rfl := Option.some.inj h
  have hnew := toOption_eq_some.mp hauthority
  have hmatch := toOption_eq_some.mp hbounty
  have hempty := M3CombatAuthority.riderEntities_new hnew
  have hstart : Fresh authority [] := by
    refine ⟨(M3CombatAuthority.roster_new hnew).1, fun player => ?_, fun player => ?_⟩
    · rw [hempty]
      exact ⟨fun hmem => absurd hmem ExtTreeMap.not_mem_empty, fun hmem => nomatch hmem⟩
    · unfold M3CombatAuthority.riderHealth
      rw [hempty, ExtTreeMap.getElem?_empty]
      exact nofun
  have hfresh := registerActors_fresh hstart hregistered
  rw [List.nil_append] at hfresh
  have hlives := BountyMatchKernel.lives_new hmatch
  refine ⟨fun combat₂ bounty₂ hcombat₂ hbounty₂ => ?_,
    fun combat₂ bounty₂ hcombat₂ _ player hdown => ?_⟩
  · obtain rfl := Option.some.inj hcombat₂
    obtain rfl := Option.some.inj hbounty₂
    refine ⟨⟨hfresh.roster, BountyMatchKernel.sound_new hmatch (by decide), fun player => ?_,
      fun player hdown => ?_⟩, fun player => (hfresh.players player).mpr⟩
    · rw [hfresh.players, ← BountyMatchKernel.lives_isSome, hlives]
      split_ifs with hin
      · exact ⟨fun _ => rfl, fun _ => hin⟩
      · exact ⟨fun h => absurd h hin, nofun⟩
    · rw [hlives] at hdown
      split_ifs at hdown
      cases hdown
  · obtain rfl := Option.some.inj hcombat₂
    exact absurd hdown (hfresh.health player)

theorem keeps_advanceM5Match {tick : Int64} {output : BountyMatchTickOutput}
    (h : s.advanceM5Match tick = some (output, s')) : Keeps s s' := by
  unfold advanceM5Match at h
  obtain ⟨_, -, h⟩ := Option.bind_eq_some_iff.mp h
  obtain ⟨tick, -, h⟩ := Option.bind_eq_some_iff.mp h
  obtain ⟨bounty, hbounty, h⟩ := Option.bind_eq_some_iff.mp h
  obtain ⟨combat, hcombat, h⟩ := Option.bind_eq_some_iff.mp h
  obtain ⟨⟨output, bounty'⟩, hclock, h⟩ := Option.bind_eq_some_iff.mp h
  obtain ⟨combat', hriders, h⟩ := Option.bind_eq_some_iff.mp h
  obtain ⟨-, rfl⟩ := Prod.mk.inj (Option.some.inj h)
  exact keeps_of_pairStep hcombat hbounty rfl rfl rfl fun hpaired =>
    hpaired.clock (committed_eq_some hclock) hriders

theorem steady_refilled {player : PlayerId} {kind : DynamicObjectiveKind}
    (h : refilled combat player kind = some combat') :
    M3CombatAuthority.Steady combat combat' := by
  unfold refilled at h
  split_ifs at h
  · obtain ⟨⟨ammo, after⟩, hrefill, rfl⟩ := Option.map_eq_some_iff.mp h
    exact M3CombatAuthority.steady_tryRefillRiderAmmo (toOption_eq_some.mp hrefill)
  · obtain rfl := Option.some.inj h
    exact ⟨.refl _, fun _ hm => hm, fun _ _ => rfl⟩

theorem keeps_completeM5Objective {player : PlayerId} {tick objectiveId : Int64}
    {award : BountyAward} (h : s.completeM5Objective player tick objectiveId = some (award, s')) :
    Keeps s s' := by
  unfold completeM5Objective at h
  obtain ⟨tick, -, h⟩ := Option.bind_eq_some_iff.mp h
  obtain ⟨objectiveId, -, h⟩ := Option.bind_eq_some_iff.mp h
  obtain ⟨_, -, h⟩ := Option.bind_eq_some_iff.mp h
  obtain ⟨bounty, hbounty, h⟩ := Option.bind_eq_some_iff.mp h
  obtain ⟨combat, hcombat, h⟩ := Option.bind_eq_some_iff.mp h
  obtain ⟨_, -, h⟩ := Option.bind_eq_some_iff.mp h
  obtain ⟨objective, -, h⟩ := Option.bind_eq_some_iff.mp h
  obtain ⟨_, -, h⟩ := Option.bind_eq_some_iff.mp h
  obtain ⟨⟨award, bounty'⟩, hcompleted, h⟩ := Option.bind_eq_some_iff.mp h
  obtain ⟨combat', hrefilled, h⟩ := Option.bind_eq_some_iff.mp h
  obtain ⟨-, rfl⟩ := Prod.mk.inj (Option.some.inj h)
  refine keeps_of_pairStep hcombat hbounty rfl rfl rfl fun hpaired => ?_
  have hlives := BountyMatchKernel.keepsLives_completeObjective bounty tick player objectiveId
  have hstep : bounty.EventStep (bounty.completeObjective tick player objectiveId).2 :=
    BountyMatchKernel.completeObjective_step hpaired.sound player objectiveId
  rw [committed_eq_some hcompleted] at hlives hstep
  exact hpaired.steady (steady_refilled hrefilled) hlives hstep.sound

theorem keeps_recordM5SignalHold {player : PlayerId} {tick objectiveId totalHoldTicks : Int64}
    {award : Option BountyAward}
    (h : s.recordM5SignalHold player tick objectiveId totalHoldTicks = some (award, s')) :
    Keeps s s' := by
  unfold recordM5SignalHold at h
  obtain ⟨tick, -, h⟩ := Option.bind_eq_some_iff.mp h
  obtain ⟨objectiveId, -, h⟩ := Option.bind_eq_some_iff.mp h
  obtain ⟨totalHoldTicks, -, h⟩ := Option.bind_eq_some_iff.mp h
  obtain ⟨_, -, h⟩ := Option.bind_eq_some_iff.mp h
  obtain ⟨bounty, hbounty, h⟩ := Option.bind_eq_some_iff.mp h
  obtain ⟨_, -, h⟩ := Option.bind_eq_some_iff.mp h
  obtain ⟨⟨award, bounty'⟩, hheld, h⟩ := Option.bind_eq_some_iff.mp h
  obtain ⟨-, rfl⟩ := Prod.mk.inj (Option.some.inj h)
  have hlives := BountyMatchKernel.keepsLives_recordSignalTowerHold bounty tick player objectiveId
    totalHoldTicks
  rw [committed_eq_some hheld] at hlives
  refine keeps_of_keepsLives hbounty rfl rfl rfl hlives fun hsound => ?_
  have hstep : bounty.EventStep (bounty.recordSignalTowerHold tick player objectiveId
      totalHoldTicks).2 :=
    BountyMatchKernel.recordSignalTowerHold_step hsound player objectiveId totalHoldTicks
  rw [committed_eq_some hheld] at hstep
  exact hstep.sound

theorem keeps_advanceM3Actor {player : PlayerId} {tick : Int64} {controls : ActorControls}
    {output : ActorM3TickOutput}
    (h : s.advanceM3Actor player tick controls = some (output, s')) : Keeps s s' := by
  unfold advanceM3Actor at h
  obtain ⟨_, -, h⟩ := Option.bind_eq_some_iff.mp h
  obtain ⟨tick, -, h⟩ := Option.bind_eq_some_iff.mp h
  obtain ⟨combat, hcombat, h⟩ := Option.bind_eq_some_iff.mp h
  obtain ⟨⟨output, combat'⟩, hadvanced, h⟩ := Option.bind_eq_some_iff.mp h
  obtain ⟨-, rfl⟩ := Prod.mk.inj (Option.some.inj h)
  exact keeps_of_steady hcombat rfl rfl rfl
    (M3CombatAuthority.steady_tryAdvanceActor (toOption_eq_some.mp hadvanced))

theorem keeps_issueM4SpurCredit {player : PlayerId} {tick sourceId evidenceA evidenceB : Int64}
    {points : Option UInt8}
    (h : s.issueM4SpurCredit player tick sourceId evidenceA evidenceB = some (points, s')) :
    Keeps s s' := by
  unfold issueM4SpurCredit at h
  obtain ⟨_, -, h⟩ := Option.bind_eq_some_iff.mp h
  obtain ⟨tick, -, h⟩ := Option.bind_eq_some_iff.mp h
  obtain ⟨kind, -, h⟩ := Option.bind_eq_some_iff.mp h
  obtain ⟨combat, hcombat, h⟩ := Option.bind_eq_some_iff.mp h
  obtain ⟨⟨points, combat'⟩, hcredited, h⟩ := Option.bind_eq_some_iff.mp h
  obtain ⟨-, rfl⟩ := Prod.mk.inj (Option.some.inj h)
  exact keeps_of_steady hcombat rfl rfl rfl
    (M3CombatAuthority.steady_tryIssueSpurCredit (toOption_eq_some.mp hcredited))

theorem keeps_recordM3HorsePose {player : PlayerId} {tick : Int64} {bodyCenter : QuantizedOrigin}
    {bodyForward : QuantizedDirection} {headCenter : QuantizedOrigin}
    (h : s.recordM3HorsePose player tick bodyCenter bodyForward headCenter = some s') :
    Keeps s s' := by
  unfold recordM3HorsePose at h
  obtain ⟨tick, -, h⟩ := Option.bind_eq_some_iff.mp h
  obtain ⟨_, -, h⟩ := Option.bind_eq_some_iff.mp h
  obtain ⟨combat, hcombat, h⟩ := Option.bind_eq_some_iff.mp h
  obtain ⟨combat', hrecorded, h⟩ := Option.bind_eq_some_iff.mp h
  obtain rfl := Option.some.inj h
  exact keeps_of_steady hcombat rfl rfl rfl
    (M3CombatAuthority.steady_tryRecordHorsePose (toOption_eq_some.mp hrecorded))

theorem keeps_recordAuthorityRiderSnapshot (s : MatchSession) (report : RiderReport) :
    Keeps s (s.recordAuthorityRiderSnapshot report).2 := by
  unfold recordAuthorityRiderSnapshot
  split_ifs
  · exact .refl s
  split
  · exact .refl s
  · dsimp only
    split_ifs
    · exact keeps_of_fields rfl rfl rfl
    · split
      · exact keeps_of_fields rfl rfl rfl
      · rename_i combat' hrecorded
        obtain ⟨combat, hcombat, hrecorded⟩ := Option.bind_eq_some_iff.mp hrecorded
        exact keeps_of_steady hcombat rfl rfl rfl
          (M3CombatAuthority.steady_tryRecordRiderPose (toOption_eq_some.mp hrecorded))

variable {B : Ballistics} {G : RayGeometry}

/-- What a shot command goes through, up to the scores. -/
structure Resolves (B : Ballistics) (G : RayGeometry) (s : MatchSession) (command : ShotCommand)
    (authorityTick : Int64) (combat : M3CombatAuthority) (bounty : BountyMatchKernel)
    (rider : RiderSnapshot) (shot : M3AuthorityShot) (after : M3CombatAuthority) : Prop where
  holds : s.holdsMatch = true
  allowed : command.shooterPeerId ∈ s.allowedPlayers
  hasCombat : s.m3CombatAuthority = some combat
  hasBounty : s.m5MatchAuthority = some bounty
  tick : tryU64 authorityTick = some bounty.currentTick
  live : bounty.finished = false
  hasRider : s.riderSnapshotAt command.shooterPeerId command.tick = some rider
  resolved : combat.tryResolveShot B G command bounty.currentTick rider = .ok (shot, after)

def scored (bounty : BountyMatchKernel) (command : ShotCommand) (rider : RiderSnapshot)
    (shot : M3AuthorityShot) (after : M3CombatAuthority) :
    Option (List BountyAward × BountyMatchKernel) :=
  scoreShot bounty bounty.currentTick command.shooterPeerId rider.riding.stance shot
    (shot.shot.result.targetId.bind after.riderOwner)
    (if shot.shot.result.eliminated = true then shot.shot.result.targetId.bind after.riderOwner
      else none)

theorem resolveM3ShotCommand_eq_some {command : ShotCommand} {authorityTick : Int64}
    {reply : M3ShotReply} : s.resolveM3ShotCommand B G command authorityTick = some (reply, s') ↔
      ∃ combat bounty rider shot after, Resolves B G s command authorityTick combat bounty rider
        shot after ∧ ∃ awards bounty', scored bounty command rider shot after
          = some (awards, bounty')
        ∧ reply = shotReply combat after command.shooterPeerId rider shot
          (if shot.shot.result.eliminated = true
            then shot.shot.result.targetId.bind after.riderOwner else none) awards
        ∧ s' = { s with m3CombatAuthority := some after, m5MatchAuthority := some bounty' } := by
  constructor
  · intro h
    unfold resolveM3ShotCommand at h
    obtain ⟨tick, htick, h⟩ := Option.bind_eq_some_iff.mp h
    obtain ⟨_, hguard, h⟩ := Option.bind_eq_some_iff.mp h
    obtain ⟨combat, hcombat, h⟩ := Option.bind_eq_some_iff.mp h
    obtain ⟨bounty, hbounty, h⟩ := Option.bind_eq_some_iff.mp h
    obtain ⟨_, hlive, h⟩ := Option.bind_eq_some_iff.mp h
    obtain ⟨hholds, hallowed⟩ := (Option.guard_eq_some' _).mp hguard
    obtain ⟨heq, hunfinished⟩ := (Option.guard_eq_some' _).mp hlive
    subst heq
    obtain ⟨rider, hrider, h⟩ := Option.bind_eq_some_iff.mp h
    obtain ⟨⟨shot, after⟩, hshot, h⟩ := Option.bind_eq_some_iff.mp h
    dsimp only at h
    obtain ⟨⟨awards, bounty'⟩, hscore, h⟩ := Option.bind_eq_some_iff.mp h
    obtain ⟨rfl, rfl⟩ := Prod.mk.inj (Option.some.inj h)
    exact ⟨combat, bounty, rider, shot, after, ⟨hholds, hallowed, hcombat, hbounty, htick,
      (Bool.not_eq_true' _).mp hunfinished, hrider, toOption_eq_some.mp hshot⟩, awards, bounty',
      hscore, rfl, rfl⟩
  · rintro ⟨combat, bounty, rider, shot, after, h, awards, bounty', hscore, rfl, rfl⟩
    unfold resolveM3ShotCommand
    refine Option.bind_eq_some_iff.mpr ⟨bounty.currentTick, h.tick, ?_⟩
    refine Option.bind_eq_some_iff.mpr ⟨(), (Option.guard_eq_some' ()).mpr ⟨h.holds, h.allowed⟩, ?_⟩
    refine Option.bind_eq_some_iff.mpr ⟨combat, h.hasCombat, ?_⟩
    refine Option.bind_eq_some_iff.mpr ⟨bounty, h.hasBounty, ?_⟩
    refine Option.bind_eq_some_iff.mpr
      ⟨(), (Option.guard_eq_some' ()).mpr ⟨rfl, (Bool.not_eq_true' _).mpr h.live⟩, ?_⟩
    refine Option.bind_eq_some_iff.mpr ⟨rider, h.hasRider, ?_⟩
    refine Option.bind_eq_some_iff.mpr ⟨(shot, after), toOption_eq_some.mpr h.resolved, ?_⟩
    exact Option.bind_eq_some_iff.mpr ⟨(awards, bounty'), hscore, rfl⟩

theorem keeps_resolveM3ShotCommand {command : ShotCommand} {authorityTick : Int64}
    {reply : M3ShotReply}
    (h : s.resolveM3ShotCommand B G command authorityTick = some (reply, s')) : Keeps s s' := by
  obtain ⟨combat, bounty, rider, shot, after, hresolves, awards, bounty', hscore, -, rfl⟩ :=
    resolveM3ShotCommand_eq_some.mp h
  exact keeps_of_pairStep hresolves.hasCombat hresolves.hasBounty rfl rfl rfl fun hpaired =>
    hpaired.scored hresolves.resolved rfl hscore

/-- The older entry keeps the kernels paired, not scored. -/
theorem agrees_resolveShotCommand {command : ShotCommand} {result : ShotResult}
    (h : s.resolveShotCommand B G command = some (result, s')) (hs : s.Agrees) : s'.Agrees := by
  unfold resolveShotCommand at h
  obtain ⟨_, -, h⟩ := Option.bind_eq_some_iff.mp h
  obtain ⟨combat, hcombat, h⟩ := Option.bind_eq_some_iff.mp h
  obtain ⟨rider, -, h⟩ := Option.bind_eq_some_iff.mp h
  obtain ⟨⟨shot, after⟩, hshot, h⟩ := Option.bind_eq_some_iff.mp h
  obtain ⟨-, rfl⟩ := Prod.mk.inj (Option.some.inj h)
  intro combat₂ bounty hcombat₂ hbounty
  obtain rfl := Option.some.inj hcombat₂
  obtain ⟨hpaired, hplayers⟩ := hs combat bounty hcombat hbounty
  have hresolved := toOption_eq_some.mp hshot
  have hsame := (M3CombatAuthority.tryResolveShot_fate hresolved hpaired.roster).1
  refine ⟨hpaired.unscored hresolved, fun player hin => ?_⟩
  rw [hsame.riderEntities]
  exact hplayers player hin

/-! ### Runs -/

theorem orKept_keeps {α : Type} {reply : α → MatchReply} {r : Option (α × MatchSession)}
    (h : ∀ answer s', r = some (answer, s') → Keeps s s') : Keeps s (s.orKept reply r).2 := by
  unfold orKept
  cases r with
  | none => exact .refl s
  | some moved => exact h moved.1 moved.2 rfl

theorem keeps_step {call : MatchCall} (hcall : call.OfScene) (s : MatchSession) :
    Keeps s (s.step B G call).2 := by
  cases call with
  | activateM3Wire rows =>
    refine orKept_keeps fun _ s' h => ?_
    obtain ⟨activated, hactivated, heq⟩ := Option.map_eq_some_iff.mp h
    obtain ⟨-, rfl⟩ := Prod.mk.inj heq
    obtain ⟨hagrees, hscored⟩ := agrees_activateM3Wire hactivated
    exact fun _ => ⟨hagrees, fun _ => hscored⟩
  | advanceM5Match tick => exact orKept_keeps fun _ _ => keeps_advanceM5Match
  | completeM5Objective player tick objectiveId =>
    exact orKept_keeps fun _ _ => keeps_completeM5Objective
  | recordM5SignalHold player tick objectiveId totalHoldTicks =>
    exact orKept_keeps fun _ _ => keeps_recordM5SignalHold
  | advanceM3Actor player tick controls => exact orKept_keeps fun _ _ => keeps_advanceM3Actor
  | issueM4SpurCredit player tick sourceId evidenceA evidenceB =>
    exact orKept_keeps fun _ _ => keeps_issueM4SpurCredit
  | recordM3HorsePose player tick bodyCenter bodyForward headCenter =>
    refine orKept_keeps fun _ s' h => ?_
    obtain ⟨recorded, hrecorded, heq⟩ := Option.map_eq_some_iff.mp h
    obtain ⟨-, rfl⟩ := Prod.mk.inj heq
    exact keeps_recordM3HorsePose hrecorded
  | recordAuthorityRiderSnapshot report => exact keeps_recordAuthorityRiderSnapshot s report
  | resolveM3ShotCommand command authorityTick =>
    exact orKept_keeps fun _ _ => keeps_resolveM3ShotCommand
  | resolveShotCommand command => exact absurd rfl (hcall command)

theorem agrees_step (call : MatchCall) (h : s.Agrees) : (s.step B G call).2.Agrees := by
  by_cases hcall : call.OfScene
  · exact (keeps_step hcall s h).1
  · obtain ⟨command, rfl⟩ := not_forall_not.mp hcall
    unfold step orKept
    dsimp only
    cases hresolved : s.resolveShotCommand B G command with
    | none => exact h
    | some moved => exact agrees_resolveShotCommand hresolved h

theorem agrees_along (h : s.Agrees) (calls : List MatchCall) :
    (Runs.run (step B G) s calls).Agrees :=
  Runs.run_invariant (P := Agrees) (fun _ call hs => agrees_step call hs) h calls

theorem allScored_along (h : s.Agrees) (hscored : s.AllScored) {calls : List MatchCall}
    (hcalls : ∀ call ∈ calls, call.OfScene) : (Runs.run (step B G) s calls).AllScored :=
  (Runs.run_invariant_along (C := fun _ call => call.OfScene)
    (P := fun s : MatchSession => s.Agrees ∧ s.AllScored)
    (fun s _ hcall hs => ((keeps_step hcall s hs.1).imp id fun hkept => hkept hs.2))
    ⟨h, hscored⟩ (Runs.along_of_forall hcalls)).2

/-! ### No shot is lost -/

/-- Among paired kernels the bounty match takes every shot that the combat graph has resolved. -/
theorem scored_isSome {command : ShotCommand} {rider : RiderSnapshot} {shot : M3AuthorityShot}
    (h : KernelPair combat bounty) (hlive : bounty.finished = false)
    (hshooter : command.shooterPeerId ∈ combat.riderEntities)
    (hshot : combat.tryResolveShot B G command bounty.currentTick rider = .ok (shot, combat')) :
    ∃ awards bounty', scored bounty command rider shot combat' = some (awards, bounty') := by
  obtain ⟨hsame, -, hfate⟩ := M3CombatAuthority.tryResolveShot_fate hshot h.roster
  have hlive : bounty.requireLiveTick bounty.currentTick = none := by
    unfold BountyMatchKernel.requireLiveTick
    rw [hlive]
    exact if_neg (not_not.mpr rfl)
  have hshooter' := (h.players _).mp hshooter
  unfold scored
  cases hfate with
  | spared outcome eliminated horseDamage _ =>
    refine scoreShot_isSome h.sound hlive hshooter' (fun hhit => absurd hhit outcome)
      (fun damage hdamage => ?_) (fun target htarget => ?_)
    · exact nomatch horseDamage.symm.trans hdamage
    · rw [eliminated] at htarget
      exact nomatch htarget
  | @rider victim entity health _ targetId known other damage before living _ _ horseDamage _ =>
    -- a victim with health is alive in the bounty match
    have halive : bounty.lives victim = some true := by
      have hlisted : (bounty.lives victim).isSome = true := by
        rw [BountyMatchKernel.lives_isSome, ← h.players, ExtTreeMap.mem_iff_isSome_getElem?, known]
        rfl
      obtain ⟨alive, halive⟩ := Option.isSome_iff_exists.mp hlisted
      cases alive with
      | true => exact halive
      | false => exact absurd (Option.some.inj (before.symm.trans (h.fallen victim halive))) living
    have howner : shot.shot.result.targetId.bind combat'.riderOwner = some victim := by
      rw [targetId, Option.bind_some, hsame.riderOwner]
      exact (M3CombatAuthority.riderOwner_eq_some h.roster).mpr known
    rw [howner]
    refine scoreShot_isSome h.sound hlive hshooter' (fun _ target htarget => ?_)
      (fun found hfound => ?_) (fun target htarget => ?_)
    · obtain rfl := Option.some.inj htarget
      exact ⟨damage, other.symm, halive⟩
    · exact nomatch horseDamage.symm.trans hfound
    · split_ifs at htarget
      obtain rfl := Option.some.inj htarget
      exact ⟨other.symm, halive⟩
  | @horse entity damage _ targetId owned other eliminated horseDamage _ =>
    -- the entity is the horse of its rider, and stands for no rider itself
    have hnone : shot.shot.result.targetId.bind combat'.riderOwner = none := by
      rw [targetId, Option.bind_some, hsame.riderOwner, Option.eq_none_iff_forall_ne_some]
      intro player hplayer
      have hrider := (M3CombatAuthority.riderOwner_eq_some h.roster).mp hplayer
      exact h.roster.apart player entity hrider
        (ExtTreeMap.mem_iff_isSome_getElem?.mpr (by rw [owned]; rfl))
    rw [hnone]
    refine scoreShot_isSome h.sound hlive hshooter' (fun _ target htarget => nomatch htarget)
      (fun found hfound => ?_) (fun target htarget => ?_)
    · obtain rfl := Option.some.inj (horseDamage.symm.trans hfound)
      obtain ⟨horseClass, hmount⟩ := h.roster.owned entity damage.riderPlayerId owned
      refine ⟨other.symm, (h.players _).mp ((h.roster.actors _).mp ?_)⟩
      rw [M3CombatAuthority.mem_actors_iff, hmount]
      rfl
    · rw [ite_self] at htarget
      exact nomatch htarget

/-- **Who is down is down for both kernels.**  In every state that calls reach from a session
without a match, the combat graph and the bounty match know the same players, every allowed player
among them; a rider whom the bounty match has down has no health, and, unless a shot went through
the older entry, a rider without health is down in the bounty match. -/
theorem lives_along (B : Ballistics) (G : RayGeometry) {start : MatchSession}
    (hstart : start.m3CombatAuthority = none) (calls : List MatchCall)
    {combat : M3CombatAuthority} {bounty : BountyMatchKernel}
    (hcombat : (Runs.run (step B G) start calls).m3CombatAuthority = some combat)
    (hbounty : (Runs.run (step B G) start calls).m5MatchAuthority = some bounty) :
    (∀ player, player ∈ combat.riderEntities ↔ player ∈ bounty.players)
    ∧ (∀ player ∈ (Runs.run (step B G) start calls).allowedPlayers, player ∈ bounty.players)
    ∧ (∀ player, bounty.lives player = some false → combat.riderHealth player = some 0)
    ∧ ((∀ call ∈ calls, call.OfScene) →
      ∀ player, combat.riderHealth player = some 0 → bounty.lives player = some false) := by
  have hagrees : start.Agrees := fun _ _ hc _ => absurd (hstart.symm.trans hc) nofun
  have hscored : start.AllScored := fun _ _ hc _ => absurd (hstart.symm.trans hc) nofun
  obtain ⟨hpair, hallowed⟩ := agrees_along (B := B) (G := G) hagrees calls combat bounty hcombat
    hbounty
  exact ⟨hpair.players, fun player hin => (hpair.players player).mp (hallowed player hin),
    hpair.fallen,
    fun hcalls => allScored_along hagrees hscored hcalls combat bounty hcombat hbounty⟩

/-! ### A duel -/

open M3MatchCheckpointV2 (firstRider secondRider)
open M3CombatAuthority (straightAhead)
open CombatKernel (steadyBallistics)

/-- A bound session of two players; the first one is local and has the authority. -/
def boundSession : MatchSession where
  localPlayerId := some firstRider
  authorityPlayerId := some firstRider
  authorityEpoch := 7
  m5LobbySeed := 0x1234
  hasSession := true
  hasSecureSession := false
  allowedPlayers := [firstRider, secondRider]
  m3WireActive := false
  authorityRiderHistory := ∅
  m3CombatAuthority := none
  m5MatchAuthority := none

def mountedIdle : ActorControls :=
  ⟨none, false, false, false, false, false, true, ⟨0, 0, 0⟩, ⟨0, 0, 0⟩, false⟩

def mountedAt (player : PlayerId) (tick : Int64) (z : Int32) : MatchCall :=
  .recordAuthorityRiderSnapshot ⟨player, tick, ⟨0, 1000, z⟩, ⟨0, 0, z⟩, ⟨0, 1000, z⟩, 0, 1, -1⟩

def duelShot (tick : SimulationTick) (shotIndex : UInt64) : ShotCommand :=
  { M3CombatAuthority.forwardShot tick with
    weaponId := .longspur, spreadSeed := shotSpreadSeed 0 firstRider shotIndex }

/-- The first rider hits the head of the second one, and both go on to tick 15. -/
def duel : List MatchCall :=
  [.activateM3Wire [⟨firstRider, .courser, .longspur⟩, ⟨secondRider, .courser, .longspur⟩],
    .advanceM3Actor firstRider 0 mountedIdle, .advanceM3Actor secondRider 0 mountedIdle,
    mountedAt firstRider 0 0, mountedAt secondRider 0 (-10000),
    .resolveM3ShotCommand (duelShot 0 0) 0, .advanceM5Match 15,
    .advanceM3Actor firstRider 15 mountedIdle, .advanceM3Actor secondRider 15 mountedIdle,
    mountedAt firstRider 15 0, mountedAt secondRider 15 (-10000)]

def lastShot : MatchCall := .resolveM3ShotCommand (duelShot 15 1) 15

theorem lives_along_duel : ∃ combat bounty,
    (Runs.run (step steadyBallistics straightAhead) boundSession
      (duel ++ [lastShot])).m3CombatAuthority = some combat
    ∧ (Runs.run (step steadyBallistics straightAhead) boundSession
      (duel ++ [lastShot])).m5MatchAuthority = some bounty
    ∧ combat.riderHealth secondRider = some 0 ∧ bounty.lives secondRider = some false := by
  have hfallen : (Runs.run (step steadyBallistics straightAhead) boundSession
        (duel ++ [lastShot])).m3CombatAuthority.any
          (fun combat => decide (combat.riderHealth secondRider = some 0)) = true
      ∧ (Runs.run (step steadyBallistics straightAhead) boundSession
        (duel ++ [lastShot])).m5MatchAuthority.isSome = true := by
    decide +kernel
  obtain ⟨combat, hcombat, hhealth⟩ := (Option.any_eq_true _ _).mp hfallen.1
  obtain ⟨bounty, hbounty⟩ := Option.isSome_iff_exists.mp hfallen.2
  have hscene : ∀ call ∈ duel ++ [lastShot], call.OfScene := by
    simp [duel, lastShot, mountedAt, MatchCall.OfScene]
  have hlives := (lives_along steadyBallistics straightAhead
    (rfl : boundSession.m3CombatAuthority = none) (duel ++ [lastShot]) hcombat hbounty).2.2.2
  exact ⟨combat, bounty, hcombat, hbounty, of_decide_eq_true hhealth,
    hlives hscene secondRider (of_decide_eq_true hhealth)⟩

/-- **No shot is lost.**  In every state that calls reach, a shot that passes the gates of the
session and that the combat graph resolves is committed by both kernels, and takes the life of the
eliminated rider and of no other. -/
theorem shots_commit_along (B : Ballistics) (G : RayGeometry) {start : MatchSession}
    (hstart : start.m3CombatAuthority = none) (calls : List MatchCall) {command : ShotCommand}
    {authorityTick : Int64} {combat : M3CombatAuthority} {bounty : BountyMatchKernel}
    {rider : RiderSnapshot} {shot : M3AuthorityShot} {after : M3CombatAuthority}
    (h : Resolves B G (Runs.run (step B G) start calls) command authorityTick combat bounty rider
      shot after) :
    ∃ reply s' bounty', (Runs.run (step B G) start calls).resolveM3ShotCommand B G command
        authorityTick = some (reply, s')
      ∧ reply.result = shot.shot.result ∧ reply.horseDamage = shot.horseDamage
      ∧ s'.m3CombatAuthority = some after ∧ s'.m5MatchAuthority = some bounty'
      ∧ ∀ player, bounty'.lives player
        = if reply.eliminatedRider.map (·.1) = some player then some false
          else bounty.lives player := by
  have hagrees : start.Agrees := fun _ _ hc _ => absurd (hstart.symm.trans hc) nofun
  obtain ⟨hpair, hallowed⟩ := agrees_along (B := B) (G := G) hagrees calls combat bounty h.hasCombat
    h.hasBounty
  obtain ⟨awards, bounty', hscore⟩ := scored_isSome hpair h.live (hallowed _ h.allowed) h.resolved
  have hresolved := resolveM3ShotCommand_eq_some.mpr
    ⟨combat, bounty, rider, shot, after, h, awards, bounty', hscore, rfl, rfl⟩
  refine ⟨_, _, bounty', hresolved, rfl, rfl, rfl, rfl, fun player => ?_⟩
  obtain ⟨-, -, hlives⟩ := scoreShot_lives hpair.sound hscore
  rw [hlives]
  unfold shotReply
  dsimp only
  rw [Option.map_map]
  exact congrArg (fun eliminated => if eliminated = some player then some false
    else bounty.lives player) Option.map_id'.symm

/-- The session before the last shot of the duel. -/
def duelling : MatchSession :=
  Runs.run (step steadyBallistics straightAhead) boundSession duel

/-- The resolution of the last shot, gate by gate. -/
def lastResolution : Option (M3CombatAuthority × BountyMatchKernel × RiderSnapshot
    × M3AuthorityShot × M3CombatAuthority) := do
  let combat ← duelling.m3CombatAuthority
  let bounty ← duelling.m5MatchAuthority
  guard (tryU64 15 = some bounty.currentTick ∧ bounty.finished = false)
  let rider ← duelling.riderSnapshotAt firstRider 15
  let (shot, after) ← (combat.tryResolveShot steadyBallistics straightAhead (duelShot 15 1)
    bounty.currentTick rider).toOption
  return (combat, bounty, rider, shot, after)

theorem shots_commit_along_duel : ∃ reply s' bounty',
    duelling.resolveM3ShotCommand steadyBallistics straightAhead (duelShot 15 1) 15
      = some (reply, s')
    ∧ s'.m5MatchAuthority = some bounty' ∧ bounty'.lives secondRider = some false := by
  have hsome : lastResolution.isSome = true := by decide +kernel
  obtain ⟨resolution, h⟩ := Option.isSome_iff_exists.mp hsome
  unfold lastResolution at h
  obtain ⟨combat, hcombat, h⟩ := Option.bind_eq_some_iff.mp h
  obtain ⟨bounty, hbounty, h⟩ := Option.bind_eq_some_iff.mp h
  obtain ⟨_, htick, h⟩ := Option.bind_eq_some_iff.mp h
  obtain ⟨rider, hrider, h⟩ := Option.bind_eq_some_iff.mp h
  obtain ⟨⟨shot, after⟩, hshot, -⟩ := Option.bind_eq_some_iff.mp h
  obtain ⟨htick, hlive⟩ := (Option.guard_eq_some' _).mp htick
  have hholds : duelling.holdsMatch = true ∧ (duelShot 15 1).shooterPeerId ∈ duelling.allowedPlayers
      ∧ (duelling.resolveM3ShotCommand steadyBallistics straightAhead (duelShot 15 1) 15).all
        (fun resolved => resolved.1.eliminatedRider.map (·.1) = some secondRider) = true := by
    decide +kernel
  obtain ⟨reply, s', bounty', hresolved, -, -, -, hscored, hlives⟩ := shots_commit_along
    steadyBallistics straightAhead (rfl : boundSession.m3CombatAuthority = none) duel
    ⟨hholds.1, hholds.2.1, hcombat, hbounty, htick, hlive, hrider, toOption_eq_some.mp hshot⟩
  have heliminated := hholds.2.2
  rw [show duelling.resolveM3ShotCommand steadyBallistics straightAhead (duelShot 15 1) 15
    = some (reply, s') from hresolved] at heliminated
  exact ⟨reply, s', bounty', hresolved, hscored,
    (hlives secondRider).trans (if_pos (of_decide_eq_true heliminated))⟩

end MatchSession

end Spurfire
