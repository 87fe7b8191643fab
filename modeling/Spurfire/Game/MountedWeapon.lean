import Spurfire.Protocol.ShotClock

/-!
# The client's weapon controller

`MountedWeaponController` of the game extension: the scene node that predicts the local rider's
shots with a kernel of its own, hands every accepted shot to the network as one `ShotCommand`, and
attributes the results that come back.  Only the state that decides shots is kept; what the HUD
displays is not.

Scene vectors reach the controller as floats and are quantized first, so a call carries the
quantized value or `none` where quantization fails.  The rider node is another kernel: its answers
are part of the call.
-/

namespace Spurfire

/-- `u8::try_from` of a scene integer. -/
def tryU8 (v : Int64) : Option UInt8 :=
  if v < 0 ∨ 255 < v then none else some v.toUInt64.toUInt8

/-- `i64::try_from(v).unwrap_or(i64::MAX)`, kept as the non-negative number it is. -/
def clampI64 (v : UInt64) : UInt64 := min v 0x7fffffffffffffff

def gaitFromId : Int64 → Option CombatGait
  | 0 => some .idle
  | 1 => some .walk
  | 2 => some .trot
  | 3 => some .gallop
  | 4 => some .canter
  | _ => none

def parseDiveForStance (stance : RiderStance) (value : Int64) : Option (Option DiveId) :=
  if stance = .saddleDiveAirborne then ((tryU64 value).bind DiveId.new).map some
  else if value = -1 then some none
  else none

structure PendingLocalShot where
  tick : SimulationTick
  weaponId : WeaponId
  direction : QuantizedDirection
deriving DecidableEq

structure MountedWeaponController where
  lobbySeed : UInt64
  currentTick : UInt64
  kernel : CombatKernel
  riding : RidingState
  contextTick : Option SimulationTick
  authorityEpoch : UInt64
  shotLedger : ShotAttributionLedger
  pendingLocalShot : Option PendingLocalShot
  pendingWireCommand : Option ShotCommand

/-- The rider node's answers to one call. -/
structure RiderAnswers where
  canAcceptAuthorityShot : Bool
  recordAuthorityAcceptedShot : Bool
  recordAttributedAuthorityResult : Bool

/-- The handling inputs of one scene tick. -/
structure RiderContext where
  tick : Int64
  stanceId : Int64
  diveId : Int64
  gait : Int64
  planarSpeedMmps : Option UInt32
  gaitTopSpeedMmps : Option UInt32
  yawRate : Option Int32
  stumbling : Bool
  ads : Bool
  sprintGallop : Bool

structure FireRequest where
  origin : Option QuantizedOrigin
  direction : Option QuantizedDirection
  muzzle : Option QuantizedOrigin
  tick : Int64
  rider : Option RiderAnswers

namespace MountedWeaponController

/-! ## Handling, dives and equipment -/

def setRiderContext (c : MountedWeaponController) (context : RiderContext) :
    Bool × MountedWeaponController :=
  match tryU64 context.tick, tryU8 context.stanceId with
  | some tick, some stanceValue =>
    let stance := RiderStance.fromU8 stanceValue
    if c.contextTick.any (tick ≤ ·) then (false, c)
    else if !stance.isKnown || !stance.isCanonical then (false, c)
    else
      match parseDiveForStance stance context.diveId, gaitFromId context.gait,
          context.planarSpeedMmps, context.gaitTopSpeedMmps, context.yawRate with
      | some diveId, some gait, some planarSpeedMmps, some gaitTopSpeedMmps, some yawRate =>
        let riding : RidingState := {
          stance, diveId, gait, planarSpeedMmps, gaitTopSpeedMmps
          yawRateMillidegreesPerSecond := yawRate
          stumbling := context.stumbling
          ads := context.ads
          sprintGallop := context.sprintGallop
          majesticCharge := false }
        if stance ≠ c.riding.stance ∨ diveId ≠ c.riding.diveId then (false, c)
        else if !riding.isConsistent then (false, c)
        else (true, { c with riding, contextTick := some tick })
      | _, _, _, _, _ => (false, c)
  | _, _ => (false, c)

def advanceKernelTo (c : MountedWeaponController) (tick : SimulationTick) :
    Bool × MountedWeaponController :=
  let advanced := c.kernel.advanceTo tick c.riding
  if advanced.1.isNone then (false, { c with kernel := advanced.2 })
  else (true, { c with kernel := advanced.2, currentTick := clampI64 tick })

def advanceToTick (c : MountedWeaponController) (tick : Int64) : Bool × MountedWeaponController :=
  match tryU64 tick with
  | none => (false, c)
  | some tick => c.advanceKernelTo tick

def beginSaddleDive (c : MountedWeaponController) (diveId launchTick : Int64)
    (prelaunch : Option (Vector Int32 2)) (nominalAirtimeTicks : Int64) :
    Bool × MountedWeaponController :=
  match (tryU64 diveId).bind DiveId.new, tryU64 launchTick, prelaunch,
      tryU64 nominalAirtimeTicks with
  | some diveId, some tick, some prelaunch, some nominalTicks =>
    if c.contextTick ≠ some tick ∨ c.riding.stance ≠ .mounted ∨ c.riding.diveId.isSome then
      (false, c)
    else
      let begun := c.kernel.beginSaddleDive diveId tick c.kernel.equipped prelaunch nominalTicks
      match begun.1 with
      | .error _ => (false, { c with kernel := begun.2 })
      | .ok () => (true, { c with
          kernel := begun.2
          riding := { c.riding with stance := .saddleDiveAirborne, diveId := some diveId }
          currentTick := clampI64 tick })
  | _, _, _, _ => (false, c)

def finishSaddleDive (c : MountedWeaponController) (diveId landingTick : Int64) :
    Bool × MountedWeaponController :=
  match (tryU64 diveId).bind DiveId.new, tryU64 landingTick with
  | some diveId, some tick =>
    let finished := c.kernel.finishSaddleDive diveId tick
    match finished.1 with
    | .error _ => (false, { c with kernel := finished.2 })
    | .ok () => (true, { c with
        kernel := finished.2
        riding := { c.riding with stance := .landingProne, diveId := none }
        currentTick := clampI64 tick })
  | _, _ => (false, c)

/-- An open dive is closed before equipment is restored; `none` when it cannot be. -/
def closeOpenDive (c : MountedWeaponController) (tick : SimulationTick) :
    Bool × MountedWeaponController :=
  match c.kernel.diveContext with
  | none => (true, c)
  | some context =>
    if context.closedToNewShots then (true, c)
    else
      let finished := c.kernel.finishSaddleDive context.diveId tick
      (finished.1.isOk, { c with kernel := finished.2 })

def completeRemount (c : MountedWeaponController) (tick : Int64) :
    Bool × MountedWeaponController :=
  match tryU64 tick with
  | none => (false, c)
  | some tick =>
    let closed := c.closeOpenDive tick
    if !closed.1 then (false, closed.2)
    else
      let c := { closed.2 with
        riding := { closed.2.riding with stance := .mounted, diveId := none } }
      let advanced := c.advanceKernelTo tick
      if !advanced.1 then (false, advanced.2)
      else
        let c := advanced.2
        let equipped := c.kernel.equipWeapon c.kernel.equipped
        (!c.kernel.holstered || equipped.1, { c with kernel := equipped.2 })

def equipWeapon (c : MountedWeaponController) (id : Int64) : Bool × MountedWeaponController :=
  match (tryU8 id).bind WeaponId.tryFrom? with
  | none => (false, c)
  | some weaponId =>
    if (c.kernel.ammo weaponId).isNone ∨ c.riding.stance = .saddleDiveAirborne then (false, c)
    else
      let alreadyEquipped := c.kernel.equipped = weaponId ∧ !c.kernel.holstered
      let equipped := c.kernel.equipWeapon weaponId
      (equipped.1 || decide alreadyEquipped, { c with kernel := equipped.2 })

def requestReload (c : MountedWeaponController) : Bool × MountedWeaponController :=
  let requested := c.kernel.requestReload c.currentTick c.riding
  (requested.1.isOk, { c with kernel := requested.2 })

/-! ## Shots -/

/-- The gates before the kernel: what they pass is the tick, origin and direction of the shot. -/
def fireInputs (c : MountedWeaponController) (request : FireRequest) :
    Option (SimulationTick × QuantizedOrigin × QuantizedDirection × RiderAnswers) :=
  match tryU64 request.tick, request.origin, request.direction, request.muzzle,
      request.rider with
  | some tick, some origin, some direction, some muzzle, some rider =>
    if origin.squaredDistanceMm muzzle > ORIGIN_LEASH_MM ^ 2 then none
    else if !rider.canAcceptAuthorityShot
        || (c.shotLedger.acceptedShot c.kernel.shooterPeerId tick).isSome then
      none
    else some (tick, origin, direction, rider)
  | _, _, _, _, _ => none

def acceptedMetadata (c : MountedWeaponController) (prepared : PreparedShot) :
    AcceptedShotMetadata :=
  let launch := prepared.diveId.bind fun diveId =>
    c.kernel.diveContext.filter (·.diveId = diveId)
  { shooter := c.kernel.shooterPeerId
    tick := prepared.tick
    acceptedShotIndex := prepared.acceptedShotIndex
    weaponId := prepared.weaponId
    stance := c.riding.stance
    gait := (launch.map (·.launchHandling.gait)).getD c.riding.gait
    diveId := prepared.diveId
    prelaunchHorizontalVelocityMmps :=
      (launch.map (·.prelaunchHorizontalVelocityMmps)).getD (Vector.replicate 2 0) }

/-- The command sent for an accepted shot, under the seed the kernel expected. -/
def wireCommand (c : MountedWeaponController) (prepared : PreparedShot) (origin : QuantizedOrigin)
    (seed : UInt64) : ShotCommand where
  tick := prepared.tick
  shooterPeerId := c.kernel.shooterPeerId
  weaponId := prepared.weaponId
  origin := origin
  direction := prepared.resolvedDirection
  spreadSeed := seed
  claimedTarget := none

/-- Books a shot the kernel accepted: the kernel has moved on whether or not the ledger and the
rider take it. -/
def bookShot (c : MountedWeaponController) (prepared : PreparedShot) (origin : QuantizedOrigin)
    (seed : UInt64) (rider : RiderAnswers) : Bool × MountedWeaponController :=
  let recorded := c.shotLedger.recordAccepted (c.acceptedMetadata prepared)
  let c := { c with shotLedger := recorded.2 }
  if !recorded.1 || !rider.recordAuthorityAcceptedShot then (false, c)
  else (true, { c with
    currentTick := max c.currentTick (clampI64 prepared.tick)
    pendingWireCommand := some (c.wireCommand prepared origin seed)
    pendingLocalShot :=
      some ⟨prepared.tick, prepared.weaponId, prepared.resolvedDirection⟩ })

/-- A rejected request discards the shot that waits for its local hit. -/
def recordRejection (c : MountedWeaponController) : MountedWeaponController :=
  { c with pendingLocalShot := none }

/-- Validates and submits one fire request. -/
def requestFire (B : Ballistics) (c : MountedWeaponController) (request : FireRequest) :
    Bool × MountedWeaponController :=
  match c.fireInputs request with
  | none => (false, c.recordRejection)
  | some (tick, origin, direction, rider) =>
    let seed := c.kernel.nextSpreadSeed
    match c.kernel.requestFireDetailed B tick direction c.riding seed with
    | (.error _, kernel) =>
      (false, { c with kernel, currentTick := max c.currentTick (clampI64 tick) }.recordRejection)
    | (.ok prepared, kernel) => { c with kernel }.bookShot prepared origin seed rider

/-- Consumes the pending command for network delivery. -/
def takePendingShotCommand (c : MountedWeaponController) :
    Option ShotCommand × MountedWeaponController :=
  (c.pendingWireCommand, { c with pendingWireCommand := none })

/-! ## Results -/

def applyAuthorityResult (c : MountedWeaponController) (result : ShotResult)
    (rider : Option RiderAnswers) : Bool × MountedWeaponController :=
  if result.shooterPeerId ≠ c.kernel.shooterPeerId then (false, c)
  else
    let observed := c.shotLedger.observeResult c.authorityEpoch result
    (!observed.1.duplicate && observed.1.acceptedShot.isSome
        && rider.any (·.recordAttributedAuthorityResult),
      { c with shotLedger := observed.2 })

/-- A local geometry hit on the most recent shot; the evidence is consumed even when it is void. -/
def resolveLocalHit (c : MountedWeaponController) (targetId : Int64) (hitZone : Option HitZone)
    (distanceMm : Option UInt32) (rider : Option RiderAnswers) : Bool × MountedWeaponController :=
  match c.pendingLocalShot with
  | none => (false, c)
  | some pending =>
    let c := { c with pendingLocalShot := none }
    match tryU64 targetId, distanceMm, hitZone with
    | some targetId, some distanceMm, some zone =>
      let stats := pending.weaponId.stats
      if distanceMm > stats.hitscanClampMm then (false, c)
      else c.applyAuthorityResult {
          tick := pending.tick
          shooterPeerId := c.kernel.shooterPeerId
          weaponId := pending.weaponId
          outcome := .hit
          rejectionReason := none
          resolvedDirection := some pending.direction
          targetId := some targetId
          hitZone := some zone
          damage := stats.damageAt distanceMm zone
          distanceMm := some distanceMm
          eliminated := false } rider
    | _, _, _ => (false, c)

def resolveLocalMiss (c : MountedWeaponController) (rider : Option RiderAnswers) :
    Bool × MountedWeaponController :=
  match c.pendingLocalShot with
  | none => (false, c)
  | some pending =>
    { c with pendingLocalShot := none }.applyAuthorityResult {
        tick := pending.tick
        shooterPeerId := c.kernel.shooterPeerId
        weaponId := pending.weaponId
        outcome := .miss
        rejectionReason := none
        resolvedDirection := some pending.direction
        targetId := none
        hitZone := none
        damage := 0
        distanceMm := none
        eliminated := false } rider

/-! ## Session -/

def synchronizeAuthoritativeStance (c : MountedWeaponController) (stance : RiderStance)
    (diveId : Option DiveId) : Bool × MountedWeaponController :=
  let candidate := { c.riding with stance, diveId }
  if !stance.isKnown || !stance.isCanonical || !candidate.isConsistent then (false, c)
  else
    let advanced := c.kernel.advanceTo c.currentTick candidate
    (advanced.1.isSome, { c with riding := candidate, kernel := advanced.2 })

def advanceAuthorityEpoch (c : MountedWeaponController) (authorityEpoch : UInt64) :
    Bool × MountedWeaponController :=
  if authorityEpoch < c.authorityEpoch then (false, c) else (true, { c with authorityEpoch })

/-- Rebuilds an untouched controller for a session identity. -/
def bindSessionIdentity (c : MountedWeaponController) (shooter : PlayerId)
    (authorityEpoch : UInt64) : Bool × MountedWeaponController :=
  if c.kernel.shooterPeerId = shooter ∧ c.authorityEpoch = authorityEpoch then (true, c)
  else if c.kernel.shotIndex ≠ 0 ∨ c.kernel.diveContext.isSome ∨ c.kernel.reload.isSome
      ∨ c.pendingLocalShot.isSome then
    (false, c)
  else
    match CombatKernel.withFullLoadout c.kernel.tickRate c.lobbySeed shooter with
    | none => (false, c)
    | some kernel =>
      let equipped := kernel.equipWeapon c.kernel.equipped
      if c.kernel.equipped ≠ kernel.equipped ∧ !equipped.1 then (false, c)
      else
        (true, { c with
          kernel := if c.kernel.equipped ≠ kernel.equipped then equipped.2 else kernel
          authorityEpoch
          riding := .standing
          contextTick := none
          currentTick := 0
          shotLedger := .empty
          pendingLocalShot := none })

end MountedWeaponController

end Spurfire
