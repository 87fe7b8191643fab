import Spurfire.Protocol.Gameplay
import Spurfire.Lib.SplitMix

/-!
# The combat kernel

The per-shooter weapon state of `combat/kernel.rs`: ammunition, cadence, reload, recoil, dive
context and the deterministic spread seed.  The same kernel runs on the client that predicts a
shot and on the authority that resolves it.

A kernel carries the two facts its constructors establish and no operation can lose: the tick rate
is positive and the equipped rifle is owned.  Trigonometry is floating point and enters through
`Ballistics`.
-/

namespace Spurfire

open Std (ExtTreeMap)
open UInt64 (splitmix64)

/-! ## Dives -/

/-- Identifier of one accepted dive, never zero. -/
structure DiveId where
  value : UInt64
  nonzero : value ≠ 0
deriving DecidableEq

def DiveId.new (value : UInt64) : Option DiveId :=
  if h : value ≠ 0 then some ⟨value, h⟩ else none

def diveShotCap : WeaponId → UInt16
  | .longspur => 1
  | .dustwalker => 3
  | .rattler => 5

def DIVE_SWAY_BONUS_MILLI : UInt16 := 600
def CHARGE_SWAY_MULTIPLIER_MILLI : UInt16 := 700

def swayDecayStartTick (nominalTicks : UInt64) : UInt64 := nominalTicks.satMul 4 / 5

def diveSwayScaleMilli (elapsedTicks nominalTicks : UInt64) : UInt16 :=
  let decayStart := swayDecayStartTick nominalTicks
  if elapsedTicks ≤ decayStart then DIVE_SWAY_BONUS_MILLI
  else if nominalTicks ≤ elapsedTicks || nominalTicks ≤ decayStart then 1000
  else
    let numerator := (400 : UInt64).satMul (elapsedTicks - decayStart)
    let denominator := nominalTicks - decayStart
    let scale := (600 : UInt64).satAdd (numerator / denominator)
    if scale > 1000 then 1000 else scale.toUInt16

/-! ## Handling state -/

structure WeaponAmmo where
  magazine : UInt16
  reserve : UInt16
deriving DecidableEq

namespace WeaponAmmo

def empty : WeaponAmmo := ⟨0, 0⟩

def full (stats : WeaponStats) : WeaponAmmo := ⟨stats.magazineCapacity, stats.reserveCapacity⟩

def clamped (a : WeaponAmmo) (stats : WeaponStats) : WeaponAmmo :=
  ⟨min a.magazine stats.magazineCapacity, min a.reserve stats.reserveCapacity⟩

end WeaponAmmo

/-- Rewound rider handling inputs. -/
structure RidingState where
  stance : RiderStance
  diveId : Option DiveId
  gait : CombatGait
  planarSpeedMmps : UInt32
  gaitTopSpeedMmps : UInt32
  yawRateMillidegreesPerSecond : Int32
  stumbling : Bool
  ads : Bool
  sprintGallop : Bool
  majesticCharge : Bool
deriving DecidableEq

namespace RidingState

def standing : RidingState where
  stance := .mounted
  diveId := none
  gait := .idle
  planarSpeedMmps := 0
  gaitTopSpeedMmps := 1
  yawRateMillidegreesPerSecond := 0
  stumbling := false
  ads := false
  sprintGallop := false
  majesticCharge := false

def isConsistent (r : RidingState) : Bool :=
  (r.stance == .saddleDiveAirborne) == r.diveId.isSome && r.stance.isKnown

def speedRatioMilli (r : RidingState) : UInt32 :=
  if r.gaitTopSpeedMmps = 0 then 0
  else
    let ratio := (r.planarSpeedMmps.toUInt64.satMul 1000).divCeil r.gaitTopSpeedMmps.toUInt64
    (min ratio 1000).toUInt32

end RidingState

structure SwaySample where
  pitchMillidegrees : Int32
  yawMillidegrees : Int32
deriving DecidableEq

def SwaySample.still : SwaySample := ⟨0, 0⟩

def SwaySample.magnitudeMillidegrees (s : SwaySample) : UInt32 :=
  UInt32.ofNat (max s.pitchMillidegrees.toInt.natAbs s.yawMillidegrees.toInt.natAbs)

/-- The trigonometric parts of the kernel.  `swayWave` is the rounded sine and cosine of the sway
phase of a moving gait, scaled by its amplitude; `spreadDirection` deflects an aim direction. -/
structure Ballistics where
  swayWave : SimulationTick → UInt32 → CombatGait → Int32 × Int32
  spreadDirection :
    QuantizedDirection → UInt64 → UInt32 → SwaySample → Option QuantizedDirection

def scaleAxis (value : Int32) (scaleMilli : UInt16) : Int32 :=
  let product := value.toInt * scaleMilli.toNat
  Int32.satOfInt (if 0 ≤ product then (product + 500) / 1000 else -((-product + 500) / 1000))

def scaleSway (s : SwaySample) (scaleMilli : UInt16) : SwaySample :=
  ⟨scaleAxis s.pitchMillidegrees scaleMilli, scaleAxis s.yawMillidegrees scaleMilli⟩

def deterministicSway (B : Ballistics) (tick : SimulationTick) (tickRate : UInt32)
    (riding : RidingState) : SwaySample :=
  if tickRate = 0 ∨ riding.gait = .idle then .still
  else
    let wave := B.swayWave tick tickRate riding.gait
    let coupling := max (-450) (min (riding.yawRateMillidegreesPerSecond.toInt.tdiv 200) 450)
    let sample : SwaySample := ⟨wave.1, wave.2 + Int32.ofInt coupling⟩
    if riding.majesticCharge then scaleSway sample CHARGE_SWAY_MULTIPLIER_MILLI else sample

def MAX_TURN_RATE_MILLIDEGREES_PER_SECOND : ℕ := 120000

/-- Effective cone spread from speed, gait, turning, airborne state and ADS. -/
def effectiveSpreadMillidegrees (stats : WeaponStats) (riding : RidingState) : UInt32 :=
  let target :=
    if riding.gait = .gallop then stats.gallopSpreadMillidegrees.toNat
    else stats.movingSpreadMillidegrees.toNat
  let base := stats.baseSpreadMillidegrees.toNat
  let interpolated := base + ((target - base) * riding.speedRatioMilli.toNat + 500) / 1000
  let turnFraction :=
    min riding.yawRateMillidegreesPerSecond.toInt.natAbs MAX_TURN_RATE_MILLIDEGREES_PER_SECOND
  let turnPenalty := target * turnFraction / MAX_TURN_RATE_MILLIDEGREES_PER_SECOND / 4
  let spread := interpolated + turnPenalty
  let spread := if riding.stance = .mountedAirborne then spread * 3 / 2 else spread
  let spread := if riding.ads then (spread * 3 + 5 / 2) / 5 else spread
  if spread < 2 ^ 32 then UInt32.ofNat spread else 0xffffffff

/-! ## Spread seeds and recoil -/

/-- The two big-endian halves of an identifier. -/
def ProtocolId.halves {k : IdKind} (id : ProtocolId k) : UInt64 × UInt64 :=
  (UInt64.ofNat (id.value / 2 ^ 64), UInt64.ofNat id.value)

def shotSpreadSeed (lobbySeed : UInt64) (shooterPeerId : PlayerId) (shotIndex : UInt64) :
    UInt64 :=
  let halves := shooterPeerId.halves
  let state := splitmix64 (lobbySeed ^^^ 0x7370757266697265)
  let state := splitmix64 (state ^^^ halves.1)
  let state := splitmix64 (state ^^^ halves.2)
  splitmix64 (state ^^^ (shotIndex * 0x9e3779b97f4a7c15))

/-- **Two shots of one shooter never share a seed.** -/
theorem shotSpreadSeed_injective (lobbySeed : UInt64) (shooterPeerId : PlayerId) :
    Function.Injective (shotSpreadSeed lobbySeed shooterPeerId) := by
  intro a b h
  have h := UInt64.splitmix64_injective h
  have h := (UInt64.xor_right_inj _).mp h
  exact UInt64.mul_left_injective
    (show (0x9e3779b97f4a7c15 : UInt64) * 0xf1de83e19937733d = 1 by decide) h

/-- `i32::try_from(v).unwrap_or(i32::MAX)`. -/
def i32OrMax (v : ℕ) : Int32 := Int32.satOfInt v

def deterministicSigned (seed : UInt64) (maximum : UInt32) : Int32 :=
  if maximum = 0 then 0
  else
    let width := (maximum.toUInt64.satMul 2).satAdd 1
    i32OrMax (splitmix64 seed % width).toNat - i32OrMax maximum.toNat

def moveTowardZero (value amount : Int32) : Int32 :=
  if value > 0 then
    let moved := value.satSub amount
    if moved < 0 then 0 else moved
  else if value < 0 then
    let moved := value.satAdd amount
    if moved > 0 then 0 else moved
  else 0

structure RecoilState where
  pitchMillidegrees : Int32
  yawMillidegrees : Int32
deriving DecidableEq

namespace RecoilState

def settled : RecoilState := ⟨0, 0⟩

def recover (r : RecoilState) (elapsedTicks : UInt64) (tickRate : UInt32) : RecoilState :=
  let amount := elapsedTicks.satMul RECOIL_RECOVERY_MILLIDEGREES_PER_SECOND.toUInt64
    / tickRate.toUInt64
  let amount := i32OrMax amount.toNat
  ⟨moveTowardZero r.pitchMillidegrees amount, moveTowardZero r.yawMillidegrees amount⟩

def applyImpulse (r : RecoilState) (stats : WeaponStats) (seed : UInt64) : RecoilState :=
  ⟨r.pitchMillidegrees.satAdd (i32OrMax stats.recoilVerticalMillidegrees.toNat),
    r.yawMillidegrees.satAdd
      (deterministicSigned (seed ^^^ 0xd1b54a32d192ed03) stats.recoilYawMillidegrees)⟩

end RecoilState

/-! ## Outcomes -/

structure AdvanceOutcome where
  reloadCompleted : Bool
  ammoChanged : Bool
deriving DecidableEq

inductive ReloadStartError
  | tickReplay
  | holstered
  | airborne
  | dismounted
  | alreadyReloading
  | magazineFull
  | noReserve
deriving DecidableEq

structure PreparedShot where
  tick : SimulationTick
  weaponId : WeaponId
  spreadSeed : UInt64
  resolvedDirection : QuantizedDirection
  spreadMillidegrees : UInt32
  sway : SwaySample
  ammo : WeaponAmmo
  recoil : RecoilState
  acceptedShotIndex : UInt64
  diveId : Option DiveId
deriving DecidableEq

structure WeaponPickup where
  weaponId : WeaponId
  ammo : WeaponAmmo
  spawnedAt : SimulationTick
  expiresAt : Option SimulationTick
deriving DecidableEq

def WeaponPickup.isExpired (p : WeaponPickup) (tick : SimulationTick) : Bool :=
  p.expiresAt.any (tick ≥ ·)

inductive PickupError
  | airborne
  | outOfRange
  | expired
deriving DecidableEq

inductive PickupOutcome
  | ammoOnly (weaponId : WeaponId) (addedReserve reserve : UInt16)
  | swapped (weaponId : WeaponId) (dropped : WeaponPickup)
deriving DecidableEq

/-- Authority-owned per-dive firing context. -/
structure DiveFireContext where
  diveId : DiveId
  launchTick : SimulationTick
  launchWeapon : WeaponId
  acceptedCount : UInt16
  prelaunchHorizontalVelocityMmps : Vector Int32 2
  nominalAirtimeTicks : UInt64
  closedToNewShots : Bool
  launchHandling : RidingState
deriving DecidableEq

inductive DiveFireRejection
  | contextMismatch
  | weaponMismatch
  | closed
  | shotCap
deriving DecidableEq

structure FireRejection where
  wireReason : ShotRejectionReason
  diveReason : Option DiveFireRejection
deriving DecidableEq

namespace FireRejection

def wire (wireReason : ShotRejectionReason) : FireRejection := ⟨wireReason, none⟩

def dive (wireReason : ShotRejectionReason) (diveReason : DiveFireRejection) : FireRejection :=
  ⟨wireReason, some diveReason⟩

end FireRejection

inductive DiveContextError
  | tickReplay
  | weaponMismatch
  | diveAlreadyOpen
  | contextMismatch
deriving DecidableEq

/-! ## The kernel -/

/-- Deterministic ammo, cadence, reload, handling, spread, recoil and pickup state. -/
structure CombatKernel where
  tickRate : UInt32
  lobbySeed : UInt64
  shooterPeerId : PlayerId
  inventory : ExtTreeMap WeaponId WeaponAmmo
  equipped : WeaponId
  holstered : Bool
  reload : Option ReloadSnapshot
  lastAcceptedTick : Option SimulationTick
  lastAdvancedTick : SimulationTick
  shotIndex : UInt64
  recoil : RecoilState
  riding : RidingState
  diveContext : Option DiveFireContext
  tickRate_ne : tickRate ≠ 0
  owned : equipped ∈ inventory

namespace CombatKernel

/-- A mounted shooter with one full rifle. -/
def armed {tickRate : UInt32} (h : tickRate ≠ 0) (lobbySeed : UInt64) (shooterPeerId : PlayerId)
    (weaponId : WeaponId) : CombatKernel where
  tickRate := tickRate
  lobbySeed := lobbySeed
  shooterPeerId := shooterPeerId
  inventory := (∅ : ExtTreeMap WeaponId WeaponAmmo).insert weaponId (.full weaponId.stats)
  equipped := weaponId
  holstered := false
  reload := none
  lastAcceptedTick := none
  lastAdvancedTick := 0
  shotIndex := 0
  recoil := .settled
  riding := .standing
  diveContext := none
  tickRate_ne := h
  owned := ExtTreeMap.mem_insert_self

/-- The checked constructor; `none` is `InvalidTickRate`. -/
def withWeapon (tickRate : UInt32) (lobbySeed : UInt64) (shooterPeerId : PlayerId)
    (weaponId : WeaponId) : Option CombatKernel :=
  if h : tickRate = 0 then none else some (armed h lobbySeed shooterPeerId weaponId)

/-- Replaces the ammunition of one rifle, owned before or not. -/
def stock (k : CombatKernel) (weaponId : WeaponId) (ammo : WeaponAmmo) : CombatKernel :=
  { k with
    inventory := k.inventory.insert weaponId ammo
    owned := ExtTreeMap.mem_insert.mpr (.inr k.owned) }

/-- The prototype loadout: a Dustwalker in hand and every rifle owned. -/
def withFullLoadout (tickRate : UInt32) (lobbySeed : UInt64) (shooterPeerId : PlayerId) :
    Option CombatKernel :=
  (withWeapon tickRate lobbySeed shooterPeerId .dustwalker).map fun kernel =>
    [WeaponId.dustwalker, .longspur, .rattler].foldl
      (fun kernel weaponId => kernel.stock weaponId (.full weaponId.stats)) kernel

def ammo (k : CombatKernel) (weaponId : WeaponId) : Option WeaponAmmo := k.inventory[weaponId]?

def equippedAmmo (k : CombatKernel) : WeaponAmmo := (k.ammo k.equipped).getD .empty

def hasOpenDiveContext (k : CombatKernel) : Bool :=
  k.diveContext.any fun context => !context.closedToNewShots

/-- Seed the next accepted shot must carry. -/
def nextSpreadSeed (k : CombatKernel) : UInt64 :=
  shotSpreadSeed k.lobbySeed k.shooterPeerId k.shotIndex

def respawnAt (k : CombatKernel) (tick : SimulationTick) : Bool × CombatKernel :=
  if tick < k.lastAdvancedTick then (false, k)
  else
    (true, { k with
      inventory := k.inventory.map fun weaponId _ => .full weaponId.stats
      holstered := false
      reload := none
      recoil := .settled
      riding := .standing
      diveContext := none
      lastAdvancedTick := tick
      owned := ExtTreeMap.mem_map.mpr k.owned })

def holster (k : CombatKernel) : CombatKernel := { k with holstered := true, reload := none }

/-! ### Time -/

/-- Moves rounds from the reserve into the magazine. -/
def loadRounds (stats : WeaponStats) (ammo : WeaponAmmo) : WeaponAmmo :=
  let needed := stats.magazineCapacity.satSub ammo.magazine
  let loaded := min needed ammo.reserve
  ⟨ammo.magazine.satAdd loaded, ammo.reserve.satSub loaded⟩

def advanceReloadBy (k : CombatKernel) (elapsedTicks : UInt64) (paused : Bool) :
    AdvanceOutcome × CombatKernel :=
  match k.reload with
  | none => (⟨false, false⟩, k)
  | some reload =>
    let activeTicks :=
      if paused then reload.activeTicks else reload.activeTicks.satAdd elapsedTicks
    if reload.requiredTicks ≤ activeTicks then
      let stats := reload.weaponId.stats
      let loaded := (k.ammo reload.weaponId).any fun ammo =>
        min (stats.magazineCapacity.satSub ammo.magazine) ammo.reserve > 0
      (⟨true, loaded⟩, { k with
        inventory := k.inventory.modify reload.weaponId (loadRounds stats)
        reload := none
        owned := ExtTreeMap.mem_modify.mpr k.owned })
    else (⟨false, false⟩, { k with reload := some { reload with activeTicks } })

/-- Advances reload and recoil to an absolute tick; `none` is `TickRegression`. -/
def advanceTo (k : CombatKernel) (tick : SimulationTick) (riding : RidingState) :
    Option AdvanceOutcome × CombatKernel :=
  match tick.checkedSub k.lastAdvancedTick with
  | none => (none, k)
  | some elapsedTicks =>
    let k := { k with riding }
    let k := if riding.stance.carriesMountedWeapon then k else k.holster
    let k := { k with recoil := k.recoil.recover elapsedTicks k.tickRate }
    let advanced := k.advanceReloadBy elapsedTicks riding.sprintGallop
    (some advanced.1, { advanced.2 with lastAdvancedTick := tick })

/-! ### Dives -/

/-- Brings reload and recoil up to a launch.  Reload boundaries strictly before the launch still
complete; a boundary at the launch tick itself does not. -/
def settleForLaunch (k : CombatKernel) (launchTick : SimulationTick) : CombatKernel :=
  if k.lastAdvancedTick < launchTick then
    let k :=
      if k.lastAdvancedTick < launchTick - 1 then (k.advanceTo (launchTick - 1) k.riding).2 else k
    { k with recoil := k.recoil.recover (launchTick - k.lastAdvancedTick) k.tickRate }
  else k

def beginSaddleDive (k : CombatKernel) (diveId : DiveId) (launchTick : SimulationTick)
    (launchWeapon : WeaponId) (prelaunchHorizontalVelocityMmps : Vector Int32 2)
    (nominalAirtimeTicks : UInt64) : Except DiveContextError Unit × CombatKernel :=
  if launchTick < k.lastAdvancedTick then (.error .tickReplay, k)
  else if launchWeapon ≠ k.equipped then (.error .weaponMismatch, k)
  else if k.hasOpenDiveContext then (.error .diveAlreadyOpen, k)
  else if k.riding.stance ≠ .mounted ∨ !k.riding.isConsistent then (.error .contextMismatch, k)
  else
    let launchHandling := k.riding
    let k := k.settleForLaunch launchTick
    (.ok (), { k with
      reload := none
      lastAdvancedTick := launchTick
      riding := { k.riding with stance := .saddleDiveAirborne, diveId := some diveId }
      diveContext := some {
        diveId
        launchTick
        launchWeapon
        acceptedCount := 0
        prelaunchHorizontalVelocityMmps
        nominalAirtimeTicks
        closedToNewShots := false
        launchHandling } })

def finishSaddleDive (k : CombatKernel) (diveId : DiveId) (landingTick : SimulationTick) :
    Except DiveContextError Unit × CombatKernel :=
  if landingTick < k.lastAdvancedTick then (.error .tickReplay, k)
  else match k.diveContext with
    | none => (.error .contextMismatch, k)
    | some context =>
      if context.diveId ≠ diveId then (.error .contextMismatch, k)
      else
        let k := { k with
          diveContext := some { context with closedToNewShots := true }
          recoil := k.recoil.recover (landingTick - k.lastAdvancedTick) k.tickRate
          lastAdvancedTick := landingTick
          riding := { k.riding with stance := .landingProne, diveId := none } }
        (.ok (), k.holster)

/-! ### Equipment -/

def grantWeapon (k : CombatKernel) (weaponId : WeaponId) (ammo : WeaponAmmo) : CombatKernel :=
  k.stock weaponId (ammo.clamped weaponId.stats)

def refillEquippedAmmo (k : CombatKernel) : WeaponAmmo × CombatKernel :=
  let ammo := WeaponAmmo.full k.equipped.stats
  (ammo, { k.stock k.equipped ammo with reload := none })

def equipWeapon (k : CombatKernel) (weaponId : WeaponId) : Bool × CombatKernel :=
  if k.hasOpenDiveContext ∨ k.riding.stance = .saddleDiveAirborne then (false, k)
  else if h : weaponId ∈ k.inventory then
    (k.equipped ≠ weaponId ∨ k.holstered,
      { k with equipped := weaponId, holstered := false, reload := none, owned := h })
  else (false, k)

def setAmmo (k : CombatKernel) (weaponId : WeaponId) (ammo : WeaponAmmo) : Bool × CombatKernel :=
  if weaponId ∈ k.inventory then (true, k.stock weaponId (ammo.clamped weaponId.stats))
  else (false, k)

def pickup (k : CombatKernel) (p : WeaponPickup) (distanceMm : UInt32) (tick : SimulationTick) :
    Except PickupError PickupOutcome × CombatKernel :=
  if k.hasOpenDiveContext ∨ k.riding.stance = .saddleDiveAirborne then (.error .airborne, k)
  else if distanceMm > PICKUP_RANGE_MM then (.error .outOfRange, k)
  else if p.isExpired tick then (.error .expired, k)
  else
    let stats := p.weaponId.stats
    match k.ammo p.weaponId with
    | some existing =>
      (.ok (.ammoOnly p.weaponId (stats.reserveCapacity - existing.reserve)
          stats.reserveCapacity),
        k.stock p.weaponId { existing with reserve := stats.reserveCapacity })
    | none =>
      let lifetimeTicks :=
        (k.tickRate.toUInt64.satMul DROPPED_WEAPON_LIFETIME_MS.toUInt64).divCeil 1000
      let dropped : WeaponPickup :=
        ⟨k.equipped, k.equippedAmmo, tick, some (tick.satAdd lifetimeTicks)⟩
      (.ok (.swapped p.weaponId dropped), { k with
        inventory := (k.inventory.erase k.equipped).insert p.weaponId (p.ammo.clamped stats)
        equipped := p.weaponId
        holstered := false
        reload := none
        owned := ExtTreeMap.mem_insert_self })

/-! ### Reloading -/

def beginReload (k : CombatKernel) : Except ReloadStartError ReloadSnapshot × CombatKernel :=
  let stats := k.equipped.stats
  if k.holstered then (.error .holstered, k)
  else if k.reload.isSome then (.error .alreadyReloading, k)
  else if stats.magazineCapacity ≤ k.equippedAmmo.magazine then (.error .magazineFull, k)
  else if k.equippedAmmo.reserve = 0 then (.error .noReserve, k)
  else
    let reload : ReloadSnapshot := ⟨k.equipped, 0, stats.reloadTicks k.tickRate⟩
    (.ok reload, { k with reload := some reload })

/-- Starts a reload without moving the shot-command clock. -/
def requestM3Reload (k : CombatKernel) : Except ReloadStartError ReloadSnapshot × CombatKernel :=
  if k.hasOpenDiveContext then (.error .airborne, k) else k.beginReload

def advanceM3Reload (k : CombatKernel) (elapsedTicks : UInt64) (paused : Bool) :
    AdvanceOutcome × CombatKernel :=
  k.advanceReloadBy elapsedTicks paused

def restoreM3Reload (k : CombatKernel) (reload : Option ReloadSnapshot) : Bool × CombatKernel :=
  let stats := k.equipped.stats
  if reload.any fun reload =>
      k.holstered || reload.weaponId != k.equipped
        || reload.requiredTicks != stats.reloadTicks k.tickRate
        || reload.requiredTicks ≤ reload.activeTicks
        || stats.magazineCapacity ≤ k.equippedAmmo.magazine
        || k.equippedAmmo.reserve == 0 then
    (false, k)
  else (true, { k with reload })

def requestReload (k : CombatKernel) (tick : SimulationTick) (riding : RidingState) :
    Except ReloadStartError ReloadSnapshot × CombatKernel :=
  if tick < k.lastAdvancedTick then (.error .tickReplay, k)
  else if k.hasOpenDiveContext ∨ riding.stance = .mountedAirborne
      ∨ riding.stance = .saddleDiveAirborne then
    (.error .airborne, k)
  else if riding.stance ≠ .mounted ∨ !riding.isConsistent then (.error .dismounted, k)
  else match k.advanceTo tick riding with
    | (none, k) => (.error .tickReplay, k)
    | (some _, k) => k.beginReload

/-! ### Firing -/

/-- The checks made before anything moves; a dive shot answers with its context. -/
def diveGate (k : CombatKernel) (tick : SimulationTick) (riding : RidingState) :
    Except FireRejection (Option DiveFireContext) :=
  if tick < k.lastAdvancedTick then .error (.wire .tickReplay)
  else if !riding.isConsistent
      || (k.hasOpenDiveContext && riding.stance != .saddleDiveAirborne) then
    .error (.dive .dismounted .contextMismatch)
  else if riding.stance = .saddleDiveAirborne then
    match k.diveContext with
    | none => .error (.dive .dismounted .contextMismatch)
    | some context =>
      if riding.diveId ≠ some context.diveId then .error (.dive .dismounted .contextMismatch)
      else if context.closedToNewShots then .error (.dive .dismounted .closed)
      else if k.equipped ≠ context.launchWeapon then .error (.dive .weapon .weaponMismatch)
      else if diveShotCap context.launchWeapon ≤ context.acceptedCount then
        .error (.dive .rate .shotCap)
      else .ok (some context)
  else .ok none

def stanceRefusal : RiderStance → Option ShotRejectionReason
  | .mounted | .saddleDiveAirborne => none
  | .mountedAirborne => some .airborne
  | .landingProne | .landingRecovery | .onFootStanding | .unknown _ => some .dismounted

/-- The interval since the last accepted shot. -/
def cadenceRefusal (k : CombatKernel) (tick : SimulationTick) : Option ShotRejectionReason :=
  match k.lastAcceptedTick with
  | none => none
  | some lastTick =>
    match tick.checkedSub lastTick with
    | none => some .tickReplay
    | some elapsed =>
      if elapsed < k.equipped.stats.cadenceTicks k.tickRate then some .rate else none

/-- The checks made on the advanced kernel, the spread seed last. -/
def fireRefusal (k : CombatKernel) (tick : SimulationTick) (direction : QuantizedDirection)
    (riding : RidingState) (suppliedSeed : UInt64) : Option ShotRejectionReason :=
  if !direction.isNormalized then some .invalidDirection
  else match stanceRefusal riding.stance with
    | some reason => some reason
    | none =>
      if riding.stumbling then some .stumble
      else if k.holstered then some .holstered
      else if k.reload.isSome then some .reloading
      else match k.cadenceRefusal tick with
        | some reason => some reason
        | none =>
          if k.equippedAmmo.magazine = 0 then some .empty
          else if suppliedSeed ≠ k.nextSpreadSeed then some .spreadSeed
          else none

/-- A dive shot is handled as the rider was at launch. -/
def shotHandling (riding : RidingState) (diveContext : Option DiveFireContext) : RidingState :=
  match diveContext with
  | none => riding
  | some context =>
    { context.launchHandling with
      stance := .saddleDiveAirborne, diveId := some context.diveId }

def shotSway (B : Ballistics) (k : CombatKernel) (tick : SimulationTick) (riding : RidingState)
    (diveContext : Option DiveFireContext) : SwaySample :=
  let sway := deterministicSway B tick k.tickRate (shotHandling riding diveContext)
  match diveContext with
  | none => sway
  | some context =>
    let elapsed := (tick.checkedSub context.launchTick).getD 0
    scaleSway sway (diveSwayScaleMilli elapsed context.nominalAirtimeTicks)

/-- Consumes one round and moves to the next seed. -/
def commitShot (k : CombatKernel) (tick : SimulationTick)
    (diveContext : Option DiveFireContext) : CombatKernel :=
  { k with
    inventory := k.inventory.modify k.equipped fun ammo =>
      { ammo with magazine := ammo.magazine.satSub 1 }
    lastAcceptedTick := some tick
    shotIndex := k.shotIndex.satAdd 1
    recoil := k.recoil.applyImpulse k.equipped.stats k.nextSpreadSeed
    diveContext :=
      if diveContext.isSome then
        k.diveContext.map fun context =>
          { context with acceptedCount := context.acceptedCount.satAdd 1 }
      else k.diveContext
    owned := ExtTreeMap.mem_modify.mpr k.owned }

/-- The shot of a kernel that passed every check; only the deflection can still fail. -/
def fireShot (B : Ballistics) (k : CombatKernel) (tick : SimulationTick)
    (direction : QuantizedDirection) (riding : RidingState)
    (diveContext : Option DiveFireContext) : Except FireRejection PreparedShot × CombatKernel :=
  let spread := effectiveSpreadMillidegrees k.equipped.stats (shotHandling riding diveContext)
  let sway := shotSway B k tick riding diveContext
  match B.spreadDirection direction k.nextSpreadSeed spread sway with
  | none => (.error (.wire .invalidDirection), k)
  | some resolvedDirection =>
    let fired := k.commitShot tick diveContext
    (.ok {
      tick
      weaponId := k.equipped
      spreadSeed := k.nextSpreadSeed
      resolvedDirection
      spreadMillidegrees := spread
      sway
      ammo := fired.equippedAmmo
      recoil := fired.recoil
      acceptedShotIndex := k.shotIndex
      diveId := diveContext.map (·.diveId) }, fired)

def fireAdvanced (B : Ballistics) (k : CombatKernel) (tick : SimulationTick)
    (direction : QuantizedDirection) (riding : RidingState)
    (diveContext : Option DiveFireContext) (suppliedSeed : UInt64) :
    Except FireRejection PreparedShot × CombatKernel :=
  -- `elim` and not `match`: the normalization test must never be unfolded on a symbolic direction
  (k.fireRefusal tick direction riding suppliedSeed).elim
    (k.fireShot B tick direction riding diveContext) fun reason => (.error (.wire reason), k)

def requestFireDetailed (B : Ballistics) (k : CombatKernel) (tick : SimulationTick)
    (direction : QuantizedDirection) (riding : RidingState) (suppliedSeed : UInt64) :
    Except FireRejection PreparedShot × CombatKernel :=
  match k.diveGate tick riding with
  | .error rejection => (.error rejection, k)
  | .ok diveContext =>
    match k.advanceTo tick riding with
    | (none, k) => (.error (.wire .tickReplay), k)
    | (some _, k) => k.fireAdvanced B tick direction riding diveContext suppliedSeed

end CombatKernel

end Spurfire
