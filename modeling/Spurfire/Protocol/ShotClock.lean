import Spurfire.Protocol.CombatAuthority

/-!
# The shot clock of a kernel

The part of a kernel that decides its next spread seed is small: who shoots, in which lobby, and
how many shots were accepted.  This module says once what every operation does to it:

* `KernelOp` lists the operations other than firing, and `KernelOp.sameShots` says that none of
  them moves the shot clock;
* `requestFireDetailed_outcome` inverts a fire request: an acceptance carried the expected seed and moves the clock by one, a refusal leaves it alone and blames the
  seed only when the seed is wrong;
* `validateShot_verdict` carries it over to the authority.
-/

namespace Spurfire

open Std (ExtTreeMap)

/-! ## Operations that do not fire -/

namespace CombatKernel

/-- The two kernels expect the same next shot. -/
structure SameShots (k k' : CombatKernel) : Prop where
  tickRate : k'.tickRate = k.tickRate
  lobbySeed : k'.lobbySeed = k.lobbySeed
  shooterPeerId : k'.shooterPeerId = k.shooterPeerId
  shotIndex : k'.shotIndex = k.shotIndex
  lastAcceptedTick : k'.lastAcceptedTick = k.lastAcceptedTick

namespace SameShots

variable {k k' k'' : CombatKernel}

theorem refl (k : CombatKernel) : SameShots k k := ⟨rfl, rfl, rfl, rfl, rfl⟩

theorem trans (h : SameShots k k') (h' : SameShots k' k'') : SameShots k k'' :=
  ⟨h'.tickRate.trans h.tickRate, h'.lobbySeed.trans h.lobbySeed,
    h'.shooterPeerId.trans h.shooterPeerId, h'.shotIndex.trans h.shotIndex,
    h'.lastAcceptedTick.trans h.lastAcceptedTick⟩

theorem nextSpreadSeed (h : SameShots k k') : k'.nextSpreadSeed = k.nextSpreadSeed := by
  unfold CombatKernel.nextSpreadSeed
  rw [h.lobbySeed, h.shooterPeerId, h.shotIndex]

end SameShots

theorem sameShots_advanceReloadBy (k : CombatKernel) (elapsedTicks : UInt64) (paused : Bool) :
    SameShots k (k.advanceReloadBy elapsedTicks paused).2 := by
  unfold advanceReloadBy
  cases k.reload with
  | none => exact .refl k
  | some reload => dsimp only; split_ifs <;> exact ⟨rfl, rfl, rfl, rfl, rfl⟩

theorem sameShots_advanceTo (k : CombatKernel) (tick : SimulationTick) (riding : RidingState) :
    SameShots k (k.advanceTo tick riding).2 := by
  unfold advanceTo
  cases tick.checkedSub k.lastAdvancedTick with
  | none => exact .refl k
  | some elapsedTicks =>
    dsimp only
    -- holstering and recovery touch none of the five fields
    have hreload := sameShots_advanceReloadBy
    split_ifs
    · exact ⟨(hreload _ _ _).1, (hreload _ _ _).2, (hreload _ _ _).3, (hreload _ _ _).4,
        (hreload _ _ _).5⟩
    · exact ⟨(hreload _ _ _).1, (hreload _ _ _).2, (hreload _ _ _).3, (hreload _ _ _).4,
        (hreload _ _ _).5⟩

theorem sameShots_settleForLaunch (k : CombatKernel) (launchTick : SimulationTick) :
    SameShots k (k.settleForLaunch launchTick) := by
  unfold settleForLaunch
  have hadvance := k.sameShots_advanceTo (launchTick - 1) k.riding
  split_ifs
  · exact ⟨hadvance.1, hadvance.2, hadvance.3, hadvance.4, hadvance.5⟩
  · exact ⟨rfl, rfl, rfl, rfl, rfl⟩
  · exact .refl k

theorem sameShots_beginSaddleDive (k : CombatKernel) (diveId : DiveId)
    (launchTick : SimulationTick) (launchWeapon : WeaponId) (velocity : Vector Int32 2)
    (nominalAirtimeTicks : UInt64) :
    SameShots k
      (k.beginSaddleDive diveId launchTick launchWeapon velocity nominalAirtimeTicks).2 := by
  unfold beginSaddleDive
  have hsettle := k.sameShots_settleForLaunch launchTick
  split_ifs
  · exact .refl k
  · exact .refl k
  · exact .refl k
  · exact .refl k
  · exact ⟨hsettle.1, hsettle.2, hsettle.3, hsettle.4, hsettle.5⟩

theorem sameShots_finishSaddleDive (k : CombatKernel) (diveId : DiveId)
    (landingTick : SimulationTick) : SameShots k (k.finishSaddleDive diveId landingTick).2 := by
  unfold finishSaddleDive
  split_ifs
  · exact .refl k
  · cases k.diveContext with
    | none => exact .refl k
    | some context => dsimp only; split_ifs <;> exact ⟨rfl, rfl, rfl, rfl, rfl⟩

theorem sameShots_beginReload (k : CombatKernel) : SameShots k k.beginReload.2 := by
  unfold beginReload
  dsimp only
  split_ifs <;> exact ⟨rfl, rfl, rfl, rfl, rfl⟩

theorem sameShots_requestReload (k : CombatKernel) (tick : SimulationTick) (riding : RidingState) :
    SameShots k (k.requestReload tick riding).2 := by
  unfold requestReload
  have hadvance := k.sameShots_advanceTo tick riding
  split_ifs
  · exact .refl k
  · exact .refl k
  · exact .refl k
  · match hk : k.advanceTo tick riding with
    | (none, k') => rw [hk] at hadvance; exact hadvance
    | (some _, k') => rw [hk] at hadvance; exact hadvance.trans k'.sameShots_beginReload

theorem sameShots_equipWeapon (k : CombatKernel) (weaponId : WeaponId) :
    SameShots k (k.equipWeapon weaponId).2 := by
  unfold equipWeapon
  split_ifs <;> exact ⟨rfl, rfl, rfl, rfl, rfl⟩

theorem sameShots_pickup (k : CombatKernel) (p : WeaponPickup) (distanceMm : UInt32)
    (tick : SimulationTick) : SameShots k (k.pickup p distanceMm tick).2 := by
  unfold pickup
  split_ifs
  · exact .refl k
  · exact .refl k
  · exact .refl k
  · dsimp only
    cases k.ammo p.weaponId <;> exact ⟨rfl, rfl, rfl, rfl, rfl⟩

end CombatKernel

/-- Every operation of a kernel other than firing. -/
inductive KernelOp
  | respawnAt (tick : SimulationTick)
  | beginSaddleDive (diveId : DiveId) (launchTick : SimulationTick) (launchWeapon : WeaponId)
      (prelaunchHorizontalVelocityMmps : Vector Int32 2) (nominalAirtimeTicks : UInt64)
  | finishSaddleDive (diveId : DiveId) (landingTick : SimulationTick)
  | grantWeapon (weaponId : WeaponId) (ammo : WeaponAmmo)
  | refillEquippedAmmo
  | equipWeapon (weaponId : WeaponId)
  | holster
  | setAmmo (weaponId : WeaponId) (ammo : WeaponAmmo)
  | advanceTo (tick : SimulationTick) (riding : RidingState)
  | requestM3Reload
  | advanceM3Reload (elapsedTicks : UInt64) (paused : Bool)
  | restoreM3Reload (reload : Option ReloadSnapshot)
  | requestReload (tick : SimulationTick) (riding : RidingState)
  | pickup (pickup : WeaponPickup) (distanceMm : UInt32) (tick : SimulationTick)

namespace KernelOp

def apply (k : CombatKernel) : KernelOp → CombatKernel
  | respawnAt tick => (k.respawnAt tick).2
  | beginSaddleDive diveId launchTick launchWeapon velocity airtime =>
    (k.beginSaddleDive diveId launchTick launchWeapon velocity airtime).2
  | finishSaddleDive diveId landingTick => (k.finishSaddleDive diveId landingTick).2
  | grantWeapon weaponId ammo => k.grantWeapon weaponId ammo
  | refillEquippedAmmo => k.refillEquippedAmmo.2
  | equipWeapon weaponId => (k.equipWeapon weaponId).2
  | holster => k.holster
  | setAmmo weaponId ammo => (k.setAmmo weaponId ammo).2
  | advanceTo tick riding => (k.advanceTo tick riding).2
  | requestM3Reload => k.requestM3Reload.2
  | advanceM3Reload elapsedTicks paused => (k.advanceM3Reload elapsedTicks paused).2
  | restoreM3Reload reload => (k.restoreM3Reload reload).2
  | requestReload tick riding => (k.requestReload tick riding).2
  | pickup p distanceMm tick => (k.pickup p distanceMm tick).2

/-- **Only firing moves the shot clock.** -/
theorem sameShots (k : CombatKernel) (op : KernelOp) : CombatKernel.SameShots k (op.apply k) := by
  cases op with
  | respawnAt tick =>
    dsimp only [apply, CombatKernel.respawnAt]
    split_ifs <;> exact ⟨rfl, rfl, rfl, rfl, rfl⟩
  | beginSaddleDive => exact k.sameShots_beginSaddleDive _ _ _ _ _
  | finishSaddleDive => exact k.sameShots_finishSaddleDive _ _
  | grantWeapon => exact ⟨rfl, rfl, rfl, rfl, rfl⟩
  | refillEquippedAmmo => exact ⟨rfl, rfl, rfl, rfl, rfl⟩
  | equipWeapon => exact k.sameShots_equipWeapon _
  | holster => exact ⟨rfl, rfl, rfl, rfl, rfl⟩
  | setAmmo weaponId ammo =>
    dsimp only [apply, CombatKernel.setAmmo]
    split_ifs <;> exact ⟨rfl, rfl, rfl, rfl, rfl⟩
  | advanceTo => exact k.sameShots_advanceTo _ _
  | requestM3Reload =>
    dsimp only [apply, CombatKernel.requestM3Reload]
    split_ifs
    · exact .refl k
    · exact k.sameShots_beginReload
  | advanceM3Reload => exact k.sameShots_advanceReloadBy _ _
  | restoreM3Reload reload =>
    dsimp only [apply, CombatKernel.restoreM3Reload]
    split_ifs <;> exact ⟨rfl, rfl, rfl, rfl, rfl⟩
  | requestReload => exact k.sameShots_requestReload _ _
  | pickup => exact k.sameShots_pickup _ _ _

end KernelOp

/-! ## Firing -/

theorem WeaponStats.cadenceTicks_ne_zero (w : WeaponStats) {tickRate : UInt32}
    (h : tickRate ≠ 0) : w.cadenceTicks tickRate ≠ 0 := by
  unfold cadenceTicks
  rw [if_neg h]
  refine UInt64.divCeil_ne_zero (UInt64.satMul_ne_zero ?_ (by decide))
  rw [← UInt64.toNat_inj.ne, UInt32.toNat_toUInt64]
  rwa [← UInt32.toNat_inj.ne] at h

namespace CombatKernel

variable {k : CombatKernel} {tick : SimulationTick} {direction : QuantizedDirection}
  {riding : RidingState} {suppliedSeed : UInt64}

/-- Accepted shots of one kernel are at least one cadence interval apart, so their ticks grow. -/
theorem lt_of_cadenceRefusal (h : k.cadenceRefusal tick = none) :
    ∀ last ∈ k.lastAcceptedTick, last < tick := by
  intro last hlast
  rw [Option.mem_def] at hlast
  unfold cadenceRefusal at h
  rw [hlast] at h
  dsimp only at h
  by_cases hle : last ≤ tick
  · rw [UInt64.checkedSub, if_pos hle] at h
    dsimp only at h
    refine UInt64.lt_of_le_of_ne hle ?_
    rintro rfl
    have hpos := WeaponStats.cadenceTicks_ne_zero k.equipped.stats k.tickRate_ne
    rw [UInt64.sub_self, if_pos (UInt64.pos_iff_ne_zero.mpr hpos)] at h
    exact absurd h (by simp)
  · rw [UInt64.checkedSub, if_neg hle] at h
    exact absurd h (by simp)

theorem fireRefusal_eq_none (h : k.fireRefusal tick direction riding suppliedSeed = none) :
    suppliedSeed = k.nextSpreadSeed ∧ k.cadenceRefusal tick = none := by
  unfold fireRefusal at h
  cases hstance : stanceRefusal riding.stance with
  | some reason => rw [hstance] at h; split_ifs at h
  | none =>
    cases hcadence : k.cadenceRefusal tick with
    | some reason => rw [hstance, hcadence] at h; dsimp only at h; split_ifs at h
    | none =>
      rw [hstance, hcadence] at h
      dsimp only at h
      split_ifs at h with _ _ _ _ _ hseed
      exact ⟨not_not.mp hseed, rfl⟩

/-- The seed is blamed only when it is wrong. -/
theorem ne_of_fireRefusal
    (h : k.fireRefusal tick direction riding suppliedSeed = some .spreadSeed) :
    suppliedSeed ≠ k.nextSpreadSeed := by
  intro hseed
  have hstance : stanceRefusal riding.stance ≠ some .spreadSeed := by
    cases riding.stance <;> simp [stanceRefusal]
  have hcadence : k.cadenceRefusal tick ≠ some .spreadSeed := by
    unfold cadenceRefusal
    cases k.lastAcceptedTick with
    | none => simp
    | some last =>
      dsimp only
      cases tick.checkedSub last with
      | none => simp
      | some elapsed => dsimp only; split_ifs <;> simp
  unfold fireRefusal at h
  cases hs : stanceRefusal riding.stance with
  | some reason =>
    rw [hs] at h hstance
    dsimp only at h
    split_ifs at h
    · exact nomatch h
    · exact hstance h
  | none =>
    cases hc : k.cadenceRefusal tick with
    | some reason =>
      rw [hs, hc] at h
      rw [hc] at hcadence
      dsimp only at h
      split_ifs at h <;> first | exact hcadence h | exact nomatch h
    | none =>
      rw [hs, hc] at h
      dsimp only at h
      rw [if_neg (not_not.mpr hseed)] at h
      split_ifs at h <;> exact nomatch h

theorem diveGate_error {rejection : FireRejection}
    (h : k.diveGate tick riding = .error rejection) : rejection.wireReason ≠ .spreadSeed := by
  unfold diveGate at h
  cases hcontext : k.diveContext with
  | none =>
    rw [hcontext] at h
    split_ifs at h <;> (cases h; simp [FireRejection.wire, FireRejection.dive])
  | some context =>
    rw [hcontext] at h
    dsimp only at h
    split_ifs at h <;> (cases h; simp [FireRejection.wire, FireRejection.dive])

/-- What an accepted fire request says about the kernels before and after it. -/
structure Fires (k : CombatKernel) (tick : SimulationTick) (suppliedSeed : UInt64)
    (k' : CombatKernel) : Prop where
  seed : suppliedSeed = k.nextSpreadSeed
  later : ∀ last ∈ k.lastAcceptedTick, last < tick
  lobbySeed : k'.lobbySeed = k.lobbySeed
  shooterPeerId : k'.shooterPeerId = k.shooterPeerId
  shotIndex : k'.shotIndex = k.shotIndex.satAdd 1
  lastAcceptedTick : k'.lastAcceptedTick = some tick

theorem fireShot_cases (B : Ballistics) (k : CombatKernel) (tick : SimulationTick)
    (direction : QuantizedDirection) (riding : RidingState)
    (diveContext : Option DiveFireContext) :
    k.fireShot B tick direction riding diveContext = (.error (.wire .invalidDirection), k)
      ∨ ∃ prepared, prepared.tick = tick ∧
        k.fireShot B tick direction riding diveContext
          = (.ok prepared, k.commitShot tick diveContext) := by
  unfold fireShot
  dsimp only
  split
  · exact .inl rfl
  · exact .inr ⟨_, rfl, rfl⟩

/-- **What a fire request can answer.**  A refusal leaves the shot clock alone and blames the seed
only when the seed is wrong. -/
inductive FireOutcome (k : CombatKernel) (tick : SimulationTick) (suppliedSeed : UInt64) :
    Except FireRejection PreparedShot × CombatKernel → Prop
  | refused {rejection : FireRejection} {k' : CombatKernel} (same : SameShots k k')
      (blame : rejection.wireReason = .spreadSeed → suppliedSeed ≠ k.nextSpreadSeed) :
      FireOutcome k tick suppliedSeed (.error rejection, k')
  | fired {prepared : PreparedShot} {k' : CombatKernel} (shotTick : prepared.tick = tick)
      (fires : Fires k tick suppliedSeed k') :
      FireOutcome k tick suppliedSeed (.ok prepared, k')

theorem fireOutcome_fireAdvanced {k' : CombatKernel} (hsame : SameShots k k')
    (diveContext : Option DiveFireContext) (B : Ballistics) :
    FireOutcome k tick suppliedSeed
      (k'.fireAdvanced B tick direction riding diveContext suppliedSeed) := by
  unfold fireAdvanced
  cases hrefusal : k'.fireRefusal tick direction riding suppliedSeed with
  | some reason =>
    rw [Option.elim_some]
    refine .refused hsame fun hreason => ?_
    rw [← hsame.nextSpreadSeed]
    exact ne_of_fireRefusal (hrefusal.trans (congrArg some hreason))
  | none =>
    rw [Option.elim_none]
    obtain ⟨hseed, hcadence⟩ := fireRefusal_eq_none hrefusal
    have hlater := lt_of_cadenceRefusal hcadence
    rw [hsame.lastAcceptedTick] at hlater
    rcases fireShot_cases B k' tick direction riding diveContext with
      hshot | ⟨prepared, htick, hshot⟩
    · exact hshot ▸ .refused hsame fun hreason => nomatch hreason
    · exact hshot ▸ .fired htick ⟨hseed.trans hsame.nextSpreadSeed, hlater, hsame.lobbySeed,
        hsame.shooterPeerId, congrArg (UInt64.satAdd · 1) hsame.shotIndex, rfl⟩

/-- **A fire request either is refused and leaves the shot clock alone, or fires.** -/
theorem requestFireDetailed_outcome (B : Ballistics) (k : CombatKernel) (tick : SimulationTick)
    (direction : QuantizedDirection) (riding : RidingState) (suppliedSeed : UInt64) :
    FireOutcome k tick suppliedSeed
      (k.requestFireDetailed B tick direction riding suppliedSeed) := by
  have hsame := k.sameShots_advanceTo tick riding
  unfold requestFireDetailed
  cases hgate : k.diveGate tick riding with
  | error rejection => exact .refused (.refl k) fun h => absurd h (diveGate_error hgate)
  | ok diveContext =>
    generalize k.advanceTo tick riding = advanced at hsame ⊢
    obtain ⟨outcome, k'⟩ := advanced
    cases outcome with
    | none => exact .refused hsame fun h => nomatch h
    | some outcome => exact fireOutcome_fireAdvanced hsame diveContext B

end CombatKernel

/-! ## The authority -/

namespace CombatAuthority

variable {T : Type} (B : Ballistics) (R : TargetRange T)

/-- **What the authority can decide about a command** of a shooter it knows, and what that leaves
of the shooter.  A command the tick checks refuse is not seen at all. -/
inductive ShotVerdict (command : ShotCommand) (shooter : AuthorityShooter) :
    AuthorityShooter → ShotResult → Prop
  | unseen {result : ShotResult} (outcome : result.outcome = .reject)
      (reason : result.rejectionReason ≠ some .spreadSeed) :
      ShotVerdict command shooter shooter result
  | refused {kernel : CombatKernel} {result : ShotResult}
      (later : ∀ last ∈ shooter.lastCommandTick, last < command.tick)
      (same : CombatKernel.SameShots shooter.kernel kernel) (outcome : result.outcome = .reject)
      (blame : result.rejectionReason = some .spreadSeed →
        command.spreadSeed ≠ shooter.kernel.nextSpreadSeed) :
      ShotVerdict command shooter ⟨kernel, some command.tick⟩ result
  | accepted {kernel : CombatKernel} {result : ShotResult}
      (later : ∀ last ∈ shooter.lastCommandTick, last < command.tick)
      (fires : shooter.kernel.Fires command.tick command.spreadSeed kernel)
      (outcome : result.outcome ≠ .reject) (reason : result.rejectionReason = none) :
      ShotVerdict command shooter ⟨kernel, some command.tick⟩ result

variable {a : CombatAuthority} {shooter : AuthorityShooter} {command : ShotCommand}
  {authorityTick : SimulationTick} {rider : RiderSnapshot} {targets : T}

theorem tickRefusal_ne (reason : ShotRejectionReason)
    (h : a.tickRefusal shooter command authorityTick rider = some reason) :
    reason ≠ .spreadSeed := by
  unfold tickRefusal at h
  split_ifs at h <;> (cases h; decide)

theorem later_of_tickRefusal (h : a.tickRefusal shooter command authorityTick rider = none) :
    ∀ last ∈ shooter.lastCommandTick, last < command.tick := by
  unfold tickRefusal at h
  split_ifs at h with _ _ _ hreplay
  intro last hlast
  rw [Option.mem_def] at hlast
  rw [hlast] at hreplay
  simpa using hreplay

theorem commandRefusal_ne (reason : ShotRejectionReason)
    (h : commandRefusal shooter command rider = some reason) : reason ≠ .spreadSeed := by
  unfold commandRefusal at h
  split_ifs at h <;> (cases h; decide)

theorem resolveAccepted_result (prepared : PreparedShot) (kernel : CombatKernel) :
    (a.resolveAccepted R command rider kernel prepared targets).1.result.outcome ≠ .reject
      ∧ (a.resolveAccepted R command rider kernel prepared targets).1.result.rejectionReason
        = none := by
  refine ⟨?_, rfl⟩
  unfold resolveAccepted
  dsimp only
  split_ifs <;> decide

/-- The verdict on a command of a known shooter, with the state it leaves. -/
theorem validateShot_verdict (h : a.shooters[command.shooterPeerId]? = some shooter) :
    ∃ shooter', ShotVerdict command shooter shooter'
        (a.validateShot B R command authorityTick rider targets).1.result
      ∧ (a.validateShot B R command authorityTick rider targets).2.1.shooters[
          command.shooterPeerId]? = some shooter' := by
  unfold validateShot
  rw [h]
  dsimp only
  cases htick : a.tickRefusal shooter command authorityTick rider with
  | some reason =>
    exact ⟨shooter, .unseen rfl fun hreason =>
      tickRefusal_ne reason htick (Option.some.inj hreason), h⟩
  | none =>
    have hlater := later_of_tickRefusal htick
    dsimp only
    cases hcommand : commandRefusal shooter command rider with
    | some reason =>
      exact ⟨_, .refused hlater (.refl _) rfl fun hreason =>
        absurd (Option.some.inj hreason) (commandRefusal_ne reason hcommand),
        ExtTreeMap.getElem?_insert_self⟩
    | none =>
      dsimp only
      have houtcome := shooter.kernel.requestFireDetailed_outcome B command.tick command.direction
        rider.riding command.spreadSeed
      generalize shooter.kernel.requestFireDetailed B command.tick command.direction
        rider.riding command.spreadSeed = answer at houtcome ⊢
      cases houtcome with
      | refused same blame =>
        exact ⟨_, .refused hlater same rfl fun hreason => blame (Option.some.inj hreason),
          ExtTreeMap.getElem?_insert_self⟩
      | fired _ fires =>
        exact ⟨_, .accepted hlater fires (resolveAccepted_result R _ _).1
          (resolveAccepted_result R _ _).2, ExtTreeMap.getElem?_insert_self⟩

/-- A command touches no shooter but its own. -/
theorem validateShot_frame {player : PlayerId} (h : player ≠ command.shooterPeerId) :
    (a.validateShot B R command authorityTick rider targets).2.1.shooters[player]?
      = a.shooters[player]? := by
  have hinsert : ∀ entry, (a.shooters.insert command.shooterPeerId entry)[player]?
      = a.shooters[player]? := fun entry => by
    rw [ExtTreeMap.getElem?_insert, if_neg fun heq => h (Std.LawfulEqCmp.eq_of_compare heq).symm]
  unfold validateShot
  cases a.shooters[command.shooterPeerId]? with
  | none => rfl
  | some shooter =>
    dsimp only
    cases a.tickRefusal shooter command authorityTick rider with
    | some reason => rfl
    | none =>
      dsimp only
      cases commandRefusal shooter command rider with
      | some reason => exact hinsert _
      | none =>
        dsimp only
        generalize shooter.kernel.requestFireDetailed B command.tick command.direction
          rider.riding command.spreadSeed = answer
        obtain ⟨answer, kernel⟩ := answer
        cases answer <;> exact hinsert _

end CombatAuthority

end Spurfire
