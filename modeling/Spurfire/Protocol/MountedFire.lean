import Spurfire.Protocol.FireLaw
import Spurfire.Protocol.M3Combat

/-!
# Mounted fire in the composed authority

What the operations of `M3CombatAuthority` leave of the kernel of a shooter, and when a shot of a
mounted rider is refused.

* `M3CombatAuthority.CombatMove`: what one call can do to the rifles;
* `CombatAuthority.Timed`: no dive is open, and the clock of a kernel is a tick of its shooter's
  commands or respawns;
* `M3CombatAuthority.Qualified`: a mounted command that has all it needs;
* **`mounted_fire`**: it is refused exactly where an earlier command has holstered the rifle.
-/

namespace Spurfire

open Std (ExtTreeMap)
open Fallible

namespace CombatKernel

/-! ## Kernels on one clock -/

/-- A kernel whose clock and dive are those of `k`. -/
structure SameTime (k k' : CombatKernel) : Prop where
  lastAdvancedTick : k'.lastAdvancedTick = k.lastAdvancedTick
  diveContext : k'.diveContext = k.diveContext

theorem SameTime.refl (k : CombatKernel) : SameTime k k := ⟨rfl, rfl⟩

theorem SameTime.trans {k k' k'' : CombatKernel} (h : SameTime k k') (h' : SameTime k' k'') :
    SameTime k k'' :=
  ⟨h'.lastAdvancedTick.trans h.lastAdvancedTick, h'.diveContext.trans h.diveContext⟩

theorem sameTime_advanceReloadBy (k : CombatKernel) (elapsedTicks : UInt64) (paused : Bool) :
    SameTime k (k.advanceReloadBy elapsedTicks paused).2 := by
  unfold advanceReloadBy
  cases k.reload with
  | none => exact .refl k
  | some reload =>
    dsimp only
    split_ifs <;> exact ⟨rfl, rfl⟩

theorem sameTime_requestM3Reload (k : CombatKernel) : SameTime k k.requestM3Reload.2 := by
  unfold requestM3Reload beginReload
  dsimp only
  split_ifs <;> exact ⟨rfl, rfl⟩

theorem sameTime_restoreM3Reload (k : CombatKernel) (reload : Option ReloadSnapshot) :
    SameTime k (k.restoreM3Reload reload).2 := by
  unfold restoreM3Reload
  dsimp only
  split_ifs <;> exact ⟨rfl, rfl⟩

/-- The reload of an actor's tick leaves the clock of the commands alone. -/
theorem sameTime_reloadKernel (k : CombatKernel) (elapsed : UInt64) (paused edge : Bool) :
    SameTime k (M3CombatAuthority.reloadKernel k elapsed paused edge) := by
  have hadvanced := k.sameTime_advanceReloadBy elapsed paused
  unfold M3CombatAuthority.reloadKernel advanceM3Reload
  dsimp only
  split_ifs
  · exact hadvanced.trans (sameTime_requestM3Reload _)
  · exact hadvanced

theorem advanceTo_clock (k : CombatKernel) (tick : SimulationTick) (riding : RidingState) :
    (k.advanceTo tick riding).2.lastAdvancedTick = k.lastAdvancedTick
      ∨ (k.advanceTo tick riding).2.lastAdvancedTick = tick := by
  unfold advanceTo
  cases tick.checkedSub k.lastAdvancedTick with
  | none => exact Or.inl rfl
  | some elapsedTicks => exact Or.inr rfl

theorem commitShot_ashore {k : CombatKernel} (h : k.diveContext = none) (tick : SimulationTick)
    (dive : Option DiveFireContext) : (k.commitShot tick dive).diveContext = none := by
  unfold commitShot
  dsimp only
  rw [h, Option.map_none, ite_self]

end CombatKernel

/-! ## The clock of a shooter -/

/-- A shooter off a dive, whose clock is a tick of its commands or of its respawns. -/
structure AuthorityShooter.Timed (player : PlayerId) (respawns : List (PlayerId × SimulationTick))
    (shooter : AuthorityShooter) : Prop where
  ashore : shooter.kernel.diveContext = none
  clock : shooter.kernel.lastAdvancedTick = 0
    ∨ (∃ last ∈ shooter.lastCommandTick, shooter.kernel.lastAdvancedTick ≤ last)
    ∨ (player, shooter.kernel.lastAdvancedTick) ∈ respawns

theorem AuthorityShooter.Timed.mono {player : PlayerId}
    {respawns respawns' : List (PlayerId × SimulationTick)} {shooter : AuthorityShooter}
    (h : shooter.Timed player respawns) (hsub : respawns ⊆ respawns') :
    shooter.Timed player respawns' :=
  ⟨h.ashore, h.clock.imp_right fun h => h.imp_right fun hmem => hsub hmem⟩

/-- A command at a later tick may move the clock to that tick. -/
theorem AuthorityShooter.Timed.command {player : PlayerId}
    {respawns : List (PlayerId × SimulationTick)} {shooter : AuthorityShooter}
    (h : shooter.Timed player respawns) {tick : SimulationTick}
    (hlater : ∀ last ∈ shooter.lastCommandTick, last < tick) {kernel : CombatKernel}
    (hashore : kernel.diveContext = none)
    (hclock : kernel.lastAdvancedTick = shooter.kernel.lastAdvancedTick
      ∨ kernel.lastAdvancedTick = tick) :
    AuthorityShooter.Timed player respawns ⟨kernel, some tick⟩ := by
  refine ⟨hashore, ?_⟩
  rcases hclock with hsame | hmoved
  · rcases h.clock with hzero | ⟨last, hlast, hle⟩ | hrespawn
    · exact Or.inl (hsame.trans hzero)
    · refine Or.inr (Or.inl ⟨tick, rfl, ?_⟩)
      rw [hsame]
      exact UInt64.le_trans hle (UInt64.le_of_lt (hlater last hlast))
    · refine Or.inr (Or.inr ?_)
      rw [hsame]
      exact hrespawn
  · exact Or.inr (Or.inl ⟨tick, rfl, UInt64.le_of_eq hmoved⟩)

namespace CombatAuthority

def Timed (respawns : List (PlayerId × SimulationTick)) (a : CombatAuthority) : Prop :=
  ∀ player, ∀ shooter : AuthorityShooter, a.shooters[player]? = some shooter →
    shooter.Timed player respawns

theorem getElem?_setShooterKernel (a : CombatAuthority) (player other : PlayerId)
    (kernel : CombatKernel) : (a.setShooterKernel player kernel).shooters[other]?
      = if other = player then a.shooters[other]?.map fun shooter => { shooter with kernel }
        else a.shooters[other]? := by
  unfold setShooterKernel
  rw [ExtTreeMap.getElem?_modify]
  by_cases heq : other = player
  · subst heq
    rw [if_pos rfl, if_pos Std.ReflCmp.compare_self]
  · rw [if_neg heq, if_neg fun hcompare => heq (Std.LawfulEqCmp.eq_of_compare hcompare).symm]

variable {a : CombatAuthority} {respawns : List (PlayerId × SimulationTick)}

theorem Timed.insert (h : a.Timed respawns) {player : PlayerId} {shooter : AuthorityShooter}
    (hshooter : shooter.Timed player respawns) {a' : CombatAuthority}
    (heq : a'.shooters = a.shooters.insert player shooter) : a'.Timed respawns := by
  intro other found hfound
  rw [heq, ExtTreeMap.getElem?_insert] at hfound
  split_ifs at hfound with hsame
  · obtain rfl := Std.LawfulEqCmp.eq_of_compare hsame
    obtain rfl := Option.some.inj hfound
    exact hshooter
  · exact h other found hfound

/-- Writing a kernel back keeps the clocks where its shooter is still timed. -/
theorem Timed.setShooterKernel (h : a.Timed respawns) {player : PlayerId} {kernel : CombatKernel}
    (hkernel : ∀ shooter, a.shooters[player]? = some shooter →
      AuthorityShooter.Timed player respawns { shooter with kernel }) :
    (a.setShooterKernel player kernel).Timed respawns := by
  intro other found hfound
  rw [getElem?_setShooterKernel] at hfound
  by_cases heq : other = player
  · subst heq
    rw [if_pos rfl, Option.map_eq_some_iff] at hfound
    obtain ⟨shooter, hshooter, rfl⟩ := hfound
    exact hkernel shooter hshooter
  · rw [if_neg heq] at hfound
    exact h other found hfound

theorem Timed.sameTime (h : a.Timed respawns) {player : PlayerId} {kernel kernel' : CombatKernel}
    (hknown : a.shooterKernel player = some kernel) (hsame : CombatKernel.SameTime kernel kernel') :
    (a.setShooterKernel player kernel').Timed respawns := by
  refine h.setShooterKernel fun shooter hshooter => ?_
  have htimed := h player shooter hshooter
  unfold shooterKernel at hknown
  rw [hshooter] at hknown
  obtain rfl := Option.some.inj hknown
  refine ⟨hsame.diveContext.trans htimed.ashore, ?_⟩
  change kernel'.lastAdvancedTick = 0 ∨ _
  rw [hsame.lastAdvancedTick]
  exact htimed.clock

theorem Timed.registerShooter (h : a.Timed respawns) (player : PlayerId) (weaponId : WeaponId) :
    (a.registerShooter player weaponId).2.Timed respawns := by
  unfold CombatAuthority.registerShooter
  split_ifs
  · exact h
  · have hshooter : (⟨.armed a.tickRate_ne a.lobbySeed player weaponId, none⟩ :
        AuthorityShooter).Timed player respawns := ⟨rfl, Or.inl rfl⟩
    exact h.insert hshooter rfl

theorem Timed.restoreShooter (h : a.Timed respawns) (player : PlayerId) (weaponId : WeaponId)
    (ammo : WeaponAmmo) (lastCommandTick lastAcceptedTick : Option SimulationTick)
    (shotIndex : UInt64) :
    (a.restoreShooter player weaponId ammo lastCommandTick lastAcceptedTick shotIndex).2.Timed
      respawns := by
  unfold CombatAuthority.restoreShooter
  dsimp only
  split_ifs with hrefused
  · exact h
  · refine h.insert ?_ rfl
    have hstocked : ((CombatKernel.armed a.tickRate_ne a.lobbySeed player weaponId).setAmmo weaponId
        ammo).2.diveContext = none := by
      unfold CombatKernel.setAmmo
      split_ifs <;> rfl
    refine ⟨hstocked, ?_⟩
    -- an accepted shot has a command tick, so the clock is that tick or the start
    cases lastCommandTick with
    | some last => exact Or.inr (Or.inl ⟨last, rfl, UInt64.le_refl last⟩)
    | none =>
      cases lastAcceptedTick with
      | none => exact Or.inl rfl
      | some accepted => simp at hrefused

theorem Assembled.timed (h : a.Assembled) : a.Timed [] := by
  induction h with
  | @new tickRate lobbySeed a h =>
    unfold CombatAuthority.new at h
    split_ifs at h
    obtain rfl := Option.some.inj h
    intro player shooter hshooter
    rw [ExtTreeMap.getElem?_empty] at hshooter
    exact nomatch hshooter
  | @setAuthorityEpoch a h authorityEpoch ih =>
    unfold CombatAuthority.setAuthorityEpoch
    split_ifs
    · exact ih
    · exact ih
  | registerShooter h player weaponId ih => exact ih.registerShooter player weaponId
  | restoreShooter h player weaponId ammo command accepted shotIndex ih =>
    exact ih.restoreShooter player weaponId ammo command accepted shotIndex

end CombatAuthority

/-! ## What a call does to the rifles -/

namespace M3CombatAuthority

variable (B : Ballistics) (G : RayGeometry)

/-- The rifles after a call: as before, one shooter more, one kernel handled on its clock, one
respawned, or what shot validation leaves. -/
inductive CombatMove (s : M3CombatAuthority) : M3CombatCall → CombatAuthority → Prop
  | same {call : M3CombatCall} : CombatMove s call s.combat
  | registered {call : M3CombatCall} (player : PlayerId) (weaponId : WeaponId) :
      CombatMove s call (s.combat.registerShooter player weaponId).2
  | handled {call : M3CombatCall} {player : PlayerId} {kernel kernel' : CombatKernel}
      (known : s.combat.shooterKernel player = some kernel) (time : kernel.SameTime kernel') :
      CombatMove s call (s.combat.setShooterKernel player kernel')
  | respawned {player : PlayerId} {tick : SimulationTick} {kernel kernel' : CombatKernel}
      (known : s.combat.shooterKernel player = some kernel)
      (respawns : kernel.respawnAt tick = (true, kernel'))
      (accepted : (s.respawnRider player tick).1 = .ok ()) :
      CombatMove s (.respawnRider player tick) (s.combat.setShooterKernel player kernel')
  | shot (command : ShotCommand) (authorityTick : SimulationTick) (rider : RiderSnapshot) :
      CombatMove s (.resolveShot command authorityTick rider)
        (s.combat.validateShot B (TargetRegistry.range G) command authorityTick rider
          s.targets).2.1

variable {B G} {s : M3CombatAuthority}

theorem found_eq_ok {α : Type} {value : Option α} {error : M3CombatAuthorityError} {a : α}
    (h : found value error = .ok a) : value = some a := by
  cases value with
  | none => exact nomatch h
  | some b => exact congrArg some (Except.ok.inj h)

theorem routeHorse_ok {shot : AuthorityShot} {command : ShotCommand}
    {authorityTick : SimulationTick} {rider : RiderSnapshot} {targetId : EntityId}
    {answer : M3AuthorityShot × M3CombatAuthority}
    (h : s.routeHorse shot command authorityTick rider targetId = .ok answer) :
    answer.2.combat = s.combat ∧ answer.1.shot.result.outcome = shot.result.outcome := by
  unfold routeHorse at h
  obtain ⟨pose, -, h⟩ := bind_eq_ok h
  obtain ⟨next, -, h⟩ := bind_eq_ok h
  obtain ⟨routed, -, h⟩ := bind_eq_ok h
  obtain ⟨effects, -, h⟩ := bind_eq_ok h
  obtain ⟨actor, -, h⟩ := bind_eq_ok h
  obtain ⟨health, -, h⟩ := bind_eq_ok h
  split_ifs at h
  · exact nomatch h
  · obtain rfl := Except.ok.inj h
    exact ⟨rfl, rfl⟩

theorem creditShot_ok {shot : M3AuthorityShot} {command : ShotCommand}
    {authorityTick : SimulationTick} {rider : RiderSnapshot}
    {answer : M3AuthorityShot × M3CombatAuthority}
    (h : s.creditShot shot command authorityTick rider = .ok answer) :
    answer.2.combat = s.combat ∧ answer.1 = shot := by
  unfold creditShot at h
  split at h
  · obtain rfl := Except.ok.inj h
    exact ⟨rfl, rfl⟩
  · obtain ⟨credited, -, h⟩ := bind_eq_ok h
    obtain ⟨points, -, h⟩ := bind_eq_ok h
    obtain rfl := Except.ok.inj h
    exact ⟨rfl, rfl⟩

/-- A resolved shot leaves the rifles, and has the outcome, of its validation. -/
theorem tryResolveShot_ok {command : ShotCommand} {authorityTick : SimulationTick}
    {rider : RiderSnapshot} {answer : M3AuthorityShot × M3CombatAuthority}
    (h : s.tryResolveShot B G command authorityTick rider = .ok answer) :
    answer.2.combat = (s.combat.validateShot B (TargetRegistry.range G) command authorityTick rider
        s.targets).2.1
      ∧ answer.1.shot.result.outcome = (s.combat.validateShot B (TargetRegistry.range G) command
        authorityTick rider s.targets).1.result.outcome := by
  unfold tryResolveShot at h
  generalize s.combat.validateShot B (TargetRegistry.range G) command authorityTick rider
    s.targets = verdict at h ⊢
  obtain ⟨shot, combat, targets⟩ := verdict
  dsimp only at h ⊢
  split at h
  · obtain ⟨hcombat, hshot⟩ := creditShot_ok h
    exact ⟨hcombat, by rw [hshot]⟩
  · obtain ⟨routed, hrouted, h⟩ := bind_eq_ok h
    obtain ⟨hrouteCombat, houtcome⟩ := routeHorse_ok hrouted
    obtain ⟨hcombat, hshot⟩ := creditShot_ok h
    exact ⟨hcombat.trans hrouteCombat, by rw [hshot, houtcome]⟩

theorem combatMove_transact {α : Type} {call : M3CombatCall}
    {result : Except M3CombatAuthorityError (α × M3CombatAuthority)}
    (h : ∀ value candidate, result = .ok (value, candidate) →
      CombatMove B G s call candidate.combat) :
    CombatMove B G s call (s.transact result).2.combat := by
  unfold transact
  rcases hresult : result with error | ⟨value, candidate⟩
  · exact .same
  · exact h value candidate hresult

theorem combatMove_advanceActor (player : PlayerId) (input : ActorM3TickInput) :
    CombatMove B G s (.advanceActor player input)
      (s.transact (s.tryAdvanceActor player input)).2.combat := by
  refine combatMove_transact fun output candidate h => ?_
  unfold tryAdvanceActor at h
  obtain ⟨advanced, -, h⟩ := bind_eq_ok h
  obtain ⟨clock, -, h⟩ := bind_eq_ok h
  obtain ⟨kernel, hkernel, h⟩ := bind_eq_ok h
  obtain ⟨horseEntityId, -, h⟩ := bind_eq_ok h
  obtain ⟨actor, -, h⟩ := bind_eq_ok h
  obtain ⟨targets, -, h⟩ := bind_eq_ok h
  obtain ⟨-, rfl⟩ := Prod.mk.inj (Except.ok.inj h)
  exact .handled (found_eq_ok hkernel) (CombatKernel.sameTime_reloadKernel _ _ _ _)

theorem combatMove_refillRiderAmmo (player : PlayerId) :
    CombatMove B G s (.refillRiderAmmo player)
      (s.transact (s.tryRefillRiderAmmo player)).2.combat := by
  refine combatMove_transact fun ammo candidate h => ?_
  unfold tryRefillRiderAmmo at h
  obtain ⟨kernel, hkernel, h⟩ := bind_eq_ok h
  obtain ⟨-, rfl⟩ := Prod.mk.inj (Except.ok.inj h)
  exact .handled (found_eq_ok hkernel) ⟨rfl, rfl⟩

theorem combatMove_respawnRider (player : PlayerId) (tick : SimulationTick) :
    CombatMove B G s (.respawnRider player tick) (s.respawnRider player tick).2.combat := by
  rcases htry : s.tryRespawnRider player tick with error | candidate
  · have hrespawn : s.respawnRider player tick = (.error error, s) := by
      unfold respawnRider
      rw [htry]
      rfl
    rw [hrespawn]
    exact .same
  · have hrespawn : s.respawnRider player tick = (.ok (), candidate) := by
      unfold respawnRider
      rw [htry]
      rfl
    have haccepted := congrArg Prod.fst hrespawn
    rw [hrespawn]
    unfold tryRespawnRider at htry
    obtain ⟨riderEntity, -, h⟩ := bind_eq_ok htry
    obtain ⟨horseEntity, -, h⟩ := bind_eq_ok h
    obtain ⟨actors, -, h⟩ := bind_eq_ok h
    obtain ⟨kernel, hkernel, h⟩ := bind_eq_ok h
    rcases hkernel' : kernel.respawnAt tick with ⟨_ | _, kernel'⟩
    · rw [hkernel'] at h
      exact nomatch h
    · rw [hkernel'] at h
      obtain ⟨-, -, h⟩ := bind_eq_ok h
      obtain ⟨riders, -, h⟩ := bind_eq_ok h
      obtain ⟨targets, -, h⟩ := bind_eq_ok h
      obtain rfl := Except.ok.inj h
      exact .respawned (found_eq_ok hkernel) hkernel' haccepted

theorem combatMove_registerActor {player : PlayerId} {riderEntityId horseEntityId : EntityId}
    {horseClass : HorseVitalityClass} {weaponId : WeaponId} {targetTeam : TeamId}
    {candidate : M3CombatAuthority}
    (h : s.registerActor player riderEntityId horseEntityId horseClass weaponId targetTeam
      = some candidate) :
    candidate.combat = (s.combat.registerShooter player weaponId).2 := by
  unfold registerActor at h
  split_ifs at h
  obtain ⟨actors, -, h⟩ := Option.bind_eq_some_iff.mp h
  rcases hregister : s.combat.registerShooter player weaponId with ⟨_ | _, combat⟩
  · rw [hregister] at h
    exact nomatch h
  · rw [hregister] at h
    obtain ⟨riders, -, h⟩ := Option.bind_eq_some_iff.mp h
    obtain ⟨targets, -, h⟩ := Option.bind_eq_some_iff.mp h
    obtain rfl := Option.some.inj h
    rfl

/-- **The rifles move in five ways.** -/
theorem step_combat (s : M3CombatAuthority) (call : M3CombatCall) :
    CombatMove B G s call (step B G s call).2.combat := by
  cases call with
  | registerActor player riderEntityId horseEntityId horseClass weaponId targetTeam =>
    unfold step
    dsimp only
    cases h : s.registerActor player riderEntityId horseEntityId horseClass weaponId targetTeam with
    | none => exact .same
    | some candidate =>
      dsimp only
      rw [combatMove_registerActor h]
      exact .registered player weaponId
  | advanceActor player input => exact combatMove_advanceActor player input
  | issueSpurCredit player tick kind =>
    refine combatMove_transact fun points candidate h => ?_
    unfold tryIssueSpurCredit at h
    obtain ⟨credited, -, h⟩ := bind_eq_ok h
    obtain ⟨-, rfl⟩ := Prod.mk.inj (Except.ok.inj h)
    exact .same
  | refillRiderAmmo player => exact combatMove_refillRiderAmmo player
  | respawnRider player tick => exact combatMove_respawnRider player tick
  | recordHorsePose pose =>
    refine combatMove_transact fun _ candidate hmap => ?_
    obtain ⟨_, h, heq⟩ := map_eq_ok hmap
    obtain ⟨-, rfl⟩ := Prod.mk.inj heq
    unfold tryRecordHorsePose at h
    obtain ⟨horseEntityId, -, h⟩ := bind_eq_ok h
    obtain ⟨actor, -, h⟩ := bind_eq_ok h
    split_ifs at h
    · exact nomatch h
    · obtain ⟨targets, -, h⟩ := bind_eq_ok h
      obtain rfl := Except.ok.inj h
      exact .same
  | recordRiderPose player pose =>
    refine combatMove_transact fun _ candidate hmap => ?_
    obtain ⟨_, h, heq⟩ := map_eq_ok hmap
    obtain ⟨-, rfl⟩ := Prod.mk.inj heq
    unfold tryRecordRiderPose at h
    obtain ⟨expected, -, h⟩ := bind_eq_ok h
    by_cases hentity : pose.entityId ≠ expected
    · rw [if_pos hentity] at h
      exact nomatch h
    · rw [if_neg hentity] at h
      dsimp only at h
      split_ifs at h
      · exact nomatch h
      · obtain ⟨targets, -, h⟩ := bind_eq_ok h
        obtain rfl := Except.ok.inj h
        exact .same
  | resolveShot command authorityTick rider =>
    refine combatMove_transact fun shot candidate h => ?_
    obtain ⟨hcombat, -⟩ := tryResolveShot_ok h
    rw [hcombat]
    exact .shot command authorityTick rider

/-! ## Runs -/

def respawnOf (s : M3CombatAuthority) : M3CombatCall → List (PlayerId × SimulationTick)
  | .respawnRider player tick =>
    if (s.respawnRider player tick).1.isOk then [(player, tick)] else []
  | _ => []

variable (B G) in
def respawns (start : M3CombatAuthority) (calls : List M3CombatCall) :
    List (PlayerId × SimulationTick) :=
  Runs.history (step B G) respawnOf start calls

theorem timed_validateShot {respawns : List (PlayerId × SimulationTick)}
    (h : s.combat.Timed respawns) (command : ShotCommand) (authorityTick : SimulationTick)
    (rider : RiderSnapshot) :
    (s.combat.validateShot B (TargetRegistry.range G) command authorityTick rider
      s.targets).2.1.Timed respawns := by
  have hmove := CombatAuthority.validateShot_moves B (TargetRegistry.range G)
    (s.combat, s.targets) ⟨command, authorityTick, rider⟩
  unfold CombatAuthority.shotStep at hmove
  dsimp only at hmove
  generalize s.combat.validateShot B (TargetRegistry.range G) command authorityTick rider
    s.targets = verdict at hmove ⊢
  obtain ⟨shot, combat, targets⟩ := verdict
  dsimp only at hmove ⊢
  generalize shot.result.outcome = outcome at hmove
  cases hmove with
  | unseen => exact h
  | @refused shooter kernel _ known later advanced shooters ledger =>
    have htimed := h _ shooter known
    refine h.insert (htimed.command later ?_ ?_) shooters
    · rcases advanced with rfl | rfl
      · exact htimed.ashore
      · exact (shooter.kernel.advanceTo_frame _ _).1.trans htimed.ashore
    · rcases advanced with rfl | rfl
      · exact Or.inl rfl
      · exact shooter.kernel.advanceTo_clock _ _
  | @accepted _ shooter kernel prepared _ _ known later outcome_ne accepts shooters =>
    have htimed := h _ shooter known
    obtain ⟨dive, -, -, rfl⟩ := accepts.gated
    refine h.insert (htimed.command later ?_ ?_) shooters
    · exact CombatKernel.commitShot_ashore
        ((shooter.kernel.advanceTo_frame _ _).1.trans htimed.ashore) _ _
    · exact shooter.kernel.advanceTo_clock _ _

theorem timed_step {respawns : List (PlayerId × SimulationTick)} (h : s.combat.Timed respawns)
    (call : M3CombatCall) :
    (step B G s call).2.combat.Timed (respawns ++ s.respawnOf call) := by
  have hkept : s.combat.Timed (respawns ++ s.respawnOf call) := fun player shooter hshooter =>
    (h player shooter hshooter).mono (List.subset_append_left _ _)
  have hmove := step_combat (B := B) (G := G) s call
  generalize (step B G s call).2.combat = combat at hmove ⊢
  cases hmove with
  | same => exact hkept
  | registered player weaponId => exact hkept.registerShooter player weaponId
  | handled known time => exact hkept.sameTime known time
  | @respawned player tick kernel kernel' known respawned accepted =>
    refine hkept.setShooterKernel fun shooter hshooter => ?_
    unfold CombatKernel.respawnAt at respawned
    split_ifs at respawned
    · exact absurd (Prod.mk.inj respawned).1 Bool.false_ne_true
    · obtain ⟨-, rfl⟩ := Prod.mk.inj respawned
      refine ⟨rfl, Or.inr (Or.inr (List.mem_append_right _ ?_))⟩
      change _ ∈ if (s.respawnRider player tick).1.isOk then [(player, tick)] else []
      rw [accepted]
      exact List.mem_singleton.mpr rfl
  | shot command authorityTick rider => exact timed_validateShot hkept command authorityTick rider

theorem timed_restoreRows {targets : TargetRegistry}
    {riderEntities : ExtTreeMap PlayerId EntityId}
    {rows : List ((PlayerId × M3AuthorityActor) × M3ReloadCheckpoint)}
    {state state' : List EntityId × CombatAuthority × ExtTreeMap PlayerId M3ReloadClock}
    (h : restoreRows targets riderEntities rows state = some state') (hstate : state.2.1.Timed []) :
    state'.2.1.Timed [] := by
  induction rows generalizing state with
  | nil =>
    obtain rfl := Option.some.inj h
    exact hstate
  | cons row rows ih =>
    obtain ⟨⟨player, actor⟩, reload⟩ := row
    obtain ⟨next, hnext, hrest⟩ := Option.bind_eq_some_iff.mp h
    refine ih hrest ?_
    unfold restoreRow at hnext
    dsimp only at hnext
    obtain ⟨riderEntity, -, hnext⟩ := Option.bind_eq_some_iff.mp hnext
    obtain ⟨riderDefinition, -, hnext⟩ := Option.bind_eq_some_iff.mp hnext
    obtain ⟨horseDefinition, -, hnext⟩ := Option.bind_eq_some_iff.mp hnext
    obtain ⟨kernel, hkernel, hnext⟩ := Option.bind_eq_some_iff.mp hnext
    split at hnext
    · exact nomatch hnext
    · split at hnext
      · exact nomatch hnext
      · obtain rfl := Option.some.inj hnext
        exact hstate.sameTime hkernel (kernel.sameTime_restoreM3Reload reload.reload)

theorem Started.timed (h : Started s) : s.combat.Timed [] := by
  cases h with
  | @new tickRate lobbySeed authorityEpoch _ h =>
    unfold M3CombatAuthority.new at h
    obtain ⟨combat, hcombat, h⟩ := bind_eq_ok h
    have htimed := ((CombatAuthority.Assembled.new (found_eq_ok hcombat)).setAuthorityEpoch
      authorityEpoch).timed
    rcases hset : combat.setAuthorityEpoch authorityEpoch with ⟨_ | _, next⟩
    · rw [hset] at h
      exact nomatch h
    · rw [hset] at h htimed
      obtain ⟨-, -, h⟩ := bind_eq_ok h
      obtain ⟨targets, -, h⟩ := bind_eq_ok h
      obtain rfl := Except.ok.inj h
      exact htimed
  | restored assembled h =>
    unfold restoreComponents at h
    split_ifs at h
    obtain ⟨⟨seen, combat, reloadClocks⟩, hrows, rfl⟩ := Option.map_eq_some_iff.mp h
    exact timed_restoreRows hrows assembled.timed

theorem timed_run {start : M3CombatAuthority} (h : start.Started) (calls : List M3CombatCall) :
    (Runs.run (step B G) start calls).combat.Timed (respawns B G start calls) := by
  have hrun := @Runs.run_history _ _ _ _ (step B G) (fun _ _ => True) respawnOf
    (fun s respawns => s.combat.Timed respawns) (fun s history call _ hs => timed_step hs call)
    start [] h.timed calls (Runs.along_true start calls)
  rwa [List.nil_append] at hrun

/-! ## Qualified commands -/

/-- A command of a mounted rider that meets every documented condition of a shot. -/
structure Qualified (s : M3CombatAuthority) (shooter : AuthorityShooter) (command : ShotCommand)
    (authorityTick : SimulationTick) (rider : RiderSnapshot) : Prop where
  known : s.combat.shooters[command.shooterPeerId]? = some shooter
  sameShooter : rider.shooterPeerId = command.shooterPeerId
  sameTick : rider.tick = command.tick
  mounted : rider.riding.stance = .mounted
  consistent : rider.riding.isConsistent = true
  steady : rider.riding.stumbling = false
  notFuture : command.tick ≤ authorityTick
  recent : authorityTick - command.tick ≤ s.combat.rollbackTicks
  later : ∀ last ∈ shooter.lastCommandTick, last < command.tick
  weapon : command.weaponId = shooter.kernel.equipped
  direction : command.direction.isNormalized = true
  leash : command.origin.squaredDistanceMm rider.muzzleOrigin ≤ ORIGIN_LEASH_MM ^ 2
  seed : command.spreadSeed = shooter.kernel.nextSpreadSeed
  magazine : shooter.kernel.equippedAmmo.magazine ≠ 0
  noReload : shooter.kernel.reload = none
  cadence : ∀ last ∈ shooter.kernel.lastAcceptedTick,
    last.toNat + (shooter.kernel.equipped.stats.cadenceTicks shooter.kernel.tickRate).toNat
      ≤ command.tick.toNat

variable {shooter : AuthorityShooter} {command : ShotCommand} {authorityTick : SimulationTick}
  {rider : RiderSnapshot}

theorem Qualified.tickRefusal (h : s.Qualified shooter command authorityTick rider) :
    s.combat.tickRefusal shooter command authorityTick rider = none := by
  have hidentity : ¬(rider.shooterPeerId ≠ command.shooterPeerId ∨ rider.tick ≠ command.tick
      ∨ (!rider.riding.isConsistent) = true) := by
    rw [h.consistent]
    simp only [h.sameShooter, h.sameTick, ne_eq, not_true_eq_false, Bool.not_true,
      Bool.false_eq_true, or_false, not_false_eq_true]
  have hrecent : ¬(authorityTick.checkedSub command.tick).getD 0xffffffffffffffff
      > s.combat.rollbackTicks := by
    unfold UInt64.checkedSub
    rw [if_pos h.notFuture]
    exact UInt64.not_lt.mpr h.recent
  unfold CombatAuthority.tickRefusal
  rw [if_neg hidentity, if_neg (UInt64.not_lt.mpr h.notFuture), if_neg hrecent, if_neg]
  have hlater := h.later
  cases hlast : shooter.lastCommandTick with
  | none => exact Bool.false_ne_true
  | some last =>
    intro hreplay
    have hle : command.tick ≤ last := of_decide_eq_true hreplay
    exact absurd (hlater last hlast) (UInt64.not_lt.mpr hle)

theorem Qualified.commandRefusal (h : s.Qualified shooter command authorityTick rider) :
    CombatAuthority.commandRefusal shooter command rider = none := by
  unfold CombatAuthority.commandRefusal
  rw [h.direction, if_neg (not_not_intro h.weapon), if_neg (by decide), if_neg (not_lt.mpr h.leash)]

/-- A kernel whose clock is not past the command admits the shot exactly when it holds its rifle. -/
theorem Qualified.requestFire (h : s.Qualified shooter command authorityTick rider)
    (hspread : ∀ seed spread sway, (B.spreadDirection command.direction seed spread sway).isSome)
    (hashore : shooter.kernel.diveContext = none)
    (hclock : shooter.kernel.lastAdvancedTick ≤ command.tick) :
    (∃ prepared kernel, shooter.kernel.requestFireDetailed B command.tick command.direction
        rider.riding command.spreadSeed = (.ok prepared, kernel))
      ↔ shooter.kernel.holstered = false := by
  have hstance : rider.riding.stance ≠ .saddleDiveAirborne := by
    rw [h.mounted]
    decide
  have hcarries : rider.riding.stance.carriesMountedWeapon = true := by
    rw [h.mounted]
    rfl
  have hidle := CombatKernel.advanceTo_of_idle hclock hcarries h.noReload
  constructor
  · rintro ⟨prepared, kernel, hfired⟩
    rcases shooter.kernel.requestFireDetailed_cases B command.tick command.direction rider.riding
      command.spreadSeed with ⟨rejection, kernel', hrefused, -⟩ | ⟨prepared', kernel', -, haccepts⟩
    · rw [hrefused] at hfired
      exact nomatch (Prod.mk.inj hfired).1
    · have hdrawn := haccepts.ready.drawn
      rw [hidle] at hdrawn
      exact hdrawn
  · intro hdrawn
    have hgate : shooter.kernel.diveGate command.tick rider.riding = .ok none := by
      unfold CombatKernel.diveGate CombatKernel.hasOpenDiveContext
      rw [if_neg (UInt64.not_lt.mpr hclock), hashore, h.consistent, if_neg (by simp),
        if_neg hstance]
    have hseed := (shooter.kernel.sameShots_advanceTo command.tick rider.riding).nextSpreadSeed
    have hready : (shooter.kernel.advanceTo command.tick rider.riding).2.Ready command.tick
        command.direction rider.riding command.spreadSeed := by
      rw [hidle] at hseed ⊢
      refine ⟨h.direction, ?_, h.steady, hdrawn, h.noReload, ?_, h.magazine, ?_⟩
      · rw [h.mounted]
        rfl
      · exact CombatKernel.cadenceRefusal_eq_none_iff.mpr h.cadence
      · rw [hseed]
        exact h.seed
    obtain ⟨prepared, hfired⟩ := CombatKernel.requestFireDetailed_of_ready hspread hgate hclock hready
    exact ⟨prepared, _, hfired⟩

/-- Validation of a qualified command rejects it exactly when the rifle is holstered. -/
theorem Qualified.validateShot (h : s.Qualified shooter command authorityTick rider)
    (hspread : ∀ seed spread sway, (B.spreadDirection command.direction seed spread sway).isSome)
    (hashore : shooter.kernel.diveContext = none)
    (hclock : shooter.kernel.lastAdvancedTick ≤ command.tick) :
    (s.combat.validateShot B (TargetRegistry.range G) command authorityTick rider
        s.targets).1.result.outcome ≠ .reject ↔ shooter.kernel.holstered = false := by
  rw [← h.requestFire hspread hashore hclock]
  unfold CombatAuthority.validateShot
  rw [h.known]
  dsimp only
  rw [h.tickRefusal]
  dsimp only
  rw [h.commandRefusal]
  dsimp only
  rcases shooter.kernel.requestFireDetailed B command.tick command.direction rider.riding
    command.spreadSeed with ⟨rejection | prepared, kernel⟩
  · refine iff_of_false (fun hne => hne rfl) ?_
    rintro ⟨prepared, kernel', heq⟩
    exact nomatch (Prod.mk.inj heq).1
  · exact iff_of_true (CombatAuthority.resolveAccepted_result _ _ _).1 ⟨prepared, kernel, rfl⟩

/-- A rejected validation is answered as such. -/
theorem tryResolveShot_of_reject (h : (s.combat.validateShot B (TargetRegistry.range G) command
      authorityTick rider s.targets).1.result.outcome = .reject) :
    ∃ answer, s.tryResolveShot B G command authorityTick rider = .ok answer
      ∧ answer.1.shot.result.outcome = .reject := by
  unfold tryResolveShot
  generalize s.combat.validateShot B (TargetRegistry.range G) command authorityTick rider
    s.targets = verdict at h ⊢
  obtain ⟨shot, combat, targets⟩ := verdict
  dsimp only at h ⊢
  have hmiss : horseHit { s with combat, targets } shot = none := by
    unfold horseHit
    rw [h, if_neg (by decide)]
  have hkind : spurKind rider.riding.stance shot.result.outcome shot.result.eliminated = none := by
    rw [h]
    unfold spurKind
    split <;> first | rfl | contradiction
  rw [hmiss]
  dsimp only
  unfold creditShot
  rw [hkind]
  exact ⟨_, rfl, h⟩

def Rejects (answer : Except M3CombatAuthorityError M3AuthorityShot) : Prop :=
  ∃ shot, answer = .ok shot ∧ shot.shot.result.outcome = .reject

theorem rejects_resolveShot_iff : Rejects (s.resolveShot B G command authorityTick rider).1
    ↔ (s.combat.validateShot B (TargetRegistry.range G) command authorityTick rider
      s.targets).1.result.outcome = .reject := by
  unfold resolveShot transact
  constructor
  · rintro ⟨shot, hanswer, hreject⟩
    rcases hresolved : s.tryResolveShot B G command authorityTick rider with error | ⟨answer, next⟩
    · rw [hresolved] at hanswer
      exact nomatch hanswer
    · rw [hresolved] at hanswer
      obtain rfl := Except.ok.inj hanswer
      rw [← (tryResolveShot_ok hresolved).2]
      exact hreject
  · intro hreject
    obtain ⟨answer, hresolved, houtcome⟩ := tryResolveShot_of_reject hreject
    rw [hresolved]
    exact ⟨answer.1, rfl, houtcome⟩

end M3CombatAuthority

/-- **A mounted rifle is refused exactly while it is holstered.**  In every reached state, a
qualified command newer than the respawns of its shooter is rejected if and only if an earlier
command has left the rifle holstered. -/
theorem mounted_fire {B : Ballistics} {G : RayGeometry}
    (hspread : ∀ direction : QuantizedDirection, direction.isNormalized = true →
      ∀ seed spread sway, (B.spreadDirection direction seed spread sway).isSome)
    {start : M3CombatAuthority} (hstart : start.Started) (calls : List M3CombatCall)
    {shooter : AuthorityShooter} {command : ShotCommand} {authorityTick : SimulationTick}
    {rider : RiderSnapshot}
    (hqualified : (Runs.run (M3CombatAuthority.step B G) start calls).Qualified shooter command
      authorityTick rider)
    (hrespawns : ∀ tick,
      (command.shooterPeerId, tick) ∈ M3CombatAuthority.respawns B G start calls →
        tick < command.tick) :
    ¬M3CombatAuthority.Rejects
        ((Runs.run (M3CombatAuthority.step B G) start calls).resolveShot B G command authorityTick
          rider).1
      ↔ shooter.kernel.holstered = false := by
  have htimed := M3CombatAuthority.timed_run (B := B) (G := G) hstart calls _ shooter
    hqualified.known
  have hclock : shooter.kernel.lastAdvancedTick ≤ command.tick := by
    rcases htimed.clock with hzero | ⟨last, hlast, hle⟩ | hrespawn
    · rw [hzero]
      exact UInt64.le_iff_toNat_le.mpr (Nat.zero_le _)
    · exact UInt64.le_trans hle (UInt64.le_of_lt (hqualified.later last hlast))
    · exact UInt64.le_of_lt (hrespawns _ hrespawn)
  rw [M3CombatAuthority.rejects_resolveShot_iff]
  exact hqualified.validateShot (hspread command.direction hqualified.direction) htimed.ashore hclock

/-! ## A lone rider -/

namespace M3CombatAuthority

theorem sixty_ne_zero : (60 : UInt32) ≠ 0 := by decide

/-- A 60 Hz authority without actors. -/
def idleAuthority : M3CombatAuthority where
  combat := ⟨60, 0x1234, 7, ∅, .empty, sixty_ne_zero⟩
  targets := ⟨15, ∅⟩
  actors := .new 7
  riderEntities := ∅
  reloadClocks := ∅
  nextHorseDamageSequence := 1

theorem started_idleAuthority : idleAuthority.Started :=
  @Started.new 60 0x1234 7 idleAuthority rfl

def loneRider : PlayerId := .ofTail 1

def mountRider : M3CombatCall :=
  .registerActor loneRider 101 201 .courser .dustwalker 1

def forwardShot (tick : SimulationTick) : ShotCommand where
  tick
  shooterPeerId := loneRider
  weaponId := .dustwalker
  origin := ⟨0, 1000, 0⟩
  direction := ⟨0, 0, -1000000⟩
  spreadSeed := shotSpreadSeed 0x1234 loneRider 0
  claimedTarget := none

def riderAt (tick : SimulationTick) (stance : RiderStance) : RiderSnapshot where
  tick
  shooterPeerId := loneRider
  muzzleOrigin := ⟨0, 1000, 0⟩
  teamId := 1
  riding := { RidingState.standing with stance }

def noHits : RayGeometry := ⟨fun _ _ _ _ _ => none⟩

/-- A ray back along the third axis meets a body whose middle it goes through at its near side. -/
def straightAhead : RayGeometry where
  distanceMm geometry zone origin _ maximumDistanceMm :=
    let (center, radiusMm) := match geometry, zone with
      | .rider pose, .body => (pose.bodyCenter, pose.bodyRadiusMm)
      | .rider pose, .head => (pose.headCenter, pose.headRadiusMm)
      | .horse pose, .body => (pose.bodyCenter, pose.bodyRadiusMm)
      | .horse pose, .head => (pose.headCenter, pose.headRadiusMm)
    let distanceMm := (origin.z - center.z).toInt.toNat.toUInt32 - radiusMm.toUInt32
    if center.x = origin.x ∧ center.y = origin.y ∧ center.z < origin.z
      ∧ distanceMm ≤ maximumDistanceMm then some distanceMm else none

end M3CombatAuthority

namespace M3CombatAuthority

def Armed (shooter : AuthorityShooter) (tick : SimulationTick) : Prop :=
  shooter.lastCommandTick.all (· < tick) = true ∧ shooter.kernel.equipped = .dustwalker
    ∧ shooter.kernel.nextSpreadSeed = shotSpreadSeed 0x1234 loneRider 0
    ∧ shooter.kernel.equippedAmmo.magazine ≠ 0 ∧ shooter.kernel.reload = none
    ∧ shooter.kernel.lastAcceptedTick = none

instance (shooter : AuthorityShooter) (tick : SimulationTick) : Decidable (Armed shooter tick) :=
  inferInstanceAs (Decidable (_ ∧ _))

theorem qualified_forwardShot {s : M3CombatAuthority} {tick : SimulationTick}
    (h : (s.combat.shooters[loneRider]?).any (fun shooter => decide (Armed shooter tick)) = true) :
    ∃ shooter, s.Qualified shooter (forwardShot tick) tick (riderAt tick .mounted) := by
  obtain ⟨shooter, hknown, harmed⟩ := (Option.any_eq_true _ _).mp h
  obtain ⟨hlater, hweapon, hseed, hmagazine, hreload, haccepted⟩ := of_decide_eq_true harmed
  have hrecent : tick - (forwardShot tick).tick = 0 := UInt64.sub_self tick
  have hdirection : (⟨0, 0, -1000000⟩ : QuantizedDirection).isNormalized = true := by
    decide +kernel
  have hleash : (⟨0, 1000, 0⟩ : QuantizedOrigin).squaredDistanceMm ⟨0, 1000, 0⟩
      ≤ ORIGIN_LEASH_MM ^ 2 := by
    decide +kernel
  exact ⟨shooter, {
    known := hknown
    sameShooter := rfl
    sameTick := rfl
    mounted := rfl
    consistent := rfl
    steady := rfl
    notFuture := UInt64.le_refl tick
    recent := by
      rw [hrecent]
      exact UInt64.zero_le
    later := fun last hlast =>
      of_decide_eq_true ((Option.all_eq_true _ _).mp hlater last hlast)
    weapon := hweapon.symm
    direction := hdirection
    leash := hleash
    seed := hseed.symm
    magazine := hmagazine
    noReload := hreload
    cadence := by
      rw [haccepted]
      exact fun _ hlast => absurd hlast.symm (Option.some_ne_none _) }⟩

end M3CombatAuthority

open M3CombatAuthority CombatKernel

/-- The deflection of the first shot of the lone rider, as the code computes it. -/
def firstDeflection : Ballistics where
  swayWave _ _ _ := (0, 0)
  spreadDirection base seed _ _ :=
    some (if base = ⟨0, 0, -1000000⟩ ∧ seed = shotSpreadSeed 0x1234 loneRider 0 then
      ⟨1525, -5135, -999986⟩ else base)

/-- A shot under a wrong seed. -/
def missedSeed : List M3CombatCall :=
  [mountRider, .resolveShot { forwardShot 3 with spreadSeed := 0 } 3 (riderAt 3 .mounted)]

/-- It is refused and leaves the rifle in hand, so the next shot is not. -/
theorem mounted_fire_missedSeed :
    Rejects ((Runs.run (step firstDeflection noHits) idleAuthority [mountRider]).resolveShot
        firstDeflection noHits { forwardShot 3 with spreadSeed := 0 } 3 (riderAt 3 .mounted)).1
      ∧ ¬Rejects ((Runs.run (step firstDeflection noHits) idleAuthority missedSeed).resolveShot
        firstDeflection noHits (forwardShot 5) 5 (riderAt 5 .mounted)).1 := by
  obtain ⟨shooter, hqualified⟩ := @qualified_forwardShot
    (Runs.run (step firstDeflection noHits) idleAuthority missedSeed) 5 (by decide +kernel)
  have hnone : respawns firstDeflection noHits idleAuthority missedSeed = [] := by decide +kernel
  have hdrawn : ((Runs.run (step firstDeflection noHits) idleAuthority
      missedSeed).combat.shooters[loneRider]?).any
        (fun shooter => shooter.kernel.holstered == false) = true := by decide +kernel
  have hfires := mounted_fire (fun _ _ _ _ _ => rfl) started_idleAuthority missedSeed hqualified
    (by rw [hnone]; exact nofun)
  refine ⟨rejects_resolveShot_iff.mpr (by decide +kernel), hfires.mpr ?_⟩
  have hknown := hqualified.known
  change (Runs.run (step firstDeflection noHits) idleAuthority
    missedSeed).combat.shooters[loneRider]? = some shooter at hknown
  rw [hknown] at hdrawn
  exact beq_iff_eq.mp hdrawn

/-- An on-foot shot, refused as such, holsters the rifle for the remount. -/
theorem holstered_after_remount :
    ¬∀ (start : M3CombatAuthority) (calls : List M3CombatCall) (shooter : AuthorityShooter)
        (command : ShotCommand) (authorityTick : SimulationTick) (rider : RiderSnapshot),
      start.Started →
      (Runs.run (step steadyBallistics noHits) start calls).Qualified shooter command authorityTick
        rider →
      (∀ tick, (command.shooterPeerId, tick) ∈ respawns steadyBallistics noHits start calls →
        tick < command.tick) →
      ¬Rejects ((Runs.run (step steadyBallistics noHits) start calls).resolveShot steadyBallistics
        noHits command authorityTick rider).1 := by
  intro h
  set calls := [mountRider, .resolveShot (forwardShot 10) 10 (riderAt 10 .onFootStanding)]
    with hcalls
  obtain ⟨shooter, hqualified⟩ := @qualified_forwardShot
    (Runs.run (step steadyBallistics noHits) idleAuthority calls) 100 (by decide +kernel)
  refine h idleAuthority calls shooter (forwardShot 100) 100 (riderAt 100 .mounted)
    started_idleAuthority hqualified ?_ ?_
  · have hnone : respawns steadyBallistics noHits idleAuthority calls = [] := by decide +kernel
    rw [hnone]
    exact nofun
  · rw [rejects_resolveShot_iff]
    decide +kernel

end Spurfire
