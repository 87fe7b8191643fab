import Spurfire.Lib.Sha256
import Spurfire.Lib.TreeMap
import Spurfire.Net.Checkpoint
import Spurfire.Protocol.BountyRun
import Spurfire.Protocol.IpText
import Spurfire.Protocol.MountedFire

/-!
# Restoring a match from a checkpoint

`PeerSession::restore_m3_checkpoint` of `peer_session.rs`: a successor rebuilds the rifles, the
targets, the actors and the bounty match from the four planes of a signed checkpoint.

* `RidersRestored`, `HorsesRestored`: what the two target loops leave;
* `Restored`: the pair that an accepted checkpoint becomes, told by the checkpoint;
* `Playable`: what live play keeps between the planes, and what may become of each rider;
* **`restored_playable_iff`**: the checks pin the horses down, and leave health and ticks of the riders
  to the sender.
-/

namespace Spurfire

open Std (ExtTreeMap)
open Fallible

/-! ## The restored planes -/

/-- `u64::from_be_bytes` of the first eight bytes. -/
def digestPrefix (digest : Vector UInt8 32) : UInt64 :=
  UInt64.ofNat ((digest.toList.take 8).foldl (fun n byte => n * 256 + byte.toNat) 0)

def riderEntityId (playerId : PlayerId) : EntityId := digestPrefix (Sha256.digest playerId.asBytes)

def horseEntityId (playerId : PlayerId) : EntityId :=
  digestPrefix (Sha256.digest (textBytes "spurfire:m3:horse:" ++ playerId.asBytes))

/-- Riders of team one; shooters fire for team zero. -/
def riderTargetDefinition (playerId : PlayerId) : TargetDefinition where
  entityId := riderEntityId playerId
  ownerPeerId := some playerId
  teamId := 1
  maxHealth := 100

def restoreCombatRider (state : CombatAuthority × TargetRegistry) (rider : RiderCheckpoint) :
    Option (CombatAuthority × TargetRegistry) := do
  let weapon ← WeaponId.tryFrom? rider.weaponId
  let (restored, combat) := state.1.restoreShooter rider.riderPlayerId weapon
    ⟨rider.ammoMagazine, rider.ammoReserve⟩ rider.lastCommandTick rider.lastShotTick rider.shotIndex
  if !restored then none
  let targets ← (state.2.restore (riderTargetDefinition rider.riderPlayerId) rider.health).toOption
  return (combat, targets)

def restoreCombatRiders : List RiderCheckpoint → CombatAuthority × TargetRegistry →
    Option (CombatAuthority × TargetRegistry)
  | [], state => some state
  | rider :: riders, state => (restoreCombatRider state rider).bind (restoreCombatRiders riders)

def restoreCombatCheckpoint (checkpoint : MatchCheckpoint) (authorityEpoch : UInt64) :
    Option (CombatAuthority × TargetRegistry) := do
  let combat ← CombatAuthority.new 60 0
  let (newer, combat) := combat.setAuthorityEpoch authorityEpoch
  if !newer then none
  let targets ← (TargetRegistry.new 60).toOption
  restoreCombatRiders checkpoint.riders (combat, targets)

inductive M3AuthorityCheckpointError
  | wireVersionMismatch
  | authorityEpochMismatch
  | invalidState
deriving DecidableEq

namespace M3AuthorityBank

/-- The rows of `validate_checkpoint`: ascending players, distinct horses, valid actors. -/
def rowsAreValid : Option PlayerId → List EntityId → List M3AuthorityActorCheckpoint → Bool
  | _, _, [] => true
  | previousPlayer, horseEntities, row :: rows =>
    !(previousPlayer.any (row.riderPlayerId ≤ ·)
      || decide (row.horseEntityId ∈ horseEntities)
      || !(ActorGameplayKernel.restoreCheckpoint row.actor).isOk)
    && rowsAreValid (some row.riderPlayerId) (row.horseEntityId :: horseEntities) rows

def validateCheckpoint (c : M3AuthorityCheckpointV2) : Except M3AuthorityCheckpointError Unit :=
  if c.wireVersion ≠ M3_WIRE_VERSION then .error .wireVersionMismatch
  else if c.actors.length > MAX_M3_AUTHORITY_ACTORS ∨ !rowsAreValid none [] c.actors then
    .error .invalidState
  else .ok ()

def restoreActor (b : M3AuthorityBank) (row : M3AuthorityActorCheckpoint) :
    Except M3AuthorityCheckpointError M3AuthorityBank :=
  match ActorGameplayKernel.restoreCheckpoint row.actor with
  | .error _ => .error .invalidState
  | .ok actor => .ok { b with
      actors := b.actors.insert row.riderPlayerId ⟨row.horseEntityId, actor⟩
      horseOwners := b.horseOwners.insert row.horseEntityId row.riderPlayerId }

def restoreCheckpoint (c : M3AuthorityCheckpointV2) (nextAuthorityEpoch : UInt64) :
    Except M3AuthorityCheckpointError M3AuthorityBank := do
  validateCheckpoint c
  if c.sourceAuthorityEpoch.checkedAdd 1 ≠ some nextAuthorityEpoch then
    throw .authorityEpochMismatch
  c.actors.foldlM restoreActor (.new nextAuthorityEpoch)

end M3AuthorityBank

def restoreHorse (row : PlayerId × M3AuthorityActor)
    (state : TargetRegistry × ExtTreeMap PlayerId EntityId) :
    Option (TargetRegistry × ExtTreeMap PlayerId EntityId) := do
  if row.2.horseEntityId ≠ horseEntityId row.1 ∨ row.1 ∈ state.2 then none
  let targets ← (state.1.restore {
    entityId := row.2.horseEntityId
    ownerPeerId := some row.1
    teamId := 1
    maxHealth := row.2.actor.horse.horseClass.maxHealth } row.2.actor.horse.health).toOption
  return (targets, state.2.insert row.1 (riderEntityId row.1))

def restoreHorses : List (PlayerId × M3AuthorityActor) →
    TargetRegistry × ExtTreeMap PlayerId EntityId →
    Option (TargetRegistry × ExtTreeMap PlayerId EntityId)
  | [], state => some state
  | row :: rows, state => (restoreHorse row state).bind (restoreHorses rows)

/-- The reload row of a checkpoint, as the composed authority reads it. -/
def M3ReloadCheckpointV2.row (reload : M3ReloadCheckpointV2) : M3ReloadCheckpoint :=
  ⟨reload.riderPlayerId, reload.currentTick, reload.reloadHeld, reload.reload⟩

def restoreM3Checkpoint (checkpoint : M3MatchCheckpointV2) (authorityEpoch : UInt64) :
    Option (M3CombatAuthority × BountyMatchKernel) := do
  if !checkpoint.isBoundedAndCanonical
      || checkpoint.combat.sourceEpoch.checkedAdd 1 != some authorityEpoch then none
  let (combat, targets) ← restoreCombatCheckpoint checkpoint.combat authorityEpoch
  let actors ← (M3AuthorityBank.restoreCheckpoint checkpoint.gameplay authorityEpoch).toOption
  let (targets, riderEntities) ← restoreHorses actors.actors.toList (targets, ∅)
  let combat ← M3CombatAuthority.restoreComponents combat targets actors riderEntities
    (checkpoint.reloads.map (·.row)) checkpoint.nextHorseDamageSequence
  let bounty ←
    (BountyMatchKernel.restoreCheckpoint checkpoint.bounty authorityEpoch).toOption
  return (combat, bounty)

/-! ## The target loops -/

/-- A restored target is new, has its health, and leaves the others theirs. -/
theorem TargetRegistry.restore_health {t t' : TargetRegistry} {definition : TargetDefinition}
    {health : UInt16} (h : (t.restore definition health).toOption = some t') :
    t.health definition.entityId = none ∧ t'.health definition.entityId = some health
      ∧ ∀ entity kept, t.health entity = some kept → t'.health entity = some kept := by
  unfold TargetRegistry.restore at h
  split_ifs at h with hinvalid hduplicate
  · exact nomatch h
  · exact nomatch h
  obtain rfl := Option.some.inj h
  have hnone : t.health definition.entityId = none := by
    unfold TargetRegistry.health
    rw [ExtTreeMap.getElem?_eq_none hduplicate]
    rfl
  refine ⟨hnone, ?_, ?_⟩
  · unfold TargetRegistry.health
    rw [ExtTreeMap.getElem?_insert, if_pos Std.ReflCmp.compare_self]
    rfl
  · intro entity kept hkept
    have hne : compare definition.entityId entity ≠ .eq := by
      intro hcompare
      rw [← Std.LawfulEqCmp.eq_of_compare hcompare, hnone] at hkept
      exact nomatch hkept
    unfold TargetRegistry.health
    rw [ExtTreeMap.getElem?_insert, if_neg hne]
    exact hkept

/-- What the hand-over knows of the clocks of a shooter: its last command and its last shot. -/
def AuthorityShooter.lastTicks (shooter : AuthorityShooter) :
    Option SimulationTick × Option SimulationTick :=
  (shooter.lastCommandTick, shooter.kernel.lastAcceptedTick)

theorem CombatAuthority.restoreShooter_eq_true {a a' : CombatAuthority} {player : PlayerId}
    {weaponId : WeaponId} {ammo : WeaponAmmo} {command accepted : Option SimulationTick}
    {shotIndex : UInt64}
    (h : a.restoreShooter player weaponId ammo command accepted shotIndex = (true, a')) :
    ∃ shooter : AuthorityShooter, shooter.lastTicks = (command, accepted)
      ∧ a'.shooters = a.shooters.insert player shooter := by
  unfold CombatAuthority.restoreShooter at h
  dsimp only at h
  split_ifs at h
  · exact absurd (Prod.mk.inj h).1 Bool.false_ne_true
  · obtain rfl := (Prod.mk.inj h).2
    exact ⟨_, rfl, rfl⟩

/-- The rifles and targets of the riders so far. -/
structure RidersRestored (riders : List RiderCheckpoint)
    (state : CombatAuthority × TargetRegistry) : Prop where
  shooters : ∀ rider ∈ riders, ∃ shooter, state.1.shooters[rider.riderPlayerId]? = some shooter
    ∧ shooter.lastTicks = (rider.lastCommandTick, rider.lastShotTick)
  known : ∀ player ∈ state.1.shooters, ∃ rider ∈ riders, rider.riderPlayerId = player
  targets : ∀ rider ∈ riders, state.2.health (riderEntityId rider.riderPlayerId) = some rider.health

theorem restoreCombatRider_spec {riders : List RiderCheckpoint} {rider : RiderCheckpoint}
    {state state' : CombatAuthority × TargetRegistry} (h : RidersRestored riders state)
    (hrestore : restoreCombatRider state rider = some state') :
    RidersRestored (rider :: riders) state' := by
  unfold restoreCombatRider at hrestore
  obtain ⟨weapon, -, hrestore⟩ := Option.bind_eq_some_iff.mp hrestore
  rcases hshooter : state.1.restoreShooter rider.riderPlayerId weapon
    ⟨rider.ammoMagazine, rider.ammoReserve⟩ rider.lastCommandTick rider.lastShotTick
    rider.shotIndex with ⟨_ | _, combat⟩
  · rw [hshooter] at hrestore
    exact nomatch hrestore
  rw [hshooter] at hrestore
  obtain ⟨targets, htargets, hrestore⟩ := Option.bind_eq_some_iff.mp hrestore
  obtain rfl := Option.some.inj hrestore
  obtain ⟨shooter, hticks, hshooters⟩ := CombatAuthority.restoreShooter_eq_true hshooter
  obtain ⟨hnone, hhealth, hkept⟩ := TargetRegistry.restore_health htargets
  change state.2.health (riderEntityId rider.riderPlayerId) = none at hnone
  -- an earlier rider has another entity, and so is another player
  have hother : ∀ earlier ∈ riders, rider.riderPlayerId ≠ earlier.riderPlayerId := by
    intro earlier hearlier heq
    rw [heq, h.targets earlier hearlier] at hnone
    exact nomatch hnone
  refine ⟨?_, ?_, ?_⟩
  · intro row hrow
    rw [hshooters, ExtTreeMap.getElem?_insert]
    rcases List.mem_cons.mp hrow with rfl | hrow
    · exact ⟨shooter, if_pos Std.ReflCmp.compare_self, hticks⟩
    · have hne : compare rider.riderPlayerId row.riderPlayerId ≠ .eq := fun hcompare =>
        hother row hrow (Std.LawfulEqCmp.eq_of_compare hcompare)
      rw [if_neg hne]
      exact h.shooters row hrow
  · intro player hplayer
    rw [hshooters, ExtTreeMap.mem_insert] at hplayer
    rcases hplayer with hcompare | hplayer
    · exact ⟨rider, List.mem_cons_self, Std.LawfulEqCmp.eq_of_compare hcompare⟩
    · obtain ⟨row, hrow, heq⟩ := h.known player hplayer
      exact ⟨row, List.mem_cons_of_mem _ hrow, heq⟩
  · intro row hrow
    rcases List.mem_cons.mp hrow with rfl | hrow
    · exact hhealth
    · exact hkept _ _ (h.targets row hrow)

theorem restoreCombatRiders_spec {before riders : List RiderCheckpoint}
    {state state' : CombatAuthority × TargetRegistry} (h : RidersRestored before state)
    (hrestore : restoreCombatRiders riders state = some state') :
    RidersRestored (riders.reverse ++ before) state' := by
  induction riders generalizing before state with
  | nil =>
    obtain rfl := Option.some.inj hrestore
    exact h
  | cons rider riders ih =>
    obtain ⟨next, hnext, hrest⟩ := Option.bind_eq_some_iff.mp hrestore
    have hdone := ih (restoreCombatRider_spec h hnext) hrest
    rw [List.reverse_cons, List.append_assoc]
    exact hdone

theorem restoreCombatCheckpoint_spec {c : MatchCheckpoint} {epoch : UInt64}
    {state : CombatAuthority × TargetRegistry}
    (h : restoreCombatCheckpoint c epoch = some state) : RidersRestored c.riders state := by
  unfold restoreCombatCheckpoint at h
  obtain ⟨combat, hcombat, h⟩ := Option.bind_eq_some_iff.mp h
  rcases hset : combat.setAuthorityEpoch epoch with ⟨_ | _, next⟩
  · rw [hset] at h
    exact nomatch h
  rw [hset] at h
  change ((TargetRegistry.new 60).toOption.bind fun targets =>
    restoreCombatRiders c.riders (next, targets)) = some state at h
  obtain ⟨targets, htargets, h⟩ := Option.bind_eq_some_iff.mp h
  have hempty : next.shooters = ∅ := by
    unfold CombatAuthority.new at hcombat
    split_ifs at hcombat
    obtain rfl := Option.some.inj hcombat
    unfold CombatAuthority.setAuthorityEpoch at hset
    split_ifs at hset
    · exact absurd (Prod.mk.inj hset).1 Bool.false_ne_true
    · obtain rfl := (Prod.mk.inj hset).2
      rfl
  have hstart : RidersRestored [] (next, targets) := by
    refine ⟨List.forall_mem_nil _, ?_, List.forall_mem_nil _⟩
    intro player hplayer
    change player ∈ next.shooters at hplayer
    rw [hempty] at hplayer
    exact absurd hplayer ExtTreeMap.not_mem_empty
  have hdone := restoreCombatRiders_spec hstart h
  rw [List.append_nil] at hdone
  refine ⟨?_, ?_, ?_⟩
  · intro rider hrider
    exact hdone.shooters rider (List.mem_reverse.mpr hrider)
  · intro player hplayer
    obtain ⟨rider, hrider, heq⟩ := hdone.known player hplayer
    exact ⟨rider, List.mem_reverse.mp hrider, heq⟩
  · intro rider hrider
    exact hdone.targets rider (List.mem_reverse.mpr hrider)

/-- The horses so far, over the targets of the riders. -/
structure HorsesRestored (old : TargetRegistry) (rows : List (PlayerId × M3AuthorityActor))
    (state : TargetRegistry × ExtTreeMap PlayerId EntityId) : Prop where
  kept : ∀ entity health, old.health entity = some health → state.1.health entity = some health
  horses : ∀ row ∈ rows, old.health row.2.horseEntityId = none
    ∧ state.1.health row.2.horseEntityId = some row.2.actor.horse.health
  entities : ∀ player entity, state.2[player]? = some entity →
    entity = riderEntityId player ∧ ∃ row ∈ rows, row.1 = player

theorem restoreHorse_spec {old : TargetRegistry} {rows : List (PlayerId × M3AuthorityActor)}
    {row : PlayerId × M3AuthorityActor}
    {state state' : TargetRegistry × ExtTreeMap PlayerId EntityId}
    (h : HorsesRestored old rows state) (hrestore : restoreHorse row state = some state') :
    HorsesRestored old (row :: rows) state' := by
  unfold restoreHorse at hrestore
  split_ifs at hrestore with hrefused
  · exact nomatch hrestore
  obtain ⟨targets, htargets, hrestore⟩ := Option.bind_eq_some_iff.mp hrestore
  obtain rfl := Option.some.inj hrestore
  obtain ⟨hnone, hhealth, hkept⟩ := TargetRegistry.restore_health htargets
  dsimp only at hnone hhealth
  refine ⟨?_, ?_, ?_⟩
  · intro entity health hold
    exact hkept entity health (h.kept entity health hold)
  · intro other hother
    rcases List.mem_cons.mp hother with rfl | hother
    · refine ⟨?_, hhealth⟩
      cases hold : old.health other.2.horseEntityId with
      | none => rfl
      | some health =>
        rw [h.kept _ _ hold] at hnone
        exact nomatch hnone
    · exact ⟨(h.horses other hother).1, hkept _ _ (h.horses other hother).2⟩
  · intro player entity hentity
    rw [ExtTreeMap.getElem?_insert] at hentity
    split_ifs at hentity with hcompare
    · obtain rfl := Std.LawfulEqCmp.eq_of_compare hcompare
      exact ⟨(Option.some.inj hentity).symm, row, List.mem_cons_self, rfl⟩
    · obtain ⟨heq, other, hother, hplayer⟩ := h.entities player entity hentity
      exact ⟨heq, other, List.mem_cons_of_mem _ hother, hplayer⟩

theorem restoreHorses_spec {old : TargetRegistry} {before rows : List (PlayerId × M3AuthorityActor)}
    {state state' : TargetRegistry × ExtTreeMap PlayerId EntityId}
    (h : HorsesRestored old before state) (hrestore : restoreHorses rows state = some state') :
    HorsesRestored old (rows.reverse ++ before) state' := by
  induction rows generalizing before state with
  | nil =>
    obtain rfl := Option.some.inj hrestore
    exact h
  | cons row rows ih =>
    obtain ⟨next, hnext, hrest⟩ := Option.bind_eq_some_iff.mp hrestore
    have hdone := ih (restoreHorse_spec h hnext) hrest
    rw [List.reverse_cons, List.append_assoc]
    exact hdone

/-! ## Reassembly -/

theorem CombatKernel.restoreM3Reload_lastAcceptedTick (k : CombatKernel)
    (reload : Option ReloadSnapshot) :
    (k.restoreM3Reload reload).2.lastAcceptedTick = k.lastAcceptedTick := by
  unfold CombatKernel.restoreM3Reload
  dsimp only
  split_ifs <;> rfl

/-- The reloads leave the clocks of every shooter alone. -/
def SameTicks (a a' : CombatAuthority) : Prop :=
  ∀ player : PlayerId, (a'.shooters[player]?).map AuthorityShooter.lastTicks
    = (a.shooters[player]?).map AuthorityShooter.lastTicks

theorem SameTicks.mem_iff {a a' : CombatAuthority} (h : SameTicks a a') (player : PlayerId) :
    player ∈ a'.shooters ↔ player ∈ a.shooters := by
  have hsome := congrArg Option.isSome (h player)
  rw [Option.isSome_map, Option.isSome_map] at hsome
  rw [ExtTreeMap.mem_iff_isSome_getElem?, ExtTreeMap.mem_iff_isSome_getElem?, hsome]

theorem sameTicks_setShooterKernel {a : CombatAuthority} {player : PlayerId}
    {kernel kernel' : CombatKernel} (hknown : a.shooterKernel player = some kernel)
    (hsame : kernel'.lastAcceptedTick = kernel.lastAcceptedTick) :
    SameTicks a (a.setShooterKernel player kernel') := by
  intro other
  rw [CombatAuthority.getElem?_setShooterKernel]
  split_ifs with heq
  · subst heq
    unfold CombatAuthority.shooterKernel at hknown
    obtain ⟨shooter, hshooter, rfl⟩ := Option.map_eq_some_iff.mp hknown
    rw [hshooter]
    change some (shooter.lastCommandTick, kernel'.lastAcceptedTick)
      = some (shooter.lastCommandTick, shooter.kernel.lastAcceptedTick)
    rw [hsame]
  · rfl

namespace M3CombatAuthority

theorem restoreRow_spec {targets : TargetRegistry} {riderEntities : ExtTreeMap PlayerId EntityId}
    {player : PlayerId} {row : M3AuthorityActor} {reload : M3ReloadCheckpoint}
    {state state' : List EntityId × CombatAuthority × ExtTreeMap PlayerId M3ReloadClock}
    (h : restoreRow targets riderEntities player row reload state = some state') :
    SameTicks state.2.1 state'.2.1 ∧ player ∈ state.2.1.shooters ∧ player ∈ riderEntities := by
  unfold restoreRow at h
  dsimp only at h
  obtain ⟨riderEntity, hentity, h⟩ := Option.bind_eq_some_iff.mp h
  obtain ⟨riderDefinition, -, h⟩ := Option.bind_eq_some_iff.mp h
  obtain ⟨horseDefinition, -, h⟩ := Option.bind_eq_some_iff.mp h
  obtain ⟨kernel, hkernel, h⟩ := Option.bind_eq_some_iff.mp h
  have hshooter : player ∈ state.2.1.shooters := by
    unfold CombatAuthority.shooterKernel at hkernel
    obtain ⟨shooter, hshooter, -⟩ := Option.map_eq_some_iff.mp hkernel
    rw [ExtTreeMap.mem_iff_isSome_getElem?, hshooter]
    rfl
  have hrider : player ∈ riderEntities := by
    rw [ExtTreeMap.mem_iff_isSome_getElem?, hentity]
    rfl
  split at h
  · exact nomatch h
  · split at h
    · exact nomatch h
    · obtain rfl := Option.some.inj h
      exact ⟨sameTicks_setShooterKernel hkernel
        (kernel.restoreM3Reload_lastAcceptedTick reload.reload), hshooter, hrider⟩

theorem restoreRows_spec {targets : TargetRegistry} {riderEntities : ExtTreeMap PlayerId EntityId}
    {rows : List ((PlayerId × M3AuthorityActor) × M3ReloadCheckpoint)}
    {state state' : List EntityId × CombatAuthority × ExtTreeMap PlayerId M3ReloadClock}
    (h : restoreRows targets riderEntities rows state = some state') :
    SameTicks state.2.1 state'.2.1
      ∧ ∀ row ∈ rows, row.1.1 ∈ state.2.1.shooters ∧ row.1.1 ∈ riderEntities := by
  induction rows generalizing state with
  | nil =>
    obtain rfl := Option.some.inj h
    exact ⟨fun _ => rfl, List.forall_mem_nil _⟩
  | cons row rows ih =>
    obtain ⟨⟨player, actor⟩, reload⟩ := row
    obtain ⟨next, hnext, hrest⟩ := Option.bind_eq_some_iff.mp h
    obtain ⟨hticks, hshooter, hrider⟩ := restoreRow_spec hnext
    obtain ⟨hticksRest, hrows⟩ := ih hrest
    refine ⟨fun other => (hticksRest other).trans (hticks other), ?_⟩
    intro other hother
    rcases List.mem_cons.mp hother with rfl | hother
    · exact ⟨hshooter, hrider⟩
    · obtain ⟨hknown, hentered⟩ := hrows other hother
      exact ⟨(hticks.mem_iff _).mp hknown, hentered⟩

/-- A reassembled authority keeps its parts, and each of its actors has a rifle and an entity. -/
theorem restoreComponents_spec {combat : CombatAuthority} {targets : TargetRegistry}
    {actors : M3AuthorityBank} {riderEntities : ExtTreeMap PlayerId EntityId}
    {reloads : List M3ReloadCheckpoint} {nextHorseDamageSequence : UInt64} {s : M3CombatAuthority}
    (h : restoreComponents combat targets actors riderEntities reloads nextHorseDamageSequence
      = some s) :
    SameTicks combat s.combat ∧ s.targets = targets ∧ s.actors = actors
      ∧ s.riderEntities = riderEntities ∧ combat.shooters.size = actors.actors.size
      ∧ ∀ player ∈ actors.actors, player ∈ combat.shooters ∧ player ∈ riderEntities := by
  unfold restoreComponents at h
  split_ifs at h with hsizes
  obtain ⟨⟨seen, restored, reloadClocks⟩, hrows, rfl⟩ := Option.map_eq_some_iff.mp h
  simp only [not_or, ne_eq, not_not] at hsizes
  obtain ⟨-, -, -, hreloads, hshooters, -⟩ := hsizes
  obtain ⟨hticks, hknown⟩ := restoreRows_spec hrows
  refine ⟨hticks, rfl, rfl, rfl, hshooters, ?_⟩
  intro player hplayer
  rw [ExtTreeMap.mem_iff_isSome_getElem?, Option.isSome_iff_exists] at hplayer
  obtain ⟨row, hrow⟩ := hplayer
  -- as many reload rows as actors, so that no actor is left out of the walk
  have hlength : actors.actors.toList.length = reloads.length := by
    rw [ExtTreeMap.length_toList]
    exact hreloads
  have hmem := ExtTreeMap.mem_toList_iff_getElem?_eq_some.mpr hrow
  obtain ⟨i, hi, heq⟩ := List.mem_iff_getElem.mp hmem
  have hzip : i < (actors.actors.toList.zip reloads).length := by
    rw [List.length_zip]
    omega
  have hwalked := hknown _ (List.getElem_mem hzip)
  rw [List.getElem_zip, heq] at hwalked
  exact hwalked

end M3CombatAuthority

/-- **The restored pair**, told by the checkpoint. -/
structure Restored (c : M3MatchCheckpointV2) (m : M3CombatAuthority × BountyMatchKernel) : Prop where
  riders : ∀ rider ∈ c.combat.riders,
    m.1.riderEntities[rider.riderPlayerId]? = some (riderEntityId rider.riderPlayerId)
      ∧ m.1.targets.health (riderEntityId rider.riderPlayerId) = some rider.health
      ∧ (m.1.combat.shooters[rider.riderPlayerId]?).map AuthorityShooter.lastTicks
        = some (rider.lastCommandTick, rider.lastShotTick)
  entities : ∀ (player : PlayerId) (entity : EntityId), m.1.riderEntities[player]? = some entity →
    ∃ rider ∈ c.combat.riders, rider.riderPlayerId = player ∧ entity = riderEntityId player
  shooters : ∀ player ∈ m.1.combat.shooters, ∃ rider ∈ c.combat.riders, rider.riderPlayerId = player
  horses : ∀ (player : PlayerId) (row : M3AuthorityActor), m.1.actors.actors[player]? = some row →
    m.1.targets.health row.horseEntityId = some row.actor.horse.health
      ∧ ∀ rider ∈ c.combat.riders, row.horseEntityId ≠ riderEntityId rider.riderPlayerId
  bounty : m.2 = { c.bounty.matchState with authorityEpoch := m.2.authorityEpoch }

theorem restored_of_restoreM3Checkpoint {c : M3MatchCheckpointV2} {epoch : UInt64}
    {m : M3CombatAuthority × BountyMatchKernel} (h : restoreM3Checkpoint c epoch = some m) :
    c.isBoundedAndCanonical = true ∧ Restored c m := by
  unfold restoreM3Checkpoint at h
  split_ifs at h with hrefused
  · exact nomatch h
  rw [Bool.or_eq_true, not_or, Bool.not_eq_true', Bool.not_eq_false] at hrefused
  refine ⟨hrefused.1, ?_⟩
  obtain ⟨⟨combat, targets⟩, hcombat, h⟩ := Option.bind_eq_some_iff.mp h
  obtain ⟨actors, -, h⟩ := Option.bind_eq_some_iff.mp h
  obtain ⟨⟨targets', riderEntities⟩, hhorses, h⟩ := Option.bind_eq_some_iff.mp h
  obtain ⟨s, hs, h⟩ := Option.bind_eq_some_iff.mp h
  obtain ⟨bounty, hbounty, h⟩ := Option.bind_eq_some_iff.mp h
  obtain rfl := Option.some.inj h
  have hriders := restoreCombatCheckpoint_spec hcombat
  have hempty : HorsesRestored targets [] (targets, ∅) := by
    refine ⟨fun _ _ hhealth => hhealth, List.forall_mem_nil _, ?_⟩
    intro player entity hentity
    rw [ExtTreeMap.getElem?_empty] at hentity
    exact nomatch hentity
  have hrows := restoreHorses_spec hempty hhorses
  rw [List.append_nil] at hrows
  obtain ⟨hticks, htargets, hactors, hentities, hsize, hknown⟩ :=
    M3CombatAuthority.restoreComponents_spec hs
  -- the actors are all of the riders, because there are as many of them as of rifles
  have hactor : ∀ rider ∈ c.combat.riders, rider.riderPlayerId ∈ actors.actors := by
    intro rider hrider
    refine ExtTreeMap.mem_of_size_le (fun player hplayer => (hknown player hplayer).1) hsize.le ?_
    obtain ⟨shooter, hshooter, -⟩ := hriders.shooters rider hrider
    rw [ExtTreeMap.mem_iff_isSome_getElem?, hshooter]
    rfl
  refine ⟨?_, ?_, ?_, ?_, ?_⟩
  · intro rider hrider
    dsimp only
    rw [hentities, htargets]
    refine ⟨?_, hrows.kept _ _ (hriders.targets rider hrider), ?_⟩
    · have hentered := (hknown _ (hactor rider hrider)).2
      rw [ExtTreeMap.mem_iff_isSome_getElem?, Option.isSome_iff_exists] at hentered
      obtain ⟨entity, hentity⟩ := hentered
      rw [hentity, (hrows.entities _ _ hentity).1]
    · obtain ⟨shooter, hshooter, hlast⟩ := hriders.shooters rider hrider
      rw [hticks rider.riderPlayerId, hshooter, Option.map_some, hlast]
  · intro player entity hentity
    dsimp only at hentity
    rw [hentities] at hentity
    obtain ⟨heq, row, hrow, rfl⟩ := hrows.entities player entity hentity
    have hmem : row.1 ∈ actors.actors := by
      rw [ExtTreeMap.mem_iff_isSome_getElem?,
        ExtTreeMap.mem_toList_iff_getElem?_eq_some.mp (List.mem_reverse.mp hrow)]
      rfl
    obtain ⟨rider, hrider, hplayer⟩ := hriders.known _ (hknown _ hmem).1
    exact ⟨rider, hrider, hplayer, heq⟩
  · intro player hplayer
    exact hriders.known player ((hticks.mem_iff player).mp hplayer)
  · intro player row hrow
    dsimp only at hrow ⊢
    rw [hactors] at hrow
    have hmem := ExtTreeMap.mem_toList_iff_getElem?_eq_some.mpr hrow
    obtain ⟨hfresh, hhealth⟩ := hrows.horses _ (List.mem_reverse.mpr hmem)
    rw [htargets]
    refine ⟨hhealth, ?_⟩
    intro rider hrider heq
    dsimp only at hfresh
    rw [heq, hriders.targets rider hrider] at hfresh
    exact nomatch hfresh
  · unfold BountyMatchKernel.restoreCheckpoint at hbounty
    split_ifs at hbounty
    · exact nomatch hbounty
    · obtain rfl := Option.some.inj hbounty
      rfl

/-! ## After the restore -/

namespace M3CombatAuthority

def advanceActors (s : M3CombatAuthority) : List (PlayerId × ActorM3TickInput) →
    Except M3CombatAuthorityError M3CombatAuthority
  | [] => .ok s
  | (player, input) :: rest => do
    let (_, s) ← s.tryAdvanceActor player input
    s.advanceActors rest

/-- What the ticks of actors leave: the entities, and every target that is no horse. -/
structure RidersKept (s s' : M3CombatAuthority) : Prop where
  riderEntities : s'.riderEntities = s.riderEntities
  horses : ∀ player, s'.actors.horseEntityId player = s.actors.horseEntityId player
  targets : ∀ entity, (∀ player, s.actors.horseEntityId player ≠ some entity) →
    s'.targets.targets[entity]? = s.targets.targets[entity]?

theorem RidersKept.trans {s s' s'' : M3CombatAuthority} (h : RidersKept s s')
    (h' : RidersKept s' s'') : RidersKept s s'' := by
  refine ⟨h'.riderEntities.trans h.riderEntities,
    fun player => (h'.horses player).trans (h.horses player), ?_⟩
  intro entity hentity
  have hentity' : ∀ player, s'.actors.horseEntityId player ≠ some entity := by
    intro player
    rw [h.horses player]
    exact hentity player
  exact (h'.targets entity hentity').trans (h.targets entity hentity)

theorem horseEntityId_setActor (b : M3AuthorityBank) (player other : PlayerId)
    (actor : ActorGameplayKernel) :
    (b.setActor player actor).horseEntityId other = b.horseEntityId other := by
  unfold M3AuthorityBank.horseEntityId M3AuthorityBank.setActor
  rw [ExtTreeMap.getElem?_modify]
  split_ifs with heq
  · rw [Option.map_map, Std.LawfulEqCmp.eq_of_compare heq]
    rfl
  · rfl

theorem ridersKept_tryAdvanceActor {s s' : M3CombatAuthority} {player : PlayerId}
    {input : ActorM3TickInput} {output : ActorM3TickOutput}
    (h : s.tryAdvanceActor player input = .ok (output, s')) : RidersKept s s' := by
  unfold tryAdvanceActor at h
  obtain ⟨⟨output', actors⟩, hactors, h⟩ := bind_eq_ok h
  obtain ⟨clock, -, h⟩ := bind_eq_ok h
  obtain ⟨kernel, -, h⟩ := bind_eq_ok h
  obtain ⟨horseEntity, hhorse, h⟩ := bind_eq_ok h
  obtain ⟨actor, -, h⟩ := bind_eq_ok h
  obtain ⟨targets, htargets, h⟩ := bind_eq_ok h
  obtain ⟨-, rfl⟩ := Prod.mk.inj (Except.ok.inj h)
  have hhorses : ∀ other, actors.horseEntityId other = s.actors.horseEntityId other := by
    intro other
    unfold actorFailed at hactors
    unfold M3AuthorityBank.advanceActor at hactors
    split at hactors
    · exact nomatch hactors
    · split at hactors
      · exact nomatch hactors
      · exact nomatch hactors
      · obtain ⟨-, rfl⟩ := Prod.mk.inj (Except.ok.inj hactors)
        exact horseEntityId_setActor _ _ _ _
  refine ⟨rfl, hhorses, ?_⟩
  intro entity hentity
  have hne : horseEntity ≠ entity := by
    rintro rfl
    exact hentity player ((hhorses player).symm.trans (found_eq_ok hhorse))
  unfold targetFailed TargetRegistry.synchronizeHealth at htargets
  split at htargets
  · exact nomatch htargets
  · split_ifs at htargets
    · exact nomatch htargets
    · obtain rfl := Except.ok.inj htargets
      dsimp only
      rw [ExtTreeMap.getElem?_insert, if_neg fun hcompare =>
        hne (Std.LawfulEqCmp.eq_of_compare hcompare)]

theorem ridersKept_advanceActors {s s' : M3CombatAuthority}
    {inputs : List (PlayerId × ActorM3TickInput)} (h : s.advanceActors inputs = .ok s') :
    RidersKept s s' := by
  induction inputs generalizing s with
  | nil =>
    obtain rfl := Except.ok.inj h
    exact ⟨rfl, fun _ => rfl, fun _ _ => rfl⟩
  | cons input inputs ih =>
    obtain ⟨⟨output, next⟩, hnext, hrest⟩ := bind_eq_ok h
    exact (ridersKept_tryAdvanceActor hnext).trans (ih hrest)

end M3CombatAuthority

namespace BountyMatchKernel

/-! ### The clock brings a fallen rider back -/

theorem closeReveal_unscored (m : BountyMatchKernel) (tick : SimulationTick)
    (output : BountyMatchTickOutput) (id : PlayerId) :
    ((m.closeReveal tick output).2.players[id]?).map unscored
      = (m.players[id]?).map unscored := by
  unfold closeReveal
  split
  · rfl
  · dsimp only
    split_ifs
    · rfl
    · exact award_unscored _ _ _ _ _

theorem openReveal_players (m : BountyMatchKernel) (output : BountyMatchTickOutput) :
    (m.openReveal output).2.players = m.players := by
  unfold openReveal
  dsimp only
  cases m.winner <;> rfl

theorem revealRounds_unscored (tick : SimulationTick) (fuel : ℕ) (m : BountyMatchKernel)
    (output : BountyMatchTickOutput) (id : PlayerId) :
    ((revealRounds tick fuel m output).2.players[id]?).map unscored
      = (m.players[id]?).map unscored := by
  induction fuel generalizing m output with
  | zero => rfl
  | succ fuel ih =>
    unfold revealRounds
    dsimp only
    split_ifs
    · rw [ih, openReveal_players, closeReveal_unscored]
    · rfl

theorem closeObjective_players (m : BountyMatchKernel) (tick : SimulationTick)
    (output : BountyMatchTickOutput) : (m.closeObjective tick output).2.players = m.players := by
  unfold closeObjective
  split <;> rfl

theorem openObjective_players (m : BountyMatchKernel) (output : BountyMatchTickOutput) :
    (m.openObjective output).2.players = m.players := by
  unfold openObjective
  dsimp only

theorem objectiveRounds_players (tick : SimulationTick) (fuel : ℕ) (m : BountyMatchKernel)
    (output : BountyMatchTickOutput) :
    (objectiveRounds tick fuel m output).2.players = m.players := by
  induction fuel generalizing m output with
  | zero => rfl
  | succ fuel ih =>
    unfold objectiveRounds
    dsimp only
    split_ifs
    · rw [ih, openObjective_players, closeObjective_players]
    · rfl

/-- Apart from scores, a tick does to the rows what the clock does. -/
theorem advanceTick_unscored {m : BountyMatchKernel} {tick : SimulationTick}
    (h : m.currentTick < tick) (id : PlayerId) :
    ((m.advanceTick tick).2.players[id]?).map unscored
      = ((m.moveClock tick).players[id]?).map unscored := by
  unfold advanceTick
  rw [if_neg (UInt64.not_le.mpr h)]
  dsimp only
  have hfinish : ∀ (k : BountyMatchKernel) (output : BountyMatchTickOutput),
      (k.finish tick output).2.players = k.players := by
    intro k output
    unfold finish
    split_ifs <;> rfl
  rw [hfinish]
  unfold advanceObjectives
  dsimp only
  rw [closeObjective_players, objectiveRounds_players, closeObjective_players]
  unfold advanceReveals
  dsimp only
  rw [closeReveal_unscored, revealRounds_unscored]

/-- A row whose respawn is due comes back. -/
theorem alive_advanceTick {m : BountyMatchKernel} {tick due : SimulationTick} {id : PlayerId}
    {row : BountyPlayerState} (h : m.currentTick < tick) (hrow : m.players[id]? = some row)
    (hfallen : row.alive = false) (hrespawn : row.respawnAtTick = some due)
    (hdue : due ≤ min tick m.endTick) :
    ((m.advanceTick tick).2.players[id]?).any (·.alive) = true := by
  have hclock : (m.moveClock tick).players[id]?
      = some (row.advanceTo (min tick m.endTick)) := by
    unfold moveClock
    dsimp only
    rw [ExtTreeMap.getElem?_map, hrow]
    rfl
  have hrespawns : row.respawnsBy (min tick m.endTick) = true := by
    unfold BountyPlayerState.respawnsBy
    rw [hfallen, hrespawn, Option.any_some, Bool.not_false, Bool.true_and, decide_eq_true_eq]
    exact hdue
  have hback : (row.advanceTo (min tick m.endTick)).alive = true := by
    unfold BountyPlayerState.advanceTo
    rw [if_pos hrespawns]
    rfl
  have hunscored := advanceTick_unscored h id
  rw [hclock, Option.map_some] at hunscored
  obtain ⟨found, hfound, heq⟩ := Option.map_eq_some_iff.mp hunscored
  rw [hfound, Option.any_some]
  exact (congrArg BountyPlayerState.alive heq).trans hback

end BountyMatchKernel

/-! ## A playable match -/

/-- What may become of a rider: it stands and falls to enough damage, or it is down until its row
comes back. -/
inductive Fate (s : M3CombatAuthority) (bounty : BountyMatchKernel) (player : PlayerId)
    (entity : EntityId) : Prop
  | standing {health : UInt16} {row : BountyPlayerState}
      (hittable : s.targets.health entity = some health)
      (falls : (s.targets.applyDamage entity health).1.eliminated = true)
      (listed : bounty.players[player]? = some row) (alive : row.alive = true)
  | fallen {row : BountyPlayerState} {due : SimulationTick}
      (listed : bounty.players[player]? = some row) (scheduled : row.respawnAtTick = some due)
      (returns : ∀ tick, bounty.currentTick < tick → due ≤ min tick bounty.endTick →
        ((bounty.advanceTick tick).2.players[player]?).any (·.alive) = true)

/-- What live play keeps between the planes at a tick, and what it promises the riders. -/
structure Playable (tick : SimulationTick) (m : M3CombatAuthority × BountyMatchKernel) : Prop where
  vitality : ∀ (player : PlayerId) (entity : EntityId), m.1.riderEntities[player]? = some entity →
    ∃ health row, m.1.targets.health entity = some health ∧ m.2.players[player]? = some row
      ∧ (health = 0 ↔ row.alive = false)
  ticks : ∀ (player : PlayerId) (shooter : AuthorityShooter),
    m.1.combat.shooters[player]? = some shooter →
    (∀ last ∈ shooter.lastCommandTick, last ≤ tick)
      ∧ ∀ last ∈ shooter.kernel.lastAcceptedTick, last ≤ tick
  horses : ∀ (player : PlayerId) (row : M3AuthorityActor), m.1.actors.actors[player]? = some row →
    m.1.targets.health row.horseEntityId = some row.actor.horse.health
  fates : ∀ inputs s, m.1.advanceActors inputs = .ok s →
    ∀ (player : PlayerId) (entity : EntityId), s.riderEntities[player]? = some entity →
      Fate s m.2 player entity

namespace M3MatchCheckpointV2

/-- The combat plane agrees with the bounty plane on who is down, and knows no later command. -/
def RidersSettled (c : M3MatchCheckpointV2) : Prop :=
  ∀ rider ∈ c.combat.riders,
    (∃ row, c.bounty.matchState.players[rider.riderPlayerId]? = some row
      ∧ (rider.health = 0 ↔ row.alive = false))
    ∧ ∀ last ∈ rider.lastCommandTick, last ≤ c.combat.tick

theorem lastShotTick_le {c : M3MatchCheckpointV2} (h : c.isBoundedAndCanonical = true)
    {rider : RiderCheckpoint} (hrider : rider ∈ c.combat.riders) :
    ∀ shot ∈ rider.lastShotTick, ∃ command ∈ rider.lastCommandTick, shot ≤ command := by
  unfold isBoundedAndCanonical at h
  split_ifs at h with hguard
  simp only [Bool.or_eq_true, not_or, Bool.not_eq_true', Bool.not_eq_false] at hguard
  obtain ⟨⟨⟨⟨⟨-, hcombat⟩, -⟩, -⟩, -⟩, -⟩ := hguard
  unfold MatchCheckpoint.isBoundedAndCanonical at hcombat
  split_ifs at hcombat with hbounds
  simp only [Bool.or_eq_true, not_or, Bool.not_eq_true, List.any_eq_false, Bool.not_eq_false']
    at hbounds
  have hcanonical := hbounds.2 rider hrider
  unfold RiderCheckpoint.isCanonical at hcanonical
  simp only [Bool.not_eq_true', Bool.or_eq_false_iff] at hcanonical
  obtain ⟨⟨-, hcommand⟩, horder⟩ := hcanonical
  intro shot hshot
  rw [Option.mem_def] at hshot
  rw [hshot] at hcommand horder
  cases hlast : rider.lastCommandTick with
  | none =>
    rw [hlast] at hcommand
    exact nomatch hcommand
  | some command =>
    refine ⟨command, rfl, ?_⟩
    rw [hlast, Option.any_some, Option.any_some, decide_eq_false_iff_not] at horder
    exact UInt64.not_lt.mp horder

/-- In a canonical checkpoint a row is down exactly with a respawn ahead. -/
theorem respawn_of_fallen {c : M3MatchCheckpointV2} (h : c.isBoundedAndCanonical = true)
    {player : PlayerId} {row : BountyPlayerState}
    (hrow : c.bounty.matchState.players[player]? = some row) (hfallen : row.alive = false) :
    ∃ due, row.respawnAtTick = some due := by
  unfold isBoundedAndCanonical at h
  split_ifs at h with hguard
  simp only [Bool.or_eq_true, not_or, Bool.not_eq_true', Bool.not_eq_false] at hguard
  obtain ⟨⟨⟨⟨⟨⟨⟨-, hstate⟩, -⟩, -⟩, -⟩, -⟩, -⟩, -⟩ := hguard
  unfold BountyMatchKernel.stateIsValid at hstate
  split_ifs at hstate with hrows
  simp only [Bool.or_eq_true, not_or, Bool.not_eq_true, List.any_eq_false, Bool.not_eq_false']
    at hrows
  have hvalid := hrows.1.2 _ (ExtTreeMap.mem_toList_iff_getElem?_eq_some.mpr hrow)
  unfold BountyMatchKernel.playerRowIsValid at hvalid
  simp only [Bool.not_eq_true', Bool.or_eq_false_iff] at hvalid
  obtain ⟨⟨⟨⟨-, hscheduled⟩, -⟩, -⟩, -⟩ := hvalid
  rw [hfallen, beq_eq_false_iff_ne, ne_eq, eq_comm, Bool.not_eq_false] at hscheduled
  exact Option.isSome_iff_exists.mp hscheduled

end M3MatchCheckpointV2

open M3MatchCheckpointV2

theorem ridersSettled_of_playable {c : M3MatchCheckpointV2}
    {m : M3CombatAuthority × BountyMatchKernel} (h : Restored c m)
    (hplayable : Playable c.combat.tick m) : c.RidersSettled := by
  intro rider hrider
  obtain ⟨hentity, hhealth, hticks⟩ := h.riders rider hrider
  refine ⟨?_, ?_⟩
  · obtain ⟨health, row, hfound, hrow, hiff⟩ := hplayable.vitality _ _ hentity
    rw [hhealth] at hfound
    obtain rfl := Option.some.inj hfound
    refine ⟨row, ?_, hiff⟩
    rw [h.bounty] at hrow
    exact hrow
  · obtain ⟨shooter, hshooter, hlast⟩ := Option.map_eq_some_iff.mp hticks
    intro last hmem
    refine (hplayable.ticks _ _ hshooter).1 last ?_
    rw [show shooter.lastCommandTick = rider.lastCommandTick from congrArg Prod.fst hlast]
    exact hmem

/-- Damage of all that is left brings a target down. -/
theorem eliminated_applyDamage {t : TargetRegistry} {entity : EntityId} {health : UInt16}
    (h : t.health entity = some health) (hpositive : health ≠ 0) :
    (t.applyDamage entity health).1.eliminated = true := by
  unfold TargetRegistry.health at h
  obtain ⟨record, hrecord, rfl⟩ := Option.map_eq_some_iff.mp h
  unfold TargetRegistry.applyDamage
  rw [hrecord]
  have hgone : record.health.satSub record.health = 0 := by
    refine UInt16.toNat_inj.mp ?_
    rw [UInt16.toNat_satSub, Nat.sub_self]
    rfl
  dsimp only
  rw [hgone, Bool.and_eq_true, decide_eq_true_eq, decide_eq_true_eq]
  exact ⟨UInt16.pos_iff_ne_zero.mpr hpositive, rfl⟩

theorem playable_of_ridersSettled {c : M3MatchCheckpointV2}
    {m : M3CombatAuthority × BountyMatchKernel} (hcanonical : c.isBoundedAndCanonical = true)
    (h : Restored c m) (hsettled : c.RidersSettled) : Playable c.combat.tick m := by
  have hplayers : m.2.players = c.bounty.matchState.players := by
    rw [h.bounty]
  have hvitality : ∀ (player : PlayerId) (entity : EntityId),
      m.1.riderEntities[player]? = some entity → ∃ health row,
        m.1.targets.health entity = some health ∧ m.2.players[player]? = some row
          ∧ (health = 0 ↔ row.alive = false) := by
    intro player entity hentity
    obtain ⟨rider, hrider, rfl, rfl⟩ := h.entities player entity hentity
    obtain ⟨row, hrow, hiff⟩ := (hsettled rider hrider).1
    refine ⟨rider.health, row, (h.riders rider hrider).2.1, ?_, hiff⟩
    rw [hplayers]
    exact hrow
  refine ⟨hvitality, ?_, fun player row hrow => (h.horses player row hrow).1, ?_⟩
  · intro player shooter hshooter
    have hmem : player ∈ m.1.combat.shooters := by
      rw [ExtTreeMap.mem_iff_isSome_getElem?, hshooter]
      rfl
    obtain ⟨rider, hrider, rfl⟩ := h.shooters player hmem
    have hticks := (h.riders rider hrider).2.2
    rw [hshooter, Option.map_some] at hticks
    have hlast := Option.some.inj hticks
    have hcommand : shooter.lastCommandTick = rider.lastCommandTick := congrArg Prod.fst hlast
    have hshot : shooter.kernel.lastAcceptedTick = rider.lastShotTick := congrArg Prod.snd hlast
    rw [hcommand, hshot]
    refine ⟨(hsettled rider hrider).2, ?_⟩
    intro shot hmem
    obtain ⟨command, hlater, hle⟩ := lastShotTick_le hcanonical hrider shot hmem
    exact UInt64.le_trans hle ((hsettled rider hrider).2 command hlater)
  · intro inputs s hadvance player entity hentity
    have hkept := M3CombatAuthority.ridersKept_advanceActors hadvance
    rw [hkept.riderEntities] at hentity
    obtain ⟨health, row, hhealth, hrow, hiff⟩ := hvitality player entity hentity
    obtain ⟨rider, hrider, rfl, rfl⟩ := h.entities player entity hentity
    -- no horse of an actor has the entity of the rider
    have hapart : ∀ other, m.1.actors.horseEntityId other
        ≠ some (riderEntityId rider.riderPlayerId) := by
      intro other heq
      unfold M3AuthorityBank.horseEntityId at heq
      obtain ⟨actor, hactor, hhorse⟩ := Option.map_eq_some_iff.mp heq
      exact (h.horses other actor hactor).2 rider hrider hhorse
    by_cases halive : row.alive = true
    · have hpositive : health ≠ 0 := by
        intro hzero
        rw [hiff.mp hzero] at halive
        exact nomatch halive
      have hhittable : s.targets.health (riderEntityId rider.riderPlayerId) = some health := by
        unfold TargetRegistry.health at hhealth ⊢
        rw [hkept.targets _ hapart]
        exact hhealth
      exact .standing hhittable (eliminated_applyDamage hhittable hpositive) hrow halive
    · have hfallen : row.alive = false := Bool.eq_false_of_not_eq_true halive
      have hlisted : c.bounty.matchState.players[rider.riderPlayerId]? = some row := by
        rw [← hplayers]
        exact hrow
      obtain ⟨due, hdue⟩ := respawn_of_fallen hcanonical hlisted hfallen
      exact .fallen hrow hdue fun tick hlater hle =>
        BountyMatchKernel.alive_advanceTick hlater hrow hfallen hdue hle

/-- **The checks leave the riders to the sender**: a restored pair is playable exactly when the
checkpoint was settled. -/
theorem restored_playable_iff {c : M3MatchCheckpointV2} {authorityEpoch : UInt64}
    {m : M3CombatAuthority × BountyMatchKernel}
    (h : restoreM3Checkpoint c authorityEpoch = some m) :
    Playable c.combat.tick m ↔ c.RidersSettled := by
  obtain ⟨hcanonical, hrestored⟩ := restored_of_restoreM3Checkpoint h
  constructor
  · exact ridersSettled_of_playable hrestored
  · exact playable_of_ridersSettled hcanonical hrestored

/-! ### Two riders handed over at tick 10 -/

namespace M3MatchCheckpointV2

/-- A checkpoint at epoch 3 of two mounted riders. -/
def handedOver (riders : List RiderCheckpoint) : M3MatchCheckpointV2 :=
  { twoRiders [⟨firstRider, some 10, false, none⟩, ⟨secondRider, some 10, false, none⟩]
      [firstRider, secondRider] with
    combat := ⟨3, 10, riders, []⟩
    gameplay := ⟨M3_WIRE_VERSION, 3, [freshActor firstRider (horseEntityId firstRider),
      freshActor secondRider (horseEntityId secondRider)]⟩ }

end M3MatchCheckpointV2

theorem restored_playable_iff_two : ∃ m,
    restoreM3Checkpoint (handedOver [freshRider firstRider, freshRider secondRider]) 4 = some m
      ∧ (Playable 10 m
        ↔ (handedOver [freshRider firstRider, freshRider secondRider]).RidersSettled) := by
  have hsome : (restoreM3Checkpoint
      (handedOver [freshRider firstRider, freshRider secondRider]) 4).isSome = true := by
    decide +kernel
  obtain ⟨m, hm⟩ := Option.isSome_iff_exists.mp hsome
  exact ⟨m, hm, restored_playable_iff hm⟩

/-- The first rider without health although its row is alive, the second with its last command at
the end of time. -/
def unsettledRiders : List RiderCheckpoint :=
  [{ freshRider firstRider with health := 0 },
    { freshRider secondRider with lastCommandTick := some 0xffffffffffffffff }]

theorem unplayable_is_restored :
    ¬∀ (c : M3MatchCheckpointV2) (authorityEpoch : UInt64)
        (m : M3CombatAuthority × BountyMatchKernel),
      restoreM3Checkpoint c authorityEpoch = some m → Playable c.combat.tick m := by
  intro hclaim
  have hsome : (restoreM3Checkpoint (handedOver unsettledRiders) 4).isSome = true := by
    decide +kernel
  obtain ⟨m, hm⟩ := Option.isSome_iff_exists.mp hsome
  obtain ⟨-, hrestored⟩ := restored_of_restoreM3Checkpoint hm
  have hsettled := ridersSettled_of_playable hrestored (hclaim _ _ _ hm)
  obtain ⟨row, hrow, hiff⟩ := (hsettled _ List.mem_cons_self).1
  have hlisted : (handedOver unsettledRiders).bounty.matchState.players[firstRider]?
      = some (freshBountyRow firstRider) := by
    decide +kernel
  change (handedOver unsettledRiders).bounty.matchState.players[firstRider]? = some row at hrow
  rw [hlisted] at hrow
  obtain rfl := Option.some.inj hrow
  exact nomatch hiff.mp rfl

end Spurfire
