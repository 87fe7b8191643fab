import Spurfire.Lib.TreeMap
import Spurfire.Protocol.Falloff
import Spurfire.Protocol.MountedFire

/-!
# One roster in every part of the combat authority

The rifles, the rider targets, the horse targets, the actors and the reload clocks of an
`M3CombatAuthority` are five maps, and the health of a horse is kept twice.

* `M3CombatAuthority.Roster`: the maps name the same players, each with one rider and one horse;
* `M3CombatAuthority.Mirrored`: the registry knows the health of every horse;
* `M3CombatAuthority.SameRoster`: what every operation but a registration leaves;
* **`roster_along`**: both hold in every state that calls can reach.
-/

namespace Spurfire

open Std (ExtTreeMap)
open Fallible

/-! ## Horses -/

namespace HorseVitalityKernel

theorem horseClass_advanceTick (k : HorseVitalityKernel) (tick : SimulationTick) :
    (k.advanceTick tick).2.horseClass = k.horseClass := by
  unfold advanceTick
  split_ifs
  · rfl
  · rfl
  · dsimp only
    split
    · rfl
    · split_ifs <;> rfl

theorem horseClass_restoreReturnedHorse (k : HorseVitalityKernel) :
    k.restoreReturnedHorse.2.horseClass = k.horseClass := by
  unfold restoreReturnedHorse
  split_ifs <;> rfl

end HorseVitalityKernel

namespace ActorGameplayKernel

theorem horseClass_advanceTick (k : ActorGameplayKernel) (input : ActorM3TickInput) :
    (k.advanceTick input).2.horse.horseClass = k.horse.horseClass :=
  horse_of_advanceTick (P := fun horse => horse.horseClass = k.horse.horseClass)
    (fun horse tick h => (horse.horseClass_advanceTick tick).trans h)
    (fun horse h => horse.horseClass_restoreReturnedHorse.trans h) rfl input

theorem horseClass_applyHorseDamage (k : ActorGameplayKernel) (command : HorseDamageCommand) :
    (k.applyHorseDamage command).2.horse.horseClass = k.horse.horseClass := by
  rcases k.applyHorseDamage_cases command with heq | ⟨effects, k', heq, hdamaged⟩
  · rw [heq]
  · rw [heq]
    exact hdamaged.horse.horseClass

end ActorGameplayKernel

theorem WeaponId.damageAt_ne_zero (weapon : WeaponId) (distanceMm : UInt32) (zone : HitZone) :
    weapon.stats.damageAt distanceMm zone ≠ 0 := by
  have hfalls : weapon.stats.Falls := by cases weapon <;> exact ⟨by decide, by decide⟩
  have hleast : 0 < weapon.stats.minimumBodyDamage.toNat := by cases weapon <;> decide
  have hmultiplier : 1000 ≤ weapon.stats.headshotMultiplierMilli := by cases weapon <;> decide
  have hbody : 0 < (weapon.stats.damageAt distanceMm .body).toNat := by
    rw [WeaponStats.damageAt_body hfalls]
    exact hleast.trans_le (WeaponStats.interpolated_between hfalls (min_le_left _ _)).1
  have hhead := UInt16.le_iff_toNat_le.mp
    (WeaponStats.damageAt_body_le_head hmultiplier distanceMm)
  refine UInt16.pos_iff_ne_zero.mp (UInt16.lt_iff_toNat_lt.mpr ?_)
  cases zone with
  | body => exact hbody
  | head => exact hbody.trans_le hhead

/-! ## The bank -/

namespace M3AuthorityBank

variable {b b' : M3AuthorityBank} {player other : PlayerId}

def mount (b : M3AuthorityBank) (player : PlayerId) : Option (EntityId × HorseVitalityClass) :=
  b.actors[player]?.map fun row => (row.horseEntityId, row.actor.horse.horseClass)

theorem getElem?_setActor (b : M3AuthorityBank) (player other : PlayerId)
    (actor : ActorGameplayKernel) : (b.setActor player actor).actors[other]?
      = if other = player then b.actors[other]?.map fun row => { row with actor }
        else b.actors[other]? := by
  unfold setActor
  rw [ExtTreeMap.getElem?_modify]
  by_cases heq : other = player
  · subst heq
    rw [if_pos rfl, if_pos Std.ReflCmp.compare_self]
  · rw [if_neg heq, if_neg fun hcompare => heq (Std.LawfulEqCmp.eq_of_compare hcompare).symm]

/-- The bank with another kernel for one player, who keeps the class of the horse. -/
structure Rides (b b' : M3AuthorityBank) (player : PlayerId) (k k' : ActorGameplayKernel) :
    Prop where
  known : b.actor player = some k
  horseClass : k'.horse.horseClass = k.horse.horseClass
  bank : b' = b.setActor player k'

variable {k k' : ActorGameplayKernel}

theorem Rides.row (h : Rides b b' player k k') : ∃ row, b.actors[player]? = some row
    ∧ row.actor = k ∧ b'.actors[player]? = some { row with actor := k' } := by
  obtain ⟨row, hrow, rfl⟩ := Option.map_eq_some_iff.mp h.known
  refine ⟨row, hrow, rfl, ?_⟩
  rw [h.bank, getElem?_setActor, if_pos rfl, hrow]
  rfl

theorem Rides.others (h : Rides b b' player k k') (hne : other ≠ player) :
    b'.actors[other]? = b.actors[other]? := by
  rw [h.bank, getElem?_setActor, if_neg hne]

theorem Rides.mount (h : Rides b b' player k k') (other : PlayerId) :
    b'.mount other = b.mount other := by
  unfold M3AuthorityBank.mount
  by_cases heq : other = player
  · subst heq
    obtain ⟨row, hrow, rfl, hrow'⟩ := h.row
    rw [hrow', hrow, Option.map_some, Option.map_some, h.horseClass]
  · rw [h.others heq]

theorem Rides.owners (h : Rides b b' player k k') : b'.horseOwners = b.horseOwners := by
  rw [h.bank]
  rfl

theorem Rides.actor (h : Rides b b' player k k') : b'.actor player = some k' := by
  obtain ⟨row, -, -, hrow'⟩ := h.row
  unfold M3AuthorityBank.actor
  rw [hrow']
  rfl

theorem rides_respawnActor (h : b.respawnActor player = some b') :
    ∃ k, Rides b b' player k k.respawn := by
  obtain ⟨k, hk, rfl⟩ := Option.map_eq_some_iff.mp h
  exact ⟨k, hk, rfl, rfl⟩

theorem rides_advanceActor {input : ActorM3TickInput} {output : ActorM3TickOutput}
    (h : b.advanceActor player input = .ok (output, b')) : ∃ k k', Rides b b' player k k' := by
  unfold advanceActor at h
  split at h
  · cases h
  · rename_i k hk
    have hclass := k.horseClass_advanceTick input
    split at h
    · cases h
    · cases h
    · rename_i heq
      rw [heq] at hclass
      obtain ⟨-, rfl⟩ := Prod.mk.inj (Except.ok.inj h)
      exact ⟨k, _, hk, hclass, rfl⟩

theorem rides_issueSpurCredit {tick : SimulationTick} {kind : SpurCreditKind}
    {points : Option UInt8} (h : b.issueSpurCredit player tick kind = .ok (points, b')) :
    ∃ k k', Rides b b' player k k' ∧ k'.horse = k.horse := by
  unfold issueSpurCredit at h
  split at h
  · cases h
  · rename_i k hk
    obtain ⟨-, rfl⟩ := Prod.mk.inj (Except.ok.inj h)
    exact ⟨k, (k.issueSpurCredit b.authorityEpoch tick kind).2, ⟨hk, rfl, rfl⟩, rfl⟩

/-- Routed damage moves the actor of the owner. -/
theorem rides_applyHorseDamage {entity : EntityId} {command : HorseDamageCommand}
    {routed : M3AuthorityHorseDamage}
    (h : b.applyHorseDamage entity command = .ok (some routed, b')) :
    b.horseOwner entity = some routed.riderPlayerId
      ∧ ∃ k k', Rides b b' routed.riderPlayerId k k' := by
  unfold applyHorseDamage at h
  split_ifs at h
  split at h
  · cases h
  · rename_i owner howner
    split at h
    · cases h
    · rename_i k hk
      have hclass := k.horseClass_applyHorseDamage command
      obtain ⟨hrouted, rfl⟩ := Prod.mk.inj (Except.ok.inj h)
      obtain ⟨effects, -, rfl⟩ := Option.map_eq_some_iff.mp hrouted
      exact ⟨howner, k, _, hk, hclass, rfl⟩

end M3AuthorityBank

/-! ## The registry -/

namespace TargetRegistry

variable {t t' : TargetRegistry} {entity other : EntityId}

/-- The registry with another health of one target. -/
structure Rehealed (t t' : TargetRegistry) (entity : EntityId) (health : UInt16) : Prop where
  definition : ∀ other, t'.definition other = t.definition other
  health : t'.health entity = some health
  others : ∀ other, other ≠ entity → t'.health other = t.health other

theorem rehealed_insert {record record' : TargetRecord} (hknown : t.targets[entity]? = some record)
    (hdefinition : record'.definition = record.definition) :
    Rehealed t { t with targets := t.targets.insert entity record' } entity record'.health := by
  refine ⟨fun other => ?_, ?_, fun other hne => ?_⟩
  · unfold TargetRegistry.definition
    dsimp only
    rw [ExtTreeMap.getElem?_insert]
    split_ifs with hcompare
    · obtain rfl := Std.LawfulEqCmp.eq_of_compare hcompare
      rw [hknown, Option.map_some, Option.map_some, hdefinition]
    · rfl
  · unfold TargetRegistry.health
    dsimp only
    rw [ExtTreeMap.getElem?_insert_self]
    rfl
  · unfold TargetRegistry.health
    dsimp only
    rw [ExtTreeMap.getElem?_insert,
      if_neg fun hcompare => hne (Std.LawfulEqCmp.eq_of_compare hcompare).symm]

theorem rehealed_synchronizeHealth {health : UInt16}
    (h : t.synchronizeHealth entity health = .ok t') : Rehealed t t' entity health := by
  unfold synchronizeHealth at h
  split at h
  · cases h
  · rename_i record hrecord
    split_ifs at h
    obtain rfl := Except.ok.inj h
    exact rehealed_insert hrecord rfl

theorem rehealed_respawn (h : t.respawn entity = .ok t') :
    ∃ definition, t.definition entity = some definition
      ∧ Rehealed t t' entity definition.maxHealth := by
  unfold respawn at h
  split at h
  · cases h
  · rename_i record hrecord
    obtain rfl := Except.ok.inj h
    refine ⟨record.definition, ?_, rehealed_insert hrecord rfl⟩
    unfold TargetRegistry.definition
    rw [hrecord]
    rfl

theorem rehealed_pushGeometry {geometry : TargetGeometrySnapshot}
    (h : t.pushGeometry entity geometry = .ok t') :
    ∃ health, t.health entity = some health ∧ Rehealed t t' entity health := by
  unfold pushGeometry at h
  split at h
  · cases h
  · rename_i record hrecord
    obtain ⟨record', hpushed, rfl⟩ := map_eq_ok h
    have hsame : record'.definition = record.definition ∧ record'.health = record.health := by
      unfold TargetRecord.pushGeometry at hpushed
      split_ifs at hpushed
      obtain rfl := Except.ok.inj hpushed
      exact ⟨rfl, rfl⟩
    refine ⟨record'.health, ?_, rehealed_insert hrecord hsame.1⟩
    unfold TargetRegistry.health
    rw [hrecord, Option.map_some, hsame.2]

theorem rehealed_applyDamage {record : TargetRecord} (hknown : t.targets[entity]? = some record)
    (damage : UInt16) :
    Rehealed t (t.applyDamage entity damage).2 entity (record.health.satSub damage) := by
  unfold applyDamage
  rw [hknown]
  exact rehealed_insert hknown rfl

theorem register_ok {definition : TargetDefinition} (h : t.register definition = .ok t') :
    t.definition definition.entityId = none
      ∧ (∀ entity, t'.definition entity
        = if entity = definition.entityId then some definition else t.definition entity)
      ∧ ∀ entity, t'.health entity
        = if entity = definition.entityId then some definition.maxHealth else t.health entity := by
  unfold register restore at h
  split_ifs at h with hinvalid hknown
  obtain rfl := Except.ok.inj h
  refine ⟨?_, fun entity => ?_, fun entity => ?_⟩
  · unfold TargetRegistry.definition
    rw [ExtTreeMap.getElem?_eq_none hknown]
    rfl
  · unfold TargetRegistry.definition
    rw [ExtTreeMap.getElem?_insert_eq_ite]
    split_ifs <;> rfl
  · unfold TargetRegistry.health
    rw [ExtTreeMap.getElem?_insert_eq_ite]
    split_ifs <;> rfl

end TargetRegistry

/-! ## What a shot does to the targets -/

namespace TargetRegistry

/-- The hit of a validated shot: a living target of another player. -/
structure Struck (t t' : TargetRegistry) (shooter : PlayerId) (shot : AuthorityShot)
    (entity : EntityId) : Prop where
  outcome : shot.result.outcome = .hit
  targetId : shot.result.targetId = some entity
  victim : ∃ record ∈ t.targets.values, record.definition.entityId = entity ∧ record.health ≠ 0
    ∧ record.definition.ownerPeerId ≠ some shooter
  damage : shot.result.damage ≠ 0
  targets : t' = (t.applyDamage entity shot.result.damage).2
  eliminated : shot.result.eliminated = (t.applyDamage entity shot.result.damage).1.eliminated

theorem nearestHit_mem {G : RayGeometry} {t : TargetRegistry} {tick : SimulationTick}
    {origin : QuantizedOrigin} {direction : QuantizedDirection} {maximumDistanceMm : UInt32}
    {shooter : PlayerId} {team : TeamId} {hit : ResolvedTargetHit}
    (h : t.nearestHit G tick origin direction maximumDistanceMm shooter team = some hit) :
    ∃ record ∈ t.targets.values, record.definition.entityId = hit.targetId ∧ record.health ≠ 0
      ∧ record.definition.ownerPeerId ≠ some shooter := by
  have hmem : ∀ (hits : List ResolvedTargetHit) (nearest : Option ResolvedTargetHit),
      hits.foldl (fun nearest hit => if nearest.all hit.precedes then some hit else nearest) nearest
        = some hit → hit ∈ hits ∨ nearest = some hit := by
    intro hits
    induction hits with
    | nil => exact fun nearest hnearest => .inr hnearest
    | cons first rest ih =>
      intro nearest hnearest
      obtain hrest | hfirst := ih _ hnearest
      · exact .inl (List.mem_cons_of_mem _ hrest)
      · dsimp only at hfirst
        split_ifs at hfirst
        · exact .inl (by rw [Option.some.inj hfirst]; exact List.mem_cons_self)
        · exact .inr hfirst
  unfold nearestHit at h
  obtain hhit | hnone := hmem _ _ h
  · obtain ⟨record, hrecord, hcandidate⟩ := List.mem_flatMap.mp hhit
    refine ⟨record, hrecord, ?_⟩
    unfold candidates at hcandidate
    split_ifs at hcandidate with hspared
    · cases hcandidate
    · rw [not_or, not_or] at hspared
      split at hcandidate
      · cases hcandidate
      · split_ifs at hcandidate
        · cases hcandidate
        · obtain ⟨zone, -, hzone⟩ := List.mem_filterMap.mp hcandidate
          obtain ⟨distance, -, rfl⟩ := Option.map_eq_some_iff.mp hzone
          exact ⟨rfl, hspared.1, hspared.2.1⟩
  · cases hnone

/-- A validated shot spares every target, or strikes one. -/
theorem validateShot_targets (B : Ballistics) (G : RayGeometry) (a : CombatAuthority)
    (command : ShotCommand) (authorityTick : SimulationTick) (rider : RiderSnapshot)
    (t : TargetRegistry) :
    let answer := a.validateShot B (range G) command authorityTick rider t
    answer.2.2 = t ∧ answer.1.result.outcome ≠ .hit ∧ answer.1.result.eliminated = false
      ∨ ∃ entity, Struck t answer.2.2 command.shooterPeerId answer.1 entity := by
  dsimp only
  unfold CombatAuthority.validateShot
  have hreject : ∀ (weapon : WeaponId) (ammo : WeaponAmmo) (rejection : FireRejection)
      (riding : RidingState) (rate : UInt32),
      (rejectedAuthorityShot B command weapon ammo riding rate
        rejection).result.outcome ≠ .hit
      ∧ (rejectedAuthorityShot B command weapon ammo riding rate
        rejection).result.eliminated = false := fun _ _ _ _ _ => ⟨(nomatch ·), rfl⟩
  split
  · exact .inl ⟨rfl, hreject _ _ _ _ _⟩
  · dsimp only
    split
    · exact .inl ⟨rfl, hreject _ _ _ _ _⟩
    · split
      · exact .inl ⟨rfl, hreject _ _ _ _ _⟩
      · split
        · exact .inl ⟨rfl, hreject _ _ _ _ _⟩
        · rename_i prepared kernel heq
          unfold CombatAuthority.resolveAccepted
          dsimp only [range]
          cases hhit : t.nearestHit G command.tick command.origin prepared.resolvedDirection
              prepared.weaponId.stats.hitscanClampMm command.shooterPeerId rider.teamId with
          | none => exact .inl ⟨rfl, by decide, rfl⟩
          | some hit =>
            exact .inr ⟨hit.targetId, rfl, rfl, nearestHit_mem hhit,
              WeaponId.damageAt_ne_zero _ hit.distanceMm hit.hitZone, rfl, rfl⟩

end TargetRegistry

/-! ## The roster -/

namespace M3CombatAuthority

/-- Every part of the authority names the same players, each with one rider and one horse. -/
structure Roster (s : M3CombatAuthority) : Prop where
  shooters : ∀ player, player ∈ s.combat.shooters ↔ player ∈ s.riderEntities
  actors : ∀ player, player ∈ s.actors.actors ↔ player ∈ s.riderEntities
  clocks : ∀ player, player ∈ s.reloadClocks ↔ player ∈ s.riderEntities
  riders : ∀ (player : PlayerId) (entity : EntityId), s.riderEntities[player]? = some entity →
    ∃ definition, s.targets.definition entity = some definition
      ∧ definition.ownerPeerId = some player ∧ definition.maxHealth = M3_RIDER_MAX_HEALTH
  horses : ∀ player entity horseClass, s.actors.mount player = some (entity, horseClass) →
    s.actors.horseOwners[entity]? = some player
      ∧ ∃ definition, s.targets.definition entity = some definition
        ∧ definition.ownerPeerId = some player ∧ definition.maxHealth = horseClass.maxHealth
  owned : ∀ (entity : EntityId) (player : PlayerId), s.actors.horseOwners[entity]? = some player →
    ∃ horseClass, s.actors.mount player = some (entity, horseClass)
  apart : ∀ (player : PlayerId) (entity : EntityId), s.riderEntities[player]? = some entity →
    entity ∉ s.actors.horseOwners
  targets : ∀ entity definition, s.targets.definition entity = some definition →
    definition.entityId = entity
      ∧ ((∃ player : PlayerId, s.riderEntities[player]? = some entity)
        ∨ entity ∈ s.actors.horseOwners)

/-- The registry knows the health of every horse. -/
def Mirrored (s : M3CombatAuthority) : Prop :=
  ∀ (player : PlayerId) (row : M3AuthorityActor), s.actors.actors[player]? = some row →
    s.targets.health row.horseEntityId = some row.actor.horse.health

/-- The same players, with the same riders and horses. -/
structure SameRoster (s s' : M3CombatAuthority) : Prop where
  riderEntities : s'.riderEntities = s.riderEntities
  shooters : ∀ player, player ∈ s'.combat.shooters ↔ player ∈ s.combat.shooters
  clocks : ∀ player, player ∈ s'.reloadClocks ↔ player ∈ s.reloadClocks
  owners : s'.actors.horseOwners = s.actors.horseOwners
  mounts : ∀ player, s'.actors.mount player = s.actors.mount player
  definitions : ∀ entity, s'.targets.definition entity = s.targets.definition entity

variable {s s' s'' : M3CombatAuthority} {player : PlayerId}

theorem mem_actors_iff (b : M3AuthorityBank) (player : PlayerId) :
    player ∈ b.actors ↔ (b.mount player).isSome = true := by
  unfold M3AuthorityBank.mount
  rw [Option.isSome_map, ExtTreeMap.isSome_getElem?_iff_mem]

theorem SameRoster.refl (s : M3CombatAuthority) : SameRoster s s :=
  ⟨rfl, fun _ => .rfl, fun _ => .rfl, rfl, fun _ => rfl, fun _ => rfl⟩

theorem SameRoster.trans (h : SameRoster s s') (h' : SameRoster s' s'') : SameRoster s s'' where
  riderEntities := h'.riderEntities.trans h.riderEntities
  shooters player := (h'.shooters player).trans (h.shooters player)
  clocks player := (h'.clocks player).trans (h.clocks player)
  owners := h'.owners.trans h.owners
  mounts player := (h'.mounts player).trans (h.mounts player)
  definitions entity := (h'.definitions entity).trans (h.definitions entity)

theorem Roster.same (h : s.Roster) (hs : SameRoster s s') : s'.Roster where
  shooters player := by
    rw [hs.shooters, hs.riderEntities]
    exact h.shooters player
  actors player := by
    rw [mem_actors_iff, hs.mounts, ← mem_actors_iff, hs.riderEntities]
    exact h.actors player
  clocks player := by
    rw [hs.clocks, hs.riderEntities]
    exact h.clocks player
  riders player entity := by
    rw [hs.riderEntities, hs.definitions]
    exact h.riders player entity
  horses player entity horseClass := by
    rw [hs.mounts, hs.owners, hs.definitions]
    exact h.horses player entity horseClass
  owned entity player := by
    rw [hs.owners, hs.mounts]
    exact h.owned entity player
  apart player entity := by
    rw [hs.riderEntities, hs.owners]
    exact h.apart player entity
  targets entity definition := by
    rw [hs.definitions, hs.riderEntities, hs.owners]
    exact h.targets entity definition

theorem Roster.mem_owners (hr : s.Roster) {row : M3AuthorityActor}
    (hrow : s.actors.actors[player]? = some row) :
    s.actors.horseOwners[row.horseEntityId]? = some player :=
  (hr.horses player row.horseEntityId row.actor.horse.horseClass (by
    unfold M3AuthorityBank.mount
    rw [hrow]
    rfl)).1

theorem Roster.horse_ne (h : s.Roster) {other : PlayerId} {row row' : M3AuthorityActor}
    (hrow : s.actors.actors[player]? = some row) (hrow' : s.actors.actors[other]? = some row')
    (hne : other ≠ player) : row'.horseEntityId ≠ row.horseEntityId := by
  intro heq
  have hown := h.mem_owners hrow
  rw [← heq, h.mem_owners hrow'] at hown
  exact hne (Option.some.inj hown)

/-- One actor moves, and the registry takes over the health of its horse. -/
theorem Mirrored.rides (hm : s.Mirrored) {k k' : ActorGameplayKernel}
    (hrides : M3AuthorityBank.Rides s.actors s'.actors player k k')
    (hown : ∀ row, s.actors.actors[player]? = some row →
      s'.targets.health row.horseEntityId = some k'.horse.health)
    (hothers : ∀ (other : PlayerId) (row : M3AuthorityActor), other ≠ player →
      s.actors.actors[other]? = some row →
      s'.targets.health row.horseEntityId = s.targets.health row.horseEntityId) : s'.Mirrored := by
  intro other row hrow
  by_cases heq : other = player
  · subst heq
    obtain ⟨before, hbefore, -, hafter⟩ := hrides.row
    obtain rfl := Option.some.inj (hrow.symm.trans hafter)
    exact hown before hbefore
  · rw [hrides.others heq] at hrow
    rw [hothers other row heq hrow]
    exact hm other row hrow

/-! ## The operations -/

def riderHealth (s : M3CombatAuthority) (player : PlayerId) : Option UInt16 :=
  s.riderEntities[player]?.bind fun entity => s.targets.health entity

/-- An operation that hurts no rider. -/
structure Steady (s s' : M3CombatAuthority) : Prop where
  roster : SameRoster s s'
  mirrored : s.Roster → s.Mirrored → s'.Mirrored
  riders : s.Roster → ∀ player, s'.riderHealth player = s.riderHealth player

theorem mem_setShooterKernel (a : CombatAuthority) (player other : PlayerId)
    (kernel : CombatKernel) :
    other ∈ (a.setShooterKernel player kernel).shooters ↔ other ∈ a.shooters := by
  unfold CombatAuthority.setShooterKernel
  exact ExtTreeMap.mem_modify

/-- Only horses have another health. -/
theorem riderHealth_of_horses (hr : s.Roster) (hentities : s'.riderEntities = s.riderEntities)
    (h : ∀ entity, entity ∉ s.actors.horseOwners →
      s'.targets.health entity = s.targets.health entity) (player : PlayerId) :
    s'.riderHealth player = s.riderHealth player := by
  unfold riderHealth
  rw [hentities]
  cases hentity : s.riderEntities[player]? with
  | none => rfl
  | some entity => exact h entity (hr.apart player entity hentity)

theorem horseEntityId_eq {b : M3AuthorityBank} {entity : EntityId}
    (h : b.horseEntityId player = some entity) :
    ∃ row, b.actors[player]? = some row ∧ row.horseEntityId = entity :=
  Option.map_eq_some_iff.mp h

theorem steady_tryAdvanceActor {input : ActorM3TickInput} {output : ActorM3TickOutput}
    (h : s.tryAdvanceActor player input = .ok (output, s')) : Steady s s' := by
  unfold tryAdvanceActor at h
  obtain ⟨⟨output', actors⟩, hactors, h⟩ := bind_eq_ok h
  obtain ⟨clock, hclock, h⟩ := bind_eq_ok h
  obtain ⟨kernel, -, h⟩ := bind_eq_ok h
  obtain ⟨horseEntity, hhorse, h⟩ := bind_eq_ok h
  obtain ⟨actor, hactor, h⟩ := bind_eq_ok h
  obtain ⟨targets, htargets, h⟩ := bind_eq_ok h
  obtain ⟨-, rfl⟩ := Prod.mk.inj (Except.ok.inj h)
  obtain ⟨k, k', hrides⟩ := M3AuthorityBank.rides_advanceActor (mapError_eq_ok hactors)
  have hreheal := TargetRegistry.rehealed_synchronizeHealth (mapError_eq_ok htargets)
  obtain rfl := Option.some.inj (hrides.actor.symm.trans (found_eq_ok hactor))
  obtain ⟨before, hbefore, -, hafter⟩ := hrides.row
  obtain ⟨row, hrow, rfl⟩ := horseEntityId_eq (found_eq_ok hhorse)
  obtain rfl := Option.some.inj (hrow.symm.trans hafter)
  have hclockMem : player ∈ s.reloadClocks :=
    ExtTreeMap.mem_iff_isSome_getElem?.mpr (by rw [found_eq_ok hclock]; rfl)
  refine ⟨⟨rfl, fun other => mem_setShooterKernel _ _ other _,
    fun _ => ExtTreeMap.mem_insert_iff_of_mem hclockMem, hrides.owners, hrides.mount,
    hreheal.definition⟩, fun hr hm => hm.rides hrides ?_ ?_, fun hr => ?_⟩
  · intro row hrow
    obtain rfl := Option.some.inj (hrow.symm.trans hbefore)
    exact hreheal.health
  · intro other row hne hrow
    have hapart := hr.horse_ne hbefore hrow hne
    exact hreheal.others _ hapart
  · refine riderHealth_of_horses hr rfl fun entity hentity => hreheal.others entity ?_
    rintro rfl
    exact hentity (ExtTreeMap.mem_iff_isSome_getElem?.mpr (by
      rw [hr.mem_owners hbefore]
      rfl))

theorem steady_credit {kind : SpurCreditKind} {tick : SimulationTick} {points : Option UInt8}
    {actors : M3AuthorityBank}
    (h : s.actors.issueSpurCredit player tick kind = .ok (points, actors)) :
    Steady s { s with actors } := by
  obtain ⟨k, k', hrides, hhorse⟩ := M3AuthorityBank.rides_issueSpurCredit h
  refine ⟨⟨rfl, fun _ => .rfl, fun _ => .rfl, hrides.owners, hrides.mount, fun _ => rfl⟩,
    fun _ hm => hm.rides hrides (fun row hrow => ?_) fun _ _ _ _ => rfl, fun _ _ => rfl⟩
  obtain ⟨before, hbefore, rfl, -⟩ := hrides.row
  obtain rfl := Option.some.inj (hrow.symm.trans hbefore)
  rw [hhorse]
  exact hm player row hrow

theorem steady_tryIssueSpurCredit {kind : SpurCreditKind} {tick : SimulationTick}
    {points : Option UInt8} (h : s.tryIssueSpurCredit player tick kind = .ok (points, s')) :
    Steady s s' := by
  unfold tryIssueSpurCredit at h
  obtain ⟨⟨points', actors⟩, hcredited, h⟩ := bind_eq_ok h
  obtain ⟨-, rfl⟩ := Prod.mk.inj (Except.ok.inj h)
  exact steady_credit (mapError_eq_ok hcredited)

theorem steady_tryRefillRiderAmmo {ammo : WeaponAmmo}
    (h : s.tryRefillRiderAmmo player = .ok (ammo, s')) : Steady s s' := by
  unfold tryRefillRiderAmmo at h
  obtain ⟨kernel, -, h⟩ := bind_eq_ok h
  obtain ⟨-, rfl⟩ := Prod.mk.inj (Except.ok.inj h)
  exact ⟨⟨rfl, fun other => mem_setShooterKernel _ _ other _, fun _ => ExtTreeMap.mem_modify, rfl,
    fun _ => rfl, fun _ => rfl⟩, fun _ hm => hm, fun _ _ => rfl⟩

theorem steady_pushGeometry {entity : EntityId} {geometry : TargetGeometrySnapshot}
    {targets : TargetRegistry} (h : s.targets.pushGeometry entity geometry = .ok targets) :
    Steady s { s with targets } := by
  obtain ⟨health, hhealth, hreheal⟩ := TargetRegistry.rehealed_pushGeometry h
  have hsame : ∀ other, targets.health other = s.targets.health other := by
    intro other
    by_cases heq : other = entity
    · rw [heq, hreheal.health, hhealth]
    · exact hreheal.others other heq
  refine ⟨⟨rfl, fun _ => .rfl, fun _ => .rfl, rfl, fun _ => rfl, hreheal.definition⟩, ?_,
    fun hr => riderHealth_of_horses hr rfl fun entity _ => hsame entity⟩
  intro _ hm player row hrow
  exact (hsame _).trans (hm player row hrow)

theorem steady_tryRecordHorsePose {pose : M3HorseTargetPose}
    (h : s.tryRecordHorsePose pose = .ok s') : Steady s s' := by
  unfold tryRecordHorsePose at h
  obtain ⟨horseEntityId, -, h⟩ := bind_eq_ok h
  obtain ⟨actor, -, h⟩ := bind_eq_ok h
  split_ifs at h
  · cases h
  · obtain ⟨targets, htargets, h⟩ := bind_eq_ok h
    obtain rfl := Except.ok.inj h
    have hpushed := mapError_eq_ok htargets
    unfold TargetRegistry.recordHorsePose at hpushed
    split_ifs at hpushed
    exact steady_pushGeometry hpushed

theorem steady_tryRecordRiderPose {pose : TargetPoseSnapshot}
    (h : s.tryRecordRiderPose player pose = .ok s') : Steady s s' := by
  unfold tryRecordRiderPose at h
  obtain ⟨expected, -, h⟩ := bind_eq_ok h
  by_cases hentity : pose.entityId ≠ expected
  · rw [if_pos hentity] at h
    cases h
  · rw [if_neg hentity] at h
    dsimp only at h
    split_ifs at h
    · cases h
    · obtain ⟨targets, htargets, h⟩ := bind_eq_ok h
      obtain rfl := Except.ok.inj h
      have hpushed := mapError_eq_ok htargets
      unfold TargetRegistry.recordPose at hpushed
      split_ifs at hpushed
      exact steady_pushGeometry hpushed

theorem Roster.rider_ne (hr : s.Roster) {other : PlayerId} {entity entity' : EntityId}
    (hentity : s.riderEntities[player]? = some entity)
    (hentity' : s.riderEntities[other]? = some entity') (hne : other ≠ player) :
    entity' ≠ entity := by
  rintro rfl
  obtain ⟨definition, hdefinition, howner, -⟩ := hr.riders player entity' hentity
  obtain ⟨definition', hdefinition', howner', -⟩ := hr.riders other entity' hentity'
  obtain rfl := Option.some.inj (hdefinition.symm.trans hdefinition')
  exact hne (Option.some.inj (howner'.symm.trans howner))

theorem Roster.horse_ne_rider (hr : s.Roster) {other : PlayerId} {entity : EntityId}
    {row : M3AuthorityActor} (hrow : s.actors.actors[player]? = some row)
    (hentity : s.riderEntities[other]? = some entity) : row.horseEntityId ≠ entity := by
  rintro rfl
  refine hr.apart other _ hentity (ExtTreeMap.mem_iff_isSome_getElem?.mpr ?_)
  rw [hr.mem_owners hrow]
  rfl

theorem riderHealth_eq {entity : EntityId} (hentity : s.riderEntities[player]? = some entity) :
    s.riderHealth player = s.targets.health entity := by
  unfold riderHealth
  rw [hentity]
  rfl

/-- Only one rider has another health. -/
theorem riderHealth_of_rider (hr : s.Roster) {entity : EntityId}
    (hentity : s.riderEntities[player]? = some entity)
    (hentities : s'.riderEntities = s.riderEntities)
    (h : ∀ other, other ≠ entity → (∀ row, s.actors.actors[player]? = some row →
      other ≠ row.horseEntityId) → s'.targets.health other = s.targets.health other)
    {other : PlayerId} (hne : other ≠ player) : s'.riderHealth other = s.riderHealth other := by
  unfold riderHealth
  rw [hentities]
  cases hother : s.riderEntities[other]? with
  | none => rfl
  | some entity' =>
    exact h entity' (hr.rider_ne hentity hother hne) fun row hrow =>
      (hr.horse_ne_rider hrow hother).symm

/-- A respawn heals the rider and the horse of one player. -/
structure Healed (s s' : M3CombatAuthority) (player : PlayerId) : Prop where
  roster : s.Roster → SameRoster s s'
  mirrored : s.Roster → s.Mirrored → s'.Mirrored
  rider : s.Roster → s'.riderHealth player = some M3_RIDER_MAX_HEALTH
  others : s.Roster → ∀ other, other ≠ player → s'.riderHealth other = s.riderHealth other

theorem healed_tryRespawnRider {tick : SimulationTick}
    (h : s.tryRespawnRider player tick = .ok s') : Healed s s' player := by
  unfold tryRespawnRider at h
  obtain ⟨riderEntity, hrider, h⟩ := bind_eq_ok h
  obtain ⟨horseEntity, hhorse, h⟩ := bind_eq_ok h
  obtain ⟨actors, hactors, h⟩ := bind_eq_ok h
  obtain ⟨kernel, hkernel, h⟩ := bind_eq_ok h
  rcases hkernel' : kernel.respawnAt tick with ⟨_ | _, kernel'⟩
  · rw [hkernel'] at h
    cases h
  rw [hkernel'] at h
  obtain ⟨-, -, h⟩ := bind_eq_ok h
  obtain ⟨riders, hriders, h⟩ := bind_eq_ok h
  obtain ⟨targets, htargets, h⟩ := bind_eq_ok h
  obtain rfl := Except.ok.inj h
  obtain ⟨k, hrides⟩ := M3AuthorityBank.rides_respawnActor (found_eq_ok hactors)
  obtain ⟨before, hbefore, rfl, hafter⟩ := hrides.row
  obtain ⟨row, hrow, rfl⟩ := horseEntityId_eq (found_eq_ok hhorse)
  obtain rfl := Option.some.inj (hrow.symm.trans hbefore)
  obtain ⟨riderDefinition, hriderDefinition, hfirst⟩ :=
    TargetRegistry.rehealed_respawn (mapError_eq_ok hriders)
  obtain ⟨horseDefinition, hhorseDefinition, hsecond⟩ :=
    TargetRegistry.rehealed_respawn (mapError_eq_ok htargets)
  rw [hfirst.definition] at hhorseDefinition
  have hriderEntity := found_eq_ok hrider
  have hothers : ∀ other, other ≠ riderEntity → other ≠ row.horseEntityId →
      targets.health other = s.targets.health other := fun other hne hne' =>
    (hsecond.others other hne').trans (hfirst.others other hne)
  refine ⟨fun hr => ⟨rfl, fun other => mem_setShooterKernel _ _ other _, ?_, hrides.owners,
    hrides.mount, fun entity => (hsecond.definition entity).trans (hfirst.definition entity)⟩,
    fun hr hm => hm.rides hrides ?_ ?_, fun hr => ?_, fun hr other hne => ?_⟩
  · intro other
    refine ExtTreeMap.mem_insert_iff_of_mem ((hr.clocks player).mpr ?_)
    exact ExtTreeMap.mem_iff_isSome_getElem?.mpr (by rw [hriderEntity]; rfl)
  · intro found hfound
    obtain rfl := Option.some.inj (hfound.symm.trans hrow)
    obtain ⟨-, definition, hdefinition, -, hmax⟩ :=
      hr.horses player found.horseEntityId found.actor.horse.horseClass (by
        unfold M3AuthorityBank.mount
        rw [hrow]
        rfl)
    obtain rfl := Option.some.inj (hdefinition.symm.trans hhorseDefinition)
    exact hsecond.health.trans (congrArg some hmax)
  · intro other found hne hfound
    have happart := hr.horse_ne hrow hfound hne
    exact hothers _ (hr.horse_ne_rider hfound hriderEntity) happart
  · obtain ⟨definition, hdefinition, -, hmax⟩ := hr.riders player riderEntity hriderEntity
    obtain rfl := Option.some.inj (hdefinition.symm.trans hriderDefinition)
    rw [riderHealth_eq (s := {
      s with
      combat := s.combat.setShooterKernel player kernel'
      targets, actors
      reloadClocks := s.reloadClocks.insert player ⟨some tick, false⟩ }) hriderEntity]
    have hne : riderEntity ≠ row.horseEntityId := (hr.horse_ne_rider hrow hriderEntity).symm
    exact (hsecond.others _ hne).trans (hfirst.health.trans (congrArg some hmax))
  · refine riderHealth_of_rider hr hriderEntity ?_ ?_ hne
    · rfl
    · exact fun entity hne' hhorses => hothers entity hne' (hhorses row hrow)

/-! ### Shots -/

theorem mem_shooters_validateShot (B : Ballistics) (G : RayGeometry) (a : CombatAuthority)
    (command : ShotCommand) (authorityTick : SimulationTick) (rider : RiderSnapshot)
    (t : TargetRegistry) (other : PlayerId) :
    other ∈ (a.validateShot B (TargetRegistry.range G) command authorityTick rider t).2.1.shooters
      ↔ other ∈ a.shooters := by
  have hstored : ∀ {shooter : AuthorityShooter} (kernel : CombatKernel),
      a.shooters[command.shooterPeerId]? = some shooter →
      (other ∈ a.stored command kernel ↔ other ∈ a.shooters) := fun kernel hknown =>
    ExtTreeMap.mem_insert_iff_of_mem (ExtTreeMap.mem_iff_isSome_getElem?.mpr (by rw [hknown]; rfl))
  have hmove := CombatAuthority.validateShot_moves B (TargetRegistry.range G) (a, t)
    ⟨command, authorityTick, rider⟩
  unfold CombatAuthority.shotStep at hmove
  dsimp only at hmove
  generalize a.validateShot B (TargetRegistry.range G) command authorityTick rider t
    = answer at hmove ⊢
  obtain ⟨shot, a', t'⟩ := answer
  dsimp only at hmove ⊢
  generalize shot.result.outcome = outcome at hmove
  cases hmove with
  | unseen => exact .rfl
  | refused known later advanced shooters ledger =>
    rw [shooters]
    exact hstored _ known
  | accepted known later outcome_ne accepts shooters =>
    rw [shooters]
    exact hstored _ known

/-- What a resolved shot does to the riders. -/
inductive ShotFate (s s' : M3CombatAuthority) (shooter : PlayerId) (shot : M3AuthorityShot) : Prop
  | spared (outcome : shot.shot.result.outcome ≠ .hit)
      (eliminated : shot.shot.result.eliminated = false) (horseDamage : shot.horseDamage = none)
      (riders : ∀ player, s'.riderHealth player = s.riderHealth player)
  | rider {victim : PlayerId} {entity : EntityId} {health : UInt16}
      (outcome : shot.shot.result.outcome = .hit)
      (targetId : shot.shot.result.targetId = some entity)
      (known : s.riderEntities[victim]? = some entity) (other : victim ≠ shooter)
      (damage : shot.shot.result.damage ≠ 0)
      (before : s.riderHealth victim = some health) (living : health ≠ 0)
      (after : s'.riderHealth victim = some (health.satSub shot.shot.result.damage))
      (eliminated : shot.shot.result.eliminated
        = decide (health.satSub shot.shot.result.damage = 0))
      (horseDamage : shot.horseDamage = none)
      (others : ∀ player, player ≠ victim → s'.riderHealth player = s.riderHealth player)
  | horse {entity : EntityId} {damage : M3AuthorityHorseDamage}
      (outcome : shot.shot.result.outcome = .hit)
      (targetId : shot.shot.result.targetId = some entity)
      (owned : s.actors.horseOwners[entity]? = some damage.riderPlayerId)
      (other : damage.riderPlayerId ≠ shooter)
      (eliminated : shot.shot.result.eliminated = false)
      (horseDamage : shot.horseDamage = some damage)
      (riders : ∀ player, s'.riderHealth player = s.riderHealth player)

variable {B : Ballistics} {G : RayGeometry} {command : ShotCommand} {authorityTick : SimulationTick}
  {rider : RiderSnapshot}

theorem routeHorse_routes {shot : AuthorityShot} {entity : EntityId} {answer : M3AuthorityShot}
    (h : s.routeHorse shot command authorityTick rider entity = .ok (answer, s')) :
    ∃ damage k k' actors sequence, answer = ⟨{ shot with
        result := { shot.result with eliminated := false } }, some damage⟩
      ∧ s' = { s with actors, nextHorseDamageSequence := sequence }
      ∧ s.actors.horseOwners[entity]? = some damage.riderPlayerId
      ∧ M3AuthorityBank.Rides s.actors actors damage.riderPlayerId k k'
      ∧ s.targets.health entity = some k'.horse.health := by
  unfold routeHorse at h
  obtain ⟨pose, -, h⟩ := bind_eq_ok h
  obtain ⟨next, -, h⟩ := bind_eq_ok h
  obtain ⟨⟨routed, actors⟩, hrouted, h⟩ := bind_eq_ok h
  obtain ⟨damage, hdamage, h⟩ := bind_eq_ok h
  obtain ⟨actor, hactor, h⟩ := bind_eq_ok h
  obtain ⟨health, hhealth, h⟩ := bind_eq_ok h
  obtain rfl := found_eq_ok hdamage
  obtain ⟨howner, k, k', hrides⟩ := M3AuthorityBank.rides_applyHorseDamage (mapError_eq_ok hrouted)
  obtain rfl := Option.some.inj (hrides.actor.symm.trans (found_eq_ok hactor))
  split_ifs at h with hdiffers
  · cases h
  · obtain ⟨rfl, rfl⟩ := Prod.mk.inj (Except.ok.inj h)
    rw [not_or, not_not] at hdiffers
    refine ⟨damage, k, k', actors, next, rfl, rfl, howner, hrides, ?_⟩
    rw [hdiffers.1]
    exact found_eq_ok hhealth

theorem creditShot_steady {shot answer : M3AuthorityShot}
    (h : s.creditShot shot command authorityTick rider = .ok (answer, s')) :
    answer = shot ∧ Steady s s' := by
  unfold creditShot at h
  split at h
  · obtain ⟨rfl, rfl⟩ := Prod.mk.inj (Except.ok.inj h)
    exact ⟨rfl, .refl s, fun _ hm => hm, fun _ _ => rfl⟩
  · obtain ⟨⟨points, actors⟩, hcredited, h⟩ := bind_eq_ok h
    obtain ⟨_, -, h⟩ := bind_eq_ok h
    obtain ⟨rfl, rfl⟩ := Prod.mk.inj (Except.ok.inj h)
    exact ⟨rfl, steady_credit (mapError_eq_ok hcredited)⟩

/-- What a validated shot hits, as the registry has it. -/
theorem Roster.struck (hr : s.Roster) {t : TargetRegistry} {shooter : PlayerId}
    {shot : AuthorityShot} {entity : EntityId} (h : s.targets.Struck t shooter shot entity) :
    ∃ record, s.targets.targets[entity]? = some record ∧ record.health ≠ 0
      ∧ record.definition.ownerPeerId ≠ some shooter
      ∧ s.targets.Rehealed t entity (record.health.satSub shot.result.damage)
      ∧ shot.result.eliminated = decide (record.health.satSub shot.result.damage = 0) := by
  obtain ⟨record, hrecord, rfl, hliving, hother⟩ := h.victim
  obtain ⟨key, hkey⟩ := ExtTreeMap.mem_values.mp hrecord
  have hdefinition : s.targets.definition key = some record.definition := by
    unfold TargetRegistry.definition
    rw [hkey]
    rfl
  have hentity := (hr.targets key record.definition hdefinition).1
  rw [← hentity] at hkey
  refine ⟨record, hkey, hliving, hother, ?_, ?_⟩
  · rw [h.targets]
    exact TargetRegistry.rehealed_applyDamage hkey _
  · rw [h.eliminated]
    unfold TargetRegistry.applyDamage
    rw [hkey]
    have hpositive : record.health > 0 := UInt16.pos_iff_ne_zero.mpr hliving
    simp [hpositive]

/-- **What a resolved shot does.** -/
theorem tryResolveShot_fate {shot : M3AuthorityShot}
    (h : s.tryResolveShot B G command authorityTick rider = .ok (shot, s')) (hr : s.Roster) :
    SameRoster s s' ∧ (s.Mirrored → s'.Mirrored) ∧ ShotFate s s' command.shooterPeerId shot := by
  have hshooters := fun other => mem_shooters_validateShot B G s.combat command authorityTick rider
    s.targets other
  have htargets := TargetRegistry.validateShot_targets B G s.combat command authorityTick rider
    s.targets
  unfold tryResolveShot at h
  generalize s.combat.validateShot B (TargetRegistry.range G) command authorityTick rider
    s.targets = verdict at h hshooters htargets
  obtain ⟨verdict, combat, targets⟩ := verdict
  dsimp only at h hshooters htargets
  obtain ⟨rfl, houtcome, heliminated⟩ | ⟨entity, hstruck⟩ := htargets
  · have hnone : M3CombatAuthority.horseHit { s with combat := combat } verdict = none :=
      if_neg houtcome
    rw [hnone] at h
    obtain ⟨rfl, hsteady⟩ := creditShot_steady h
    have hcombat : SameRoster s { s with combat := combat } :=
      ⟨rfl, hshooters, fun _ => .rfl, rfl, fun _ => rfl, fun _ => rfl⟩
    have hr' := hr.same hcombat
    exact ⟨hcombat.trans hsteady.roster, fun hm => hsteady.mirrored hr' hm,
      .spared houtcome heliminated rfl fun player => hsteady.riders hr' player⟩
  · obtain ⟨record, hrecord, hliving, hother, hreheal, heliminated⟩ := hr.struck hstruck
    have hcombat : SameRoster s { s with combat := combat, targets := targets } :=
      ⟨rfl, hshooters, fun _ => .rfl, rfl, fun _ => rfl, hreheal.definition⟩
    have hr' := hr.same hcombat
    have hdefinition : s.targets.definition entity = some record.definition := by
      unfold TargetRegistry.definition
      rw [hrecord]
      rfl
    have hhit : M3CombatAuthority.horseHit { s with combat := combat, targets := targets } verdict
        = if (s.actors.horseOwner entity).isSome = true then some entity else none := by
      unfold M3CombatAuthority.horseHit
      rw [if_pos hstruck.outcome, hstruck.targetId]
      exact Option.filter_some
    rw [hhit] at h
    by_cases howned : (s.actors.horseOwner entity).isSome = true
    · rw [if_pos howned] at h
      obtain ⟨⟨routed, s₁⟩, hrouted, h⟩ := bind_eq_ok h
      obtain ⟨rfl, hsteady⟩ := creditShot_steady h
      obtain ⟨damage, k, k', actors, sequence, rfl, rfl, howner, hrides, hhealth⟩ :=
        routeHorse_routes hrouted
      have hsame : SameRoster s { s with
          combat, targets, actors, nextHorseDamageSequence := sequence } :=
        ⟨rfl, hshooters, fun _ => .rfl, hrides.owners, hrides.mount, hreheal.definition⟩
      have hr₁ := hr.same hsame
      obtain ⟨horseClass, hmount⟩ := hr.owned entity damage.riderPlayerId howner
      obtain ⟨before, hbefore, hpair⟩ := Option.map_eq_some_iff.mp hmount
      obtain rfl := congrArg Prod.fst hpair
      obtain ⟨-, definition, hknown, hrider, -⟩ := hr.horses _ _ _ hmount
      obtain rfl := Option.some.inj (hknown.symm.trans hdefinition)
      have hridden : s.Mirrored → M3CombatAuthority.Mirrored { s with
          combat, targets, actors, nextHorseDamageSequence := sequence } := by
        refine fun hm => hm.rides hrides ?_ ?_
        · intro row hrow
          obtain rfl := Option.some.inj (hrow.symm.trans hbefore)
          exact hhealth
        · intro other row hne hrow
          exact hreheal.others _ (hr.horse_ne hbefore hrow hne)
      refine ⟨hsame.trans hsteady.roster, fun hm => hsteady.mirrored hr₁ (hridden hm),
        .horse hstruck.outcome hstruck.targetId howner ?_ rfl rfl fun player => ?_⟩
      · rintro heq
        rw [hrider, heq] at hother
        exact hother rfl
      · refine (hsteady.riders hr₁ player).trans (riderHealth_of_horses hr ?_ ?_ player)
        · rfl
        · intro other hnot
          refine hreheal.others other ?_
          rintro rfl
          exact hnot (ExtTreeMap.mem_iff_isSome_getElem?.mpr howned)
    · rw [if_neg howned] at h
      obtain ⟨rfl, hsteady⟩ := creditShot_steady h
      have hnot : entity ∉ s.actors.horseOwners :=
        fun hmem => howned (ExtTreeMap.mem_iff_isSome_getElem?.mp hmem)
      obtain ⟨victim, hvictim⟩ := (hr.targets entity _ hdefinition).2.resolve_right hnot
      obtain ⟨definition, hknown, hrider, -⟩ := hr.riders victim entity hvictim
      obtain rfl := Option.some.inj (hknown.symm.trans hdefinition)
      have hbefore : s.riderHealth victim = some record.health := by
        rw [riderHealth_eq hvictim]
        unfold TargetRegistry.health
        rw [hrecord]
        rfl
      have hridden : s.Mirrored →
          M3CombatAuthority.Mirrored { s with combat := combat, targets := targets } := by
        intro hm player row hrow
        refine (hreheal.others row.horseEntityId ?_).trans (hm player row hrow)
        rintro rfl
        exact hnot (ExtTreeMap.mem_iff_isSome_getElem?.mpr (by rw [hr.mem_owners hrow]; rfl))
      refine ⟨hcombat.trans hsteady.roster, fun hm => hsteady.mirrored hr' (hridden hm),
        .rider hstruck.outcome hstruck.targetId hvictim ?_ hstruck.damage hbefore hliving ?_
          heliminated rfl fun player hne => ?_⟩
      · rintro rfl
        exact hother hrider
      · exact (hsteady.riders hr' victim).trans ((riderHealth_eq (s := {
          s with combat := combat, targets := targets }) hvictim).trans hreheal.health)
      · refine (hsteady.riders hr' player).trans (riderHealth_of_rider hr hvictim ?_ ?_ hne)
        · rfl
        · exact fun other hne' _ => hreheal.others other hne'

/-! ### Registration -/

/-- The target that a registration adds. -/
def registeredTarget (entityId : EntityId) (player : PlayerId) (teamId : TeamId)
    (maxHealth : UInt16) : TargetDefinition := ⟨entityId, some player, teamId, maxHealth⟩

/-- One player more, with a new rider and a new horse. -/
structure Registered (s s' : M3CombatAuthority) (player : PlayerId) (rider horse : EntityId)
    (horseClass : HorseVitalityClass) (team : TeamId) : Prop where
  apart : rider ≠ horse
  newPlayer : player ∉ s.riderEntities
  newRider : s.targets.definition rider = none
  newHorse : s.targets.definition horse = none
  riderEntities : s'.riderEntities = s.riderEntities.insert player rider
  shooters : ∀ other, other ∈ s'.combat.shooters ↔ other = player ∨ other ∈ s.combat.shooters
  clocks : ∀ other, other ∈ s'.reloadClocks ↔ other = player ∨ other ∈ s.reloadClocks
  owners : s'.actors.horseOwners = s.actors.horseOwners.insert horse player
  actors : s'.actors.actors = s.actors.actors.insert player ⟨horse, .new horseClass⟩
  definitions : ∀ entity, s'.targets.definition entity
    = if entity = horse then some (registeredTarget horse player team horseClass.maxHealth)
      else if entity = rider then some (registeredTarget rider player team M3_RIDER_MAX_HEALTH)
      else s.targets.definition entity
  health : ∀ entity, s'.targets.health entity = if entity = horse then some horseClass.maxHealth
    else if entity = rider then some M3_RIDER_MAX_HEALTH else s.targets.health entity

theorem registered_registerActor {rider horse : EntityId} {horseClass : HorseVitalityClass}
    {weaponId : WeaponId} {team : TeamId}
    (h : s.registerActor player rider horse horseClass weaponId team = some s') :
    Registered s s' player rider horse horseClass team := by
  unfold registerActor at h
  split_ifs at h with hrefused
  rw [not_or] at hrefused
  obtain ⟨actors, hactors, h⟩ := Option.bind_eq_some_iff.mp h
  rcases hregister : s.combat.registerShooter player weaponId with ⟨_ | _, combat⟩
  · rw [hregister] at h
    cases h
  rw [hregister] at h
  obtain ⟨riders, hriders, h⟩ := Option.bind_eq_some_iff.mp h
  obtain ⟨targets, htargets, h⟩ := Option.bind_eq_some_iff.mp h
  obtain rfl := Option.some.inj h
  obtain ⟨hnewRider, hdefinitions, hhealths⟩ :=
    TargetRegistry.register_ok (toOption_eq_some.mp hriders)
  obtain ⟨hnewHorse, hdefinitions', hhealths'⟩ :=
    TargetRegistry.register_ok (toOption_eq_some.mp htargets)
  unfold M3AuthorityBank.registerActor at hactors
  split_ifs at hactors
  obtain rfl := Option.some.inj hactors
  have hshooters : ∀ other,
      other ∈ combat.shooters ↔ other = player ∨ other ∈ s.combat.shooters := by
    unfold CombatAuthority.registerShooter at hregister
    split_ifs at hregister
    · cases hregister
    · obtain ⟨-, rfl⟩ := Prod.mk.inj hregister
      exact fun other => ExtTreeMap.mem_insert_iff_eq
  refine ⟨hrefused.1, hrefused.2, hnewRider, ?_, rfl, hshooters,
    fun _ => ExtTreeMap.mem_insert_iff_eq, rfl, rfl, fun entity => ?_, fun entity => ?_⟩
  · rw [hdefinitions, if_neg fun heq => hrefused.1 heq.symm] at hnewHorse
    exact hnewHorse
  · rw [hdefinitions', hdefinitions]
    rfl
  · rw [hhealths', hhealths]

theorem Registered.mount {rider horse : EntityId} {horseClass : HorseVitalityClass} {team : TeamId}
    (h : Registered s s' player rider horse horseClass team) (other : PlayerId) :
    s'.actors.mount other
      = if other = player then some (horse, horseClass) else s.actors.mount other := by
  unfold M3AuthorityBank.mount
  rw [h.actors, ExtTreeMap.getElem?_insert_eq_ite]
  split_ifs <;> rfl

theorem Registered.roster {rider horse : EntityId} {horseClass : HorseVitalityClass} {team : TeamId}
    (h : Registered s s' player rider horse horseClass team) (hr : s.Roster) : s'.Roster := by
  have hnewOwner : ∀ entity, s.targets.definition entity = none →
      entity ∉ s.actors.horseOwners := by
    intro entity hnone hmem
    obtain ⟨owner, howner⟩ :=
      Option.isSome_iff_exists.mp (ExtTreeMap.mem_iff_isSome_getElem?.mp hmem)
    obtain ⟨horseClass, hmount⟩ := hr.owned entity owner howner
    obtain ⟨-, definition, hdefinition, -⟩ := hr.horses owner entity horseClass hmount
    rw [hnone] at hdefinition
    cases hdefinition
  have hold : ∀ {entity definition}, s.targets.definition entity = some definition →
      s'.targets.definition entity = some definition := by
    intro entity definition hknown
    rw [h.definitions, if_neg, if_neg, hknown]
    · rintro rfl
      rw [h.newRider] at hknown
      cases hknown
    · rintro rfl
      rw [h.newHorse] at hknown
      cases hknown
  have howners : ∀ entity : EntityId, s'.actors.horseOwners[entity]?
      = if entity = horse then some player else s.actors.horseOwners[entity]? := fun entity => by
    rw [h.owners, ExtTreeMap.getElem?_insert_eq_ite]
  have hentities : ∀ other : PlayerId, s'.riderEntities[other]?
      = if other = player then some rider else s.riderEntities[other]? := fun other => by
    rw [h.riderEntities, ExtTreeMap.getElem?_insert_eq_ite]
  have hmembers : ∀ other, other ∈ s'.riderEntities ↔ other = player ∨ other ∈ s.riderEntities :=
    fun other => by rw [h.riderEntities, ExtTreeMap.mem_insert_iff_eq]
  have hnewPlayer : s.actors.mount player = none := by
    have hnot : player ∉ s.actors.actors := fun hmem => h.newPlayer ((hr.actors player).mp hmem)
    unfold M3AuthorityBank.mount
    rw [ExtTreeMap.getElem?_eq_none hnot]
    rfl
  refine ⟨fun other => ?_, fun other => ?_, fun other => ?_, fun other entity hentity => ?_,
    fun other entity horseClass' hmount => ?_, fun entity other howner => ?_,
    fun other entity hentity => ?_, fun entity definition hdefinition => ?_⟩
  · rw [h.shooters, hmembers, hr.shooters]
  · rw [h.actors, ExtTreeMap.mem_insert_iff_eq, hmembers, hr.actors]
  · rw [h.clocks, hmembers, hr.clocks]
  · rw [hentities] at hentity
    split_ifs at hentity with heq
    · obtain rfl := Option.some.inj hentity
      refine ⟨registeredTarget rider player team M3_RIDER_MAX_HEALTH, ?_, congrArg some heq.symm,
        rfl⟩
      rw [h.definitions, if_neg h.apart, if_pos rfl]
    · obtain ⟨definition, hknown, hrest⟩ := hr.riders other entity hentity
      exact ⟨definition, hold hknown, hrest⟩
  · rw [h.mount] at hmount
    split_ifs at hmount with heq
    · obtain ⟨rfl, rfl⟩ := Prod.mk.inj (Option.some.inj hmount)
      rw [howners, if_pos rfl, heq]
      refine ⟨rfl, registeredTarget horse player team horseClass.maxHealth, ?_, rfl, rfl⟩
      rw [h.definitions, if_pos rfl]
    · obtain ⟨howner, definition, hknown, hrest⟩ := hr.horses other entity horseClass' hmount
      refine ⟨?_, definition, hold hknown, hrest⟩
      rw [howners, if_neg, howner]
      rintro rfl
      rw [h.newHorse] at hknown
      cases hknown
  · rw [howners] at howner
    split_ifs at howner with heq
    · obtain rfl := Option.some.inj howner
      refine ⟨horseClass, ?_⟩
      rw [h.mount, if_pos rfl, heq]
    · obtain ⟨horseClass', hmount⟩ := hr.owned entity other howner
      refine ⟨horseClass', ?_⟩
      rw [h.mount, if_neg, hmount]
      rintro rfl
      rw [hnewPlayer] at hmount
      cases hmount
  · rw [h.owners, ExtTreeMap.mem_insert_iff_eq, not_or]
    rw [hentities] at hentity
    split_ifs at hentity with heq
    · obtain rfl := Option.some.inj hentity
      exact ⟨h.apart, hnewOwner rider h.newRider⟩
    · refine ⟨?_, hr.apart other entity hentity⟩
      rintro rfl
      obtain ⟨definition, hknown, -⟩ := hr.riders other entity hentity
      rw [h.newHorse] at hknown
      cases hknown
  · rw [h.definitions] at hdefinition
    split_ifs at hdefinition with hhorse hrider
    · obtain rfl := Option.some.inj hdefinition
      refine ⟨hhorse.symm, .inr ?_⟩
      rw [h.owners, ExtTreeMap.mem_insert_iff_eq]
      exact .inl hhorse
    · obtain rfl := Option.some.inj hdefinition
      refine ⟨hrider.symm, .inl ⟨player, ?_⟩⟩
      rw [hentities, if_pos rfl, hrider]
    · obtain ⟨hid, hplace⟩ := hr.targets entity definition hdefinition
      refine ⟨hid, hplace.imp (fun ⟨other, hother⟩ => ⟨other, ?_⟩) fun hmem => ?_⟩
      · rw [h.owners, ExtTreeMap.mem_insert_iff_eq]
        exact .inr hmem
      · rw [hentities, if_neg, hother]
        rintro rfl
        exact h.newPlayer (ExtTreeMap.mem_iff_isSome_getElem?.mpr (by rw [hother]; rfl))

/-- The new rider has full health, the others keep theirs. -/
theorem Registered.riderHealth {rider horse : EntityId} {horseClass : HorseVitalityClass}
    {team : TeamId} (h : Registered s s' player rider horse horseClass team) (hr : s.Roster)
    (other : PlayerId) : s'.riderHealth other
      = if other = player then some M3_RIDER_MAX_HEALTH else s.riderHealth other := by
  unfold M3CombatAuthority.riderHealth
  rw [h.riderEntities, ExtTreeMap.getElem?_insert_eq_ite]
  split_ifs with heq
  · rw [Option.bind_some, h.health, if_neg h.apart, if_pos rfl]
  · cases hentity : s.riderEntities[other]? with
    | none => rfl
    | some entity =>
      obtain ⟨definition, hknown, -⟩ := hr.riders other entity hentity
      rw [Option.bind_some, Option.bind_some, h.health, if_neg, if_neg]
      · rintro rfl
        rw [h.newRider] at hknown
        cases hknown
      · rintro rfl
        rw [h.newHorse] at hknown
        cases hknown

theorem Registered.mirrored {rider horse : EntityId} {horseClass : HorseVitalityClass}
    {team : TeamId} (h : Registered s s' player rider horse horseClass team) (hr : s.Roster)
    (hm : s.Mirrored) : s'.Mirrored := by
  intro other row hrow
  rw [h.actors, ExtTreeMap.getElem?_insert_eq_ite] at hrow
  split_ifs at hrow with heq
  · obtain rfl := Option.some.inj hrow
    rw [h.health, if_pos rfl]
    rfl
  · obtain ⟨-, definition, hknown, -⟩ := hr.horses other row.horseEntityId
      row.actor.horse.horseClass (by
        unfold M3AuthorityBank.mount
        rw [hrow]
        rfl)
    rw [h.health, if_neg, if_neg]
    · exact hm other row hrow
    · rintro heq
      rw [heq, h.newRider] at hknown
      cases hknown
    · rintro heq
      rw [heq, h.newHorse] at hknown
      cases hknown

/-! ## Runs -/

theorem roster_step (call : M3CombatCall) (h : s.Roster ∧ s.Mirrored) :
    (step B G s call).2.Roster ∧ (step B G s call).2.Mirrored := by
  have hkeep : ∀ {α : Type} {result : Except M3CombatAuthorityError (α × M3CombatAuthority)},
      (∀ value candidate, result = .ok (value, candidate) →
        candidate.Roster ∧ candidate.Mirrored) →
      (s.transact result).2.Roster ∧ (s.transact result).2.Mirrored := by
    intro α result hresult
    unfold transact
    rcases heq : result with error | ⟨value, candidate⟩
    · exact h
    · exact hresult value candidate heq
  have hsteady : ∀ {candidate}, Steady s candidate → candidate.Roster ∧ candidate.Mirrored :=
    fun hsteady => ⟨h.1.same hsteady.roster, hsteady.mirrored h.1 h.2⟩
  cases call with
  | registerActor player rider horse horseClass weaponId team =>
    unfold step
    dsimp only
    cases hregister : s.registerActor player rider horse horseClass weaponId team with
    | none => exact h
    | some candidate =>
      have hregistered := registered_registerActor hregister
      exact ⟨hregistered.roster h.1, hregistered.mirrored h.1 h.2⟩
  | advanceActor player input =>
    exact hkeep fun output candidate hok => hsteady (steady_tryAdvanceActor hok)
  | issueSpurCredit player tick kind =>
    exact hkeep fun points candidate hok => hsteady (steady_tryIssueSpurCredit hok)
  | refillRiderAmmo player =>
    exact hkeep fun ammo candidate hok => hsteady (steady_tryRefillRiderAmmo hok)
  | respawnRider player tick =>
    refine hkeep fun _ candidate hmap => ?_
    obtain ⟨_, hok, heq⟩ := map_eq_ok hmap
    obtain ⟨-, rfl⟩ := Prod.mk.inj heq
    have hhealed := healed_tryRespawnRider hok
    exact ⟨h.1.same (hhealed.roster h.1), hhealed.mirrored h.1 h.2⟩
  | recordHorsePose pose =>
    refine hkeep fun _ candidate hmap => hsteady ?_
    obtain ⟨_, hok, heq⟩ := map_eq_ok hmap
    obtain ⟨-, rfl⟩ := Prod.mk.inj heq
    exact steady_tryRecordHorsePose hok
  | recordRiderPose player pose =>
    refine hkeep fun _ candidate hmap => hsteady ?_
    obtain ⟨_, hok, heq⟩ := map_eq_ok hmap
    obtain ⟨-, rfl⟩ := Prod.mk.inj heq
    exact steady_tryRecordRiderPose hok
  | resolveShot command authorityTick rider =>
    refine hkeep fun shot candidate hok => ?_
    obtain ⟨hsame, hmirrored, -⟩ := tryResolveShot_fate hok h.1
    exact ⟨h.1.same hsame, hmirrored h.2⟩

theorem riderEntities_new {tickRate : UInt32} {lobbySeed authorityEpoch : UInt64}
    (h : M3CombatAuthority.new tickRate lobbySeed authorityEpoch = .ok s) :
    s.riderEntities = ∅ := by
  unfold M3CombatAuthority.new at h
  obtain ⟨combat, -, h⟩ := bind_eq_ok h
  generalize combat.setAuthorityEpoch authorityEpoch = newer at h
  obtain ⟨_ | _, combat'⟩ := newer
  · cases h
  obtain ⟨-, -, h⟩ := bind_eq_ok h
  obtain ⟨targets, -, h⟩ := bind_eq_ok h
  obtain rfl := Except.ok.inj h
  rfl

theorem roster_new {tickRate : UInt32} {lobbySeed authorityEpoch : UInt64}
    (h : M3CombatAuthority.new tickRate lobbySeed authorityEpoch = .ok s) :
    s.Roster ∧ s.Mirrored := by
  unfold M3CombatAuthority.new at h
  obtain ⟨combat, hcombat, h⟩ := bind_eq_ok h
  have hempty : ∀ {a : CombatAuthority}, CombatAuthority.new tickRate lobbySeed = some a →
      ∀ player, player ∉ (a.setAuthorityEpoch authorityEpoch).2.shooters := by
    intro a ha player hmem
    unfold CombatAuthority.new at ha
    split_ifs at ha
    obtain rfl := Option.some.inj ha
    unfold CombatAuthority.setAuthorityEpoch at hmem
    split_ifs at hmem
    · exact ExtTreeMap.not_mem_empty hmem
    · exact ExtTreeMap.not_mem_empty hmem
  have hshooters := hempty (found_eq_ok hcombat)
  generalize combat.setAuthorityEpoch authorityEpoch = newer at h hshooters
  obtain ⟨_ | _, combat'⟩ := newer
  · cases h
  obtain ⟨-, -, h⟩ := bind_eq_ok h
  obtain ⟨targets, htargets, h⟩ := bind_eq_ok h
  obtain rfl := Except.ok.inj h
  have hnew := mapError_eq_ok htargets
  unfold TargetRegistry.new at hnew
  split_ifs at hnew
  obtain rfl := Except.ok.inj hnew
  refine ⟨⟨fun player => iff_of_false (hshooters player) ExtTreeMap.not_mem_empty, fun _ => .rfl,
    fun _ => .rfl, ?_, ?_, ?_, ?_, ?_⟩, ?_⟩
  · intro player entity hentity
    rw [ExtTreeMap.getElem?_empty] at hentity
    cases hentity
  · intro player entity horseClass hmount
    unfold M3AuthorityBank.mount M3AuthorityBank.new at hmount
    rw [ExtTreeMap.getElem?_empty] at hmount
    cases hmount
  · intro entity player howner
    unfold M3AuthorityBank.new at howner
    rw [ExtTreeMap.getElem?_empty] at howner
    cases howner
  · intro player entity hentity
    rw [ExtTreeMap.getElem?_empty] at hentity
    cases hentity
  · intro entity definition hdefinition
    unfold TargetRegistry.definition at hdefinition
    rw [ExtTreeMap.getElem?_empty] at hdefinition
    cases hdefinition
  · intro player row hrow
    unfold M3AuthorityBank.new at hrow
    rw [ExtTreeMap.getElem?_empty] at hrow
    cases hrow

/-- **Every part of the authority keeps one roster, and both copies of a horse's health agree.** -/
theorem roster_along (B : Ballistics) (G : RayGeometry) {tickRate : UInt32}
    {lobbySeed authorityEpoch : UInt64} {start : M3CombatAuthority}
    (h : M3CombatAuthority.new tickRate lobbySeed authorityEpoch = .ok start)
    (calls : List M3CombatCall) :
    (Runs.run (step B G) start calls).Roster ∧ (Runs.run (step B G) start calls).Mirrored :=
  Runs.run_invariant (P := fun s : M3CombatAuthority => s.Roster ∧ s.Mirrored)
    (fun _ call hs => roster_step call hs) (roster_new h) calls

def otherRider : PlayerId := .ofTail 2

/-- The horse of the second rider is hit at ten metres; his second registration and a late pose
fail. -/
def crossedCalls : List M3CombatCall :=
  [mountRider, .registerActor otherRider 102 202 .courser .longspur 2,
    .registerActor otherRider 103 203 .courser .longspur 2,
    .advanceActor loneRider (idleInput 5), .advanceActor otherRider (idleInput 5),
    .recordHorsePose ⟨5, otherRider, ⟨0, 1000, -10000⟩, ⟨1000000, 0, 0⟩, ⟨1000, 1600, -10000⟩⟩,
    .recordHorsePose ⟨4, otherRider, ⟨0, 1000, -10000⟩, ⟨1000000, 0, 0⟩, ⟨1000, 1600, -10000⟩⟩,
    .resolveShot (forwardShot 5) 5 (riderAt 5 .mounted), .respawnRider loneRider 9]

def crossed : M3CombatAuthority :=
  Runs.run (step CombatKernel.steadyBallistics straightAhead) idleAuthority crossedCalls

theorem roster_along_crossed : otherRider ∈ crossed.riderEntities
    ∧ ∃ row, crossed.actors.actors[otherRider]? = some row ∧ row.actor.horse.health = 186
      ∧ crossed.targets.health row.horseEntityId = some 186 := by
  have hhit : (crossed.actors.actors[otherRider]?).any (fun row =>
      decide (row.actor.horse.health = 186)) = true := by decide +kernel
  obtain ⟨row, hrow, hhealth⟩ := (Option.any_eq_true _ _).mp hhit
  have hhealth := of_decide_eq_true hhealth
  have halong : crossed.Roster ∧ crossed.Mirrored :=
    roster_along CombatKernel.steadyBallistics straightAhead
      (rfl : M3CombatAuthority.new 60 0x1234 7 = .ok idleAuthority) crossedCalls
  generalize crossed = s at hrow halong ⊢
  obtain ⟨hroster, hmirrored⟩ := halong
  have hknown : otherRider ∈ s.actors.actors :=
    ExtTreeMap.mem_iff_isSome_getElem?.mpr (by rw [hrow]; rfl)
  exact ⟨(hroster.actors otherRider).mp hknown, row, hrow, hhealth,
    (hmirrored otherRider row hrow).trans (congrArg some hhealth)⟩

end M3CombatAuthority

end Spurfire
