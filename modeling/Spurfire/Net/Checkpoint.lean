import Spurfire.Protocol.Bounty

/-!
# Migration checkpoints

The state an authority hands over: `MatchCheckpoint` with its combat receipts, and
`M3MatchCheckpointV2`, the complete wire-v2 state that live sessions install.  Both come with the
bounds and cross-plane consistency every receiver checks before it installs one.

The check compares four row lists through a `zip`, which stops at the shortest of them, and never
counts the bounty players: `consistentRoster_iff` says when what it accepts is one roster.
-/

namespace Spurfire

open Std (ExtTreeMap)

def MAX_CHECKPOINT_RIDERS : ℕ := 16
def MAX_CHECKPOINT_RIDER_HEALTH : UInt16 := 100

structure RiderCheckpoint where
  riderPlayerId : PlayerId
  positionMm : Vector Int32 3
  velocityMmps : Vector Int32 3
  yawMillidegrees : Int32
  stance : RiderStance
  health : UInt16
  weaponId : UInt8
  ammoMagazine : UInt16
  ammoReserve : UInt16
  lastInputTick : UInt64
  lastShotTick : Option UInt64
  lastCommandTick : Option UInt64
  shotIndex : UInt64
deriving DecidableEq

/-- The per-rider part of `MatchCheckpoint::is_bounded_and_canonical`. -/
def RiderCheckpoint.isCanonical (rider : RiderCheckpoint) : Bool :=
  let weapon := WeaponId.tryFrom? rider.weaponId
  !(!rider.stance.isCanonical
    || rider.health > MAX_CHECKPOINT_RIDER_HEALTH
    || weapon.isNone
    || weapon.any (fun weapon =>
        rider.ammoMagazine > weapon.stats.magazineCapacity
          || rider.ammoReserve > weapon.stats.reserveCapacity)
    || rider.lastShotTick.isSome != decide (rider.shotIndex > 0)
    || (rider.lastShotTick.isSome && rider.lastCommandTick.isNone)
    || rider.lastCommandTick.any (fun command => rider.lastShotTick.any (· > command)))

/-- Bounded authority-owned state retained by every peer for migration. -/
structure MatchCheckpoint where
  sourceEpoch : UInt64
  tick : UInt64
  riders : List RiderCheckpoint
  resolvedShots : List (PlayerId × UInt64)
deriving DecidableEq

namespace MatchCheckpoint

def isBoundedAndCanonical (c : MatchCheckpoint) : Bool :=
  if c.riders.isEmpty
      || c.riders.length > MAX_CHECKPOINT_RIDERS
      || c.resolvedShots.length > MAX_CHECKPOINT_RIDERS * 64
      || c.riders.any (fun rider => !rider.isCanonical) then
    false
  else
    (c.riders.map (·.riderPlayerId)).toFinset.card == c.riders.length
      && c.resolvedShots.toFinset.card == c.resolvedShots.length

end MatchCheckpoint

/-- Complete wire-v2 migration state. -/
structure M3MatchCheckpointV2 where
  wireVersion : WireVersion
  combat : MatchCheckpoint
  gameplay : M3AuthorityCheckpointV2
  reloads : List M3ReloadCheckpointV2
  nextHorseDamageSequence : UInt64
  bounty : BountyMatchCheckpointV2

namespace M3MatchCheckpointV2

/-- Whether the rider stance of the combat plane fits the actor mode of the gameplay plane. -/
def stanceFitsMode (stance : RiderStance) : ActorM3Mode → Bool
  | .mounted =>
    stance ∈ [RiderStance.mounted, .mountedAirborne, .saddleDiveAirborne, .landingProne,
      .landingRecovery]
  | .spookStunned | .onFoot | .returningHorse => stance == .onFootStanding

/-- The rows of one player in the four planes agree. -/
def rowsAgree (c : M3MatchCheckpointV2) (rider : RiderCheckpoint)
    (actor : M3AuthorityActorCheckpoint) (reload : M3ReloadCheckpointV2)
    (bounty : BountyPlayerState) : Bool :=
  let weapon := WeaponId.tryFrom? rider.weaponId
  rider.riderPlayerId == actor.riderPlayerId
    && bounty.playerId == rider.riderPlayerId
    && reload.riderPlayerId == rider.riderPlayerId
    && reload.currentTick == some c.combat.tick
    && reload.reload.all (fun state =>
        weapon == some state.weaponId
          && state.activeTicks < state.requiredTicks
          && state.requiredTicks == state.weaponId.stats.reloadTicks M3_TICK_RATE_HZ
          && rider.ammoMagazine < state.weaponId.stats.magazineCapacity
          && rider.ammoReserve > 0)
    && stanceFitsMode rider.stance actor.actor.mode

def isBoundedAndCanonical (c : M3MatchCheckpointV2) : Bool :=
  if c.wireVersion != M3_WIRE_VERSION
      || c.gameplay.wireVersion != M3_WIRE_VERSION
      || c.combat.sourceEpoch != c.gameplay.sourceAuthorityEpoch
      || c.combat.sourceEpoch != c.bounty.sourceAuthorityEpoch
      || c.bounty.matchState.authorityEpoch != c.combat.sourceEpoch
      || c.bounty.matchState.currentTick != c.combat.tick
      || !c.bounty.matchState.stateIsValid
      || c.nextHorseDamageSequence == 0
      || !c.combat.isBoundedAndCanonical
      || c.gameplay.actors.isEmpty
      || c.gameplay.actors.length != c.combat.riders.length
      || c.reloads.length != c.combat.riders.length
      || c.gameplay.actors.any (fun row => row.actor.currentTick != some c.combat.tick) then
    false
  else
    -- `zip` stops at the shortest of the four row lists
    let bountyPlayers := c.bounty.matchState.players.toList.map (·.2)
    (c.combat.riders.zip (c.gameplay.actors.zip (c.reloads.zip bountyPlayers))).all fun row =>
      c.rowsAgree row.1 row.2.1 row.2.2.1 row.2.2.2

/-! ### What the check guarantees -/

variable {c : M3MatchCheckpointV2}

def bountyPlayers (c : M3MatchCheckpointV2) : List BountyPlayerState :=
  c.bounty.matchState.players.toList.map (·.2)

/-- The four planes describe one roster in one order, and their rows fit together. -/
structure ConsistentRoster (c : M3MatchCheckpointV2) : Prop where
  actors : c.gameplay.actors.map (·.riderPlayerId) = c.combat.riders.map (·.riderPlayerId)
  reloads : c.reloads.map (·.riderPlayerId) = c.combat.riders.map (·.riderPlayerId)
  bounty : c.bountyPlayers.map (·.playerId) = c.combat.riders.map (·.riderPlayerId)
  actorTicks : ∀ row ∈ c.gameplay.actors, row.actor.currentTick = some c.combat.tick
  reloadTicks : ∀ row ∈ c.reloads, row.currentTick = some c.combat.tick
  activeReloads : ∀ row ∈ c.combat.riders.zip c.reloads, ∀ state ∈ row.2.reload,
    WeaponId.tryFrom? row.1.weaponId = some state.weaponId
      ∧ state.activeTicks < state.weaponId.stats.reloadTicks M3_TICK_RATE_HZ
  stances : ∀ row ∈ c.combat.riders.zip c.gameplay.actors,
    stanceFitsMode row.1.stance row.2.actor.mode

/-- The facts about whole lists in the check. -/
theorem lengths_of_canonical (h : c.isBoundedAndCanonical) :
    c.gameplay.actors.length = c.combat.riders.length
      ∧ c.reloads.length = c.combat.riders.length
      ∧ (∀ row ∈ c.gameplay.actors, row.actor.currentTick = some c.combat.tick)
      ∧ (c.combat.riders.zip (c.gameplay.actors.zip (c.reloads.zip c.bountyPlayers))).all
        fun row => c.rowsAgree row.1 row.2.1 row.2.2.1 row.2.2.2 := by
  unfold isBoundedAndCanonical at h
  split_ifs at h with hguard
  simp only [Bool.or_eq_true, bne_iff_ne, ne_eq, not_or, not_not, Bool.not_eq_true,
    List.any_eq_false] at hguard
  obtain ⟨⟨⟨-, hactors⟩, hreloads⟩, hticks⟩ := hguard
  exact ⟨hactors, hreloads, fun row hrow => by simpa using hticks row hrow, h⟩

/-- The rows at one index, when the bounty plane is as long as the others. -/
theorem rowsAgree_getElem (h : c.isBoundedAndCanonical)
    (hbounty : c.bountyPlayers.length = c.combat.riders.length) {i : ℕ}
    (hr : i < c.combat.riders.length) (ha : i < c.gameplay.actors.length)
    (hl : i < c.reloads.length) (hb : i < c.bountyPlayers.length) :
    c.rowsAgree c.combat.riders[i] c.gameplay.actors[i] c.reloads[i] c.bountyPlayers[i] := by
  obtain ⟨hactors, hreloads, -, hrows⟩ := lengths_of_canonical h
  rw [List.all_eq_true] at hrows
  refine hrows (c.combat.riders[i], c.gameplay.actors[i], c.reloads[i], c.bountyPlayers[i]) ?_
  rw [List.mem_iff_getElem]
  refine ⟨i, by simp only [List.length_zip]; omega, ?_⟩
  simp only [List.getElem_zip]

/-- **A canonical checkpoint is one consistent roster exactly when its bounty plane is as long as
its rider list.** -/
theorem consistentRoster_iff (c : M3MatchCheckpointV2) (h : c.isBoundedAndCanonical) :
    c.ConsistentRoster ↔ c.bounty.matchState.players.size = c.combat.riders.length := by
  have hsize : c.bountyPlayers.length = c.bounty.matchState.players.size := by
    rw [bountyPlayers, List.length_map, ExtTreeMap.length_toList]
  rw [← hsize]
  constructor
  · intro hc
    simpa using congrArg List.length hc.bounty
  intro hbounty
  obtain ⟨hactors, hreloads, hticks, -⟩ := lengths_of_canonical h
  have hrow := fun (i : ℕ) (hi : i < c.combat.riders.length) =>
    rowsAgree_getElem h hbounty hi (by omega) (by omega) (by omega)
  simp only [rowsAgree, Bool.and_eq_true, beq_iff_eq] at hrow
  refine ⟨?_, ?_, ?_, hticks, ?_, ?_, ?_⟩
  · refine List.ext_getElem (by simpa using hactors) fun i hi hi' => ?_
    rw [List.length_map] at hi'
    simpa using (hrow i hi').1.1.1.1.1.symm
  · refine List.ext_getElem (by simpa using hreloads) fun i hi hi' => ?_
    rw [List.length_map] at hi'
    simpa using (hrow i hi').1.1.1.2
  · refine List.ext_getElem (by simpa using hbounty) fun i hi hi' => ?_
    rw [List.length_map] at hi'
    simpa using (hrow i hi').1.1.1.1.2
  · intro row hmem
    obtain ⟨i, hi, rfl⟩ := List.mem_iff_getElem.mp hmem
    exact (hrow i (by omega)).1.1.2
  · intro row hmem state hstate
    obtain ⟨i, hi, rfl⟩ := List.mem_iff_getElem.mp hmem
    rw [List.length_zip] at hi
    rw [List.getElem_zip] at hstate ⊢
    have hreload := (hrow i (by omega)).1.2
    rw [Option.mem_def.mp hstate] at hreload
    simp only [Option.all_some, Bool.and_eq_true, beq_iff_eq, decide_eq_true_eq] at hreload
    exact ⟨hreload.1.1.1.1, hreload.1.1.2 ▸ hreload.1.1.1.2⟩
  · intro row hmem
    obtain ⟨i, hi, rfl⟩ := List.mem_iff_getElem.mp hmem
    rw [List.length_zip] at hi
    rw [List.getElem_zip]
    exact (hrow i (by omega)).2

/-! ### Two riders at tick 10 -/

def firstRider : PlayerId := .ofTail 1

def secondRider : PlayerId := .ofTail 2

def freshRider (riderPlayerId : PlayerId) : RiderCheckpoint where
  riderPlayerId := riderPlayerId
  positionMm := Vector.replicate 3 0
  velocityMmps := Vector.replicate 3 0
  yawMillidegrees := 0
  stance := .mounted
  health := 100
  weaponId := 0
  ammoMagazine := 30
  ammoReserve := 120
  lastInputTick := 10
  lastShotTick := none
  lastCommandTick := none
  shotIndex := 0

def freshActor (riderPlayerId : PlayerId) (horseEntityId : EntityId) :
    M3AuthorityActorCheckpoint where
  riderPlayerId := riderPlayerId
  horseEntityId := horseEntityId
  actor := ⟨M3_WIRE_VERSION, {
    currentTick := some 10
    horse := ⟨.courser, 200, .available, none, #v[0, 1], none, some 10, none, 0⟩
    onFoot := ⟨none, .standing, 240, false, none, none, ⟨0, 0, 32767⟩, 0, none, none, Vector.replicate 2 0⟩
    recallKernel := ⟨.horsePresent, none, none, none, none, 0, 0, none, none⟩
    horseLossTick := none
    pendingHorseLossEffects := none
    spur := ⟨some 10, 0, 0, none, 1, false, none, none⟩ }⟩

def freshBountyRow (playerId : PlayerId) : BountyPlayerState where
  playerId := playerId
  score := ⟨0, 0, 0, 0, 0, 0, 0, 0⟩
  eliminations := 0
  assists := 0
  deaths := 0
  alive := true
  respawnAtTick := none
  respawnSpeedBuffEndTick := none
  horseBuffEndTick := none
  mountedLongHitBonus := 0

/-- A checkpoint of two riders with the given reload rows and bounty players. -/
def twoRiders (reloads : List M3ReloadCheckpointV2) (players : List PlayerId) :
    M3MatchCheckpointV2 where
  wireVersion := M3_WIRE_VERSION
  combat := ⟨3, 10, [freshRider firstRider, freshRider secondRider], []⟩
  gameplay := ⟨M3_WIRE_VERSION, 3, [freshActor firstRider 101, freshActor secondRider 102]⟩
  reloads := reloads
  nextHorseDamageSequence := 4
  bounty := ⟨3, {
    authorityEpoch := 3
    lobbySeed := 7
    startTick := 0
    currentTick := 10
    endTick := 54000
    players := .ofList (players.map fun player => (player, freshBountyRow player)) compare
    damage := ∅
    nextRevealTick := 3600
    activeReveal := none
    nextObjectiveTick := 5400
    activeObjective := none
    objectiveSequence := 0
    finished := false }⟩

theorem consistentRoster_two : ConsistentRoster (twoRiders
    [⟨firstRider, some 10, false, none⟩, ⟨secondRider, some 10, false, none⟩]
    [firstRider, secondRider]) :=
  (consistentRoster_iff _ (by decide +kernel)).mpr (by decide +kernel)

/-- With one bounty player the reload row of the second rider is never looked at. -/
theorem canonical_with_short_bounty :
    (twoRiders [⟨firstRider, some 10, false, none⟩, ⟨firstRider, none, true, none⟩]
      [firstRider]).isBoundedAndCanonical = true
    ∧ ¬ConsistentRoster (twoRiders
      [⟨firstRider, some 10, false, none⟩, ⟨firstRider, none, true, none⟩] [firstRider]) :=
  ⟨by decide +kernel, fun h => absurd h.reloads (by decide +kernel)⟩

end M3MatchCheckpointV2

end Spurfire
