import Spurfire.Lib.Runs
import Spurfire.Lib.TreeMap
import Spurfire.Protocol.BountyKernel

/-!
# Whole bounty matches

What every operation of the bounty kernel keeps, from a new match to long after its end.

* `Sound` is the invariant: rows, damage and windows are measured against the clock clamped to the
  end of the match, `effectiveTick`.
* `RosterStep` is what recording an event does to the rows; the reveal and objective loops each have
  one spec lemma.
* `hand_over_iff_buffs_outlast` says when a match can be handed over in every state of a run: the
  validity check reads the raw clock, so a buff still running at the end invalidates the state once
  the raw clock passes it.
-/

namespace Spurfire

open Std (ExtTreeMap)

namespace BountyMatchKernel

/-! ## The invariant -/

/-- The clock that deadlines are measured against. -/
def effectiveTick (m : BountyMatchKernel) : SimulationTick := min m.currentTick m.endTick

/-- A scoreboard row at a clock. -/
structure RowSound (clock : SimulationTick) (id : PlayerId) (row : BountyPlayerState) : Prop where
  playerId : row.playerId = id
  alive : row.alive = row.respawnAtTick.isNone
  respawn : ∀ due ∈ row.respawnAtTick, clock < due
  speedBuff : ∀ last ∈ row.respawnSpeedBuffEndTick, clock < last
  horseBuff : ∀ last ∈ row.horseBuffEndTick, clock < last
  fallen : row.alive = false → row.respawnSpeedBuffEndTick = none
  longHits : row.score.mountedLongHit = row.mountedLongHitBonus.toUInt32
  longHitSteps : ∃ n ≤ 5, row.mountedLongHitBonus.toNat = 10 * n

/-- The rows and the damage table at a clock. -/
structure RosterSound (clock : SimulationTick) (m : BountyMatchKernel) : Prop where
  nonempty : 0 < m.players.size
  bounded : m.players.size ≤ MAX_M3_AUTHORITY_ACTORS
  rows : ∀ id row, m.players[id]? = some row → RowSound clock id row
  damage : ∀ target contributors, m.damage[target]? = some contributors → target ∈ m.players
    ∧ ∀ attacker contribution, contributors[attacker]? = some contribution →
      attacker ≠ target ∧ attacker ∈ m.players ∧ contribution.damage ≠ 0
        ∧ contribution.lastTick ≤ clock

/-- A reveal window of this match. -/
def KnownReveal (m : BountyMatchKernel) (reveal : MostWantedReveal) : Prop :=
  reveal.playerId ∈ m.players
    ∧ reveal.endTick = reveal.startedTick.satAdd MOST_WANTED_REVEAL_TICKS

/-- An objective window as the kernel opens it. -/
def KnownObjective (objective : ActiveDynamicObjective) : Prop :=
  0 < objective.objectiveId
    ∧ objective.endTick = objective.startedTick.satAdd OBJECTIVE_LIFETIME_TICKS
    ∧ objective.signalPaidIntervals ≤ 3

structure Sound (m : BountyMatchKernel) : Prop where
  start : m.startTick.toNat ≤ 2 ^ 63
  endTick : m.endTick.toNat = m.startTick.toNat + 54000
  started : m.startTick ≤ m.currentTick
  finished : m.finished = decide (m.endTick ≤ m.currentTick)
  roster : RosterSound m.effectiveTick m
  reveal : ∀ reveal ∈ m.activeReveal, m.KnownReveal reveal ∧ m.effectiveTick < reveal.endTick
  nextReveal : m.endTick ≤ m.nextRevealTick ∨ m.effectiveTick < m.nextRevealTick
  objective : ∀ objective ∈ m.activeObjective,
    KnownObjective objective ∧ m.effectiveTick < objective.endTick
  nextObjective : m.endTick ≤ m.nextObjectiveTick ∨ m.effectiveTick < m.nextObjectiveTick
  sequence : m.nextObjectiveTick.toNat
    = m.startTick.toNat + 5400 * (m.objectiveSequence.toNat + 1)
  sequenceBound : m.objectiveSequence.toNat ≤ 9
  idle : m.finished → m.activeReveal = none ∧ m.activeObjective = none

variable {m m' : BountyMatchKernel} {clock tick : SimulationTick}

theorem toNat_effectiveTick (m : BountyMatchKernel) :
    m.effectiveTick.toNat = min m.currentTick.toNat m.endTick.toNat :=
  UInt64.toNat_min _ _

/-! ## Recording events -/

/-- `m'` differs from `m` in rows and damage only, and keeps them sound. -/
structure RosterStep (clock : SimulationTick) (m m' : BountyMatchKernel) : Prop where
  shape : ∃ players damage, m' = { m with players := players, damage := damage }
  mem : ∀ id, id ∈ m'.players ↔ id ∈ m.players
  sound : RosterSound clock m → RosterSound clock m'

namespace RosterStep

theorem refl (m : BountyMatchKernel) : RosterStep clock m m :=
  ⟨⟨_, _, rfl⟩, fun _ => .rfl, id⟩

theorem trans {m'' : BountyMatchKernel} (h : RosterStep clock m m')
    (h' : RosterStep clock m' m'') : RosterStep clock m m'' := by
  obtain ⟨players, damage, rfl⟩ := h.shape
  obtain ⟨players', damage', rfl⟩ := h'.shape
  exact ⟨⟨_, _, rfl⟩, fun id => (h'.mem id).trans (h.mem id), fun hs => h'.sound (h.sound hs)⟩

/-- New rows for the same players. -/
theorem of_rows {players : ExtTreeMap PlayerId BountyPlayerState}
    (hsize : players.size = m.players.size) (hmem : ∀ id, id ∈ players ↔ id ∈ m.players)
    (hrows : RosterSound clock m → ∀ id row, players[id]? = some row → RowSound clock id row) :
    RosterStep clock m { m with players } := by
  refine ⟨⟨_, _, rfl⟩, hmem, fun h => ⟨hsize ▸ h.nonempty, hsize ▸ h.bounded, hrows h, ?_⟩⟩
  intro target contributors hcontributors
  obtain ⟨htarget, hrest⟩ := h.damage target contributors hcontributors
  refine ⟨(hmem target).mpr htarget, fun attacker contribution hcontribution => ?_⟩
  obtain ⟨hne, hattacker, hdamage, hlast⟩ := hrest attacker contribution hcontribution
  exact ⟨hne, (hmem attacker).mpr hattacker, hdamage, hlast⟩

/-- A new row for a known player. -/
theorem of_insert {player : PlayerId} {old row : BountyPlayerState}
    (hold : m.players[player]? = some old)
    (hrow : RowSound clock player old → RowSound clock player row) :
    RosterStep clock m { m with players := m.players.insert player row } := by
  have hmem : player ∈ m.players := by
    rw [ExtTreeMap.mem_iff_isSome_getElem?, hold]
    rfl
  refine of_rows ?_ (fun id => ?_) fun h id row' hrow' => ?_
  · rw [ExtTreeMap.size_insert, if_pos (ExtTreeMap.contains_iff_mem.mpr hmem)]
  · rw [ExtTreeMap.mem_insert]
    exact ⟨fun h => h.elim (fun heq => Std.LawfulEqCmp.eq_of_compare heq ▸ hmem) fun h => h, .inr⟩
  · rw [ExtTreeMap.getElem?_insert] at hrow'
    split_ifs at hrow' with heq
    · cases hrow'
      exact Std.LawfulEqCmp.eq_of_compare heq ▸ hrow (h.rows player old hold)
    · exact h.rows id row' hrow'

theorem of_modify {player : PlayerId} {f : BountyPlayerState → BountyPlayerState}
    (hf : ∀ row, RowSound clock player row → RowSound clock player (f row)) :
    RosterStep clock m { m with players := m.players.modify player f } := by
  refine of_rows ExtTreeMap.size_modify (fun id => ExtTreeMap.mem_modify) fun h id row hrow => ?_
  rw [ExtTreeMap.getElem?_modify] at hrow
  split_ifs at hrow with heq
  · obtain ⟨old, hold, rfl⟩ := Option.map_eq_some_iff.mp hrow
    have heq := Std.LawfulEqCmp.eq_of_compare heq
    subst heq
    exact hf old (h.rows _ old hold)
  · exact h.rows id row hrow

end RosterStep

/-! ### Rows -/

namespace RowSound

variable {id : PlayerId} {row : BountyPlayerState}

theorem award (h : RowSound clock id row) {category : BountyScoreCategory}
    (hcategory : category ≠ .mountedLongHit) (points : UInt16) :
    RowSound clock id { row with score := row.score.add category points } := by
  refine ⟨h.playerId, h.alive, h.respawn, h.speedBuff, h.horseBuff, h.fallen, ?_, h.longHitSteps⟩
  rw [← h.longHits]
  cases category with
  | mountedLongHit => exact absurd rfl hcategory
  | _ => rfl

/-- The bonus and its score category go up together, in steps of ten. -/
theorem longHit (h : RowSound clock id row) (hcap : row.mountedLongHitBonus < LONG_HIT_BONUS_CAP) :
    RowSound clock id { row with
      mountedLongHitBonus := row.mountedLongHitBonus + 10
      score := row.score.add .mountedLongHit 10 } := by
  obtain ⟨n, hn, hbonus⟩ := h.longHitSteps
  rw [UInt16.lt_iff_toNat_lt, hbonus, show LONG_HIT_BONUS_CAP.toNat = 50 from rfl] at hcap
  have hnext : (row.mountedLongHitBonus + 10).toNat = 10 * (n + 1) := by
    rw [UInt16.toNat_add, hbonus, show (10 : UInt16).toNat = 10 from rfl]
    omega
  refine ⟨h.playerId, h.alive, h.respawn, h.speedBuff, h.horseBuff, h.fallen, ?_,
    n + 1, by omega, hnext⟩
  dsimp only [BountyScoreBreakdown.add]
  rw [h.longHits, ← UInt32.toNat_inj, UInt16.toNat_toUInt32, hnext, BountyScoreBreakdown.raise,
    UInt32.toNat_min, UInt32.toNat_satAdd, UInt16.toNat_toUInt32, UInt16.toNat_toUInt32, hbonus,
    show (10 : UInt16).toNat = 10 from rfl, show MAX_BOUNTY_SCORE.toNat = 1000000 from rfl]
  omega

theorem horseStation (h : RowSound clock id row) {last : SimulationTick} (hlast : clock < last) :
    RowSound clock id { row with horseBuffEndTick := some last } := by
  refine ⟨h.playerId, h.alive, h.respawn, h.speedBuff, ?_, h.fallen, h.longHits, h.longHitSteps⟩
  rintro _ ⟨⟩
  exact hlast

theorem eliminate (h : RowSound clock id row)
    (hlater : clock < tick.satAdd RESPAWN_DELAY_TICKS) :
    RowSound clock id (BountyMatchKernel.eliminate row tick) := by
  refine ⟨h.playerId, rfl, ?_, nofun, h.horseBuff, fun _ => rfl, h.longHits, h.longHitSteps⟩
  rintro _ ⟨⟩
  exact hlater

end RowSound

/-! ### Awards -/

theorem award_step (m : BountyMatchKernel) (player : PlayerId) {category : BountyScoreCategory}
    (hcategory : category ≠ .mountedLongHit) (points : UInt16) :
    RosterStep clock m (m.award player category points).2 := by
  unfold award
  cases hrow : m.players[player]? with
  | none => exact .refl m
  | some row => exact .of_insert hrow fun h => h.award hcategory points

/-- What every award keeps, awards one after the other keep. -/
theorem awardEach_keeps {R : BountyMatchKernel → BountyMatchKernel → Prop} (hrefl : ∀ m, R m m)
    (htrans : ∀ {a b c}, R a b → R b c → R a c) (player : PlayerId)
    (categories : List (BountyScoreCategory × UInt16))
    (haward : ∀ entry ∈ categories, ∀ m : BountyMatchKernel,
      R m (m.award player entry.1 entry.2).2) (m : BountyMatchKernel) :
    R m (awardEach player categories m).2 := by
  induction categories generalizing m with
  | nil => exact hrefl m
  | cons entry rest ih =>
    obtain ⟨category, points⟩ := entry
    have hfirst := haward _ List.mem_cons_self m
    unfold awardEach
    dsimp only at hfirst
    generalize m.award player category points = awarded at hfirst ⊢
    obtain ⟨_ | first, m'⟩ := awarded
    · exact hfirst
    · have hrest := ih (fun e he => haward e (List.mem_cons_of_mem _ he)) m'
      dsimp only at hfirst ⊢
      generalize awardEach player rest m' = others at hrest ⊢
      obtain ⟨_ | others, m''⟩ := others <;> exact htrans hfirst hrest

/-- What assist awards and the count of assists keep, the assists of a kill keep. -/
theorem awardAssists_keeps {R : BountyMatchKernel → BountyMatchKernel → Prop}
    (hrefl : ∀ m, R m m) (htrans : ∀ {a b c}, R a b → R b c → R a c)
    (haward : ∀ attacker (m : BountyMatchKernel), R m (m.award attacker .assist 50).2)
    (hcount : ∀ attacker (m : BountyMatchKernel), R m { m with
      players := m.players.modify attacker fun row =>
        { row with assists := row.assists.satAdd 1 } })
    (killer : PlayerId) (rows : List (PlayerId × DamageContribution)) (m : BountyMatchKernel) :
    R m (awardAssists tick killer rows m).2 := by
  induction rows generalizing m with
  | nil => exact hrefl m
  | cons row rest ih =>
    obtain ⟨attacker, contribution⟩ := row
    unfold awardAssists
    split_ifs
    · have hfirst := haward attacker m
      generalize m.award attacker .assist 50 = awarded at hfirst ⊢
      obtain ⟨_ | first, m'⟩ := awarded
      · exact hfirst
      · have hrest := htrans (hcount attacker m') (ih _)
        dsimp only at hfirst ⊢
        generalize awardAssists tick killer rest _ = others at hrest ⊢
        obtain ⟨_ | others, m''⟩ := others <;> exact htrans hfirst hrest
    · exact ih m

theorem awardEach_step (player : PlayerId) (categories : List (BountyScoreCategory × UInt16))
    (hcategories : ∀ entry ∈ categories, entry.1 ≠ .mountedLongHit) (m : BountyMatchKernel) :
    RosterStep clock m (awardEach player categories m).2 :=
  awardEach_keeps .refl .trans player categories
    (fun entry he m => m.award_step player (hcategories entry he) entry.2) m

theorem awardAssists_step (killer : PlayerId) (rows : List (PlayerId × DamageContribution))
    (m : BountyMatchKernel) : RosterStep clock m (awardAssists tick killer rows m).2 :=
  awardAssists_keeps .refl .trans (fun attacker m => m.award_step attacker (by decide) 50)
    (fun _ _ => .of_modify fun _ h => ⟨h.playerId, h.alive, h.respawn, h.speedBuff, h.horseBuff,
      h.fallen, h.longHits, h.longHitSteps⟩) killer rows m

/-! ### The five records -/

theorem requireLiveTick_eq_none (h : m.requireLiveTick tick = none) :
    m.finished = false ∧ tick = m.currentTick := by
  unfold requireLiveTick at h
  split_ifs at h with hfinished htick
  exact ⟨Bool.eq_false_iff.mpr hfinished, not_not.mp htick⟩

/-- At a live tick the match is not over, and the clock is the tick itself. -/
theorem Sound.live (h : m.Sound) (hlive : m.requireLiveTick tick = none) :
    m.effectiveTick = tick ∧ tick < m.endTick ∧ tick.toNat < 2 ^ 63 + 54000 := by
  obtain ⟨hfinished, rfl⟩ := requireLiveTick_eq_none hlive
  have hlt : m.currentTick < m.endTick := by
    rw [h.finished, decide_eq_false_iff_not, UInt64.not_le] at hfinished
    exact hfinished
  have hend := h.endTick
  have hstart := h.start
  rw [UInt64.lt_iff_toNat_lt] at hlt
  refine ⟨?_, UInt64.lt_iff_toNat_lt.mpr hlt, by omega⟩
  rw [← UInt64.toNat_inj, toNat_effectiveTick]
  omega

/-- A deadline a while after a live tick lies in the future. -/
theorem Sound.lt_satAdd (h : m.Sound) (hlive : m.requireLiveTick tick = none) {delay : UInt64}
    (hdelay : 0 < delay) : m.effectiveTick < tick.satAdd delay := by
  obtain ⟨hclock, -, hbound⟩ := h.live hlive
  rw [UInt64.lt_iff_toNat_lt] at hdelay
  rw [hclock, UInt64.lt_iff_toNat_lt, UInt64.toNat_satAdd]
  have : (0 : UInt64).toNat = 0 := rfl
  omega

/-- `m'` is a sound state that differs from `m` in rows, damage and the progress of windows. -/
structure EventStep (m m' : BountyMatchKernel) : Prop where
  shape : ∃ players damage reveal objective, m' = { m with
    players := players, damage := damage, activeReveal := reveal, activeObjective := objective }
  mem : ∀ id, id ∈ m'.players ↔ id ∈ m.players
  sound : m'.Sound

namespace EventStep

theorem refl (h : m.Sound) : EventStep m m := ⟨⟨_, _, _, _, rfl⟩, fun _ => .rfl, h⟩

theorem trans {m'' : BountyMatchKernel} (h : EventStep m m') (h' : EventStep m' m'') :
    EventStep m m'' := by
  obtain ⟨players, damage, reveal, objective, rfl⟩ := h.shape
  obtain ⟨players', damage', reveal', objective', rfl⟩ := h'.shape
  exact ⟨⟨_, _, _, _, rfl⟩, fun id => (h'.mem id).trans (h.mem id), h'.sound⟩

end EventStep

/-- Rows and damage may change under the windows. -/
theorem Sound.step (h : m.Sound) (hstep : RosterStep m.effectiveTick m m') : EventStep m m' := by
  have hroster := hstep.sound h.roster
  have hmem := hstep.mem
  obtain ⟨players, damage, rfl⟩ := hstep.shape
  refine ⟨⟨_, _, _, _, rfl⟩, hmem, h.start, h.endTick, h.started, h.finished, hroster,
    fun reveal hreveal => ?_, h.nextReveal, h.objective, h.nextObjective, h.sequence,
    h.sequenceBound, h.idle⟩
  obtain ⟨⟨hplayer, hwindow⟩, hclock⟩ := h.reveal reveal hreveal
  exact ⟨⟨(hmem _).mpr hplayer, hwindow⟩, hclock⟩

theorem recordDamage_step (h : m.Sound) (attacker target : PlayerId) (damage : UInt16) :
    EventStep m (m.recordDamage tick attacker target damage).2 := by
  unfold recordDamage
  cases hlive : m.requireLiveTick tick with
  | some error => exact .refl h
  | none =>
    dsimp only
    split_ifs with hevent
    · exact .refl h
    rw [not_or, not_or, not_not] at hevent
    obtain ⟨hdamage, hne, hattacker⟩ := hevent
    cases htarget : m.players[target]? with
    | none => exact .refl h
    | some targetState =>
      have hmem : target ∈ m.players := by
        rw [ExtTreeMap.mem_iff_isSome_getElem?, htarget]
        rfl
      dsimp only
      split_ifs
      · exact .refl h
      refine h.step ⟨⟨_, _, rfl⟩, fun _ => .rfl, fun hs => ?_⟩
      refine ⟨hs.nonempty, hs.bounded, hs.rows, fun other contributors hcontributors => ?_⟩
      rw [ExtTreeMap.getElem?_insert] at hcontributors
      split_ifs at hcontributors with heq
      · -- the damaged target: its old contributors, and the attacker
        have heq := Std.LawfulEqCmp.eq_of_compare heq
        subst heq
        cases hcontributors
        refine ⟨hmem, fun player contribution hcontribution => ?_⟩
        rw [ExtTreeMap.getElem?_insert] at hcontribution
        split_ifs at hcontribution with hplayer
        · have hplayer := Std.LawfulEqCmp.eq_of_compare hplayer
          subst hplayer
          cases hcontribution
          refine ⟨hne, hattacker, UInt16.satAdd_ne_zero hdamage, ?_⟩
          rw [(h.live hlive).1]
          exact UInt64.le_refl tick
        · cases hold : m.damage[target]? with
          | none =>
            rw [hold, Option.getD_none, ExtTreeMap.getElem?_empty] at hcontribution
            exact nomatch hcontribution
          | some old =>
            rw [hold, Option.getD_some] at hcontribution
            exact (hs.damage target old hold).2 player contribution hcontribution
      · exact hs.damage other contributors hcontributors

theorem Sound.markReveal (h : m.Sound) (mostWanted : Bool) :
    EventStep m (m.markReveal mostWanted) := by
  unfold BountyMatchKernel.markReveal
  split_ifs
  · refine ⟨⟨_, _, _, _, rfl⟩, fun _ => .rfl, h.start, h.endTick, h.started, h.finished, ⟨h.roster.nonempty, h.roster.bounded,
      h.roster.rows, h.roster.damage⟩, ?_, h.nextReveal, h.objective, h.nextObjective, h.sequence,
      h.sequenceBound, fun hfinished => ?_⟩
    · intro reveal hreveal
      obtain ⟨old, hold, rfl⟩ := Option.map_eq_some_iff.mp hreveal
      exact h.reveal old hold
    · obtain ⟨hreveal, hobjective⟩ := h.idle hfinished
      exact ⟨by rw [hreveal, Option.map_none], hobjective⟩
  · exact .refl h

/-- The active objective may make progress inside its window. -/
theorem Sound.progressObjective (h : m.Sound) {old objective : ActiveDynamicObjective}
    (hold : m.activeObjective = some old) (hid : objective.objectiveId = old.objectiveId)
    (hstarted : objective.startedTick = old.startedTick) (hend : objective.endTick = old.endTick)
    (hpaid : objective.signalPaidIntervals ≤ 3) :
    EventStep m { m with activeObjective := some objective } := by
  obtain ⟨⟨hpos, hwindow, -⟩, hclock⟩ := h.objective old hold
  refine ⟨⟨_, _, _, _, rfl⟩, fun _ => .rfl, h.start, h.endTick, h.started, h.finished, ⟨h.roster.nonempty, h.roster.bounded,
    h.roster.rows, h.roster.damage⟩, h.reveal, h.nextReveal, ?_, h.nextObjective, h.sequence,
    h.sequenceBound, fun hfinished => ?_⟩
  · rintro _ ⟨⟩
    exact ⟨⟨hid ▸ hpos, by rw [hend, hstarted, hwindow], hpaid⟩, hend ▸ hclock⟩
  · exact absurd ((h.idle hfinished).2.symm.trans hold) nofun

theorem eliminationAwards_ne (saddleDive mostWanted : Bool) :
    ∀ entry ∈ eliminationAwards saddleDive mostWanted, entry.1 ≠ .mountedLongHit := by
  cases saddleDive <;> cases mostWanted <;> decide

theorem settleElimination_step (m : BountyMatchKernel) (killer target : PlayerId)
    {categories : List (BountyScoreCategory × UInt16)}
    (hcategories : ∀ entry ∈ categories, entry.1 ≠ .mountedLongHit)
    (hdeadline : clock < tick.satAdd RESPAWN_DELAY_TICKS) :
    RosterStep clock m (m.settleElimination tick killer target categories).2 := by
  unfold settleElimination
  have hawards : RosterStep clock m (awardEach killer categories m).2 :=
    awardEach_step killer categories hcategories m
  generalize awardEach killer categories m = awarded at hawards ⊢
  obtain ⟨_ | awards, m'⟩ := awarded
  · exact hawards
  dsimp only at hawards ⊢
  generalize hcounted : { m' with
    players := m'.players.modify killer fun row =>
      { row with eliminations := row.eliminations.satAdd 1 }
    damage := m'.damage.erase target } = counted
  have hcount : RosterStep clock m' counted := by
    subst hcounted
    have hrows : RosterStep clock m' { m' with players := m'.players.modify killer fun row =>
        { row with eliminations := row.eliminations.satAdd 1 } } :=
      .of_modify fun row hrow => ⟨hrow.playerId, hrow.alive, hrow.respawn, hrow.speedBuff,
        hrow.horseBuff, hrow.fallen, hrow.longHits, hrow.longHitSteps⟩
    refine hrows.trans
      ⟨⟨_, _, rfl⟩, fun _ => .rfl, fun hs => ⟨hs.nonempty, hs.bounded, hs.rows, ?_⟩⟩
    intro other contributors hcontributors
    rw [ExtTreeMap.getElem?_erase] at hcontributors
    split_ifs at hcontributors
    exact hs.damage other contributors hcontributors
  have hassists : RosterStep clock counted
      (awardAssists tick killer (m'.damage[target]?.getD ∅).toList counted).2 :=
    awardAssists_step killer (m'.damage[target]?.getD ∅).toList counted
  generalize awardAssists tick killer _ counted = assisted at hassists ⊢
  obtain ⟨_ | assists, m''⟩ := assisted
  · exact (hawards.trans hcount).trans hassists
  · exact ((hawards.trans hcount).trans hassists).trans
      (.of_modify fun row hrow => hrow.eliminate hdeadline)

theorem recordElimination_step (h : m.Sound) (killer target : PlayerId) (saddleDive : Bool) :
    EventStep m (m.recordElimination tick killer target saddleDive).2 := by
  unfold recordElimination
  cases hlive : m.requireLiveTick tick with
  | some error => exact .refl h
  | none =>
    dsimp only
    generalize (m.activeReveal.any fun reveal =>
      reveal.playerId = target && tick ≥ reveal.startedTick && tick < reveal.endTick) = mostWanted
    split_ifs
    · exact .refl h
    · exact .refl h
    · have hmarked := h.markReveal mostWanted
      -- marking moves no clock, so the deadline is still ahead
      have hdeadline : (m.markReveal mostWanted).effectiveTick
          < tick.satAdd RESPAWN_DELAY_TICKS := by
        cases mostWanted <;> exact h.lt_satAdd hlive (by decide)
      exact hmarked.trans (hmarked.sound.step (settleElimination_step _ killer target
        (eliminationAwards_ne saddleDive mostWanted) hdeadline))

theorem recordHorseBolt_step (h : m.Sound) (attacker target : PlayerId) :
    EventStep m (m.recordHorseBolt tick attacker target).2 := by
  unfold recordHorseBolt
  cases m.requireLiveTick tick with
  | some error => exact .refl h
  | none =>
    dsimp only
    split_ifs
    · exact .refl h
    · exact h.step (m.award_step attacker (by decide) 15)

theorem recordMountedLongHit_step (h : m.Sound) (attacker : PlayerId) (distanceMm : UInt32) :
    EventStep m (m.recordMountedLongHit tick attacker distanceMm).2 := by
  unfold recordMountedLongHit
  cases m.requireLiveTick tick with
  | some error => exact .refl h
  | none =>
    dsimp only
    split_ifs
    · exact .refl h
    cases hrow : m.players[attacker]? with
    | none => exact .refl h
    | some row =>
      dsimp only
      split_ifs with hcap
      · exact .refl h
      · unfold award
        dsimp only
        rw [ExtTreeMap.getElem?_insert_self]
        -- the bonus and its score are written one after the other
        refine h.step (.of_rows ?_ (fun id => ?_) fun hs id row' hrow' => ?_)
        · have hmem : attacker ∈ m.players := by
            rw [ExtTreeMap.mem_iff_isSome_getElem?, hrow]
            rfl
          rw [ExtTreeMap.size_insert, if_pos (by simp), ExtTreeMap.size_insert,
            if_pos (ExtTreeMap.contains_iff_mem.mpr hmem)]
        · have hmem : attacker ∈ m.players := by
            rw [ExtTreeMap.mem_iff_isSome_getElem?, hrow]
            rfl
          rw [ExtTreeMap.mem_insert, ExtTreeMap.mem_insert]
          refine ⟨fun hid => ?_, fun hid => .inr (.inr hid)⟩
          rcases hid with heq | heq | hid
          · exact Std.LawfulEqCmp.eq_of_compare heq ▸ hmem
          · exact Std.LawfulEqCmp.eq_of_compare heq ▸ hmem
          · exact hid
        · rw [ExtTreeMap.getElem?_insert, ExtTreeMap.getElem?_insert] at hrow'
          split_ifs at hrow' with heq
          · cases hrow'
            have heq := Std.LawfulEqCmp.eq_of_compare heq
            subst heq
            exact (hs.rows _ row hrow).longHit (UInt16.not_le.mp hcap)
          · exact hs.rows id row' hrow'

theorem completeObjective_step (h : m.Sound) (player : PlayerId) (objectiveId : UInt64) :
    EventStep m (m.completeObjective tick player objectiveId).2 := by
  unfold completeObjective
  cases hlive : m.requireLiveTick tick with
  | some error => exact .refl h
  | none =>
    dsimp only
    by_cases hplayer : player ∈ m.players
    swap
    · rw [if_pos hplayer]
      exact .refl h
    rw [if_neg (not_not.mpr hplayer)]
    cases hobjective : m.activeObjective with
    | none => exact .refl h
    | some objective =>
      dsimp only
      have hbuff := h.lt_satAdd hlive (show 0 < HORSE_STATION_BUFF_TICKS by decide)
      have hdone : EventStep m
          { m with activeObjective := some { objective with completed := true } } :=
        h.progressObjective hobjective rfl rfl rfl (h.objective objective hobjective).1.2.2
      split_ifs
      · exact .refl h
      · exact hdone.trans (hdone.sound.step ((RosterStep.of_modify fun row hrow =>
          hrow.horseStation hbuff).trans (award_step _ player (by decide) _)))
      · exact hdone.trans (hdone.sound.step (award_step _ player (by decide) _))

theorem recordSignalTowerHold_step (h : m.Sound) (player : PlayerId)
    (objectiveId totalHoldTicks : UInt64) :
    EventStep m (m.recordSignalTowerHold tick player objectiveId totalHoldTicks).2 := by
  unfold recordSignalTowerHold
  cases m.requireLiveTick tick with
  | some error => exact .refl h
  | none =>
    dsimp only
    by_cases hplayer : player ∈ m.players
    swap
    · rw [if_pos hplayer]
      exact .refl h
    rw [if_neg (not_not.mpr hplayer)]
    cases hobjective : m.activeObjective with
    | none => exact .refl h
    | some objective =>
      dsimp only
      split_ifs with _ hpaid
      · exact .refl h
      · exact .refl h
      · exact .refl h
      · have hcategory : BountyScoreCategory.objective ≠ .mountedLongHit := by decide
        suffices hpaid : objective.signalPaidIntervals + 1 ≤ 3 by
          have hprogress : EventStep m { m with activeObjective := some { objective with
              signalPaidIntervals := objective.signalPaidIntervals + 1
              completed := objective.completed || objective.signalPaidIntervals + 1 = 3 } } :=
            h.progressObjective hobjective rfl rfl rfl hpaid
          exact hprogress.trans (hprogress.sound.step (award_step _ player hcategory 50))
        -- at most two intervals were paid before this one
        rw [not_or, UInt8.not_le, UInt8.lt_iff_toNat_lt] at hpaid
        rw [UInt8.le_iff_toNat_le, UInt8.toNat_add]
        have : (3 : UInt8).toNat = 3 ∧ (1 : UInt8).toNat = 1 := ⟨rfl, rfl⟩
        omega

/-! ## The clock -/

theorem RowSound.advanceTo {id : PlayerId} {row : BountyPlayerState} (h : RowSound clock id row) :
    RowSound tick id (row.advanceTo tick) := by
  have hfilter : ∀ (deadline : Option SimulationTick), ∀ last ∈ deadline.filter (tick < ·),
      tick < last := fun deadline last hlast => by simpa using (Option.mem_filter_iff.mp hlast).2
  unfold BountyPlayerState.advanceTo
  by_cases hdue : row.respawnsBy tick
  · rw [if_pos hdue]
    exact ⟨h.playerId, rfl, nofun, hfilter _, hfilter _, nofun, h.longHits, h.longHitSteps⟩
  · rw [if_neg hdue]
    refine ⟨h.playerId, h.alive, fun due hlast => ?_, hfilter _, hfilter _, fun hfallen => ?_,
      h.longHits, h.longHitSteps⟩
    · -- a row with a respawn ahead is not alive, so the respawn was not due
      have halive := h.alive
      rw [Option.mem_def.mp hlast, Option.isNone_some] at halive
      unfold BountyPlayerState.respawnsBy at hdue
      rw [halive, Option.mem_def.mp hlast] at hdue
      simpa using hdue
    · dsimp only
      rw [h.fallen hfallen]
      rfl

/-- The clock before any reveal or objective: every row is at the new effective tick. -/
theorem Sound.moveClock (h : m.Sound) (hlater : m.currentTick < tick) :
    RosterSound (m.moveClock tick).effectiveTick (m.moveClock tick) := by
  have hle : m.effectiveTick ≤ (m.moveClock tick).effectiveTick := by
    rw [UInt64.lt_iff_toNat_lt] at hlater
    rw [UInt64.le_iff_toNat_le, toNat_effectiveTick, toNat_effectiveTick]
    show min m.currentTick.toNat m.endTick.toNat ≤ min tick.toNat m.endTick.toNat
    omega
  unfold BountyMatchKernel.moveClock at hle ⊢
  refine ⟨?_, ?_, fun id row hrow => ?_, fun target contributors hcontributors => ?_⟩
  · rw [ExtTreeMap.size_map]
    exact h.roster.nonempty
  · rw [ExtTreeMap.size_map]
    exact h.roster.bounded
  · rw [ExtTreeMap.getElem?_map] at hrow
    obtain ⟨old, hold, rfl⟩ := Option.map_eq_some_iff.mp hrow
    exact (h.roster.rows id old hold).advanceTo
  · obtain ⟨htarget, hrest⟩ := h.roster.damage target contributors hcontributors
    refine ⟨ExtTreeMap.mem_map.mpr htarget, fun attacker contribution hcontribution => ?_⟩
    obtain ⟨hne, hattacker, hdamage, hlast⟩ := hrest attacker contribution hcontribution
    exact ⟨hne, ExtTreeMap.mem_map.mpr hattacker, hdamage, UInt64.le_trans hlast hle⟩

/-! ### Reveals -/

theorem maxByScore_mem {α : Type} {score : α → UInt32} {playerId : α → PlayerId} {rows : List α}
    {best : α} (h : maxByScore score playerId rows = some best) : best ∈ rows := by
  -- the best row so far is the one before or one of the rows walked
  have hfold : ∀ (rows : List α) (first : Option α),
      rows.foldl (keepBest score playerId) first = some best → best ∈ rows ∨ first = some best := by
    intro rows
    induction rows with
    | nil => exact fun first hfirst => .inr hfirst
    | cons row rows ih =>
      intro first hfirst
      rcases ih _ hfirst with hmem | hnext
      · exact .inl (List.mem_cons_of_mem _ hmem)
      · rcases keepBest_cases score playerId first row with htaken | ⟨-, hkept⟩
        · exact .inl (Option.some.inj (htaken.symm.trans hnext) ▸ List.mem_cons_self)
        · exact .inr (hkept.symm.trans hnext)
  exact (hfold rows none h).resolve_right nofun

theorem mem_rows {row : BountyPlayerState} : row ∈ m.rows ↔ ∃ id : PlayerId, m.players[id]? = some row := by
  unfold rows
  rw [List.mem_map]
  constructor
  · rintro ⟨⟨id, row⟩, hmem, rfl⟩
    exact ⟨id, ExtTreeMap.mem_toList_iff_getElem?_eq_some.mp hmem⟩
  · rintro ⟨id, hrow⟩
    exact ⟨(id, row), ExtTreeMap.mem_toList_iff_getElem?_eq_some.mpr hrow, rfl⟩

theorem winner_mem (h : RosterSound clock m) {player : PlayerId} (hwinner : m.winner = some player) :
    player ∈ m.players := by
  obtain ⟨row, hrow, rfl⟩ := Option.map_eq_some_iff.mp hwinner
  obtain ⟨id, hid⟩ := mem_rows.mp (maxByScore_mem hrow)
  rw [(h.rows id row hid).playerId, ExtTreeMap.mem_iff_isSome_getElem?, hid]
  rfl

def unscored (row : BountyPlayerState) : BountyPlayerState := { row with score := .zero }

theorem award_unscored (m : BountyMatchKernel) (player id : PlayerId)
    (category : BountyScoreCategory) (points : UInt16) :
    ((m.award player category points).2.players[id]?).map unscored
      = (m.players[id]?).map unscored := by
  unfold award
  cases hrow : m.players[player]? with
  | none => rfl
  | some row =>
    dsimp only
    rw [ExtTreeMap.getElem?_insert]
    split_ifs with heq
    · rw [← Std.LawfulEqCmp.eq_of_compare heq, hrow]
      rfl
    · rfl

/-- `m'` differs from `m` in scores and in the reveal, and keeps the rows sound. -/
structure RevealStep (clock : SimulationTick) (m m' : BountyMatchKernel) : Prop where
  shape : ∃ players reveal next,
    m' = { m with players := players, activeReveal := reveal, nextRevealTick := next }
  unscored : ∀ id : PlayerId,
    (m'.players[id]?).map unscored = (m.players[id]?).map unscored
  sound : RosterSound clock m'
  known : ∀ reveal ∈ m'.activeReveal, m'.KnownReveal reveal

theorem RevealStep.trans {m'' : BountyMatchKernel} (h : RevealStep clock m m')
    (h' : RevealStep clock m' m'') : RevealStep clock m m'' := by
  obtain ⟨players, reveal, next, rfl⟩ := h.shape
  obtain ⟨players', reveal', next', rfl⟩ := h'.shape
  exact ⟨⟨_, _, _, rfl⟩, fun id => (h'.unscored id).trans (h.unscored id), h'.sound, h'.known⟩

theorem closeReveal_spec (tick : SimulationTick) (h : RosterSound clock m)
    (hknown : ∀ reveal ∈ m.activeReveal, m.KnownReveal reveal) (output : BountyMatchTickOutput) :
    RevealStep clock m (m.closeReveal tick output).2
      ∧ (m.closeReveal tick output).2.nextRevealTick = m.nextRevealTick
      ∧ ∀ reveal ∈ (m.closeReveal tick output).2.activeReveal,
        reveal ∈ m.activeReveal ∧ tick < reveal.endTick := by
  unfold closeReveal
  cases hactive : m.activeReveal.filter (·.endTick ≤ tick) with
  | none =>
    refine ⟨⟨⟨_, _, _, rfl⟩, fun _ => rfl, h, hknown⟩, rfl, fun reveal hreveal => ⟨hreveal, ?_⟩⟩
    rw [Option.filter_eq_none_iff] at hactive
    simpa using hactive reveal hreveal
  | some reveal =>
    have hclosed : RosterSound clock { m with activeReveal := none } :=
      ⟨h.nonempty, h.bounded, h.rows, h.damage⟩
    dsimp only
    split_ifs
    · exact ⟨⟨⟨_, _, _, rfl⟩, fun _ => rfl, hclosed, nofun⟩, rfl, nofun⟩
    · have hstep : RosterStep clock { m with activeReveal := none }
          (award { m with activeReveal := none } reveal.playerId .mostWantedSurvival 10).2 :=
        award_step _ _ (show BountyScoreCategory.mostWantedSurvival ≠ .mountedLongHit by decide) 10
      have hsound := hstep.sound hclosed
      have hunscored := fun id => award_unscored { m with activeReveal := none } reveal.playerId id
        .mostWantedSurvival 10
      obtain ⟨players, damage, hshape⟩ := hstep.shape
      have hdamage : damage = m.damage := by
        have := congrArg BountyMatchKernel.damage hshape
        unfold award at this
        split at this <;> exact this.symm
      subst hdamage
      rw [hshape] at hsound hunscored ⊢
      exact ⟨⟨⟨_, _, _, rfl⟩, hunscored, hsound, nofun⟩, rfl, nofun⟩

theorem openReveal_spec (h : RosterSound clock m) (output : BountyMatchTickOutput)
    (hknown : ∀ reveal ∈ m.activeReveal, m.KnownReveal reveal) :
    RevealStep clock m (m.openReveal output).2
      ∧ (m.openReveal output).2.nextRevealTick
        = m.nextRevealTick.satAdd MOST_WANTED_CADENCE_TICKS := by
  unfold openReveal
  have hsound : ∀ reveal next, RosterSound clock
      { m with activeReveal := reveal, nextRevealTick := next } := fun _ _ =>
    ⟨h.nonempty, h.bounded, h.rows, h.damage⟩
  cases hwinner : m.winner with
  | none =>
    exact ⟨⟨⟨_, _, _, rfl⟩, fun _ => rfl, hsound _ _, fun reveal hreveal =>
      ⟨(hknown reveal hreveal).1, (hknown reveal hreveal).2⟩⟩, by dsimp only⟩
  | some player =>
    refine ⟨⟨⟨_, _, _, rfl⟩, fun _ => rfl, hsound _ _, ?_⟩, by dsimp only⟩
    rintro _ ⟨⟩
    exact ⟨winner_mem h hwinner, by dsimp only⟩

/-- The loop ends with the next window past the clock or past the end of the match. -/
theorem revealRounds_spec {fuel : ℕ} (h : RosterSound tick m)
    (hknown : ∀ reveal ∈ m.activeReveal, m.KnownReveal reveal)
    (hfuel : m.endTick.toNat ≤ m.nextRevealTick.toNat + 3600 * fuel)
    (output : BountyMatchTickOutput) :
    RevealStep tick m (revealRounds tick fuel m output).2
      ∧ ((revealRounds tick fuel m output).2.endTick
          ≤ (revealRounds tick fuel m output).2.nextRevealTick
        ∨ tick < (revealRounds tick fuel m output).2.nextRevealTick) := by
  induction fuel generalizing m output with
  | zero =>
    refine ⟨⟨⟨_, _, _, rfl⟩, fun _ => rfl, h, hknown⟩, .inl ?_⟩
    rw [UInt64.le_iff_toNat_le]
    exact hfuel
  | succ fuel ih =>
    unfold revealRounds
    split_ifs with hdue
    · obtain ⟨hclose, hnext, hactive⟩ := closeReveal_spec m.nextRevealTick h hknown output
      dsimp only
      generalize m.closeReveal m.nextRevealTick output = closed at hclose hnext hactive ⊢
      obtain ⟨hopen, hnext'⟩ := openReveal_spec hclose.sound closed.1 hclose.known
      generalize closed.2.openReveal closed.1 = opened at hopen hnext' ⊢
      have hround := hclose.trans hopen
      have hend : opened.2.endTick = m.endTick := by
        obtain ⟨_, _, _, hshape⟩ := hround.shape
        rw [hshape]
      have hrest := ih hround.sound hround.known (by
        -- the next window starts a cadence later, or at the last representable tick
        have := m.endTick.toNat_lt
        rw [hend, hnext', hnext, UInt64.toNat_satAdd,
          show MOST_WANTED_CADENCE_TICKS.toNat = 3600 from rfl]
        omega) opened.1
      exact ⟨hround.trans hrest.1, hrest.2⟩
    · refine ⟨⟨⟨_, _, _, rfl⟩, fun _ => rfl, h, hknown⟩, ?_⟩
      rw [not_and_or, UInt64.not_le, UInt64.not_lt] at hdue
      exact hdue.symm

theorem roundsLeft_spec (m : BountyMatchKernel) (next cadence : UInt64)
    (hcadence : 0 < cadence.toNat) :
    m.endTick.toNat ≤ next.toNat + cadence.toNat * m.roundsLeft next cadence := by
  unfold roundsLeft
  have := Nat.div_add_mod (m.endTick.toNat - next.toNat) cadence.toNat
  have := Nat.mod_lt (m.endTick.toNat - next.toNat) hcadence
  rw [Nat.mul_add, Nat.mul_one]
  omega

theorem advanceReveals_spec (h : RosterSound tick m)
    (hknown : ∀ reveal ∈ m.activeReveal, m.KnownReveal reveal) (output : BountyMatchTickOutput) :
    RevealStep tick m (m.advanceReveals tick output).2
      ∧ (∀ reveal ∈ (m.advanceReveals tick output).2.activeReveal, tick < reveal.endTick)
      ∧ ((m.advanceReveals tick output).2.endTick
          ≤ (m.advanceReveals tick output).2.nextRevealTick
        ∨ tick < (m.advanceReveals tick output).2.nextRevealTick) := by
  unfold advanceReveals
  obtain ⟨hrounds, hnext⟩ := revealRounds_spec h hknown
    (m.roundsLeft_spec m.nextRevealTick MOST_WANTED_CADENCE_TICKS (by decide)) output
  dsimp only
  generalize revealRounds tick _ m output = rounds at hrounds hnext ⊢
  obtain ⟨hclose, hsame, hactive⟩ := closeReveal_spec tick hrounds.sound hrounds.known
    rounds.1
  generalize rounds.2.closeReveal tick rounds.1 = closed at hclose hsame hactive ⊢
  have hend : closed.2.endTick = rounds.2.endTick := by
    obtain ⟨_, _, _, hshape⟩ := hclose.shape
    rw [hshape]
  refine ⟨hrounds.trans hclose, fun reveal hreveal => (hactive reveal hreveal).2, ?_⟩
  rw [hend, hsame]
  exact hnext

/-! ### Objectives -/

/-- The objective plane: the next window follows from the number of windows opened. -/
structure ObjectivesSound (m : BountyMatchKernel) : Prop where
  known : ∀ objective ∈ m.activeObjective, KnownObjective objective
  sequence : m.nextObjectiveTick.toNat
    = m.startTick.toNat + 5400 * (m.objectiveSequence.toNat + 1)
  sequenceBound : m.objectiveSequence.toNat ≤ 9

/-- `m'` differs from `m` in the objective plane only. -/
def ObjectiveStep (m m' : BountyMatchKernel) : Prop :=
  ∃ objective next sequence, m' = { m with
    activeObjective := objective, nextObjectiveTick := next, objectiveSequence := sequence }

theorem ObjectiveStep.trans {m'' : BountyMatchKernel} (h : ObjectiveStep m m')
    (h' : ObjectiveStep m' m'') : ObjectiveStep m m'' := by
  obtain ⟨objective, next, sequence, rfl⟩ := h
  obtain ⟨objective', next', sequence', rfl⟩ := h'
  exact ⟨_, _, _, rfl⟩

theorem closeObjective_spec (tick : SimulationTick) (h : ObjectivesSound m) (output : BountyMatchTickOutput) :
    ObjectiveStep m (m.closeObjective tick output).2
      ∧ ObjectivesSound (m.closeObjective tick output).2
      ∧ (m.closeObjective tick output).2.nextObjectiveTick = m.nextObjectiveTick
      ∧ ∀ objective ∈ (m.closeObjective tick output).2.activeObjective,
        tick < objective.endTick := by
  unfold closeObjective
  cases hactive : m.activeObjective.filter (·.endTick ≤ tick) with
  | none =>
    refine ⟨⟨_, _, _, rfl⟩, h, rfl, fun objective hobjective => ?_⟩
    rw [Option.filter_eq_none_iff] at hactive
    simpa using hactive objective hobjective
  | some objective => exact ⟨⟨_, _, _, rfl⟩, ⟨nofun, h.sequence, h.sequenceBound⟩, rfl, nofun⟩

theorem openObjective_spec (h : ObjectivesSound m) (hstart : m.startTick.toNat ≤ 2 ^ 63)
    (hend : m.endTick.toNat = m.startTick.toNat + 54000) (hlive : m.nextObjectiveTick < m.endTick)
    (output : BountyMatchTickOutput) :
    ObjectiveStep m (m.openObjective output).2 ∧ ObjectivesSound (m.openObjective output).2
      ∧ (m.openObjective output).2.nextObjectiveTick.toNat = m.nextObjectiveTick.toNat + 5400 := by
  -- fewer than nine windows were opened while the next one starts before the end
  have hseq := h.sequence
  rw [UInt64.lt_iff_toNat_lt] at hlive
  have hnext : (m.objectiveSequence.satAdd 1).toNat = m.objectiveSequence.toNat + 1 := by
    rw [UInt64.toNat_satAdd, show (1 : UInt64).toNat = 1 from rfl]
    have := h.sequenceBound
    omega
  have hcadence : (m.nextObjectiveTick.satAdd OBJECTIVE_CADENCE_TICKS).toNat
      = m.nextObjectiveTick.toNat + 5400 := by
    rw [UInt64.toNat_satAdd, show OBJECTIVE_CADENCE_TICKS.toNat = 5400 from rfl]
    omega
  unfold openObjective
  refine ⟨⟨_, _, _, rfl⟩, ⟨?_, ?_, ?_⟩, by dsimp only; exact hcadence⟩
  · rintro _ ⟨⟩
    refine ⟨?_, by dsimp only, UInt8.zero_le⟩
    show 0 < m.objectiveSequence.satAdd 1
    rw [UInt64.lt_iff_toNat_lt, hnext]
    exact Nat.succ_pos _
  · dsimp only
    rw [hnext, hcadence]
    omega
  · dsimp only
    omega

/-- As for the reveals: the next window is past the clock or past the end of the match. -/
theorem objectiveRounds_spec (tick : SimulationTick) {fuel : ℕ} (h : ObjectivesSound m)
    (hstart : m.startTick.toNat ≤ 2 ^ 63) (hend : m.endTick.toNat = m.startTick.toNat + 54000)
    (hfuel : m.endTick.toNat ≤ m.nextObjectiveTick.toNat + 5400 * fuel)
    (output : BountyMatchTickOutput) :
    ObjectiveStep m (objectiveRounds tick fuel m output).2
      ∧ ObjectivesSound (objectiveRounds tick fuel m output).2
      ∧ ((objectiveRounds tick fuel m output).2.endTick
          ≤ (objectiveRounds tick fuel m output).2.nextObjectiveTick
        ∨ tick < (objectiveRounds tick fuel m output).2.nextObjectiveTick) := by
  induction fuel generalizing m output with
  | zero =>
    refine ⟨⟨_, _, _, rfl⟩, h, .inl ?_⟩
    rw [UInt64.le_iff_toNat_le]
    exact hfuel
  | succ fuel ih =>
    unfold objectiveRounds
    split_ifs with hdue
    · obtain ⟨hclose, hsound, hnext, -⟩ :=
        closeObjective_spec m.nextObjectiveTick h output
      dsimp only
      generalize m.closeObjective m.nextObjectiveTick output = closed at hclose hsound hnext ⊢
      have hframe : closed.2.startTick = m.startTick ∧ closed.2.endTick = m.endTick := by
        obtain ⟨_, _, _, hshape⟩ := hclose
        rw [hshape]
        exact ⟨rfl, rfl⟩
      obtain ⟨hopen, hsound', hcadence⟩ := openObjective_spec hsound (hframe.1 ▸ hstart)
        (by rw [hframe.1, hframe.2, hend]) (by rw [hframe.2, hnext]; exact hdue.2) closed.1
      generalize closed.2.openObjective closed.1 = opened at hopen hsound' hcadence ⊢
      have hround := hclose.trans hopen
      have hframe' : opened.2.startTick = m.startTick ∧ opened.2.endTick = m.endTick := by
        obtain ⟨_, _, _, hshape⟩ := hround
        rw [hshape]
        exact ⟨rfl, rfl⟩
      have hrest := ih hsound' (hframe'.1 ▸ hstart) (by rw [hframe'.1, hframe'.2, hend])
        (by rw [hframe'.2, hcadence, hnext]; omega) opened.1
      exact ⟨hround.trans hrest.1, hrest.2⟩
    · refine ⟨⟨_, _, _, rfl⟩, h, ?_⟩
      rw [not_and_or, UInt64.not_le, UInt64.not_lt] at hdue
      exact hdue.symm

theorem advanceObjectives_spec (tick : SimulationTick) (h : ObjectivesSound m) (hstart : m.startTick.toNat ≤ 2 ^ 63)
    (hend : m.endTick.toNat = m.startTick.toNat + 54000) (output : BountyMatchTickOutput) :
    ObjectiveStep m (m.advanceObjectives tick output).2
      ∧ ObjectivesSound (m.advanceObjectives tick output).2
      ∧ (∀ objective ∈ (m.advanceObjectives tick output).2.activeObjective,
        tick < objective.endTick)
      ∧ ((m.advanceObjectives tick output).2.endTick
          ≤ (m.advanceObjectives tick output).2.nextObjectiveTick
        ∨ tick < (m.advanceObjectives tick output).2.nextObjectiveTick) := by
  unfold advanceObjectives
  obtain ⟨hclose, hsound, -, -⟩ := closeObjective_spec tick h output
  dsimp only
  generalize m.closeObjective tick output = closed at hclose hsound ⊢
  have hframe : closed.2.startTick = m.startTick ∧ closed.2.endTick = m.endTick := by
    obtain ⟨_, _, _, hshape⟩ := hclose
    rw [hshape]
    exact ⟨rfl, rfl⟩
  have hleft := closed.2.roundsLeft_spec closed.2.nextObjectiveTick OBJECTIVE_CADENCE_TICKS
    (by decide)
  obtain ⟨hrounds, hsound', hnext⟩ := objectiveRounds_spec tick hsound
    (hframe.1 ▸ hstart) (by rw [hframe.1, hframe.2, hend]) hleft closed.1
  generalize objectiveRounds tick _ closed.2 closed.1 = rounds at hrounds hsound' hnext ⊢
  obtain ⟨hclose', hsound'', hsame, hactive⟩ :=
    closeObjective_spec tick hsound' rounds.1
  generalize rounds.2.closeObjective tick rounds.1 = closed' at hclose' hsound'' hsame hactive ⊢
  have hend' : closed'.2.endTick = rounds.2.endTick := by
    obtain ⟨_, _, _, hshape⟩ := hclose'
    rw [hshape]
  refine ⟨(hclose.trans hrounds).trans hclose', hsound'', hactive, ?_⟩
  rw [hend', hsame]
  exact hnext

/-! ### Advancing the clock -/

theorem advanceReveals_idle (tick : SimulationTick) (hnext : m.endTick ≤ m.nextRevealTick) (hnone : m.activeReveal = none)
    (output : BountyMatchTickOutput) : (m.advanceReveals tick output).2 = m := by
  have hrounds : ∀ fuel, revealRounds tick fuel m output = (output, m) := by
    intro fuel
    cases fuel with
    | zero => rfl
    | succ fuel =>
      unfold revealRounds
      rw [if_neg fun hdue => absurd hdue.2 (UInt64.not_lt.mpr hnext)]
  unfold advanceReveals
  rw [hrounds]
  dsimp only
  unfold closeReveal
  rw [hnone]
  rfl

theorem advanceObjectives_idle (tick : SimulationTick) (hnext : m.endTick ≤ m.nextObjectiveTick)
    (hnone : m.activeObjective = none) (output : BountyMatchTickOutput) :
    (m.advanceObjectives tick output).2 = m := by
  have hrounds : ∀ fuel, objectiveRounds tick fuel m output = (output, m) := by
    intro fuel
    cases fuel with
    | zero => rfl
    | succ fuel =>
      unfold objectiveRounds
      rw [if_neg fun hdue => absurd hdue.2 (UInt64.not_lt.mpr hnext)]
  have hclose : m.closeObjective tick output = (output, m) := by
    unfold closeObjective
    rw [hnone]
    rfl
  unfold advanceObjectives
  rw [hclose]
  dsimp only
  rw [hrounds, hclose]

/-- Once the match has ended no window opens any more. -/
theorem Sound.endTick_le_next (h : m.Sound) (hfinished : m.finished = true) :
    m.endTick ≤ m.nextRevealTick ∧ m.endTick ≤ m.nextObjectiveTick := by
  have hend : m.endTick ≤ m.currentTick := by
    have := h.finished
    rw [hfinished] at this
    exact of_decide_eq_true this.symm
  have heffective : m.effectiveTick = m.endTick := by
    rw [UInt64.le_iff_toNat_le] at hend
    rw [← UInt64.toNat_inj, toNat_effectiveTick]
    omega
  have hreveal := h.nextReveal
  have hobjective := h.nextObjective
  rw [heffective] at hreveal hobjective
  exact ⟨hreveal.elim id UInt64.le_of_lt, hobjective.elim id UInt64.le_of_lt⟩

/-- What the clock did, apart from the end of the match. -/
theorem Sound.finish {before : BountyMatchKernel} {output : BountyMatchTickOutput} (h : before.Sound)
    (hlater : before.currentTick < m.currentTick) (hstart : m.startTick = before.startTick)
    (hend : m.endTick = before.endTick) (hfinished : m.finished = before.finished)
    (hroster : RosterSound m.effectiveTick m)
    (hreveal : ∀ reveal ∈ m.activeReveal, m.KnownReveal reveal ∧ m.effectiveTick < reveal.endTick)
    (hnextReveal : m.endTick ≤ m.nextRevealTick ∨ m.effectiveTick < m.nextRevealTick)
    (hobjectives : ObjectivesSound m)
    (hobjective : ∀ objective ∈ m.activeObjective, m.effectiveTick < objective.endTick)
    (hnextObjective : m.endTick ≤ m.nextObjectiveTick ∨ m.effectiveTick < m.nextObjectiveTick)
    (hidle : m.finished → m.activeReveal = none ∧ m.activeObjective = none) :
    (m.finish m.currentTick output).2.Sound := by
  have hstarted : m.startTick ≤ m.currentTick :=
    hstart ▸ UInt64.le_trans h.started (UInt64.le_of_lt hlater)
  unfold BountyMatchKernel.finish
  split_ifs with hdue
  · exact {
      start := hstart ▸ h.start
      endTick := by rw [hstart, hend]; exact h.endTick
      started := hstarted
      finished := (decide_eq_true hdue.1).symm
      roster := ⟨hroster.nonempty, hroster.bounded, hroster.rows, hroster.damage⟩
      reveal := nofun
      nextReveal := hnextReveal
      objective := nofun
      nextObjective := hnextObjective
      sequence := hobjectives.sequence
      sequenceBound := hobjectives.sequenceBound
      idle := fun _ => ⟨rfl, rfl⟩ }
  · refine {
      start := hstart ▸ h.start
      endTick := by rw [hstart, hend]; exact h.endTick
      started := hstarted
      finished := ?_
      roster := hroster
      reveal := hreveal
      nextReveal := hnextReveal
      objective := fun objective hactive =>
        ⟨hobjectives.known objective hactive, hobjective objective hactive⟩
      nextObjective := hnextObjective
      sequence := hobjectives.sequence
      sequenceBound := hobjectives.sequenceBound
      idle := hidle }
    -- a finished match stays finished, and one that is not has not reached its end
    cases hover : m.finished with
    | true =>
      have hbefore := h.finished
      rw [← hfinished, hover] at hbefore
      have hpast := UInt64.le_trans (of_decide_eq_true hbefore.symm) (UInt64.le_of_lt hlater)
      exact (decide_eq_true (hend ▸ hpast)).symm
    | false =>
      rw [hover] at hdue
      exact (decide_eq_false fun hpast => hdue ⟨hpast, rfl⟩).symm

/-- `m'` is a sound state at the tick, with the rows of the moved clock up to their scores. -/
structure ClockStep (tick : SimulationTick) (m m' : BountyMatchKernel) : Prop where
  sound : m'.Sound
  shape : ∃ players reveal nextReveal objective nextObjective sequence finished, m' = { m with
    currentTick := tick, players := players, activeReveal := reveal, nextRevealTick := nextReveal,
    activeObjective := objective, nextObjectiveTick := nextObjective,
    objectiveSequence := sequence, finished := finished }
  unscored : ∀ id : PlayerId,
    (m'.players[id]?).map unscored = ((m.moveClock tick).players[id]?).map unscored

theorem advanceTick_step (h : m.Sound) (hlater : m.currentTick < tick) :
    ClockStep tick m (m.advanceTick tick).2 := by
  unfold advanceTick
  rw [if_neg (UInt64.not_le.mpr hlater)]
  dsimp only
  have hclock := h.moveClock hlater
  have heffective : (m.moveClock tick).effectiveTick = min tick m.endTick := rfl
  rw [heffective] at hclock
  have hknown : ∀ reveal ∈ (m.moveClock tick).activeReveal, (m.moveClock tick).KnownReveal reveal :=
    fun reveal hreveal =>
      ⟨ExtTreeMap.mem_map.mpr (h.reveal reveal hreveal).1.1, (h.reveal reveal hreveal).1.2⟩
  have hobjectives : ObjectivesSound (m.moveClock tick) :=
    ⟨fun objective hobjective => (h.objective objective hobjective).1, h.sequence, h.sequenceBound⟩
  obtain ⟨hreveals, hreveal, hnextReveal⟩ := advanceReveals_spec hclock hknown .empty
  have hrevealsIdle := fun hfinished : m.finished = true =>
    advanceReveals_idle (m := m.moveClock tick) (min tick m.endTick)
      (h.endTick_le_next hfinished).1 (h.idle hfinished).1 .empty
  generalize (m.moveClock tick).advanceReveals (min tick m.endTick) .empty = reveals
    at hreveals hreveal hnextReveal hrevealsIdle ⊢
  obtain ⟨output, revealed⟩ := reveals
  obtain ⟨players, reveal, nextReveal, rfl⟩ := hreveals.shape
  have hobjectives' : ObjectivesSound { m.moveClock tick with
      players := players, activeReveal := reveal, nextRevealTick := nextReveal } :=
    ⟨hobjectives.known, hobjectives.sequence, hobjectives.sequenceBound⟩
  dsimp only at hreveal hnextReveal hrevealsIdle ⊢
  obtain ⟨⟨objective, next, sequence, hshape⟩, hsound, hobjective, hnext⟩ :=
    advanceObjectives_spec (min tick m.endTick) hobjectives' h.start h.endTick output
  have hobjectivesIdle := fun hfinished : m.finished = true =>
    advanceObjectives_idle (min tick m.endTick) (m := { m.moveClock tick with
        players := players, activeReveal := reveal, nextRevealTick := nextReveal })
      (h.endTick_le_next hfinished).2 (h.idle hfinished).2 output
  generalize advanceObjectives { m.moveClock tick with
      players := players, activeReveal := reveal, nextRevealTick := nextReveal }
      (min tick m.endTick) output = objectives
    at hshape hsound hobjective hnext hobjectivesIdle ⊢
  obtain ⟨output', ended⟩ := objectives
  dsimp only at hshape hsound hobjective hnext hobjectivesIdle ⊢
  subst hshape
  refine ⟨?_, ?_, ?_⟩
  rotate_left
  · unfold BountyMatchKernel.finish
    split_ifs <;> exact ⟨_, _, _, _, _, _, _, rfl⟩
  · unfold BountyMatchKernel.finish
    split_ifs <;> exact hreveals.unscored
  refine Sound.finish h hlater rfl rfl rfl ?_ (fun revealed hrevealed => ?_) hnextReveal hsound
    hobjective hnext fun hfinished => ?_
  · exact ⟨hreveals.sound.nonempty, hreveals.sound.bounded, hreveals.sound.rows,
      hreveals.sound.damage⟩
  · exact ⟨hreveals.known revealed hrevealed, hreveal revealed hrevealed⟩
  · have hnone := congrArg activeReveal (hrevealsIdle hfinished)
    have hnone' := congrArg activeObjective (hobjectivesIdle hfinished)
    exact ⟨hnone.trans (h.idle hfinished).1, hnone'.trans (h.idle hfinished).2⟩

theorem sound_advanceTick (h : m.Sound) (tick : SimulationTick) : (m.advanceTick tick).2.Sound := by
  by_cases hreplay : tick ≤ m.currentTick
  · unfold advanceTick
    rw [if_pos hreplay]
    exact h
  · exact (advanceTick_step h (UInt64.not_le.mp hreplay)).sound

/-! ## A new match -/

theorem RowSound.new (id : PlayerId) : RowSound clock id (BountyPlayerState.new id) :=
  ⟨rfl, rfl, nofun, nofun, nofun, nofun, rfl, 0, Nat.zero_le 5, rfl⟩

theorem sound_new {authorityEpoch lobbySeed : UInt64} {startTick : SimulationTick}
    {roster : List PlayerId} (hnew : new authorityEpoch lobbySeed startTick roster = .ok m)
    (hstart : startTick.toNat ≤ 2 ^ 63) : m.Sound := by
  unfold new at hnew
  dsimp only at hnew
  split_ifs at hnew with hroster
  rw [not_or, not_or, Nat.not_lt] at hroster
  obtain ⟨hempty, -, hlength⟩ := hroster
  cases hnew
  have hnodup := nodup_orderedSet roster
  have hend : (startTick.satAdd BOUNTY_RUN_DURATION_TICKS).toNat = startTick.toNat + 54000 := by
    rw [UInt64.toNat_satAdd, show BOUNTY_RUN_DURATION_TICKS.toNat = 54000 from rfl]
    omega
  have hreveal : startTick.toNat < (startTick.satAdd MOST_WANTED_CADENCE_TICKS).toNat := by
    rw [UInt64.toNat_satAdd, show MOST_WANTED_CADENCE_TICKS.toNat = 3600 from rfl]
    omega
  have hobjective : (startTick.satAdd OBJECTIVE_CADENCE_TICKS).toNat = startTick.toNat + 5400 := by
    rw [UInt64.toNat_satAdd, show OBJECTIVE_CADENCE_TICKS.toNat = 5400 from rfl]
    omega
  generalize startTick.satAdd BOUNTY_RUN_DURATION_TICKS = endTick at hend
  generalize startTick.satAdd MOST_WANTED_CADENCE_TICKS = nextReveal at hreveal
  generalize startTick.satAdd OBJECTIVE_CADENCE_TICKS = nextObjective at hobjective
  have hlive : ¬endTick ≤ startTick := by
    rw [UInt64.le_iff_toNat_le]
    omega
  have hclock : ∀ next : SimulationTick, startTick.toNat < next.toNat →
      min startTick endTick < next := by
    intro next hnext
    rw [UInt64.lt_iff_toNat_lt, UInt64.toNat_min]
    omega
  refine {
    start := hstart
    endTick := hend
    started := UInt64.le_refl startTick
    finished := (decide_eq_false hlive).symm
    roster := ⟨?_, ?_, fun id row hrow => ?_, fun target contributors hcontributors => ?_⟩
    reveal := nofun
    nextReveal := .inr (hclock nextReveal hreveal)
    objective := nofun
    nextObjective := .inr (hclock nextObjective (by omega))
    sequence := hobjective
    sequenceBound := Nat.zero_le 9
    idle := nofun }
  · dsimp only
    rw [ExtTreeMap.size_ofList_tabulate hnodup, List.length_pos_iff]
    exact fun h => hempty (List.isEmpty_iff.mpr h)
  · dsimp only
    rwa [ExtTreeMap.size_ofList_tabulate hnodup]
  · dsimp only at hrow
    rw [ExtTreeMap.getElem?_ofList_tabulate hnodup] at hrow
    split_ifs at hrow
    cases hrow
    exact .new id
  · dsimp only at hcontributors
    rw [ExtTreeMap.getElem?_empty] at hcontributors
    exact nomatch hcontributors

end BountyMatchKernel

end Spurfire
