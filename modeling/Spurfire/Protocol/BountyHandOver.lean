import Spurfire.Lib.Fallible
import Spurfire.Protocol.BountyRun

/-!
# Handing a bounty match over

* `sound_run` carries the invariant through whole runs.
* `stateIsValid_iff` says what the validity check of a checkpoint adds to the invariant: bounded
  scores, and buffs that end after the raw clock.
* `hand_over_iff_buffs_outlast` says when a match can be handed over in every state of a run.  The
  clock keeps a buff that outlasts the end of the match, and the check reads the raw clock, so a
  buff still running at the end invalidates the state once the raw clock passes it.
-/

namespace Spurfire

open Std (ExtTreeMap)

namespace BountyMatchKernel

variable {m : BountyMatchKernel} {clock tick : SimulationTick}

/-! ## Validity -/

def ScoresBounded (m : BountyMatchKernel) : Prop :=
  ∀ row ∈ m.rows, row.totalScore ≤ MAX_BOUNTY_SCORE

instance (m : BountyMatchKernel) : Decidable m.ScoresBounded :=
  inferInstanceAs (Decidable (∀ row ∈ m.rows, row.totalScore ≤ MAX_BOUNTY_SCORE))

/-- Every buff ends after the raw clock. -/
def BuffsAhead (m : BountyMatchKernel) : Prop :=
  ∀ (id : PlayerId), ∀ row ∈ m.players[id]?,
    (∀ last ∈ row.respawnSpeedBuffEndTick, m.currentTick < last)
      ∧ ∀ last ∈ row.horseBuffEndTick, m.currentTick < last

/-- Before its end the match runs on the raw clock. -/
theorem Sound.effectiveTick_eq (h : m.Sound) (hlive : m.finished = false) :
    m.effectiveTick = m.currentTick := by
  rw [h.finished, decide_eq_false_iff_not, UInt64.le_iff_toNat_le] at hlive
  rw [← UInt64.toNat_inj, toNat_effectiveTick]
  omega

/-- Before the end the invariant itself keeps the buffs ahead of the clock. -/
theorem Sound.buffsAhead (h : m.Sound) (hlive : m.finished = false) : m.BuffsAhead := by
  intro id row hrow
  have hrow := h.roster.rows id row hrow
  rw [h.effectiveTick_eq hlive] at hrow
  exact ⟨hrow.speedBuff, hrow.horseBuff⟩

theorem effectiveTick_le (m : BountyMatchKernel) : m.effectiveTick ≤ m.currentTick := by
  rw [UInt64.le_iff_toNat_le, toNat_effectiveTick]
  exact Nat.min_le_left _ _

theorem any_le_eq_false {deadline : Option SimulationTick} :
    deadline.any (· ≤ tick) = false ↔ ∀ last ∈ deadline, tick < last := by
  cases deadline <;> simp

theorem RowSound.longHit_le {id : PlayerId} {row : BountyPlayerState}
    (h : RowSound clock id row) : row.mountedLongHitBonus ≤ LONG_HIT_BONUS_CAP := by
  obtain ⟨n, hn, hsteps⟩ := h.longHitSteps
  rw [UInt16.le_iff_toNat_le, hsteps, show LONG_HIT_BONUS_CAP.toNat = 50 from rfl]
  omega

theorem RowSound.not_alive_eq {id : PlayerId} {row : BountyPlayerState}
    (h : RowSound clock id row) : (row.alive == row.respawnAtTick.isSome) = false := by
  rw [h.alive]
  cases row.respawnAtTick <;> rfl

theorem playerRowIsValid_iff (h : m.Sound) {id : PlayerId} {row : BountyPlayerState}
    (hrow : RowSound m.effectiveTick id row) :
    m.playerRowIsValid id row = true ↔ row.totalScore ≤ MAX_BOUNTY_SCORE
      ∧ (∀ last ∈ row.respawnSpeedBuffEndTick, m.currentTick < last)
      ∧ ∀ last ∈ row.horseBuffEndTick, m.currentTick < last := by
  have hrespawn : row.respawnAtTick.any (fun due => !m.finished && due ≤ m.currentTick) = false := by
    cases hlive : m.finished with
    | true => cases row.respawnAtTick <;> rfl
    | false =>
      have hahead := hrow.respawn
      rw [h.effectiveTick_eq hlive] at hahead
      simpa using any_le_eq_false.mpr hahead
  unfold playerRowIsValid
  rw [hrespawn, hrow.not_alive_eq, hrow.playerId, hrow.longHits]
  simp [hrow.longHit_le, any_le_eq_false, and_assoc]

/-- The contributors to a target are other players of the match. -/
theorem damageRowIsValid_of_sound (h : m.Sound) {target : PlayerId}
    {contributors : ExtTreeMap PlayerId DamageContribution}
    (hcontributors : m.damage[target]? = some contributors) :
    m.damageRowIsValid target contributors = true := by
  obtain ⟨htarget, hrest⟩ := h.roster.damage target contributors hcontributors
  have hsize : contributors.size ≤ m.players.size := by
    refine ExtTreeMap.size_le_of_mem fun attacker hattacker => ?_
    obtain ⟨contribution, hcontribution⟩ :=
      Option.isSome_iff_exists.mp (ExtTreeMap.mem_iff_isSome_getElem?.mp hattacker)
    exact (hrest attacker contribution hcontribution).2.1
  have hrows : contributors.toList.any (fun row => row.1 == target || !m.players.contains row.1
      || row.2.damage == 0 || row.2.lastTick > m.currentTick) = false := by
    rw [List.any_eq_false]
    rintro ⟨attacker, contribution⟩ hmem
    obtain ⟨hne, hattacker, hdamage, hlast⟩ := hrest attacker contribution
      (ExtTreeMap.mem_toList_iff_getElem?_eq_some.mp hmem)
    have hlast := UInt64.not_lt.mpr (UInt64.le_trans hlast m.effectiveTick_le)
    simp [hne, hdamage, hattacker, hlast]
  unfold damageRowIsValid
  rw [hrows]
  simpa [htarget] using hsize

theorem damage_valid (h : m.Sound) :
    m.damage.toList.any (fun row => !m.damageRowIsValid row.1 row.2) = false := by
  rw [List.any_eq_false]
  rintro ⟨target, contributors⟩ hmem
  simpa using damageRowIsValid_of_sound h (ExtTreeMap.mem_toList_iff_getElem?_eq_some.mp hmem)

theorem players_valid_iff (h : m.Sound) :
    m.players.toList.any (fun row => !m.playerRowIsValid row.1 row.2) = false
      ↔ m.ScoresBounded ∧ m.BuffsAhead := by
  have hrow := fun id row hmem => playerRowIsValid_iff h (h.roster.rows id row hmem)
  rw [List.any_eq_false]
  constructor
  · intro hvalid
    have hsplit := fun (id : PlayerId) row (hmem : row ∈ m.players[id]?) =>
      (hrow id row hmem).mp (by
        simpa using hvalid (id, row) (ExtTreeMap.mem_toList_iff_getElem?_eq_some.mpr hmem))
    refine ⟨fun row hmem => ?_, fun id row hmem => (hsplit id row hmem).2⟩
    obtain ⟨id, hrow⟩ := mem_rows.mp hmem
    exact (hsplit id row hrow).1
  · rintro ⟨hscores, hbuffs⟩ ⟨id, row⟩ hmem
    have hmem := ExtTreeMap.mem_toList_iff_getElem?_eq_some.mp hmem
    simpa using (hrow id row hmem).mpr ⟨hscores row (mem_rows.mpr ⟨id, hmem⟩), hbuffs id row hmem⟩

/-- A window is open only before the end. -/
theorem not_finished_of_window {α : Type} {window : Option α} {active : α}
    (hidle : m.finished → window = none) (hactive : window = some active) :
    m.finished = false := by
  refine Bool.eq_false_iff.mpr fun hfinished => ?_
  exact nomatch (hidle hfinished).symm.trans hactive

theorem reveal_valid (h : m.Sound) :
    m.activeReveal.any (fun reveal => !m.players.contains reveal.playerId
      || reveal.endTick != reveal.startedTick.satAdd MOST_WANTED_REVEAL_TICKS
      || m.currentTick ≥ reveal.endTick) = false := by
  cases hactive : m.activeReveal with
  | none => rfl
  | some reveal =>
    obtain ⟨⟨hplayer, hwindow⟩, hclock⟩ := h.reveal reveal hactive
    rw [h.effectiveTick_eq (not_finished_of_window (fun hover => (h.idle hover).1) hactive)] at hclock
    simpa [hplayer, hwindow] using hwindow ▸ hclock

theorem objective_valid (h : m.Sound) :
    (m.activeObjective.all fun objective => objective.objectiveId > 0
      && objective.endTick == objective.startedTick.satAdd OBJECTIVE_LIFETIME_TICKS
      && objective.signalPaidIntervals ≤ 3 && m.currentTick < objective.endTick) = true := by
  cases hactive : m.activeObjective with
  | none => rfl
  | some objective =>
    obtain ⟨⟨hid, hwindow, hpaid⟩, hclock⟩ := h.objective objective hactive
    rw [h.effectiveTick_eq (not_finished_of_window (fun hover => (h.idle hover).2) hactive)] at hclock
    rw [Option.all_some, Bool.and_eq_true, Bool.and_eq_true, Bool.and_eq_true, beq_iff_eq]
    exact ⟨⟨⟨decide_eq_true hid, hwindow⟩, decide_eq_true hpaid⟩, decide_eq_true hclock⟩

/-- Past the invariant, a checkpoint is valid when scores are bounded and buffs lie ahead. -/
theorem stateIsValid_iff (h : m.Sound) :
    m.stateIsValid = true ↔ m.ScoresBounded ∧ m.BuffsAhead := by
  have hsize : m.players.isEmpty = false ∧ m.players.size ≤ MAX_M3_AUTHORITY_ACTORS := by
    refine ⟨?_, h.roster.bounded⟩
    rw [ExtTreeMap.isEmpty_eq_size_beq_zero, beq_eq_false_iff_ne]
    exact Nat.pos_iff_ne_zero.mp h.roster.nonempty
  have hend : m.endTick = m.startTick.satAdd BOUNTY_RUN_DURATION_TICKS := by
    have := h.start
    rw [← UInt64.toNat_inj, h.endTick, UInt64.toNat_satAdd,
      show BOUNTY_RUN_DURATION_TICKS.toNat = 54000 from rfl]
    omega
  have hsequence : (m.objectiveSequence == 0xffffffffffffffff) = false := by
    rw [beq_eq_false_iff_ne, ne_eq, ← UInt64.toNat_inj]
    have := h.sequenceBound
    have : (0xffffffffffffffff : UInt64).toNat = 18446744073709551615 := rfl
    omega
  have hidle : (m.finished && (m.activeReveal.isSome || m.activeObjective.isSome)) = false := by
    cases hfinished : m.finished with
    | false => rfl
    | true => rw [(h.idle hfinished).1, (h.idle hfinished).2]; rfl
  have hfinished : (m.finished != decide (m.currentTick ≥ m.endTick)) = false := by
    rw [bne_eq_false_iff_eq]
    exact h.finished
  have hclock : ¬m.currentTick < m.startTick := UInt64.not_lt.mpr h.started
  rw [← players_valid_iff h]
  unfold stateIsValid
  rw [hidle, damage_valid h, reveal_valid h, objective_valid h, hsize.1, hsequence, hfinished]
  simp [hclock, hend, hsize.2]

/-! ## Runs -/

theorem Sound.withEpoch (h : m.Sound) (authorityEpoch : UInt64) :
    { m with authorityEpoch := authorityEpoch }.Sound :=
  ⟨h.start, h.endTick, h.started, h.finished, ⟨h.roster.nonempty, h.roster.bounded, h.roster.rows,
    h.roster.damage⟩, h.reveal, h.nextReveal, h.objective, h.nextObjective, h.sequence,
    h.sequenceBound, h.idle⟩

/-- Everything but the clock and the hand-over is an event. -/
theorem event_step (h : m.Sound) {call : BountyCall} (hclock : ∀ tick, call ≠ .advanceTick tick)
    (hhandOver : ∀ next, call ≠ .handOver next) : EventStep m (m.step call).2 := by
  cases call with
  | advanceTick tick => exact absurd rfl (hclock tick)
  | handOver next => exact absurd rfl (hhandOver next)
  | recordDamage tick attacker target damage => exact recordDamage_step h attacker target damage
  | recordElimination tick killer target saddleDive =>
    exact recordElimination_step h killer target saddleDive
  | recordHorseBolt tick attacker target => exact recordHorseBolt_step h attacker target
  | recordMountedLongHit tick attacker distanceMm =>
    exact recordMountedLongHit_step h attacker distanceMm
  | completeObjective tick player objectiveId => exact completeObjective_step h player objectiveId
  | recordSignalTowerHold tick player objectiveId totalHoldTicks =>
    exact recordSignalTowerHold_step h player objectiveId totalHoldTicks

/-- After the end of the match no event changes anything. -/
theorem event_of_finished (hfinished : m.finished = true) {call : BountyCall}
    (hclock : ∀ tick, call ≠ .advanceTick tick) (hhandOver : ∀ next, call ≠ .handOver next) :
    (m.step call).2 = m := by
  have hlive : ∀ tick, m.requireLiveTick tick = some .matchFinished := fun tick => by
    unfold requireLiveTick
    rw [if_pos hfinished]
  cases call with
  | advanceTick tick => exact absurd rfl (hclock tick)
  | handOver next => exact absurd rfl (hhandOver next)
  | _ =>
    simp only [step, answer, recordDamage, recordElimination, recordHorseBolt,
      recordMountedLongHit, completeObjective, recordSignalTowerHold, hlive]

theorem handOver_eq (m : BountyMatchKernel) (next : UInt64) :
    (m.step (.handOver next)).2 = m
      ∨ (m.step (.handOver next)).2 = { m with authorityEpoch := next } := by
  unfold step restoreCheckpoint
  dsimp only
  split_ifs
  · exact .inl rfl
  · exact .inr rfl

theorem sound_step (h : m.Sound) (call : BountyCall) : (m.step call).2.Sound := by
  by_cases hclock : ∃ tick, call = .advanceTick tick
  · obtain ⟨tick, rfl⟩ := hclock
    exact sound_advanceTick h tick
  by_cases hhandOver : ∃ next, call = .handOver next
  · obtain ⟨next, rfl⟩ := hhandOver
    rcases m.handOver_eq next with heq | heq <;> rw [heq]
    · exact h
    · exact h.withEpoch next
  · exact (event_step h (not_exists.mp hclock) (not_exists.mp hhandOver)).sound

theorem sound_run (h : m.Sound) (calls : List BountyCall) : (Runs.run step m calls).Sound :=
  Runs.run_invariant (P := Sound) (fun _ call h => sound_step h call) h calls

/-! ## Hand-over -/

/-- The ends of the buffs that a row has, or gets from a respawn due by a clock. -/
def buffEnds (row : BountyPlayerState) (clock : SimulationTick) : List SimulationTick :=
  row.respawnSpeedBuffEndTick.toList ++ row.horseBuffEndTick.toList
    ++ (row.respawnAtTick.toList.filter (· ≤ clock)).map (·.satAdd RESPAWN_SPEED_BUFF_TICKS)

theorem mem_buffEnds {row : BountyPlayerState} {last : SimulationTick} :
    last ∈ buffEnds row clock ↔ last ∈ row.respawnSpeedBuffEndTick ∨ last ∈ row.horseBuffEndTick
      ∨ ∃ due ∈ row.respawnAtTick, due ≤ clock ∧ due.satAdd RESPAWN_SPEED_BUFF_TICKS = last := by
  unfold buffEnds
  rw [List.mem_append, List.mem_append, Option.mem_toList, Option.mem_toList, List.mem_map,
    or_assoc]
  simp only [List.mem_filter, Option.mem_toList, decide_eq_true_eq, and_assoc, Option.mem_def]

/-- The clock does not pass the end of a buff that outlasts the match. -/
def BuffsOutlast (m : BountyMatchKernel) : BountyCall → Prop
  | .advanceTick tick =>
    ∀ row ∈ m.rows, ∀ last ∈ buffEnds row m.endTick, m.endTick < last → tick < last
  | _ => True

instance (m : BountyMatchKernel) : (call : BountyCall) → Decidable (m.BuffsOutlast call)
  -- Over the list, not over all ticks.
  | .advanceTick tick => @List.decidableBAll BountyPlayerState
      (fun row => ∀ last ∈ buffEnds row m.endTick, m.endTick < last → tick < last)
      (fun _ => @List.decidableBAll _ _ (fun _ => inferInstance) _) m.rows
  | .recordDamage .. | .recordElimination .. | .recordHorseBolt .. | .recordMountedLongHit ..
  | .completeObjective .. | .recordSignalTowerHold .. | .handOver .. => .isTrue trivial

theorem filter_lt_iff {deadline : Option SimulationTick} :
    (∀ last ∈ deadline.filter (clock < ·), tick < last)
      ↔ ∀ last ∈ deadline, clock < last → tick < last := by
  cases deadline with
  | none => simp
  | some last => by_cases hlast : clock < last <;> simp [hlast]

theorem advanceTo_buffs_iff (clock tick : SimulationTick) {id : PlayerId}
    {row : BountyPlayerState} (h : RowSound m.effectiveTick id row) :
    ((∀ last ∈ (row.advanceTo clock).respawnSpeedBuffEndTick, tick < last)
        ∧ ∀ last ∈ (row.advanceTo clock).horseBuffEndTick, tick < last)
      ↔ ∀ last, last ∈ buffEnds row clock → clock < last → tick < last := by
  simp only [mem_buffEnds]
  unfold BountyPlayerState.advanceTo
  by_cases hdue : row.respawnsBy clock
  · -- a row that respawns had no speed buff before
    rw [if_pos hdue]
    unfold BountyPlayerState.respawnsBy at hdue
    rw [Bool.and_eq_true, Bool.not_eq_true', Option.any_eq_true] at hdue
    obtain ⟨hfallen, due, hrespawn, hby⟩ := hdue
    have hby := of_decide_eq_true hby
    dsimp only [BountyPlayerState.respawn]
    rw [filter_lt_iff, filter_lt_iff, h.fallen hfallen, hrespawn, Option.map_some]
    constructor
    · rintro ⟨hspeed, hhorse⟩ last (hlast | hlast | ⟨due', hdue', -, hlast⟩) hpast
      · exact nomatch hlast
      · exact hhorse last hlast hpast
      · rw [← hlast, ← Option.mem_some_iff.mp hdue'] at hpast ⊢
        exact hspeed _ (Option.mem_some_self _) hpast
    · intro hends
      refine ⟨fun last hlast => hends last (.inr (.inr ⟨due, rfl, hby, ?_⟩)),
        fun last hlast => hends last (.inr (.inl hlast))⟩
      exact Option.mem_some_iff.mp hlast
  · rw [if_neg hdue, filter_lt_iff, filter_lt_iff]
    constructor
    · rintro ⟨hspeed, hhorse⟩ last (hlast | hlast | ⟨due, hrespawn, hby, -⟩) hpast
      · exact hspeed last hlast hpast
      · exact hhorse last hlast hpast
      · -- a respawn that is due would have happened
        refine absurd ?_ hdue
        unfold BountyPlayerState.respawnsBy
        rw [h.alive, Option.mem_def.mp hrespawn]
        simpa using hby
    · intro hends
      exact ⟨fun last hlast => hends last (.inl hlast),
        fun last hlast => hends last (.inr (.inl hlast))⟩

/-- The rows after the clock moved, read off the rows before. -/
theorem buffsAhead_of_clockStep {m' : BountyMatchKernel} (h : ClockStep tick m m') :
    m'.BuffsAhead ↔ ∀ (id : PlayerId), ∀ row ∈ m.players[id]?,
      (∀ last ∈ (row.advanceTo (min tick m.endTick)).respawnSpeedBuffEndTick, tick < last)
        ∧ ∀ last ∈ (row.advanceTo (min tick m.endTick)).horseBuffEndTick, tick < last := by
  have hclock : m'.currentTick = tick := by
    obtain ⟨_, _, _, _, _, _, _, hshape⟩ := h.shape
    rw [hshape]
  have hrows := h.unscored
  unfold moveClock at hrows
  unfold BuffsAhead
  rw [hclock]
  constructor
  · intro hahead id row hrow
    have hid := hrows id
    rw [ExtTreeMap.getElem?_map, Option.mem_def.mp hrow] at hid
    obtain ⟨row', hrow', heq⟩ := Option.map_eq_some_iff.mp hid
    have hspeed := congrArg BountyPlayerState.respawnSpeedBuffEndTick heq
    have hhorse := congrArg BountyPlayerState.horseBuffEndTick heq
    dsimp only [unscored] at hspeed hhorse
    rw [← hspeed, ← hhorse]
    exact hahead id row' hrow'
  · intro hahead id row' hrow'
    have hid := hrows id
    rw [ExtTreeMap.getElem?_map, Option.mem_def.mp hrow', Option.map_map] at hid
    obtain ⟨row, hrow, heq⟩ := Option.map_eq_some_iff.mp hid.symm
    have hspeed := congrArg BountyPlayerState.respawnSpeedBuffEndTick heq
    have hhorse := congrArg BountyPlayerState.horseBuffEndTick heq
    dsimp only [unscored, Function.comp_apply] at hspeed hhorse
    rw [← hspeed, ← hhorse]
    exact hahead id row hrow

theorem buffsAhead_advanceTick_iff (h : m.Sound) (hbuffs : m.BuffsAhead) (tick : SimulationTick) :
    (m.advanceTick tick).2.BuffsAhead ↔ m.BuffsOutlast (.advanceTick tick) := by
  by_cases hreplay : tick ≤ m.currentTick
  · -- a replayed tick is refused, and no buff can have been passed
    have hsame : (m.advanceTick tick).2 = m := by
      unfold advanceTick
      rw [if_pos hreplay]
    rw [hsame]
    refine iff_of_true hbuffs fun row hmem last hend hpast => ?_
    obtain ⟨id, hrow⟩ := mem_rows.mp hmem
    rcases mem_buffEnds.mp hend with hlast | hlast | ⟨due, hdue, hby, -⟩
    · exact UInt64.lt_of_le_of_lt hreplay ((hbuffs id row hrow).1 last hlast)
    · exact UInt64.lt_of_le_of_lt hreplay ((hbuffs id row hrow).2 last hlast)
    · have hahead := (h.roster.rows id row hrow).respawn due hdue
      rw [UInt64.lt_iff_toNat_lt, toNat_effectiveTick] at hahead
      rw [UInt64.le_iff_toNat_le] at hby hreplay
      rw [UInt64.lt_iff_toNat_lt] at hpast ⊢
      omega
  · have hlater := UInt64.not_le.mp hreplay
    rw [buffsAhead_of_clockStep (advanceTick_step h hlater)]
    have hrow := fun (id : PlayerId) row (hrow : row ∈ m.players[id]?) =>
      advanceTo_buffs_iff (min tick m.endTick) tick (h.roster.rows id row hrow)
    by_cases hend : tick ≤ m.endTick
    · -- inside the match the clock is the tick, and drops what it passes
      have hclock : min tick m.endTick = tick := by
        rw [UInt64.le_iff_toNat_le] at hend
        rw [← UInt64.toNat_inj, UInt64.toNat_min]
        omega
      refine iff_of_true (fun id row hmem => (hrow id row hmem).mpr fun last _ hpast => ?_)
        fun row _ last _ hpast => UInt64.lt_of_le_of_lt hend hpast
      rwa [hclock] at hpast
    · have hclock : min tick m.endTick = m.endTick := by
        rw [UInt64.le_iff_toNat_le] at hend
        rw [← UInt64.toNat_inj, UInt64.toNat_min]
        omega
      constructor
      · intro hahead row hmem
        obtain ⟨id, hid⟩ := mem_rows.mp hmem
        have := (hrow id row hid).mp (hahead id row hid)
        rwa [hclock] at this
      · intro houtlast id row hmem
        refine (hrow id row hmem).mpr ?_
        rw [hclock]
        exact houtlast row (mem_rows.mpr ⟨id, hmem⟩)

/-- A call keeps the buffs ahead of the raw clock exactly when it does not pass one. -/
theorem buffsAhead_step_iff (h : m.Sound) (hbuffs : m.BuffsAhead) (call : BountyCall) :
    (m.step call).2.BuffsAhead ↔ m.BuffsOutlast call := by
  by_cases hclock : ∃ tick, call = .advanceTick tick
  · obtain ⟨tick, rfl⟩ := hclock
    exact buffsAhead_advanceTick_iff h hbuffs tick
  have houtlast : m.BuffsOutlast call := by
    cases call with
    | advanceTick tick => exact absurd ⟨tick, rfl⟩ hclock
    | _ => trivial
  refine iff_of_true ?_ houtlast
  by_cases hhandOver : ∃ next, call = .handOver next
  · obtain ⟨next, rfl⟩ := hhandOver
    rcases m.handOver_eq next with heq | heq <;> rw [heq] <;> exact hbuffs
  have hevent := event_step h (not_exists.mp hclock) (not_exists.mp hhandOver)
  cases hfinished : m.finished with
  | true =>
    rwa [event_of_finished hfinished (not_exists.mp hclock) (not_exists.mp hhandOver)]
  | false =>
    refine hevent.sound.buffsAhead ?_
    obtain ⟨_, _, _, _, hshape⟩ := hevent.shape
    rw [hshape]
    exact hfinished

def HandsOver (m : BountyMatchKernel) : Prop :=
  m.stateIsValid = true ∧ ∀ next ∈ m.authorityEpoch.checkedAdd 1,
    restoreCheckpoint m.checkpoint next = .ok { m with authorityEpoch := next }

theorem handsOver_iff (m : BountyMatchKernel) : m.HandsOver ↔ m.stateIsValid = true := by
  refine ⟨fun h => h.1, fun hvalid => ⟨hvalid, fun next hnext => ?_⟩⟩
  have haccepted : ¬(m.checkpoint.sourceAuthorityEpoch.checkedAdd 1 ≠ some next
      ∨ m.checkpoint.matchState.authorityEpoch ≠ m.checkpoint.sourceAuthorityEpoch
      ∨ !m.checkpoint.matchState.stateIsValid) := by
    rintro (hepoch | hepoch | hinvalid)
    · exact hepoch hnext
    · exact hepoch rfl
    · exact absurd hvalid (by simpa [checkpoint] using hinvalid)
  unfold restoreCheckpoint
  rw [if_neg haccepted]
  rfl

/-- **When a match can be handed over.**  In a run with bounded scores every state can be handed
over exactly when the clock never passes the end of a buff that outlasts the match. -/
theorem hand_over_iff_buffs_outlast {authorityEpoch lobbySeed : UInt64}
    {startTick : SimulationTick} {roster : List PlayerId}
    (hnew : new authorityEpoch lobbySeed startTick roster = .ok m)
    (hstart : startTick.toNat ≤ 2 ^ 63) {calls : List BountyCall}
    (hscores : ∀ before, before <+: calls → (Runs.run step m before).ScoresBounded) :
    (∀ before, before <+: calls → (Runs.run step m before).HandsOver)
      ↔ Runs.Along step BuffsOutlast m calls := by
  have hsound := sound_new hnew hstart
  have hlive : m.finished = false := by
    unfold new at hnew
    dsimp only at hnew
    split_ifs at hnew
    cases hnew
    rfl
  have hahead := Runs.forall_prefix_iff_along (I := Sound) (P := BuffsAhead) (C := BuffsOutlast)
    (fun _ call h => sound_step h call) (fun _ call h hbuffs => buffsAhead_step_iff h hbuffs call)
    hsound (hsound.buffsAhead hlive) calls
  rw [← hahead]
  refine forall₂_congr fun before hbefore => ?_
  rw [handsOver_iff, stateIsValid_iff (sound_run hsound before)]
  exact and_iff_right (hscores before hbefore)

/-! ### A buff at the end of a match -/

def endingRoster : List PlayerId := [.ofTail 1, .ofTail 2]

/-- The second player falls 500 ticks before the end, respawns at tick 53800 with a buff up to tick
54400, and the clock moves on to `last`. -/
def endingCalls (last : SimulationTick) : List BountyCall :=
  [.advanceTick 53500,
    .recordElimination 53500 (.ofTail 1) (.ofTail 2) false,
    .advanceTick 53900, .advanceTick last]

/-- A run over the end that stays before the buff's end is handed over throughout. -/
theorem hand_over_before_the_buff_ends : ∃ m, new 1 7 0 endingRoster = .ok m ∧
    ∀ before, before <+: endingCalls 54399 → (Runs.run step m before).HandsOver := by
  have hrun : (new 1 7 0 endingRoster).toOption.any (fun m =>
      decide ((∀ before ∈ (endingCalls 54399).inits, (Runs.run step m before).ScoresBounded)
        ∧ Runs.Along step BuffsOutlast m (endingCalls 54399))) = true := by
    decide +kernel
  obtain ⟨m, hnew, hscores, halong⟩ := Fallible.exists_ok_of_any hrun
  exact ⟨m, hnew, (hand_over_iff_buffs_outlast hnew (Nat.zero_le _) fun before hbefore =>
    hscores before ((List.mem_inits _ _).mpr hbefore)).mpr halong⟩

/-- One tick later the same match can no longer be handed over. -/
theorem hand_over_refused_past_a_buff : ∃ m, new 1 7 0 endingRoster = .ok m ∧
    (∀ before, before <+: endingCalls 54400 → (Runs.run step m before).ScoresBounded) ∧
    ¬(Runs.run step m (endingCalls 54400)).HandsOver := by
  have hrun : (new 1 7 0 endingRoster).toOption.any (fun m =>
      decide ((∀ before ∈ (endingCalls 54400).inits, (Runs.run step m before).ScoresBounded)
        ∧ ¬(Runs.run step m (endingCalls 54400)).stateIsValid = true)) = true := by
    decide +kernel
  obtain ⟨m, hnew, hscores, hinvalid⟩ := Fallible.exists_ok_of_any hrun
  refine ⟨m, hnew, fun before hbefore => hscores before ((List.mem_inits _ _).mpr hbefore), ?_⟩
  rwa [handsOver_iff]

end BountyMatchKernel

end Spurfire
