import Spurfire.Net.Fragments
import Spurfire.Protocol.BountyHandOver

/-!
# Match keyframes

`M5MatchStateV2.fromSnapshot` turns the public snapshot of a match into its wire row.  The snapshot
and the wire row have a validator each; `snapshot_isCanonical` and `fromSnapshot_isCanonical` show
that both accept what the kernel produces, from the same facts about its rows and windows.
-/

namespace Spurfire

open Std (ExtTreeMap)

/-! ## The wire row -/

/-- The compact row of a player; the breakdown is only shown once the match is over. -/
def M5ScoreRowV2.fromRow (finished : Bool) (row : BountyPlayerState) : M5ScoreRowV2 where
  playerId := row.playerId
  score := row.totalScore
  eliminations := row.eliminations
  assists := row.assists
  deaths := row.deaths
  alive := row.alive
  respawnAtTick := row.respawnAtTick
  respawnSpeedBuffEndTick := row.respawnSpeedBuffEndTick
  horseBuffEndTick := row.horseBuffEndTick
  scoreBreakdown :=
    if finished then
      some #v[row.score.elimination, row.score.assist, row.score.horseBolt,
        row.score.saddleDiveBonus, row.score.mountedLongHit, row.score.objective,
        row.score.mostWantedElimination, row.score.mostWantedSurvival]
    else none

def M5MatchStateV2.fromSnapshot (snapshot : BountyMatchSnapshot) : M5MatchStateV2 where
  authorityEpoch := snapshot.authorityEpoch
  lobbySeed := snapshot.lobbySeed
  currentTick := snapshot.currentTick
  endTick := snapshot.endTick
  players := snapshot.players.map (M5ScoreRowV2.fromRow snapshot.finished)
  activeReveal := snapshot.activeReveal.map fun reveal =>
    ⟨reveal.playerId, reveal.startedTick, reveal.endTick⟩
  activeObjective := snapshot.activeObjective.map fun objective => {
    objectiveId := objective.objectiveId
    kind := objective.kind
    startedTick := objective.startedTick
    endTick := objective.endTick
    completed := objective.completed
    xMm := objective.worldPoint.xMm
    zMm := objective.worldPoint.zMm }
  finished := snapshot.finished
  winner := snapshot.winner

/-! ## Rows -/

namespace BountyMatchKernel

variable {m : BountyMatchKernel}

/-- Rows come in the order of their players. -/
theorem Sound.rows_sorted (h : m.Sound) :
    m.rows.Pairwise fun row row' => row.playerId < row'.playerId := by
  unfold rows
  rw [List.pairwise_map]
  refine m.players.ordered_keys_toList.imp_of_mem fun {a b} ha hb hlt => ?_
  have ha := h.roster.rows a.1 a.2 (ExtTreeMap.mem_toList_iff_getElem?_eq_some.mp ha)
  have hb := h.roster.rows b.1 b.2 (ExtTreeMap.mem_toList_iff_getElem?_eq_some.mp hb)
  rw [ha.playerId, hb.playerId]
  exact compare_lt_iff_lt.mp hlt

theorem length_rows (m : BountyMatchKernel) : m.rows.length = m.players.size := by
  unfold rows
  rw [List.length_map, ExtTreeMap.length_toList]

theorem Sound.row (h : m.Sound) {row : BountyPlayerState} (hrow : row ∈ m.rows) :
    ∃ id, RowSound m.effectiveTick id row := by
  obtain ⟨id, hid⟩ := mem_rows.mp hrow
  exact ⟨id, h.roster.rows id row hid⟩

theorem Sound.exists_row (h : m.Sound) {player : PlayerId} (hplayer : player ∈ m.players) :
    ∃ row ∈ m.rows, row.playerId = player := by
  obtain ⟨row, hrow⟩ := Option.isSome_iff_exists.mp (ExtTreeMap.mem_iff_isSome_getElem?.mp hplayer)
  exact ⟨row, mem_rows.mpr ⟨player, hrow⟩, (h.roster.rows player row hrow).playerId⟩

/-- The roster checks of both validators. -/
theorem Sound.roster_canonical (h : m.Sound) :
    m.rows.isEmpty = false ∧ ¬m.rows.length > MAX_M3_AUTHORITY_ACTORS
      ∧ (m.finished != decide (m.currentTick ≥ m.endTick)) = false := by
  refine ⟨?_, ?_, ?_⟩
  · rw [List.isEmpty_eq_false_iff, ← List.length_pos_iff, length_rows]
    exact h.roster.nonempty
  · rw [length_rows]
    exact Nat.not_lt.mpr h.roster.bounded
  · rw [bne_eq_false_iff_eq]
    exact h.finished

/-! ## The public snapshot -/

theorem effectiveTick_snapshot (m : BountyMatchKernel) :
    m.snapshot.effectiveTick = m.effectiveTick := rfl

theorem any_not_lt_eq_false (late : Bool) {deadline : Option SimulationTick}
    {clock : SimulationTick} (h : ∀ due ∈ deadline, clock < due) :
    deadline.any (fun due => !late && due ≤ clock) = false := by
  cases deadline with
  | none => rfl
  | some due =>
    rw [Option.any_some, decide_eq_false (UInt64.not_le.mpr (h due rfl)), Bool.and_false]

theorem rowIsCanonical_snapshot (h : m.Sound) {row : BountyPlayerState} (hrow : row ∈ m.rows)
    (hscore : row.totalScore ≤ MAX_BOUNTY_SCORE) : m.snapshot.rowIsCanonical row = true := by
  obtain ⟨id, hsound⟩ := h.row hrow
  have hrespawn := any_not_lt_eq_false m.snapshot.finished hsound.respawn
  unfold BountyMatchSnapshot.rowIsCanonical
  rw [effectiveTick_snapshot, hrespawn, hsound.not_alive_eq, any_le_eq_false.mpr hsound.speedBuff,
    any_le_eq_false.mpr hsound.horseBuff, hsound.longHits]
  simp [hsound.longHit_le, hscore]

theorem revealIsCanonical_snapshot (h : m.Sound) {shown : BountyRevealSnapshot}
    (hshown : m.snapshot.activeReveal = some shown) :
    m.snapshot.revealIsCanonical shown = true := by
  obtain ⟨reveal, hactive, rfl⟩ := Option.map_eq_some_iff.mp hshown
  obtain ⟨⟨hplayer, hwindow⟩, hclock⟩ := h.reveal reveal hactive
  have hlive : m.snapshot.finished = false :=
    not_finished_of_window (fun hover => (h.idle hover).1) hactive
  have hany : m.snapshot.players.any (fun row => row.playerId == reveal.playerId) = true := by
    obtain ⟨row, hrow, heq⟩ := h.exists_row hplayer
    exact List.any_eq_true.mpr ⟨row, hrow, beq_iff_eq.mpr heq⟩
  unfold BountyMatchSnapshot.revealIsCanonical
  rw [effectiveTick_snapshot, hlive, hany]
  simpa [hwindow] using hwindow ▸ hclock

theorem objectiveIsCanonical_snapshot (h : m.Sound) {shown : BountyObjectiveSnapshot}
    (hshown : m.snapshot.activeObjective = some shown) :
    m.snapshot.objectiveIsCanonical shown = true := by
  obtain ⟨objective, hactive, rfl⟩ := Option.map_eq_some_iff.mp hshown
  obtain ⟨⟨hid, hwindow, -⟩, hclock⟩ := h.objective objective hactive
  have hlive : m.snapshot.finished = false :=
    not_finished_of_window (fun hover => (h.idle hover).2) hactive
  have hlength : m.snapshot.players.length = m.players.size := m.length_rows
  have hid : objective.objectiveId ≠ 0 := fun hzero => absurd hid (by rw [hzero]; decide)
  unfold BountyMatchSnapshot.objectiveIsCanonical
  rw [effectiveTick_snapshot, hlive, hlength]
  simpa [hid, hwindow, snapshot] using hwindow ▸ hclock

/-- Where there is a row there is a best one. -/
theorem exists_maxByScore {α : Type} (score : α → UInt32) (playerId : α → PlayerId) {rows : List α}
    (h : rows.isEmpty = false) : ∃ best, maxByScore score playerId rows = some best := by
  have hfold : ∀ (rows : List α) (first : Option α), first.isSome = true →
      ∃ best, rows.foldl (keepBest score playerId) first = some best := by
    intro rows
    induction rows with
    | nil => exact fun first hfirst => Option.isSome_iff_exists.mp hfirst
    | cons row rows ih =>
      intro first _
      refine ih _ ?_
      rcases keepBest_cases score playerId first row with htaken | ⟨hsome, hkept⟩
      · exact htaken ▸ rfl
      · exact hkept.symm ▸ hsome
  cases rows with
  | nil => exact nomatch h
  | cons row rows => exact hfold rows (some row) rfl

theorem option_any_not_eq_false {α : Type} {o : Option α} {p : α → Bool}
    (h : ∀ {a}, o = some a → p a = true) : (o.any fun a => !p a) = false := by
  cases o with
  | none => rfl
  | some a => rw [Option.any_some, h rfl, Bool.not_true]

/-- **The public snapshot of a match is canonical.** -/
theorem snapshot_isCanonical (h : m.Sound) (hscores : m.ScoresBounded) :
    m.snapshot.isCanonical = true := by
  obtain ⟨hempty, hbound, hfinished⟩ := h.roster_canonical
  have hsorted := List.any_zip_tail_eq_false h.rows_sorted
  have hrows : (m.rows.any fun row => !m.snapshot.rowIsCanonical row) = false := by
    rw [List.any_eq_false]
    intro row hrow
    rw [rowIsCanonical_snapshot h hrow (hscores row hrow)]
    decide
  have hreveal := option_any_not_eq_false (revealIsCanonical_snapshot h)
  have hobjective := option_any_not_eq_false (objectiveIsCanonical_snapshot h)
  obtain ⟨best, hbest⟩ := exists_maxByScore
    BountyPlayerState.totalScore BountyPlayerState.playerId hempty
  unfold BountyMatchSnapshot.isCanonical
  rw [hreveal, hobjective]
  show (if m.rows.isEmpty || m.rows.length > MAX_M3_AUTHORITY_ACTORS
      || m.finished != decide (m.currentTick ≥ m.endTick)
      || (m.rows.zip m.rows.tail).any (fun rows => rows.1.playerId ≥ rows.2.playerId) then false
    else if m.rows.any fun row => !m.snapshot.rowIsCanonical row then false
    else if false || false then false
    else _) = true
  rw [hempty, hfinished, hsorted, hrows, decide_eq_false hbound]
  have hwinner : m.snapshot.winner = if m.finished then some best.playerId else none := by
    show (if m.finished then m.winner else none) = _
    rw [winner, hbest, Option.map_some]
  have hexpected : maxByScore (·.totalScore) (·.playerId) m.snapshot.players = some best := hbest
  rw [hwinner, hexpected, show m.snapshot.finished = m.finished from rfl]
  cases m.finished with
  | false => rfl
  | true => exact beq_self_eq_true best.playerId

/-! ## The wire keyframe -/

open M5MatchStateV2 (fromSnapshot)

theorem effectiveTick_fromSnapshot (m : BountyMatchKernel) :
    (fromSnapshot m.snapshot).effectiveTick = m.effectiveTick := by
  unfold M5MatchStateV2.effectiveTick
  show (if m.currentTick ≤ m.endTick then m.currentTick else m.endTick) = m.effectiveTick
  rw [← UInt64.toNat_inj, toNat_effectiveTick]
  split_ifs with hend
  · rw [UInt64.le_iff_toNat_le] at hend
    omega
  · rw [UInt64.le_iff_toNat_le] at hend
    omega

theorem breakdown_total (score : BountyScoreBreakdown) :
    (#v[score.elimination, score.assist, score.horseBolt, score.saddleDiveBonus,
      score.mountedLongHit, score.objective, score.mostWantedElimination,
      score.mostWantedSurvival].toList.foldl UInt32.satAdd 0) = score.total := by
  have hzero : UInt32.satAdd 0 score.elimination = score.elimination := by
    have := score.elimination.toNat_lt
    rw [← UInt32.toNat_inj, UInt32.toNat_satAdd, show (0 : UInt32).toNat = 0 from rfl]
    omega
  show (((((((UInt32.satAdd 0 score.elimination).satAdd _).satAdd _).satAdd _).satAdd _).satAdd
    _).satAdd _).satAdd _ = _
  rw [hzero]
  rfl

theorem rowIsCanonical_fromSnapshot (h : m.Sound) {row : BountyPlayerState} (hrow : row ∈ m.rows)
    (hscore : row.totalScore ≤ MAX_BOUNTY_SCORE) :
    (fromSnapshot m.snapshot).rowIsCanonical (.fromRow m.finished row) = true := by
  obtain ⟨id, hsound⟩ := h.row hrow
  have hrespawn := any_not_lt_eq_false m.finished hsound.respawn
  have htotal : min row.totalScore MAX_BOUNTY_SCORE = row.totalScore := by
    rw [UInt32.le_iff_toNat_le] at hscore
    rw [← UInt32.toNat_inj, UInt32.toNat_min]
    omega
  have hbreakdown : (M5ScoreRowV2.fromRow m.finished row).scoreBreakdown.any (fun breakdown =>
      row.totalScore != min (breakdown.toList.foldl UInt32.satAdd 0) MAX_BOUNTY_SCORE) = false := by
    unfold M5ScoreRowV2.fromRow
    dsimp only
    split_ifs
    · rw [Option.any_some, breakdown_total, bne_eq_false_iff_eq]
      exact htotal.symm
    · rfl
  have hshown : ((M5ScoreRowV2.fromRow m.finished row).scoreBreakdown.isSome != m.finished)
      = false := by
    unfold M5ScoreRowV2.fromRow
    cases m.finished <;> rfl
  unfold M5MatchStateV2.rowIsCanonical
  rw [effectiveTick_fromSnapshot]
  show (!(decide (row.totalScore > MAX_BOUNTY_SCORE)
    || ((M5ScoreRowV2.fromRow m.finished row).scoreBreakdown.isSome != m.finished)
    || (M5ScoreRowV2.fromRow m.finished row).scoreBreakdown.any (fun breakdown =>
      row.totalScore != min (breakdown.toList.foldl UInt32.satAdd 0) MAX_BOUNTY_SCORE)
    || row.alive == row.respawnAtTick.isSome
    || row.respawnAtTick.any (fun respawn => !m.finished && respawn ≤ m.effectiveTick)
    || row.respawnSpeedBuffEndTick.any (· ≤ m.effectiveTick)
    || row.horseBuffEndTick.any (· ≤ m.effectiveTick))) = true
  rw [hshown, hbreakdown, hrespawn, hsound.not_alive_eq, any_le_eq_false.mpr hsound.speedBuff,
    any_le_eq_false.mpr hsound.horseBuff, decide_eq_false (UInt32.not_lt.mpr hscore)]
  rfl

theorem revealIsCanonical_fromSnapshot (h : m.Sound) {shown : M5RevealV2}
    (hshown : (fromSnapshot m.snapshot).activeReveal = some shown) :
    (fromSnapshot m.snapshot).revealIsCanonical shown = true := by
  obtain ⟨reveal, hactive, rfl⟩ := Option.map_eq_some_iff.mp hshown
  have hcanonical := revealIsCanonical_snapshot h hactive
  unfold M5MatchStateV2.revealIsCanonical
  rw [effectiveTick_fromSnapshot]
  have hplayers : (fromSnapshot m.snapshot).players.any (fun row => row.playerId == reveal.playerId)
      = m.snapshot.players.any fun row => row.playerId == reveal.playerId := by
    unfold fromSnapshot
    rw [List.any_map]
    rfl
  rw [hplayers]
  exact hcanonical

theorem objectiveIsCanonical_fromSnapshot (h : m.Sound) {shown : M5ObjectiveV2}
    (hshown : (fromSnapshot m.snapshot).activeObjective = some shown) :
    (fromSnapshot m.snapshot).objectiveIsCanonical shown = true := by
  obtain ⟨objective, hactive, rfl⟩ := Option.map_eq_some_iff.mp hshown
  have hcanonical := objectiveIsCanonical_snapshot h hactive
  have hlength : (fromSnapshot m.snapshot).players.length = m.snapshot.players.length :=
    List.length_map _
  unfold M5MatchStateV2.objectiveIsCanonical
  rw [effectiveTick_fromSnapshot, hlength]
  exact hcanonical

theorem expectedWinner_eq (w : M5MatchStateV2) : w.expectedWinner
    = maxByScore M5ScoreRowV2.score M5ScoreRowV2.playerId w.players := by
  unfold M5MatchStateV2.expectedWinner maxByScore
  congr
  funext best row
  cases best <;> rfl

/-- **The wire keyframe of a match is canonical.** -/
theorem fromSnapshot_isCanonical (h : m.Sound) (hscores : m.ScoresBounded) :
    (fromSnapshot m.snapshot).isCanonical = true := by
  obtain ⟨hempty, hbound, hfinished⟩ := h.roster_canonical
  have hempty' : (m.rows.map (M5ScoreRowV2.fromRow m.finished)).isEmpty = false := by
    rw [List.isEmpty_map]
    exact hempty
  have hsorted : ((m.rows.map (M5ScoreRowV2.fromRow m.finished)).zip
      (m.rows.map (M5ScoreRowV2.fromRow m.finished)).tail).any
        (fun rows => rows.1.playerId ≥ rows.2.playerId) = false :=
    List.any_zip_tail_eq_false (List.pairwise_map.mpr h.rows_sorted)
  have hrows : ((m.rows.map (M5ScoreRowV2.fromRow m.finished)).any fun row =>
      !(fromSnapshot m.snapshot).rowIsCanonical row) = false := by
    rw [List.any_map, List.any_eq_false]
    intro row hrow
    rw [Function.comp_apply, rowIsCanonical_fromSnapshot h hrow (hscores row hrow)]
    decide
  have hreveal := option_any_not_eq_false (revealIsCanonical_fromSnapshot h)
  have hobjective := option_any_not_eq_false (objectiveIsCanonical_fromSnapshot h)
  obtain ⟨best, hbest⟩ := exists_maxByScore
    BountyPlayerState.totalScore BountyPlayerState.playerId hempty
  have hwinner : (fromSnapshot m.snapshot).expectedWinner
      = some (.fromRow m.finished best) := by
    rw [expectedWinner_eq]
    show maxByScore M5ScoreRowV2.score M5ScoreRowV2.playerId
      (m.rows.map (M5ScoreRowV2.fromRow m.finished)) = _
    rw [maxByScore_map]
    exact congrArg (Option.map (M5ScoreRowV2.fromRow m.finished)) hbest
  unfold M5MatchStateV2.isCanonical
  rw [hreveal, hobjective, hwinner]
  show (if (m.rows.map (M5ScoreRowV2.fromRow m.finished)).isEmpty
      || (m.rows.map (M5ScoreRowV2.fromRow m.finished)).length > MAX_M3_AUTHORITY_ACTORS
      || m.finished != decide (m.currentTick ≥ m.endTick)
      || ((m.rows.map (M5ScoreRowV2.fromRow m.finished)).zip
        (m.rows.map (M5ScoreRowV2.fromRow m.finished)).tail).any
          (fun rows => rows.1.playerId ≥ rows.2.playerId) then false
    else if (m.rows.map (M5ScoreRowV2.fromRow m.finished)).any fun row =>
      !(fromSnapshot m.snapshot).rowIsCanonical row then false
    else if false || false then false
    else _) = true
  rw [hempty', hfinished, hsorted, hrows, List.length_map, decide_eq_false hbound]
  have hnamed : (fromSnapshot m.snapshot).winner
      = if m.finished then some best.playerId else none := by
    show (if m.finished then m.winner else none) = _
    rw [winner, hbest, Option.map_some]
  rw [hnamed, show (fromSnapshot m.snapshot).finished = m.finished from rfl]
  cases m.finished with
  | false => rfl
  | true => exact beq_self_eq_true best.playerId

end BountyMatchKernel

end Spurfire
