import Spurfire.Protocol.BountyScores

/-!
# Who is alive in a bounty match

* `BountyMatchKernel.lives`: whether the match has a player alive;
* `KeepsLives`: what every event but an elimination does to it;
* `lives_recordElimination`, `lives_advanceTick`: the two ways it changes;
* `recordElimination_ok` and its like: an event between players of a live match is never refused.
-/

namespace Spurfire

open Std (ExtTreeMap)

namespace BountyMatchKernel

variable {m m' : BountyMatchKernel} {tick : SimulationTick} {player : PlayerId}

/-- Whether the match has a player alive, if it knows the player. -/
def lives (m : BountyMatchKernel) (id : PlayerId) : Option Bool := m.players[id]?.map (·.alive)

theorem lives_isSome : (m.lives player).isSome = true ↔ player ∈ m.players := by
  unfold lives
  rw [Option.isSome_map, ExtTreeMap.isSome_getElem?_iff_mem]

theorem lives_of_unscored (h : (m'.players[player]?).map unscored
    = (m.players[player]?).map unscored) : m'.lives player = m.lives player := by
  have halive := congrArg (Option.map BountyPlayerState.alive) h
  rw [Option.map_map, Option.map_map] at halive
  exact halive

/-! ## Events that keep everyone alive -/

/-- The players and their lives are kept. -/
def KeepsLives (m m' : BountyMatchKernel) : Prop := ∀ id, m'.lives id = m.lives id

theorem KeepsLives.trans {m'' : BountyMatchKernel} (h : KeepsLives m m')
    (h' : KeepsLives m' m'') : KeepsLives m m'' := fun id => (h' id).trans (h id)

theorem KeepsLives.mem (h : KeepsLives m m') (id : PlayerId) :
    id ∈ m'.players ↔ id ∈ m.players := by
  rw [← lives_isSome, h id, lives_isSome]

theorem keepsLives_modify {f : BountyPlayerState → BountyPlayerState}
    (hf : ∀ row, (f row).alive = row.alive) (m : BountyMatchKernel) (player : PlayerId) :
    KeepsLives m { m with players := m.players.modify player f } := by
  intro id
  unfold lives
  dsimp only
  rw [ExtTreeMap.getElem?_modify]
  split_ifs with heq
  · rw [Std.LawfulEqCmp.eq_of_compare heq]
    cases m.players[id]? with
    | none => rfl
    | some row => exact congrArg some (hf row)
  · rfl

theorem keepsLives_award (m : BountyMatchKernel) (player : PlayerId)
    (category : BountyScoreCategory) (points : UInt16) :
    KeepsLives m (m.award player category points).2 :=
  fun id => lives_of_unscored (award_unscored m player id category points)

theorem keepsLives_awardEach (player : PlayerId)
    (categories : List (BountyScoreCategory × UInt16)) (m : BountyMatchKernel) :
    KeepsLives m (awardEach player categories m).2 :=
  awardEach_keeps (fun _ _ => rfl) .trans player categories
    (fun entry _ m => keepsLives_award m player entry.1 entry.2) m

theorem keepsLives_awardAssists (tick : SimulationTick) (killer : PlayerId)
    (rows : List (PlayerId × DamageContribution)) (m : BountyMatchKernel) :
    KeepsLives m (awardAssists tick killer rows m).2 :=
  awardAssists_keeps (fun _ _ => rfl) .trans
    (fun attacker m => keepsLives_award m attacker .assist 50)
    (fun attacker m => keepsLives_modify
      (f := fun row => { row with assists := row.assists.satAdd 1 }) (fun _ => rfl) m attacker)
    killer rows m

theorem keepsLives_recordDamage (m : BountyMatchKernel) (tick : SimulationTick)
    (attacker target : PlayerId) (damage : UInt16) :
    KeepsLives m (m.recordDamage tick attacker target damage).2 := by
  intro id
  unfold recordDamage
  cases m.requireLiveTick tick with
  | some error => rfl
  | none =>
    dsimp only
    split_ifs
    · rfl
    · cases m.players[target]? with
      | none => rfl
      | some row =>
        dsimp only
        split_ifs <;> rfl

theorem keepsLives_recordHorseBolt (m : BountyMatchKernel) (tick : SimulationTick)
    (attacker target : PlayerId) :
    KeepsLives m (m.recordHorseBolt tick attacker target).2 := by
  unfold recordHorseBolt
  cases m.requireLiveTick tick with
  | some error => exact fun _ => rfl
  | none =>
    dsimp only
    split_ifs
    · exact fun _ => rfl
    · exact keepsLives_award m attacker .horseBolt 15

theorem keepsLives_recordMountedLongHit (m : BountyMatchKernel) (tick : SimulationTick)
    (attacker : PlayerId) (distanceMm : UInt32) :
    KeepsLives m (m.recordMountedLongHit tick attacker distanceMm).2 := by
  unfold recordMountedLongHit
  cases m.requireLiveTick tick with
  | some error => exact fun _ => rfl
  | none =>
    dsimp only
    split_ifs
    · exact fun _ => rfl
    cases hrow : m.players[attacker]? with
    | none => exact fun _ => rfl
    | some row =>
      dsimp only
      split_ifs
      · exact fun _ => rfl
      · refine KeepsLives.trans (?_ : m.KeepsLives { m with players := m.players.insert attacker {
          row with mountedLongHitBonus := row.mountedLongHitBonus + 10 } })
          (keepsLives_award _ attacker .mountedLongHit 10)
        intro id
        unfold lives
        dsimp only
        rw [ExtTreeMap.getElem?_insert]
        split_ifs with heq
        · rw [← Std.LawfulEqCmp.eq_of_compare heq, hrow]
          rfl
        · rfl

theorem keepsLives_completeObjective (m : BountyMatchKernel) (tick : SimulationTick)
    (player : PlayerId) (objectiveId : UInt64) :
    KeepsLives m (m.completeObjective tick player objectiveId).2 := by
  unfold completeObjective
  cases m.requireLiveTick tick with
  | some error => exact fun _ => rfl
  | none =>
    dsimp only
    by_cases hplayer : player ∈ m.players
    swap
    · rw [if_pos hplayer]
      exact fun _ => rfl
    rw [if_neg (not_not.mpr hplayer)]
    cases m.activeObjective with
    | none => exact fun _ => rfl
    | some objective =>
      dsimp only
      split_ifs
      · exact fun _ => rfl
      · exact (keepsLives_modify (f := fun row =>
          { row with horseBuffEndTick := some (tick.satAdd HORSE_STATION_BUFF_TICKS) })
          (fun _ => rfl) m player).trans
          (keepsLives_award { m with
            activeObjective := some { objective with completed := true }
            players := m.players.modify player fun row =>
              { row with horseBuffEndTick := some (tick.satAdd HORSE_STATION_BUFF_TICKS) } }
            player .objective _)
      · exact keepsLives_award
          { m with activeObjective := some { objective with completed := true } } player
          .objective _

theorem keepsLives_recordSignalTowerHold (m : BountyMatchKernel) (tick : SimulationTick)
    (player : PlayerId) (objectiveId totalHoldTicks : UInt64) :
    KeepsLives m (m.recordSignalTowerHold tick player objectiveId totalHoldTicks).2 := by
  unfold recordSignalTowerHold
  cases m.requireLiveTick tick with
  | some error => exact fun _ => rfl
  | none =>
    dsimp only
    by_cases hplayer : player ∈ m.players
    swap
    · rw [if_pos hplayer]
      exact fun _ => rfl
    rw [if_neg (not_not.mpr hplayer)]
    cases m.activeObjective with
    | none => exact fun _ => rfl
    | some objective =>
      dsimp only
      split_ifs
      · exact fun _ => rfl
      · exact fun _ => rfl
      · exact fun _ => rfl
      · exact keepsLives_award { m with activeObjective := some { objective with
          signalPaidIntervals := objective.signalPaidIntervals + 1
          completed := objective.completed || objective.signalPaidIntervals + 1 = 3 } } player
          .objective 50

theorem recordDamage_live (m : BountyMatchKernel) (tick : SimulationTick)
    (attacker target : PlayerId) (damage : UInt16) :
    (m.recordDamage tick attacker target damage).2.requireLiveTick tick
      = m.requireLiveTick tick := by
  unfold recordDamage
  cases hlive : m.requireLiveTick tick with
  | some error => exact hlive
  | none =>
    dsimp only
    split_ifs
    · exact hlive
    · cases m.players[target]? with
      | none => exact hlive
      | some row =>
        dsimp only
        split_ifs <;> exact hlive

theorem EventStep.requireLiveTick (h : EventStep m m') :
    m'.requireLiveTick tick = m.requireLiveTick tick := by
  obtain ⟨players, damage, reveal, objective, rfl⟩ := h.shape
  rfl

/-! ## Eliminations -/

theorem lives_eliminate (m : BountyMatchKernel) (target id : PlayerId) (tick : SimulationTick) :
    lives { m with players := m.players.modify target fun row => eliminate row tick } id
      = if id = target then (m.lives id).map fun _ => false else m.lives id := by
  unfold lives
  dsimp only
  rw [ExtTreeMap.getElem?_modify]
  split_ifs with heq hne hne
  · rw [Std.LawfulEqCmp.eq_of_compare heq, Option.map_map, Option.map_map]
    rfl
  · exact absurd (Std.LawfulEqCmp.eq_of_compare heq).symm hne
  · exact absurd (hne ▸ Std.ReflCmp.compare_self) heq
  · rfl

theorem lives_settleElimination {killer target : PlayerId}
    {categories : List (BountyScoreCategory × UInt16)} {awards : List BountyAward}
    (h : m.settleElimination tick killer target categories = (.ok awards, m')) (id : PlayerId) :
    m'.lives id = if id = target then (m.lives id).map fun _ => false else m.lives id := by
  unfold settleElimination at h
  have hawards := keepsLives_awardEach killer categories m
  generalize awardEach killer categories m = awarded at hawards h
  obtain ⟨_ | first, m₁⟩ := awarded
  · cases h
  dsimp only at hawards h
  have hcount := keepsLives_modify
    (f := fun row => { row with eliminations := row.eliminations.satAdd 1 }) (fun _ => rfl) m₁
    killer
  generalize hcounted : { m₁ with
    players := m₁.players.modify killer fun row =>
      { row with eliminations := row.eliminations.satAdd 1 }
    damage := m₁.damage.erase target } = counted at h
  have hassists :=
    keepsLives_awardAssists tick killer (m₁.damage[target]?.getD ∅).toList counted
  generalize awardAssists tick killer _ counted = assisted at hassists h
  obtain ⟨_ | assists, m₂⟩ := assisted
  · cases h
  obtain ⟨-, rfl⟩ := Prod.mk.inj h
  have hkept : m₂.lives id = m.lives id := by
    rw [hassists id, ← hawards id]
    subst hcounted
    exact hcount id
  rw [lives_eliminate, hkept]

/-- The target, who was alive, is not any more. -/
theorem lives_recordElimination {killer target : PlayerId} {saddleDive : Bool}
    {awards : List BountyAward}
    (h : m.recordElimination tick killer target saddleDive = (.ok awards, m')) (id : PlayerId) :
    m.lives target = some true ∧ m'.lives id = if id = target then some false else m.lives id := by
  unfold recordElimination at h
  cases hlive : m.requireLiveTick tick with
  | some error =>
    rw [hlive] at h
    cases h
  | none =>
    rw [hlive] at h
    dsimp only at h
    split_ifs at h with hevent halive
    · cases h
    · cases h
    have halive : m.lives target = some true := by
      rw [Bool.not_eq_true', Bool.not_eq_false] at halive
      obtain ⟨row, hrow, hstands⟩ := (Option.any_eq_true _ _).mp halive
      unfold lives
      rw [hrow]
      exact congrArg some hstands
    refine ⟨halive, ?_⟩
    generalize (m.activeReveal.any fun reveal =>
      reveal.playerId = target && tick ≥ reveal.startedTick && tick < reveal.endTick) = mostWanted
      at h
    have hmarked : ∀ other, (m.markReveal mostWanted).lives other = m.lives other := by
      cases mostWanted <;> exact fun _ => rfl
    rw [lives_settleElimination h id, hmarked]
    split_ifs with heq
    · rw [heq, halive]
      rfl
    · rfl

/-! ## The clock -/

/-- Whom the clock brings back is alive; the others keep their lives. -/
theorem lives_advanceTick {output : BountyMatchTickOutput} (hm : m.Sound)
    (h : m.advanceTick tick = (.ok output, m')) (id : PlayerId) :
    m'.lives id
      = (m.lives id).map fun alive => alive || decide (id ∈ output.respawnedPlayers) := by
  have hlater : m.currentTick < tick := by
    by_contra hreplay
    unfold advanceTick at h
    rw [if_pos (UInt64.not_lt.mp hreplay)] at h
    cases h
  have hclock := (advanceTick_step hm hlater).unscored id
  have hlisted : output.respawnedPlayers
      = ((m.rows.filter (·.respawnsBy (min tick m.endTick))).map (·.playerId)).insertionSort
        (· ≤ ·) := by
    unfold advanceTick at h
    rw [if_neg (UInt64.not_le.mpr hlater)] at h
    exact congrArg BountyMatchTickOutput.respawnedPlayers
      (Except.ok.inj (congrArg Prod.fst h)).symm
  rw [h] at hclock
  have hmoved : m'.lives id = (m.moveClock tick).lives id := lives_of_unscored hclock
  rw [hmoved]
  unfold lives moveClock
  dsimp only
  rw [ExtTreeMap.getElem?_map]
  cases hrow : m.players[id]? with
  | none => rfl
  | some row =>
    have hmem : id ∈ output.respawnedPlayers ↔ row.respawnsBy (min tick m.endTick) = true := by
      rw [hlisted, List.mem_insertionSort, List.mem_map]
      constructor
      · rintro ⟨found, hfound, rfl⟩
        obtain ⟨hfound, hdue⟩ := List.mem_filter.mp hfound
        obtain ⟨key, hkey⟩ := mem_rows.mp hfound
        have hid := (hm.roster.rows key found hkey).playerId
        rw [hid, hkey] at hrow
        exact Option.some.inj hrow ▸ hdue
      · exact fun hdue => ⟨row, List.mem_filter.mpr ⟨mem_rows.mpr ⟨id, hrow⟩, hdue⟩,
          (hm.roster.rows id row hrow).playerId⟩
    refine congrArg some ?_
    unfold BountyPlayerState.advanceTo
    dsimp only
    by_cases hdue : row.respawnsBy (min tick m.endTick) = true
    · rw [if_pos hdue, decide_eq_true (hmem.mpr hdue), Bool.or_true]
      rfl
    · rw [if_neg hdue, decide_eq_false (fun hin => hdue (hmem.mp hin)), Bool.or_false]

/-- In a new match everyone on the roster is alive. -/
theorem lives_new {authorityEpoch lobbySeed : UInt64} {startTick : SimulationTick}
    {roster : List PlayerId} (h : new authorityEpoch lobbySeed startTick roster = .ok m)
    (id : PlayerId) : m.lives id = if id ∈ roster then some true else none := by
  unfold new at h
  dsimp only at h
  split_ifs at h
  cases h
  unfold lives
  dsimp only
  rw [ExtTreeMap.getElem?_ofList_tabulate (nodup_orderedSet roster)]
  simp only [mem_orderedSet]
  split_ifs <;> rfl

/-! ## Events that are never refused -/

theorem award_ok (h : player ∈ m.players) (category : BountyScoreCategory) (points : UInt16) :
    ∃ award m', m.award player category points = (.ok award, m') := by
  obtain ⟨row, hrow⟩ := Option.isSome_iff_exists.mp (ExtTreeMap.mem_iff_isSome_getElem?.mp h)
  unfold award
  rw [hrow]
  exact ⟨_, _, rfl⟩

theorem awardEach_ok (h : player ∈ m.players) (categories : List (BountyScoreCategory × UInt16)) :
    ∃ awards m', awardEach player categories m = (.ok awards, m') := by
  induction categories generalizing m with
  | nil => exact ⟨_, _, rfl⟩
  | cons entry rest ih =>
    obtain ⟨category, points⟩ := entry
    have hkept := keepsLives_award m player category points
    obtain ⟨first, m₁, hfirst⟩ := award_ok h category points
    rw [hfirst] at hkept
    obtain ⟨others, m₂, hothers⟩ := ih ((hkept.mem player).mpr h)
    unfold awardEach
    rw [hfirst]
    dsimp only
    rw [hothers]
    exact ⟨_, _, rfl⟩

theorem awardAssists_ok (tick : SimulationTick) (killer : PlayerId)
    {rows : List (PlayerId × DamageContribution)} (h : ∀ row ∈ rows, row.1 ∈ m.players) :
    ∃ awards m', awardAssists tick killer rows m = (.ok awards, m') := by
  induction rows generalizing m with
  | nil => exact ⟨_, _, rfl⟩
  | cons row rest ih =>
    obtain ⟨attacker, contribution⟩ := row
    unfold awardAssists
    split_ifs
    · have hkept := keepsLives_award m attacker .assist 50
      obtain ⟨first, m₁, hfirst⟩ := award_ok (h _ List.mem_cons_self) .assist 50
      rw [hfirst] at hkept ⊢
      have hcount := keepsLives_modify
        (f := fun row => { row with assists := row.assists.satAdd 1 }) (fun _ => rfl) m₁ attacker
      obtain ⟨others, m₂, hothers⟩ := ih fun other hother =>
        ((hkept.trans hcount).mem other.1).mpr (h other (List.mem_cons_of_mem _ hother))
      dsimp only at hothers ⊢
      rw [hothers]
      exact ⟨_, _, rfl⟩
    · exact ih fun other hother => h other (List.mem_cons_of_mem _ hother)

variable {attacker target : PlayerId}

theorem recordDamage_ok (hlive : m.requireLiveTick tick = none) {damage : UInt16}
    (hdamage : damage ≠ 0) (hne : attacker ≠ target) (hattacker : attacker ∈ m.players)
    (htarget : m.lives target = some true) :
    ∃ m', m.recordDamage tick attacker target damage = (.ok (), m') := by
  obtain ⟨row, hrow, halive⟩ := Option.map_eq_some_iff.mp htarget
  unfold recordDamage
  rw [hlive]
  dsimp only
  rw [if_neg (not_or.mpr ⟨hdamage, not_or.mpr ⟨hne, not_not.mpr hattacker⟩⟩), hrow]
  dsimp only
  rw [halive]
  exact ⟨_, rfl⟩

theorem recordMountedLongHit_ok (hlive : m.requireLiveTick tick = none)
    (hattacker : attacker ∈ m.players) (distanceMm : UInt32) :
    ∃ award m', m.recordMountedLongHit tick attacker distanceMm = (.ok award, m') := by
  obtain ⟨row, hrow⟩ :=
    Option.isSome_iff_exists.mp (ExtTreeMap.mem_iff_isSome_getElem?.mp hattacker)
  unfold recordMountedLongHit
  rw [hlive]
  dsimp only
  split_ifs
  · exact ⟨_, _, rfl⟩
  rw [hrow]
  dsimp only
  split_ifs
  · exact ⟨_, _, rfl⟩
  · obtain ⟨award, m', haward⟩ := award_ok (m := { m with players := m.players.insert attacker {
      row with mountedLongHitBonus := row.mountedLongHitBonus + 10 } })
      (ExtTreeMap.mem_insert_self) .mountedLongHit 10
    rw [haward]
    exact ⟨_, _, rfl⟩

theorem recordHorseBolt_ok (hlive : m.requireLiveTick tick = none) (hne : attacker ≠ target)
    (hattacker : attacker ∈ m.players) (htarget : target ∈ m.players) :
    ∃ award m', m.recordHorseBolt tick attacker target = (.ok award, m') := by
  unfold recordHorseBolt
  rw [hlive]
  dsimp only
  rw [if_neg (not_or.mpr ⟨hne, not_not.mpr htarget⟩)]
  exact award_ok hattacker .horseBolt 15

/-- Whoever has contributed damage is a player, so no award of an elimination fails. -/
theorem recordElimination_ok (hm : m.Sound) (hlive : m.requireLiveTick tick = none)
    {killer : PlayerId} (hne : killer ≠ target) (hkiller : killer ∈ m.players)
    (htarget : m.lives target = some true) (saddleDive : Bool) :
    ∃ awards m', m.recordElimination tick killer target saddleDive = (.ok awards, m') := by
  obtain ⟨row, hrow, halive⟩ := Option.map_eq_some_iff.mp htarget
  unfold recordElimination
  rw [hlive]
  dsimp only
  rw [if_neg (not_or.mpr ⟨hne, not_not.mpr hkiller⟩), hrow, Option.any_some, halive]
  generalize (m.activeReveal.any fun reveal =>
    reveal.playerId = target && tick ≥ reveal.startedTick && tick < reveal.endTick) = mostWanted
  have hmarked : (m.markReveal mostWanted).players = m.players
      ∧ (m.markReveal mostWanted).damage = m.damage := by
    cases mostWanted <;> exact ⟨rfl, rfl⟩
  unfold settleElimination
  have hkept := keepsLives_awardEach killer (eliminationAwards saddleDive mostWanted)
    (m.markReveal mostWanted)
  have hdamage : (awardEach killer (eliminationAwards saddleDive mostWanted)
      (m.markReveal mostWanted)).2.damage = m.damage := by
    rw [(awardEach_frame _ _ _).1, hmarked.2]
  obtain ⟨first, m₁, hfirst⟩ := awardEach_ok (m := m.markReveal mostWanted)
    (by rw [hmarked.1]; exact hkiller) (eliminationAwards saddleDive mostWanted)
  rw [hfirst] at hkept hdamage ⊢
  dsimp only at hkept hdamage ⊢
  have hcount := keepsLives_modify
    (f := fun row => { row with eliminations := row.eliminations.satAdd 1 }) (fun _ => rfl) m₁
    killer
  have hcontributors : ∀ row ∈ (m₁.damage[target]?.getD ∅).toList,
      row.1 ∈ m₁.players.modify killer fun row =>
        { row with eliminations := row.eliminations.satAdd 1 } := by
    rintro ⟨contributor, contribution⟩ hrow
    have hcontribution := ExtTreeMap.mem_toList_iff_getElem?_eq_some.mp hrow
    rw [hdamage] at hcontribution
    refine (hcount.mem contributor).mpr ((hkept.mem contributor).mpr ?_)
    rw [hmarked.1]
    cases hknown : m.damage[target]? with
    | none =>
      rw [hknown] at hcontribution
      exact nomatch hcontribution
    | some contributors =>
      rw [hknown] at hcontribution
      exact ((hm.roster.damage target contributors hknown).2 contributor contribution
        hcontribution).2.1
  obtain ⟨assists, m₂, hassists⟩ := awardAssists_ok (m := { m₁ with
    players := m₁.players.modify killer fun row =>
      { row with eliminations := row.eliminations.satAdd 1 }
    damage := m₁.damage.erase target }) tick killer hcontributors
  rw [hassists]
  exact ⟨_, _, rfl⟩

end BountyMatchKernel

end Spurfire
