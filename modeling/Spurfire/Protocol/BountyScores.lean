import Mathlib.Algebra.GroupWithZero.Nat
import Spurfire.Lib.Fallible
import Spurfire.Protocol.BountyCatchUp

/-!
# The score bound

An award of `m5.rs` caps the category it goes to, and the checkpoint validators bound the total of
all eight categories.

* `points_add`, `scoreOf_award`: what one award does to a breakdown and to the rows;
* `award_bounded_iff`: an award keeps the bound exactly where it `Fits`;
* **`scores_bounded_along`**: along calls with `Room` no total exceeds the bound;
* `scores_exceed_the_bound`: two categories together exceed it.
-/

namespace Spurfire

open Std (ExtTreeMap)

/-! ## Breakdowns -/

namespace BountyScoreBreakdown

/-- The points of one category. -/
def get (s : BountyScoreBreakdown) : BountyScoreCategory → UInt32
  | .elimination => s.elimination
  | .assist => s.assist
  | .horseBolt => s.horseBolt
  | .saddleDiveBonus => s.saddleDiveBonus
  | .mountedLongHit => s.mountedLongHit
  | .objective => s.objective
  | .mostWantedElimination => s.mostWantedElimination
  | .mostWantedSurvival => s.mostWantedSurvival

/-- All points, without saturation. -/
def points (s : BountyScoreBreakdown) : ℕ :=
  s.elimination.toNat + s.assist.toNat + s.horseBolt.toNat + s.saddleDiveBonus.toNat
    + s.mountedLongHit.toNat + s.objective.toNat + s.mostWantedElimination.toNat
    + s.mostWantedSurvival.toNat

variable {s : BountyScoreBreakdown} {category : BountyScoreCategory} {points : UInt16}

theorem toNat_total (s : BountyScoreBreakdown) : s.total.toNat = min s.points (2 ^ 32 - 1) := by
  unfold total BountyScoreBreakdown.points
  simp only [UInt32.toNat_satAdd]
  omega

theorem total_le_iff : s.total ≤ MAX_BOUNTY_SCORE ↔ s.points ≤ 1000000 := by
  rw [UInt32.le_iff_toNat_le, toNat_total, show MAX_BOUNTY_SCORE.toNat = 1000000 from rfl]
  omega

theorem toNat_raise (value : UInt32) (points : UInt16) :
    (raise value points).toNat = min (value.toNat + points.toNat) 1000000 := by
  have := value.toNat_lt
  have := points.toNat_lt
  unfold raise
  rw [UInt32.toNat_min, UInt32.toNat_satAdd, UInt16.toNat_toUInt32,
    show MAX_BOUNTY_SCORE.toNat = 1000000 from rfl]
  omega

/-- An award raises its category up to the bound, and no other category. -/
theorem points_add (s : BountyScoreBreakdown) (category : BountyScoreCategory)
    (points : UInt16) : (s.add category points).points + (s.get category).toNat
      = s.points + min ((s.get category).toNat + points.toNat) 1000000 := by
  cases category with
  | _ =>
    simp only [add, BountyScoreBreakdown.points, get, toNat_raise]
    omega

theorem get_le_points (s : BountyScoreBreakdown) (category : BountyScoreCategory) :
    (s.get category).toNat ≤ s.points := by
  unfold BountyScoreBreakdown.points
  cases category with
  | _ =>
    simp only [get]
    omega

/-- The points fit under the bound, or only their own category has any. -/
def Fits (s : BountyScoreBreakdown) (category : BountyScoreCategory) (points : UInt16) : Prop :=
  s.total.toNat + points.toNat ≤ MAX_BOUNTY_SCORE.toNat ∨ s.total = s.get category

instance (s : BountyScoreBreakdown) (category : BountyScoreCategory) (points : UInt16) :
    Decidable (s.Fits category points) :=
  inferInstanceAs (Decidable (_ ∨ _))

/-- **What fits is what stays within the bound.** -/
theorem total_add_le_iff (h : s.total ≤ MAX_BOUNTY_SCORE) :
    (s.add category points).total ≤ MAX_BOUNTY_SCORE ↔ s.Fits category points := by
  have hadd := s.points_add category points
  have hget := s.get_le_points category
  rw [total_le_iff] at h ⊢
  have htotal : s.total = s.get category ↔ s.points = (s.get category).toNat := by
    rw [← UInt32.toNat_inj, toNat_total]
    omega
  unfold Fits
  rw [htotal, toNat_total, show MAX_BOUNTY_SCORE.toNat = 1000000 from rfl]
  omega

/-- A few awards to one player fit together, or a single one goes to the only category with
points. -/
def FitsEach (s : BountyScoreBreakdown) (awards : List (BountyScoreCategory × UInt16)) : Prop :=
  s.total.toNat + (awards.map (·.2.toNat)).sum ≤ MAX_BOUNTY_SCORE.toNat
    ∨ awards.length = 1 ∧ ∀ award ∈ awards, s.total = s.get award.1

instance (s : BountyScoreBreakdown) (awards : List (BountyScoreCategory × UInt16)) :
    Decidable (s.FitsEach awards) :=
  inferInstanceAs (Decidable (_ ∨ _))

/-- The first of a few awards fits, and leaves room for the others. -/
theorem FitsEach.first {rest : List (BountyScoreCategory × UInt16)}
    (h : s.FitsEach ((category, points) :: rest)) :
    s.Fits category points ∧ (rest = [] ∨ (s.add category points).FitsEach rest) := by
  have hadd := s.points_add category points
  have hget := s.get_le_points category
  have hmax : MAX_BOUNTY_SCORE.toNat = 1000000 := rfl
  unfold FitsEach at h ⊢
  obtain hsum | ⟨hone, hsame⟩ := h
  · rw [List.map_cons, List.sum_cons] at hsum
    dsimp only at hsum
    refine ⟨.inl (by omega), .inr (.inl ?_)⟩
    rw [toNat_total] at hsum ⊢
    omega
  · have hnil : rest = [] := List.length_eq_zero_iff.mp (by simpa using hone)
    exact ⟨.inr (hsame _ List.mem_cons_self), .inl hnil⟩

end BountyScoreBreakdown

namespace BountyMatchKernel

variable {m : BountyMatchKernel} {player other : PlayerId} {category : BountyScoreCategory}
  {points : UInt16} {tick : SimulationTick}

/-! ## Rows -/

def scoreOf (m : BountyMatchKernel) (player : PlayerId) : Option BountyScoreBreakdown :=
  m.players[player]?.map (·.score)

/-- A fact about the totals of all rows is one about the breakdowns of all players. -/
theorem forall_rows_iff {P : UInt32 → Prop} : (∀ row ∈ m.rows, P row.totalScore)
    ↔ ∀ player, ∀ score ∈ m.scoreOf player, P score.total := by
  unfold scoreOf
  constructor
  · intro h player score hscore
    obtain ⟨row, hrow, rfl⟩ := Option.map_eq_some_iff.mp hscore
    exact h row (mem_rows.mpr ⟨player, hrow⟩)
  · intro h row hrow
    obtain ⟨player, hplayer⟩ := mem_rows.mp hrow
    exact h player row.score (Option.mem_map_of_mem _ hplayer)

theorem scoresBounded_iff : m.ScoresBounded
    ↔ ∀ player, ∀ score ∈ m.scoreOf player, score.total ≤ MAX_BOUNTY_SCORE :=
  forall_rows_iff (P := (· ≤ MAX_BOUNTY_SCORE))

theorem scoreOf_award (m : BountyMatchKernel) (player other : PlayerId)
    (category : BountyScoreCategory) (points : UInt16) :
    (m.award player category points).2.scoreOf other
      = if other = player then (m.scoreOf player).map (·.add category points)
        else m.scoreOf other := by
  unfold award scoreOf
  cases hrow : m.players[player]? with
  | none =>
    by_cases h : other = player
    · rw [if_pos h, h, hrow]
      rfl
    · rw [if_neg h]
  | some row =>
    dsimp only
    rw [ExtTreeMap.getElem?_insert]
    by_cases h : other = player
    · rw [if_pos h, if_pos (by rw [h]; exact Std.ReflCmp.compare_self)]
      rfl
    · rw [if_neg h, if_neg fun heq => h (Std.LawfulEqCmp.eq_of_compare heq).symm]

/-- A change of rows that keeps scores. -/
theorem scoreOf_modify (players : ExtTreeMap PlayerId BountyPlayerState) (player other : PlayerId)
    {f : BountyPlayerState → BountyPlayerState} (hf : ∀ row, (f row).score = row.score) :
    (players.modify player f)[other]?.map BountyPlayerState.score
      = players[other]?.map BountyPlayerState.score := by
  rw [ExtTreeMap.getElem?_modify]
  by_cases h : compare player other = .eq
  · rw [if_pos h, Option.map_map, ← Std.LawfulEqCmp.eq_of_compare h]
    exact congrArg (Option.map · _) (funext hf)
  · rw [if_neg h]

/-- The player of an award has room for it. -/
def Fits (m : BountyMatchKernel) (player : PlayerId) (category : BountyScoreCategory)
    (points : UInt16) : Prop :=
  ∀ score ∈ m.scoreOf player, score.Fits category points

instance (m : BountyMatchKernel) (player : PlayerId) (category : BountyScoreCategory)
    (points : UInt16) : Decidable (m.Fits player category points) :=
  inferInstanceAs (Decidable (∀ score ∈ m.scoreOf player, score.Fits category points))

/-- **An award keeps the bound exactly where it fits.** -/
theorem award_bounded_iff (h : m.ScoresBounded) :
    (m.award player category points).2.ScoresBounded ↔ m.Fits player category points := by
  rw [scoresBounded_iff] at h ⊢
  constructor
  · intro hafter score hscore
    refine (BountyScoreBreakdown.total_add_le_iff (h player score hscore)).mp
      (hafter player _ ?_)
    rw [scoreOf_award, if_pos rfl]
    exact Option.mem_map_of_mem _ hscore
  · intro hfits other score hscore
    rw [scoreOf_award] at hscore
    split_ifs at hscore with hother
    · obtain ⟨old, hold, rfl⟩ := Option.map_eq_some_iff.mp hscore
      exact (BountyScoreBreakdown.total_add_le_iff (h player old hold)).mpr (hfits old hold)
    · exact h other score hscore

/-- Only the scores of the rows matter. -/
theorem scoresBounded_congr {m' : BountyMatchKernel}
    (h : ∀ player, m'.scoreOf player = m.scoreOf player) :
    m'.ScoresBounded ↔ m.ScoresBounded := by
  rw [scoresBounded_iff, scoresBounded_iff]
  simp only [h]

theorem fits_congr {m' : BountyMatchKernel} (h : m'.scoreOf player = m.scoreOf player) :
    m'.Fits player category points ↔ m.Fits player category points := by
  unfold Fits
  rw [h]

/-! ## Events -/

theorem awardEach_frame (player : PlayerId) (awards : List (BountyScoreCategory × UInt16))
    (m : BountyMatchKernel) : (awardEach player awards m).2.damage = m.damage
      ∧ ∀ other, other ≠ player →
        (awardEach player awards m).2.scoreOf other = m.scoreOf other := by
  refine awardEach_keeps (R := fun m m' => m'.damage = m.damage
    ∧ ∀ other, other ≠ player → m'.scoreOf other = m.scoreOf other) (fun _ => ⟨rfl, fun _ _ => rfl⟩)
    (fun hfirst hrest => ⟨hrest.1.trans hfirst.1, fun other hother =>
      (hrest.2 other hother).trans (hfirst.2 other hother)⟩) player awards
    (fun award _ m => ⟨?_, fun other hother => ?_⟩) m
  · obtain ⟨players, hshape⟩ := award_shape m player award.1 award.2
    rw [hshape]
  · rw [scoreOf_award, if_neg hother]

theorem awardEach_bounded (player : PlayerId) (awards : List (BountyScoreCategory × UInt16))
    (h : m.ScoresBounded) (hfits : ∀ score ∈ m.scoreOf player, score.FitsEach awards) :
    (awardEach player awards m).2.ScoresBounded := by
  induction awards generalizing m with
  | nil => exact h
  | cons award rest ih =>
    obtain ⟨category, points⟩ := award
    have hone : (m.award player category points).2.ScoresBounded :=
      (award_bounded_iff h).mpr fun score hscore => (hfits score hscore).first.1
    have hnext : rest = [] ∨ ∀ score ∈ (m.award player category points).2.scoreOf player,
        score.FitsEach rest := by
      by_cases hnil : rest = []
      · exact .inl hnil
      · refine .inr fun score hscore => ?_
        rw [scoreOf_award, if_pos rfl] at hscore
        obtain ⟨old, hold, rfl⟩ := Option.map_eq_some_iff.mp hscore
        exact (hfits old hold).first.2.resolve_left hnil
    unfold awardEach
    cases hfirst : m.award player category points with
    | mk answer next =>
      rw [hfirst] at hone hnext
      cases answer with
      | error e => exact hone
      | ok first =>
        have hrest : (awardEach player rest next).2.ScoresBounded := by
          obtain rfl | hnext := hnext
          · exact hone
          · exact ih hone hnext
        dsimp only
        cases hothers' : awardEach player rest next with
        | mk answer' last =>
          rw [hothers'] at hrest
          cases answer' <;> exact hrest

/-- Every contributor that counts as an assist has room for it. -/
def AssistsFit (m : BountyMatchKernel) (tick : SimulationTick) (killer : PlayerId)
    (contributors : List (PlayerId × DamageContribution)) : Prop :=
  ∀ row ∈ contributors, isAssist tick killer row.1 row.2 = true → m.Fits row.1 .assist 50

instance (m : BountyMatchKernel) (tick : SimulationTick) (killer : PlayerId)
    (contributors : List (PlayerId × DamageContribution)) :
    Decidable (m.AssistsFit tick killer contributors) :=
  inferInstanceAs (Decidable (∀ row ∈ contributors, _ → _))

theorem awardAssists_bounded (tick : SimulationTick) (killer : PlayerId)
    {contributors : List (PlayerId × DamageContribution)}
    (hdistinct : contributors.Pairwise fun row other => row.1 ≠ other.1) (h : m.ScoresBounded)
    (hfits : m.AssistsFit tick killer contributors) :
    (awardAssists tick killer contributors m).2.ScoresBounded := by
  induction contributors generalizing m with
  | nil => exact h
  | cons row rest ih =>
    obtain ⟨attacker, contribution⟩ := row
    obtain ⟨hnew, hdistinct⟩ := List.pairwise_cons.mp hdistinct
    have hrest : m.AssistsFit tick killer rest := fun row hrow =>
      hfits row (List.mem_cons_of_mem _ hrow)
    unfold awardAssists
    split_ifs with hassist
    · have hone : (m.award attacker .assist 50).2.ScoresBounded :=
        (award_bounded_iff h).mpr (hfits _ List.mem_cons_self hassist)
      have hothers : ∀ other, other ≠ attacker →
          (m.award attacker .assist 50).2.scoreOf other = m.scoreOf other := fun other hother => by
        rw [scoreOf_award, if_neg hother]
      cases hfirst : m.award attacker .assist 50 with
      | mk answer next =>
        rw [hfirst] at hone hothers
        cases answer with
        | error e => exact hone
        | ok first =>
          dsimp only
          -- counting the assist keeps the scores
          have hcount : ∀ player, scoreOf { next with
              players := next.players.modify attacker fun row =>
                { row with assists := row.assists.satAdd 1 } } player = next.scoreOf player :=
            fun player => scoreOf_modify next.players attacker player fun _ => rfl
          have hnext := ih hdistinct ((scoresBounded_congr hcount).mpr hone)
            fun row hrow hassist => (fits_congr ((hcount row.1).trans
              (hothers row.1 (hnew row hrow).symm))).mpr (hrest row hrow hassist)
          generalize awardAssists tick killer rest _ = last at hnext ⊢
          obtain ⟨answer', last⟩ := last
          cases answer' <;> exact hnext
    · exact ih hdistinct h hrest

/-- The killer has room for its awards, and the assists have room for theirs. -/
def EliminationFits (m : BountyMatchKernel) (tick : SimulationTick) (killer target : PlayerId)
    (awards : List (BountyScoreCategory × UInt16)) : Prop :=
  (∀ score ∈ m.scoreOf killer, score.FitsEach awards)
    ∧ m.AssistsFit tick killer (m.damage[target]?.getD ∅).toList

instance (m : BountyMatchKernel) (tick : SimulationTick) (killer target : PlayerId)
    (awards : List (BountyScoreCategory × UInt16)) :
    Decidable (m.EliminationFits tick killer target awards) :=
  inferInstanceAs (Decidable (_ ∧ _))

theorem distinct_toList (contributors : ExtTreeMap PlayerId DamageContribution) :
    contributors.toList.Pairwise fun row other => row.1 ≠ other.1 :=
  ExtTreeMap.distinct_keys_toList.imp fun {row other} h heq => h (by
    rw [heq]
    exact Std.ReflCmp.compare_self)

theorem settleElimination_bounded {killer target : PlayerId}
    {awards : List (BountyScoreCategory × UInt16)} (h : m.ScoresBounded)
    (hfits : m.EliminationFits tick killer target awards) :
    (m.settleElimination tick killer target awards).2.ScoresBounded := by
  have hawards := awardEach_bounded killer awards h hfits.1
  obtain ⟨hdamage, hothers⟩ := awardEach_frame killer awards m
  unfold settleElimination
  generalize awardEach killer awards m = awarded at hawards hdamage hothers ⊢
  obtain ⟨answer, next⟩ := awarded
  cases answer with
  | error e => exact hawards
  | ok first =>
    dsimp only at hawards hdamage hothers ⊢
    have hcount : ∀ player, scoreOf { next with
        players := next.players.modify killer fun row =>
          { row with eliminations := row.eliminations.satAdd 1 }
        damage := next.damage.erase target } player = next.scoreOf player :=
      fun player => scoreOf_modify next.players killer player fun _ => rfl
    have hcontributors : next.damage[target]?.getD ∅ = m.damage[target]?.getD ∅ := by rw [hdamage]
    rw [hcontributors]
    have hassists := awardAssists_bounded tick killer (distinct_toList _)
      ((scoresBounded_congr hcount).mpr hawards) fun row hrow hassist => by
        have hother : row.1 ≠ killer := by
          simp only [isAssist, Bool.and_eq_true, decide_eq_true_eq] at hassist
          exact hassist.1.1
        exact (fits_congr ((hcount row.1).trans (hothers row.1 hother))).mpr
          (hfits.2 row hrow hassist)
    generalize awardAssists tick killer _ _ = assisted at hassists ⊢
    obtain ⟨answer', last⟩ := assisted
    cases answer' with
    | error e => exact hassists
    | ok others =>
      refine (scoresBounded_congr fun player => ?_).mpr hassists
      exact scoreOf_modify last.players target player fun _ => rfl

/-! ## The clock -/

/-- An award raises no breakdown by more than its points. -/
theorem award_rises (m : BountyMatchKernel) (player : PlayerId) (category : BountyScoreCategory)
    (points : UInt16) : ∀ other, ∀ score ∈ (m.award player category points).2.scoreOf other,
      ∃ old ∈ m.scoreOf other, score.points ≤ old.points + points.toNat := by
  intro other score hscore
  rw [scoreOf_award] at hscore
  split_ifs at hscore with hother
  · obtain ⟨old, hold, rfl⟩ := Option.map_eq_some_iff.mp hscore
    have hadd := old.points_add category points
    exact ⟨old, hother ▸ hold, by omega⟩
  · exact ⟨score, hscore, Nat.le_add_right _ _⟩

theorem revealClosed_rises (m : BountyMatchKernel) (tick : SimulationTick) :
    ∀ player, ∀ score ∈ (m.revealClosed tick).scoreOf player,
      ∃ old ∈ m.scoreOf player, score.points ≤ old.points + 10 := by
  by_cases h : ∀ reveal, m.activeReveal = some reveal → ¬reveal.endTick ≤ tick
  · rw [revealClosed_of_running h]
    exact fun _ score hscore => ⟨score, hscore, Nat.le_add_right _ _⟩
  · push Not at h
    obtain ⟨reveal, hactive, hended⟩ := h
    rw [revealClosed_of_ended hactive hended]
    unfold endReveal
    split_ifs
    · exact fun _ score hscore => ⟨score, hscore, Nat.le_add_right _ _⟩
    · exact award_rises { m with activeReveal := none } reveal.playerId .mostWantedSurvival 10

theorem revealTurn_rises (m : BountyMatchKernel) :
    ∀ player, ∀ score ∈ m.revealTurn.scoreOf player,
      ∃ old ∈ m.scoreOf player, score.points ≤ old.points + 10 := by
  have hopen : ∀ (k : BountyMatchKernel) (player : PlayerId),
      (k.openReveal .empty).2.scoreOf player = k.scoreOf player := by
    intro k player
    unfold openReveal
    cases k.winner with
    | none => simp only [scoreOf]
    | some leader => simp only [scoreOf]
  intro player score hscore
  unfold revealTurn at hscore
  rw [hopen] at hscore
  exact m.revealClosed_rises m.nextRevealTick player score hscore

/-- How many reveal windows open up to a clock. -/
def windowsDue (m : BountyMatchKernel) (tick : SimulationTick) : ℕ :=
  (min tick.toNat (m.endTick.toNat - 1) + MOST_WANTED_CADENCE_TICKS.toNat
    - m.nextRevealTick.toNat) / MOST_WANTED_CADENCE_TICKS.toNat

theorem windowsDue_revealTurn (hdue : RevealDue tick m) :
    m.revealTurn.windowsDue tick + 1 ≤ m.windowsDue tick := by
  obtain ⟨hnext, hend⟩ := hdue
  have hnext := UInt64.le_iff_toNat_le.mp hnext
  have hend := UInt64.lt_iff_toNat_lt.mp hend
  have hlast := m.endTick.toNat_lt
  obtain ⟨players, active, hshape⟩ := m.revealTurn_shape
  rw [hshape]
  unfold windowsDue
  dsimp only
  rw [UInt64.toNat_satAdd, show MOST_WANTED_CADENCE_TICKS.toNat = 3600 from rfl]
  omega

theorem not_revealDue (h : m.windowsDue tick = 0) : ¬RevealDue tick m := fun hdue => by
  have := windowsDue_revealTurn hdue
  omega

/-- Survival awards up to a clock: the reveal that ends fits, and where windows open as well every
player has ten points of room for each of them and for that reveal. -/
def RevealsFit (m : BountyMatchKernel) (tick : SimulationTick) : Prop :=
  (m.windowsDue tick = 0 → ∀ reveal ∈ m.activeReveal, reveal.endTick ≤ tick →
      reveal.eliminated = false → m.Fits reveal.playerId .mostWantedSurvival 10)
    ∧ (m.windowsDue tick ≠ 0 → ∀ row ∈ m.rows,
      row.totalScore.toNat + 10 * (m.windowsDue tick + 1) ≤ MAX_BOUNTY_SCORE.toNat)

instance (m : BountyMatchKernel) (tick : SimulationTick) : Decidable (m.RevealsFit tick) :=
  inferInstanceAs (Decidable (_ ∧ _))

/-- Every player has room for the windows that are still due and for one reveal more. -/
def RoomLeft (m : BountyMatchKernel) (tick : SimulationTick) : Prop :=
  ∀ player, ∀ score ∈ m.scoreOf player, score.points + 10 * (m.windowsDue tick + 1) ≤ 1000000

theorem RoomLeft.turn {s t : BountyMatchKernel} (hloop : Loops (RevealDue tick) revealTurn s t)
    (h : s.RoomLeft tick) : t.RoomLeft tick := by
  induction hloop with
  | stop => exact h
  | again hdue _ ih =>
    refine ih fun player score hscore => ?_
    obtain ⟨old, hold, hrise⟩ := revealTurn_rises _ player score hscore
    have hroom := h player old hold
    have hfewer := windowsDue_revealTurn hdue
    omega

theorem revealed_bounded (h : m.ScoresBounded) (hfits : m.RevealsFit tick) :
    (m.revealed tick).ScoresBounded := by
  obtain ⟨t, hloop, hresult⟩ := m.revealed_settles tick
  rw [hresult]
  change (t.revealClosed tick).ScoresBounded
  by_cases hnone : m.windowsDue tick = 0
  · have hstop := hloop.det (.stop (not_revealDue hnone))
    rw [hstop]
    by_cases hrunning : ∀ reveal, m.activeReveal = some reveal → ¬reveal.endTick ≤ tick
    · rw [revealClosed_of_running hrunning]
      exact h
    · push Not at hrunning
      obtain ⟨reveal, hactive, hended⟩ := hrunning
      rw [revealClosed_of_ended hactive hended]
      unfold endReveal
      split_ifs with heliminated
      · exact h
      · exact (award_bounded_iff (m := { m with activeReveal := none }) h).mpr
          (hfits.1 hnone reveal hactive hended (by simpa using heliminated))
  · have hroom : m.RoomLeft tick := by
      intro player score hscore
      have hscore := forall_rows_iff (P := fun total =>
        total.toNat + 10 * (m.windowsDue tick + 1) ≤ MAX_BOUNTY_SCORE.toNat) |>.mp
          (hfits.2 hnone) player score hscore
      rw [BountyScoreBreakdown.toNat_total,
        show MAX_BOUNTY_SCORE.toNat = 1000000 from rfl] at hscore
      omega
    refine scoresBounded_iff.mpr fun player score hscore => ?_
    obtain ⟨old, hold, hrise⟩ := t.revealClosed_rises tick player score hscore
    have hleft := hroom.turn hloop player old hold
    rw [BountyScoreBreakdown.total_le_iff]
    omega

theorem scoreOf_moveClock (m : BountyMatchKernel) (tick : SimulationTick) (player : PlayerId) :
    (m.moveClock tick).scoreOf player = m.scoreOf player := by
  unfold scoreOf moveClock
  rw [ExtTreeMap.getElem?_map, Option.map_map]
  refine congrArg (Option.map · m.players[player]?) (funext fun row => ?_)
  exact (advanceTo_frame row _).2

theorem revealsFit_moveClock {clock : SimulationTick} :
    (m.moveClock clock).RevealsFit tick ↔ m.RevealsFit tick := by
  have htotals := (forall_rows_iff (m := m.moveClock clock) (P := fun total =>
    total.toNat + 10 * (m.windowsDue tick + 1) ≤ MAX_BOUNTY_SCORE.toNat))
  simp only [scoreOf_moveClock] at htotals
  unfold RevealsFit
  simp only [fits_congr (scoreOf_moveClock m clock _)]
  rw [show (m.moveClock clock).windowsDue tick = m.windowsDue tick from rfl,
    show (m.moveClock clock).activeReveal = m.activeReveal from rfl, htotals,
    forall_rows_iff (m := m) (P := fun total =>
      total.toNat + 10 * (m.windowsDue tick + 1) ≤ MAX_BOUNTY_SCORE.toNat)]

theorem advanceTick_bounded (h : m.ScoresBounded) (hfits : m.RevealsFit (min tick m.endTick)) :
    (m.advanceTick tick).2.ScoresBounded := by
  by_cases hreplay : tick ≤ m.currentTick
  · unfold advanceTick
    rw [if_pos hreplay]
    exact h
  · rw [advanceTick_state (UInt64.not_le.mp hreplay)]
    have hclock : (m.moveClock tick).ScoresBounded :=
      (scoresBounded_congr (m.scoreOf_moveClock tick)).mpr h
    have hreveals := revealed_bounded hclock (revealsFit_moveClock.mpr hfits)
    have hobjectives : _ = _ :=
      ((m.moveClock tick).revealed (min tick m.endTick)).objectived_sameBut (min tick m.endTick)
    have hsettled : (m.settled tick).ScoresBounded := by
      unfold settled
      rw [hobjectives]
      exact hreveals
    by_cases hover : tick ≥ (m.settled tick).endTick ∧ !(m.settled tick).finished
    · rw [ended_of_over hover]
      exact hsettled
    · rw [ended_of_live hover]
      exact hsettled

/-! ## Calls -/

def isMostWanted (m : BountyMatchKernel) (tick : SimulationTick) (target : PlayerId) : Bool :=
  m.activeReveal.any fun reveal =>
    reveal.playerId = target && tick ≥ reveal.startedTick && tick < reveal.endTick

/-- The awards that a call asks for have room, where the call is not refused. -/
def Room (m : BountyMatchKernel) : BountyCall → Prop
  | .advanceTick tick => m.RevealsFit (min tick m.endTick)
  | .recordDamage _ _ _ _ => True
  | .recordElimination tick killer target saddleDive =>
    m.requireLiveTick tick = none → killer ≠ target → m.players[target]?.any (·.alive) = true →
      m.EliminationFits tick killer target
        (eliminationAwards saddleDive (m.isMostWanted tick target))
  | .recordHorseBolt tick attacker target =>
    m.requireLiveTick tick = none → attacker ≠ target → target ∈ m.players →
      m.Fits attacker .horseBolt 15
  | .recordMountedLongHit tick attacker distanceMm =>
    m.requireLiveTick tick = none → LONG_HIT_DISTANCE_MM < distanceMm →
      ∀ row ∈ m.players[attacker]?, row.mountedLongHitBonus < LONG_HIT_BONUS_CAP →
        m.Fits attacker .mountedLongHit 10
  | .completeObjective tick player objectiveId =>
    m.requireLiveTick tick = none → ∀ objective ∈ m.activeObjective,
      objective.objectiveId = objectiveId → objective.completed = false →
        objective.kind ≠ .signalTower → tick < objective.endTick →
          m.Fits player .objective objective.kind.completionPoints
  | .recordSignalTowerHold tick player objectiveId totalHoldTicks =>
    m.requireLiveTick tick = none → ∀ objective ∈ m.activeObjective,
      objective.objectiveId = objectiveId → objective.kind = .signalTower →
        objective.completed = false → tick < objective.endTick →
          objective.signalPaidIntervals
            < (min (totalHoldTicks / SIGNAL_TOWER_INTERVAL_TICKS) 3).toUInt8 →
          m.Fits player .objective 50
  | .handOver _ => True

instance decidableRoom (m : BountyMatchKernel) : ∀ call, Decidable (m.Room call)
  | .advanceTick _ => inferInstanceAs (Decidable (m.RevealsFit _))
  | .recordDamage _ _ _ _ => inferInstanceAs (Decidable True)
  | .recordElimination _ _ _ _ => inferInstanceAs (Decidable (_ → _ → _ → _))
  | .recordHorseBolt _ _ _ => inferInstanceAs (Decidable (_ → _ → _ → _))
  | .recordMountedLongHit _ attacker _ =>
    inferInstanceAs (Decidable (_ → _ → ∀ row ∈ m.players[attacker]?, _ → _))
  | .completeObjective _ _ _ =>
    inferInstanceAs (Decidable (_ → ∀ objective ∈ m.activeObjective, _ → _ → _ → _ → _))
  | .recordSignalTowerHold _ _ _ _ =>
    inferInstanceAs (Decidable (_ → ∀ objective ∈ m.activeObjective, _ → _ → _ → _ → _ → _))
  | .handOver _ => inferInstanceAs (Decidable True)

theorem recordDamage_bounded {attacker target : PlayerId} {damage : UInt16}
    (h : m.ScoresBounded) : (m.recordDamage tick attacker target damage).2.ScoresBounded := by
  unfold recordDamage
  cases hlive : m.requireLiveTick tick with
  | some e => exact h
  | none =>
    dsimp only
    by_cases hrefused : damage = 0 ∨ attacker = target ∨ attacker ∉ m.players
    · rw [if_pos hrefused]
      exact h
    · rw [if_neg hrefused]
      cases m.players[target]? with
      | none => exact h
      | some row =>
        dsimp only
        split_ifs <;> exact h

theorem handOver_bounded {next : UInt64} (h : m.ScoresBounded) :
    (m.step (.handOver next)).2.ScoresBounded := by
  unfold step restoreCheckpoint
  dsimp only
  by_cases hrefused : m.checkpoint.sourceAuthorityEpoch.checkedAdd 1 ≠ some next
      ∨ m.checkpoint.matchState.authorityEpoch ≠ m.checkpoint.sourceAuthorityEpoch
      ∨ (!m.checkpoint.matchState.stateIsValid) = true
  · rw [if_pos hrefused]
    exact h
  · rw [if_neg hrefused]
    exact h

theorem recordElimination_bounded {killer target : PlayerId} {saddleDive : Bool}
    (h : m.ScoresBounded) (hroom : m.Room (.recordElimination tick killer target saddleDive)) :
    (m.recordElimination tick killer target saddleDive).2.ScoresBounded := by
  unfold recordElimination
  cases hlive : m.requireLiveTick tick with
  | some e => exact h
  | none =>
    dsimp only
    split_ifs with hkiller halive
    · exact h
    · exact h
    · rw [not_or] at hkiller
      have hfits := hroom hlive hkiller.1 (by simpa using halive)
      have hmark : ∀ wanted, (m.markReveal wanted).players = m.players
          ∧ (m.markReveal wanted).damage = m.damage := by
        intro wanted
        unfold markReveal
        split_ifs <;> exact ⟨rfl, rfl⟩
      obtain ⟨hplayers, hdamage⟩ := hmark (m.isMostWanted tick target)
      have hscores : ∀ player, (m.markReveal (m.isMostWanted tick target)).scoreOf player
          = m.scoreOf player := by
        intro player
        unfold scoreOf
        rw [hplayers]
      change ((m.markReveal (m.isMostWanted tick target)).settleElimination tick killer target
        (eliminationAwards saddleDive (m.isMostWanted tick target))).2.ScoresBounded
      refine settleElimination_bounded ((scoresBounded_congr hscores).mpr h) ⟨?_, ?_⟩
      · rw [hscores]
        exact hfits.1
      · rw [hdamage]
        exact fun row hrow hassist => (fits_congr (hscores row.1)).mpr (hfits.2 row hrow hassist)

theorem recordHorseBolt_bounded {attacker target : PlayerId} (h : m.ScoresBounded)
    (hroom : m.Room (.recordHorseBolt tick attacker target)) :
    (m.recordHorseBolt tick attacker target).2.ScoresBounded := by
  unfold recordHorseBolt
  cases hlive : m.requireLiveTick tick with
  | some e => exact h
  | none =>
    dsimp only
    split_ifs with hrefused
    · exact h
    · rw [not_or, not_not] at hrefused
      exact (award_bounded_iff h).mpr (hroom hlive hrefused.1 hrefused.2)

theorem recordMountedLongHit_bounded {attacker : PlayerId} {distanceMm : UInt32}
    (h : m.ScoresBounded) (hroom : m.Room (.recordMountedLongHit tick attacker distanceMm)) :
    (m.recordMountedLongHit tick attacker distanceMm).2.ScoresBounded := by
  unfold recordMountedLongHit
  cases hlive : m.requireLiveTick tick with
  | some e => exact h
  | none =>
    dsimp only
    split_ifs with hnear
    · exact h
    · cases hrow : m.players[attacker]? with
      | none => exact h
      | some row =>
        dsimp only
        split_ifs with hspent
        · exact h
        · have hfits := hroom hlive (UInt32.not_le.mp hnear) row hrow (UInt16.not_le.mp hspent)
          have hscores : ∀ player, scoreOf { m with
              players := m.players.insert attacker
                { row with mountedLongHitBonus := row.mountedLongHitBonus + 10 } } player
                  = m.scoreOf player := by
            intro player
            unfold scoreOf
            dsimp only
            rw [ExtTreeMap.getElem?_insert]
            split_ifs with hsame
            · rw [← Std.LawfulEqCmp.eq_of_compare hsame, hrow]
              rfl
            · rfl
          exact (award_bounded_iff ((scoresBounded_congr hscores).mpr h)).mpr
            ((fits_congr (hscores attacker)).mpr hfits)

theorem completeObjective_bounded {player : PlayerId} {objectiveId : UInt64}
    (h : m.ScoresBounded) (hroom : m.Room (.completeObjective tick player objectiveId)) :
    (m.completeObjective tick player objectiveId).2.ScoresBounded := by
  unfold completeObjective
  cases hlive : m.requireLiveTick tick with
  | some e => exact h
  | none =>
    dsimp only
    by_cases hunknown : player ∉ m.players
    · rw [if_pos hunknown]
      exact h
    · rw [if_neg hunknown]
      cases hactive : m.activeObjective with
      | none => exact h
      | some objective =>
        dsimp only
        by_cases hrefused : objective.objectiveId ≠ objectiveId ∨ objective.completed = true
            ∨ objective.kind = .signalTower ∨ tick ≥ objective.endTick
        · rw [if_pos hrefused]
          exact h
        · rw [if_neg hrefused]
          simp only [not_or, not_not] at hrefused
          obtain ⟨hid, hopen, hkind, hlast⟩ := hrefused
          have hfits := hroom hlive objective hactive hid (by simpa using hopen) hkind
            (UInt64.not_le.mp hlast)
          generalize hplayers : (if objective.kind = .horseBuffStation then
              m.players.modify player fun row =>
                { row with horseBuffEndTick := some (tick.satAdd HORSE_STATION_BUFF_TICKS) }
            else m.players) = players
          have hscores : ∀ other, scoreOf { m with
              activeObjective := some { objective with completed := true }
              players := players } other = m.scoreOf other := by
            intro other
            rw [← hplayers]
            unfold scoreOf
            dsimp only
            split_ifs
            · exact scoreOf_modify m.players player other fun _ => rfl
            · rfl
          exact (award_bounded_iff ((scoresBounded_congr hscores).mpr h)).mpr
            ((fits_congr (hscores player)).mpr hfits)

theorem recordSignalTowerHold_bounded {player : PlayerId} {objectiveId totalHoldTicks : UInt64}
    (h : m.ScoresBounded)
    (hroom : m.Room (.recordSignalTowerHold tick player objectiveId totalHoldTicks)) :
    (m.recordSignalTowerHold tick player objectiveId totalHoldTicks).2.ScoresBounded := by
  unfold recordSignalTowerHold
  cases hlive : m.requireLiveTick tick with
  | some e => exact h
  | none =>
    dsimp only
    by_cases hunknown : player ∉ m.players
    · rw [if_pos hunknown]
      exact h
    · rw [if_neg hunknown]
      cases hactive : m.activeObjective with
      | none => exact h
      | some objective =>
        dsimp only
        split_ifs with hrefused hdone hunearned
        · exact h
        · exact h
        · exact h
        · simp only [not_or, not_not] at hrefused hdone
          obtain ⟨hid, hkind, hlast⟩ := hrefused
          have hfits := hroom hlive objective hactive hid hkind (by simpa using hdone.1)
            (UInt64.not_le.mp hlast) (UInt8.not_le.mp hunearned)
          change (award _ player .objective 50).2.ScoresBounded
          exact (award_bounded_iff (by exact h)).mpr (by exact hfits)

theorem step_bounded (call : BountyCall) (h : m.ScoresBounded) (hroom : m.Room call) :
    (m.step call).2.ScoresBounded := by
  cases call with
  | advanceTick tick => exact advanceTick_bounded h hroom
  | recordDamage tick attacker target damage => exact recordDamage_bounded h
  | recordElimination tick killer target saddleDive => exact recordElimination_bounded h hroom
  | recordHorseBolt tick attacker target => exact recordHorseBolt_bounded h hroom
  | recordMountedLongHit tick attacker distanceMm => exact recordMountedLongHit_bounded h hroom
  | completeObjective tick player objectiveId => exact completeObjective_bounded h hroom
  | recordSignalTowerHold tick player objectiveId totalHoldTicks =>
    exact recordSignalTowerHold_bounded h hroom
  | handOver nextAuthorityEpoch => exact handOver_bounded h

theorem scoresBounded_new {authorityEpoch lobbySeed : UInt64} {startTick : SimulationTick}
    {roster : List PlayerId} (hnew : new authorityEpoch lobbySeed startTick roster = .ok m) :
    m.ScoresBounded := by
  unfold new at hnew
  dsimp only at hnew
  split_ifs at hnew
  cases hnew
  refine scoresBounded_iff.mpr fun player score hscore => ?_
  unfold scoreOf at hscore
  dsimp only at hscore
  rw [ExtTreeMap.getElem?_ofList_tabulate (nodup_orderedSet roster)] at hscore
  obtain ⟨row, hrow, rfl⟩ := Option.map_eq_some_iff.mp hscore
  split_ifs at hrow
  cases hrow
  exact BountyScoreBreakdown.total_le_iff.mpr (Nat.zero_le _)

/-- **Scores stay within the bound along awards with room.**  In every state of a run of a new match
whose calls all have room for what they award, no total exceeds what the validators accept. -/
theorem scores_bounded_along {authorityEpoch lobbySeed : UInt64} {startTick : SimulationTick}
    {roster : List PlayerId} (hnew : new authorityEpoch lobbySeed startTick roster = .ok m)
    {calls : List BountyCall} (halong : Runs.Along step Room m calls) :
    ∀ before, before <+: calls → (Runs.run step m before).ScoresBounded := by
  rintro before ⟨after, rfl⟩
  exact Runs.run_invariant_along (fun _ call hroom h => step_bounded call h hroom)
    (scoresBounded_new hnew) (Runs.Along.append.mp halong).1

/-! ### Two categories -/

/-- Some bolts into a tick, and no long hit yet. -/
structure Bolting (tick : SimulationTick) (attacker target : PlayerId) (bolts : ℕ)
    (m : BountyMatchKernel) : Prop where
  live : m.requireLiveTick tick = none
  target : target ∈ m.players
  row : ∃ row, m.players[attacker]? = some row ∧ row.mountedLongHitBonus = 0
    ∧ row.score.horseBolt.toNat = min (15 * bolts) 1000000

theorem award_of_row {row : BountyPlayerState} (hrow : m.players[player]? = some row) :
    (m.award player category points).2 = { m with
      players := m.players.insert player { row with score := row.score.add category points } } := by
  unfold award
  rw [hrow]

theorem Bolting.bolt {attacker target : PlayerId} {bolts : ℕ} (hne : attacker ≠ target)
    (h : Bolting tick attacker target bolts m) :
    Bolting tick attacker target (bolts + 1)
      (m.step (.recordHorseBolt tick attacker target)).2 := by
  obtain ⟨row, hrow, hbonus, hbolts⟩ := h.row
  have hstep : (m.step (.recordHorseBolt tick attacker target)).2
      = (m.award attacker .horseBolt 15).2 := by
    unfold step recordHorseBolt
    dsimp only
    rw [h.live]
    dsimp only
    rw [if_neg (by simp [hne, h.target])]
    rfl
  rw [hstep, award_of_row hrow]
  refine ⟨h.live, ExtTreeMap.mem_insert.mpr (.inr h.target),
    { row with score := row.score.add .horseBolt 15 }, ?_, hbonus, ?_⟩
  · exact ExtTreeMap.getElem?_insert_self
  · change (BountyScoreBreakdown.raise row.score.horseBolt 15).toNat = _
    rw [BountyScoreBreakdown.toNat_raise, hbolts, show (15 : UInt16).toNat = 15 from rfl]
    omega

theorem Bolting.bolts {attacker target : PlayerId} (hne : attacker ≠ target) (count : ℕ)
    {bolts : ℕ} (h : Bolting tick attacker target bolts m) :
    Bolting tick attacker target (bolts + count)
      (Runs.run step m (List.replicate count (.recordHorseBolt tick attacker target))) := by
  induction count generalizing m bolts with
  | zero => exact h
  | succ count ih =>
    rw [List.replicate_succ, Runs.run_cons, show bolts + (count + 1) = bolts + 1 + count by omega]
    exact ih (h.bolt hne)

/-- Where bolts have filled their category, a long hit exceeds the bound. -/
theorem Bolting.not_bounded {attacker target : PlayerId} {bolts : ℕ}
    (hfull : 1000000 ≤ 15 * bolts) (h : Bolting tick attacker target bolts m) :
    ¬(m.step (.recordMountedLongHit tick attacker 60001)).2.ScoresBounded := by
  obtain ⟨row, hrow, hbonus, hbolts⟩ := h.row
  have hstep : (m.step (.recordMountedLongHit tick attacker 60001)).2
      = (award { m with
          players := m.players.insert attacker
            { row with mountedLongHitBonus := row.mountedLongHitBonus + 10 } }
        attacker .mountedLongHit 10).2 := by
    unfold step recordMountedLongHit
    dsimp only
    rw [h.live]
    dsimp only
    rw [if_neg (by decide), hrow]
    dsimp only
    rw [hbonus, if_neg (by decide)]
    rfl
  rw [hstep, award_of_row ExtTreeMap.getElem?_insert_self, scoresBounded_iff]
  intro hbounded
  have hscore := hbounded attacker (row.score.add .mountedLongHit 10) (by
    unfold scoreOf
    dsimp only
    rw [ExtTreeMap.getElem?_insert_self]
    rfl)
  rw [BountyScoreBreakdown.total_le_iff] at hscore
  have hraised : ((row.score.add .mountedLongHit 10).mountedLongHit).toNat
      = min (row.score.mountedLongHit.toNat + 10) 1000000 :=
    BountyScoreBreakdown.toNat_raise row.score.mountedLongHit 10
  have hkept : (row.score.add .mountedLongHit 10).horseBolt = row.score.horseBolt := rfl
  unfold BountyScoreBreakdown.points at hscore
  rw [hraised, hkept, hbolts] at hscore
  omega

def overfullCalls (bolts : ℕ) (tick : SimulationTick) (attacker target : PlayerId) :
    List BountyCall :=
  List.replicate bolts (.recordHorseBolt tick attacker target)
    ++ [.recordMountedLongHit tick attacker 60001]

theorem Bolting.overfull {attacker target : PlayerId} (hne : attacker ≠ target) {bolts : ℕ}
    (hfull : 1000000 ≤ 15 * bolts) (h : Bolting tick attacker target 0 m) :
    ¬(Runs.run step m (overfullCalls bolts tick attacker target)).ScoresBounded := by
  have hbolts := h.bolts hne bolts
  unfold overfullCalls
  rw [Runs.run_append, Runs.run_cons, Runs.run_nil]
  exact hbolts.not_bounded (by omega)

theorem bolting_new {authorityEpoch lobbySeed : UInt64} {startTick : SimulationTick}
    {roster : List PlayerId} (hnew : new authorityEpoch lobbySeed startTick roster = .ok m)
    {attacker target : PlayerId} (hattacker : attacker ∈ roster) (htarget : target ∈ roster) :
    Bolting startTick attacker target 0 m := by
  unfold new at hnew
  dsimp only at hnew
  split_ifs at hnew
  cases hnew
  have hrow : ∀ player ∈ roster, (ExtTreeMap.ofList ((orderedSet roster).map fun player =>
      (player, BountyPlayerState.new player)) compare)[player]?
        = some (BountyPlayerState.new player) := by
    intro player hplayer
    rw [ExtTreeMap.getElem?_ofList_tabulate (nodup_orderedSet roster),
      if_pos (mem_orderedSet.mpr hplayer)]
  refine ⟨by simp [requireLiveTick], ?_, BountyPlayerState.new attacker, hrow attacker hattacker,
    rfl, rfl⟩
  exact ExtTreeMap.mem_iff_isSome_getElem?.mpr (by rw [hrow target htarget]; rfl)

/-- Sixty-seven thousand bolts fill one category, and one long hit adds to another. -/
theorem scores_exceed_the_bound : ∃ m calls, new 1 7 0 endingRoster = .ok m
    ∧ ¬(Runs.run step m calls).ScoresBounded := by
  have hok : (new 1 7 0 endingRoster).isOk = true := by decide +kernel
  cases hnew : new 1 7 0 endingRoster with
  | error e =>
    rw [hnew] at hok
    exact nomatch hok
  | ok m =>
    have hfirst : ProtocolId.ofTail 1 ∈ endingRoster :=
      List.mem_cons_self
    have hsecond : ProtocolId.ofTail 2 ∈ endingRoster :=
      List.mem_cons_of_mem _ List.mem_cons_self
    exact ⟨m, overfullCalls 66667 0 _ _, rfl,
      (bolting_new hnew hfirst hsecond).overfull (by decide) (by decide)⟩

/-- A bolt, an elimination of the bolted rider, and two reveals. -/
def roomyCalls : List BountyCall :=
  [.recordHorseBolt 0 (.ofTail 1) (.ofTail 2),
    .recordElimination 0 (.ofTail 1)
      (.ofTail 2) false,
    .advanceTick 3700, .advanceTick 8000]

/-- A run with room to the end. -/
theorem scores_bounded_roomyCalls : ∃ m, new 1 7 0 endingRoster = .ok m
    ∧ ∀ before, before <+: roomyCalls → (Runs.run step m before).ScoresBounded := by
  have hroom : (new 1 7 0 endingRoster).toOption.any (fun m =>
      decide (Runs.Along step Room m roomyCalls)) = true := by
    decide +kernel
  obtain ⟨m, hnew, hroom⟩ := Fallible.exists_ok_of_any hroom
  exact ⟨m, hnew, scores_bounded_along hnew hroom⟩

end BountyMatchKernel

end Spurfire
