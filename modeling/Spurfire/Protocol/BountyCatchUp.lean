import Spurfire.Lib.Loop
import Spurfire.Protocol.BountyHandOver

/-!
# Catching up with the bounty clock

A migrated authority may advance the clock of `m5.rs` by many ticks at once.  Reveals and objectives
are two deadline processes, the rows follow the clock on their own, and the end of the match comes
last.

* `revealDeadlines`, `objectiveDeadlines`: the two processes, for `Deadlines.catch_up`;
* `objectived_revealed`, `revealed_moveClock`, `objectived_moveClock`: the parts do not touch each
  other;
* **`advanceTick_advanceTick`**: advancing to an earlier tick first leaves the same kernel;
* **`catchUp_eq_stepping`**: nor does any other way of cutting up the jump make a difference.
-/

namespace Spurfire

open Std (ExtTreeMap)

namespace BountyMatchKernel

variable {m : BountyMatchKernel} {tick early late : SimulationTick}

/-! ## Reveals -/

/-- The kernel after the reveal that has ended by `tick` is closed. -/
def revealClosed (m : BountyMatchKernel) (tick : SimulationTick) : BountyMatchKernel :=
  (m.closeReveal tick .empty).2

/-- The kernel after one turn of the reveal loop. -/
def revealTurn (m : BountyMatchKernel) : BountyMatchKernel :=
  ((m.revealClosed m.nextRevealTick).openReveal .empty).2

/-- The kernel after its reveals are worked off. -/
def revealed (m : BountyMatchKernel) (tick : SimulationTick) : BountyMatchKernel :=
  (m.advanceReveals tick .empty).2

def RevealDue (tick : SimulationTick) (m : BountyMatchKernel) : Prop :=
  m.nextRevealTick ≤ tick ∧ m.nextRevealTick < m.endTick

theorem closeReveal_state (m : BountyMatchKernel) (tick : SimulationTick)
    (output : BountyMatchTickOutput) : (m.closeReveal tick output).2 = m.revealClosed tick := by
  unfold revealClosed closeReveal
  cases m.activeReveal.filter (·.endTick ≤ tick) with
  | none => rfl
  | some reveal =>
    dsimp only
    split_ifs <;> rfl

theorem openReveal_state (m : BountyMatchKernel) (output : BountyMatchTickOutput) :
    (m.openReveal output).2 = (m.openReveal .empty).2 := by
  unfold openReveal
  cases m.winner <;> rfl

def endReveal (m : BountyMatchKernel) (reveal : MostWantedReveal) : BountyMatchKernel :=
  if reveal.eliminated then { m with activeReveal := none }
  else ({ m with activeReveal := none }.award reveal.playerId .mostWantedSurvival 10).2

theorem revealClosed_of_ended {reveal : MostWantedReveal} (h : m.activeReveal = some reveal)
    (hended : reveal.endTick ≤ tick) : m.revealClosed tick = m.endReveal reveal := by
  have hfilter : m.activeReveal.filter (·.endTick ≤ tick) = some reveal := by
    rw [h, Option.filter_some, if_pos (decide_eq_true hended)]
  unfold revealClosed closeReveal endReveal
  rw [hfilter]
  dsimp only
  split_ifs <;> rfl

theorem revealClosed_of_running
    (h : ∀ reveal, m.activeReveal = some reveal → ¬reveal.endTick ≤ tick) :
    m.revealClosed tick = m := by
  have hfilter : m.activeReveal.filter (·.endTick ≤ tick) = none := by
    cases hactive : m.activeReveal with
    | none => rfl
    | some reveal => rw [Option.filter_some, if_neg (by simpa using h reveal hactive)]
  unfold revealClosed closeReveal
  rw [hfilter]

/-- An award changes rows only. -/
theorem award_shape (m : BountyMatchKernel) (player : PlayerId) (category : BountyScoreCategory)
    (points : UInt16) : ∃ players, (m.award player category points).2 = { m with players } := by
  unfold award
  cases m.players[player]? <;> exact ⟨_, rfl⟩

theorem endReveal_shape (m : BountyMatchKernel) (reveal : MostWantedReveal) :
    ∃ players, m.endReveal reveal = { m with activeReveal := none, players := players } := by
  unfold endReveal
  split_ifs
  · exact ⟨_, rfl⟩
  · obtain ⟨players, hshape⟩ :=
      award_shape { m with activeReveal := none } reveal.playerId .mostWantedSurvival 10
    exact ⟨players, hshape⟩

theorem revealClosed_shape (m : BountyMatchKernel) (tick : SimulationTick) :
    ∃ players active, m.revealClosed tick
      = { m with players := players, activeReveal := active } := by
  by_cases h : ∀ reveal, m.activeReveal = some reveal → ¬reveal.endTick ≤ tick
  · rw [revealClosed_of_running h]
    exact ⟨_, _, rfl⟩
  · push Not at h
    obtain ⟨reveal, hactive, hended⟩ := h
    obtain ⟨players, hshape⟩ := endReveal_shape m reveal
    rw [revealClosed_of_ended hactive hended, hshape]
    exact ⟨_, _, rfl⟩

theorem revealClosed_revealClosed (h : early ≤ late) :
    (m.revealClosed early).revealClosed late = m.revealClosed late := by
  by_cases hrunning : ∀ reveal, m.activeReveal = some reveal → ¬reveal.endTick ≤ early
  · rw [revealClosed_of_running hrunning]
  · push Not at hrunning
    obtain ⟨reveal, hactive, hended⟩ := hrunning
    obtain ⟨players, hshape⟩ := endReveal_shape m reveal
    rw [revealClosed_of_ended hactive hended,
      revealClosed_of_ended hactive (UInt64.le_trans hended h)]
    refine revealClosed_of_running fun other hother => ?_
    rw [hshape] at hother
    cases hother

theorem revealDue_mono (h : early ≤ late) (hdue : RevealDue early m) : RevealDue late m :=
  ⟨UInt64.le_trans hdue.1 h, hdue.2⟩

theorem revealDue_revealClosed : RevealDue late (m.revealClosed early) ↔ RevealDue late m := by
  obtain ⟨players, active, hshape⟩ := m.revealClosed_shape early
  rw [hshape]
  exact .rfl

theorem revealTurn_shape (m : BountyMatchKernel) :
    ∃ players active, m.revealTurn
      = { m with
          players := players
          activeReveal := active
          nextRevealTick := m.nextRevealTick.satAdd MOST_WANTED_CADENCE_TICKS } := by
  obtain ⟨players, active, hshape⟩ := m.revealClosed_shape m.nextRevealTick
  unfold revealTurn openReveal
  rw [hshape]
  dsimp only
  generalize winner _ = leader
  cases leader with
  | none => exact ⟨_, _, rfl⟩
  | some leader => exact ⟨_, _, rfl⟩

/-- A window that opens after `early` closes what `early` closed. -/
theorem revealTurn_revealClosed (hdue : RevealDue late m) (hnot : ¬RevealDue early m) :
    (m.revealClosed early).revealTurn = m.revealTurn := by
  have hlater : early ≤ m.nextRevealTick := by
    by_contra hle
    exact hnot ⟨UInt64.le_of_lt (UInt64.not_le.mp hle), hdue.2⟩
  have hnext : (m.revealClosed early).nextRevealTick = m.nextRevealTick := by
    obtain ⟨players, active, hshape⟩ := m.revealClosed_shape early
    rw [hshape]
  unfold revealTurn
  rw [hnext, revealClosed_revealClosed hlater]

def revealDeadlines : Deadlines SimulationTick BountyMatchKernel where
  due := RevealDue
  turn := revealTurn
  close tick m := m.revealClosed tick
  due_mono := revealDue_mono
  due_close := revealDue_revealClosed
  close_close := revealClosed_revealClosed
  turn_close := revealTurn_revealClosed

theorem revealRounds_loops {fuel : ℕ}
    (hfuel : m.endTick.toNat ≤ m.nextRevealTick.toNat + 3600 * fuel)
    (output : BountyMatchTickOutput) :
    Loops (RevealDue tick) revealTurn m (revealRounds tick fuel m output).2 := by
  induction fuel generalizing m output with
  | zero =>
    refine .stop fun hdue => ?_
    have := UInt64.lt_iff_toNat_lt.mp hdue.2
    omega
  | succ fuel ih =>
    unfold revealRounds
    split_ifs with hdue
    · dsimp only
      have hturn : ((m.closeReveal m.nextRevealTick output).2.openReveal
          (m.closeReveal m.nextRevealTick output).1).2 = m.revealTurn := by
        rw [openReveal_state, closeReveal_state]
        rfl
      have hrest := ih (m := m.revealTurn) ?_
        ((m.closeReveal m.nextRevealTick output).2.openReveal
          (m.closeReveal m.nextRevealTick output).1).1
      · rw [hturn]
        exact .again hdue hrest
      · -- the next window starts a cadence later, or at the last representable tick
        obtain ⟨players, active, hshape⟩ := m.revealTurn_shape
        have := m.endTick.toNat_lt
        rw [hshape]
        dsimp only
        rw [UInt64.toNat_satAdd, show MOST_WANTED_CADENCE_TICKS.toNat = 3600 from rfl]
        omega
    · exact .stop hdue

theorem revealed_settles (m : BountyMatchKernel) (tick : SimulationTick) :
    revealDeadlines.Settles tick m (m.revealed tick) := by
  have hfuel := m.roundsLeft_spec m.nextRevealTick MOST_WANTED_CADENCE_TICKS (by decide)
  exact ⟨_, revealRounds_loops hfuel .empty, closeReveal_state _ _ _⟩

/-- What is reported so far does not matter to the kernel. -/
theorem advanceReveals_state (m : BountyMatchKernel) (tick : SimulationTick)
    (output : BountyMatchTickOutput) : (m.advanceReveals tick output).2 = m.revealed tick := by
  have hfuel := m.roundsLeft_spec m.nextRevealTick MOST_WANTED_CADENCE_TICKS (by decide)
  have hsettles : revealDeadlines.Settles tick m (m.advanceReveals tick output).2 :=
    ⟨_, revealRounds_loops hfuel output, closeReveal_state _ _ _⟩
  exact hsettles.det (m.revealed_settles tick)

theorem revealed_revealed (h : early ≤ late) :
    (m.revealed early).revealed late = m.revealed late :=
  Deadlines.catch_up h (m.revealed_settles early) (fun s => ⟨_, s.revealed_settles late⟩)
    ((m.revealed early).revealed_settles late) (m.revealed_settles late)

/-! ## Objectives -/

/-- The kernel after the objective that has ended by `tick` is closed. -/
def objectiveClosed (m : BountyMatchKernel) (tick : SimulationTick) : BountyMatchKernel :=
  (m.closeObjective tick .empty).2

/-- The kernel after one turn of the objective loop. -/
def objectiveTurn (m : BountyMatchKernel) : BountyMatchKernel := (m.openObjective .empty).2

/-- The kernel after its objectives are worked off. -/
def objectived (m : BountyMatchKernel) (tick : SimulationTick) : BountyMatchKernel :=
  (m.advanceObjectives tick .empty).2

def ObjectiveDue (tick : SimulationTick) (m : BountyMatchKernel) : Prop :=
  m.nextObjectiveTick ≤ tick ∧ m.nextObjectiveTick < m.endTick

theorem closeObjective_state (m : BountyMatchKernel) (tick : SimulationTick)
    (output : BountyMatchTickOutput) :
    (m.closeObjective tick output).2 = m.objectiveClosed tick := by
  unfold objectiveClosed closeObjective
  cases m.activeObjective.filter (·.endTick ≤ tick) <;> rfl

theorem objectiveClosed_of_ended {objective : ActiveDynamicObjective}
    (h : m.activeObjective = some objective) (hended : objective.endTick ≤ tick) :
    m.objectiveClosed tick = { m with activeObjective := none } := by
  have hfilter : m.activeObjective.filter (·.endTick ≤ tick) = some objective := by
    rw [h, Option.filter_some, if_pos (decide_eq_true hended)]
  unfold objectiveClosed closeObjective
  rw [hfilter]

theorem objectiveClosed_of_running
    (h : ∀ objective, m.activeObjective = some objective → ¬objective.endTick ≤ tick) :
    m.objectiveClosed tick = m := by
  have hfilter : m.activeObjective.filter (·.endTick ≤ tick) = none := by
    cases hactive : m.activeObjective with
    | none => rfl
    | some objective => rw [Option.filter_some, if_neg (by simpa using h objective hactive)]
  unfold objectiveClosed closeObjective
  rw [hfilter]

/-- Closing forgets the active objective or keeps everything. -/
theorem objectiveClosed_shape (m : BountyMatchKernel) (tick : SimulationTick) :
    m.objectiveClosed tick = m ∨ m.objectiveClosed tick = { m with activeObjective := none } := by
  by_cases h : ∀ objective, m.activeObjective = some objective → ¬objective.endTick ≤ tick
  · exact .inl (objectiveClosed_of_running h)
  · push Not at h
    obtain ⟨objective, hactive, hended⟩ := h
    exact .inr (objectiveClosed_of_ended hactive hended)

theorem objectiveClosed_objectiveClosed (h : early ≤ late) :
    (m.objectiveClosed early).objectiveClosed late = m.objectiveClosed late := by
  by_cases hrunning : ∀ objective, m.activeObjective = some objective → ¬objective.endTick ≤ early
  · rw [objectiveClosed_of_running hrunning]
  · push Not at hrunning
    obtain ⟨objective, hactive, hended⟩ := hrunning
    rw [objectiveClosed_of_ended hactive hended,
      objectiveClosed_of_ended hactive (UInt64.le_trans hended h)]
    exact objectiveClosed_of_running nofun

theorem objectiveDue_mono (h : early ≤ late) (hdue : ObjectiveDue early m) : ObjectiveDue late m :=
  ⟨UInt64.le_trans hdue.1 h, hdue.2⟩

theorem objectiveDue_objectiveClosed :
    ObjectiveDue late (m.objectiveClosed early) ↔ ObjectiveDue late m := by
  obtain hsame | hnone := m.objectiveClosed_shape early
  · rw [hsame]
  · rw [hnone]
    exact .rfl

/-- A window that opens replaces whatever is active. -/
theorem objectiveTurn_objectiveClosed (m : BountyMatchKernel) (tick : SimulationTick) :
    (m.objectiveClosed tick).objectiveTurn = m.objectiveTurn := by
  obtain hsame | hnone := m.objectiveClosed_shape tick
  · rw [hsame]
  · rw [hnone]
    rfl

def objectiveDeadlines : Deadlines SimulationTick BountyMatchKernel where
  due := ObjectiveDue
  turn := objectiveTurn
  close tick m := m.objectiveClosed tick
  due_mono := objectiveDue_mono
  due_close := objectiveDue_objectiveClosed
  close_close := objectiveClosed_objectiveClosed
  turn_close _ _ := objectiveTurn_objectiveClosed _ _

theorem objectiveRounds_loops {fuel : ℕ}
    (hfuel : m.endTick.toNat ≤ m.nextObjectiveTick.toNat + 5400 * fuel)
    (output : BountyMatchTickOutput) :
    Loops (ObjectiveDue tick) objectiveTurn m (objectiveRounds tick fuel m output).2 := by
  induction fuel generalizing m output with
  | zero =>
    refine .stop fun hdue => ?_
    have := UInt64.lt_iff_toNat_lt.mp hdue.2
    omega
  | succ fuel ih =>
    unfold objectiveRounds
    split_ifs with hdue
    · dsimp only
      have hturn : ((m.closeObjective m.nextObjectiveTick output).2.openObjective
          (m.closeObjective m.nextObjectiveTick output).1).2 = m.objectiveTurn := by
        rw [closeObjective_state]
        exact m.objectiveTurn_objectiveClosed _
      have hrest := ih (m := m.objectiveTurn) ?_
        ((m.closeObjective m.nextObjectiveTick output).2.openObjective
          (m.closeObjective m.nextObjectiveTick output).1).1
      · rw [hturn]
        exact .again hdue hrest
      · have hnext : m.objectiveTurn.nextObjectiveTick
            = m.nextObjectiveTick.satAdd OBJECTIVE_CADENCE_TICKS := by
          simp only [objectiveTurn, openObjective]
        have hend : m.objectiveTurn.endTick = m.endTick := by
          simp only [objectiveTurn, openObjective]
        have := m.endTick.toNat_lt
        rw [hend, hnext, UInt64.toNat_satAdd, show OBJECTIVE_CADENCE_TICKS.toNat = 5400 from rfl]
        omega
    · exact .stop hdue

/-- What is reported so far does not matter to the kernel. -/
theorem advanceObjectives_settles (m : BountyMatchKernel) (tick : SimulationTick)
    (output : BountyMatchTickOutput) :
    objectiveDeadlines.Settles tick m (m.advanceObjectives tick output).2 := by
  have hfuel := m.roundsLeft_spec m.nextObjectiveTick OBJECTIVE_CADENCE_TICKS (by decide)
  have hdirect : objectiveDeadlines.Settles tick m _ :=
    ⟨_, objectiveRounds_loops hfuel output, rfl⟩
  -- the source closes once more before the loop
  have hclosed := hdirect.close (UInt64.le_refl tick) fun _ => m.objectiveTurn_objectiveClosed tick
  have hfuel' := (m.objectiveClosed tick).roundsLeft_spec
    (m.objectiveClosed tick).nextObjectiveTick OBJECTIVE_CADENCE_TICKS (by decide)
  have hsource : objectiveDeadlines.Settles tick (m.objectiveClosed tick)
      (m.advanceObjectives tick output).2 := by
    refine ⟨_, objectiveRounds_loops hfuel' (m.closeObjective tick output).1, ?_⟩
    unfold advanceObjectives
    rw [closeObjective_state, closeObjective_state]
    rfl
  rw [hsource.det hclosed]
  exact hdirect

theorem objectived_settles (m : BountyMatchKernel) (tick : SimulationTick) :
    objectiveDeadlines.Settles tick m (m.objectived tick) :=
  m.advanceObjectives_settles tick .empty

theorem advanceObjectives_state (m : BountyMatchKernel) (tick : SimulationTick)
    (output : BountyMatchTickOutput) : (m.advanceObjectives tick output).2 = m.objectived tick :=
  (m.advanceObjectives_settles tick output).det (m.objectived_settles tick)

theorem objectived_objectived (h : early ≤ late) :
    (m.objectived early).objectived late = m.objectived late :=
  Deadlines.catch_up h (m.objectived_settles early) (fun s => ⟨_, s.objectived_settles late⟩)
    ((m.objectived early).objectived_settles late) (m.objectived_settles late)

/-! ## Frames -/

/-- `m` with the clock, the rows and the reveals of `k`. -/
def withReveals (m k : BountyMatchKernel) : BountyMatchKernel :=
  { m with
    currentTick := k.currentTick
    players := k.players
    activeReveal := k.activeReveal
    nextRevealTick := k.nextRevealTick }

def withObjectives (m k : BountyMatchKernel) : BountyMatchKernel :=
  { m with
    activeObjective := k.activeObjective
    nextObjectiveTick := k.nextObjectiveTick
    objectiveSequence := k.objectiveSequence }

/-- `s` differs from `m` in rows and reveal windows only. -/
def SameButReveals (m s : BountyMatchKernel) : Prop :=
  s = m.withReveals s ∧ s.currentTick = m.currentTick

/-- `s` differs from `m` in objective windows only. -/
def SameButObjectives (m s : BountyMatchKernel) : Prop := s = m.withObjectives s

theorem SameButReveals.update {s : BountyMatchKernel} (h : SameButReveals m s)
    (players : ExtTreeMap PlayerId BountyPlayerState) (active : Option MostWantedReveal)
    (next : SimulationTick) :
    SameButReveals m { s with players, activeReveal := active, nextRevealTick := next } := by
  refine ⟨?_, h.2⟩
  rw [h.1]
  rfl

theorem revealed_sameBut (m : BountyMatchKernel) (tick : SimulationTick) :
    SameButReveals m (m.revealed tick) := by
  refine (m.revealed_settles tick).invariant (fun s hs => ?_) (fun s hs => ?_) ⟨rfl, rfl⟩
  · change SameButReveals m s.revealTurn
    obtain ⟨players, active, hturn⟩ := s.revealTurn_shape
    rw [hturn]
    exact hs.update _ _ _
  · change SameButReveals m (s.revealClosed tick)
    obtain ⟨players, active, hclose⟩ := s.revealClosed_shape tick
    rw [hclose]
    exact hs.update _ _ _

theorem SameButObjectives.update {s : BountyMatchKernel} (h : SameButObjectives m s)
    (active : Option ActiveDynamicObjective) (next : SimulationTick) (sequence : UInt64) :
    SameButObjectives m { s with
      activeObjective := active, nextObjectiveTick := next, objectiveSequence := sequence } := by
  unfold SameButObjectives at h ⊢
  rw [h]
  rfl

theorem objectived_sameBut (m : BountyMatchKernel) (tick : SimulationTick) :
    SameButObjectives m (m.objectived tick) := by
  refine (m.objectived_settles tick).invariant (fun s hs => ?_) (fun s hs => ?_) rfl
  · change SameButObjectives m (s.openObjective .empty).2
    unfold openObjective
    exact hs.update _ _ _
  · change SameButObjectives m (s.objectiveClosed tick)
    obtain hsame | hnone := s.objectiveClosed_shape tick
    · rw [hsame]
      exact hs
    · rw [hnone]
      exact hs.update _ _ _

/-- Objectives do not look at rows and reveals. -/
theorem objectived_withReveals (m k : BountyMatchKernel) (tick : SimulationTick) :
    (m.withReveals k).objectived tick = (m.objectived tick).withReveals k := by
  have hclose : ∀ s : BountyMatchKernel,
      (s.withReveals k).objectiveClosed tick = (s.objectiveClosed tick).withReveals k := by
    intro s
    unfold objectiveClosed closeObjective
    rw [show (s.withReveals k).activeObjective = s.activeObjective from rfl]
    cases s.activeObjective.filter (·.endTick ≤ tick) <;> rfl
  have hturn : ∀ s : BountyMatchKernel,
      (s.withReveals k).objectiveTurn = s.objectiveTurn.withReveals k := by
    intro s
    simp only [objectiveTurn, openObjective, withReveals]
  exact (objectived_settles _ tick).det
    ((m.objectived_settles tick).map (·.withReveals k) (fun _ => .rfl) hturn hclose)

theorem award_withObjectives (m k : BountyMatchKernel) (player : PlayerId)
    (category : BountyScoreCategory) (points : UInt16) :
    ((m.withObjectives k).award player category points).2
      = (m.award player category points).2.withObjectives k := by
  unfold award
  rw [show (m.withObjectives k).players = m.players from rfl]
  cases m.players[player]? <;> rfl

theorem revealClosed_withObjectives (m k : BountyMatchKernel) (tick : SimulationTick) :
    (m.withObjectives k).revealClosed tick = (m.revealClosed tick).withObjectives k := by
  unfold revealClosed closeReveal
  rw [show (m.withObjectives k).activeReveal = m.activeReveal from rfl]
  cases m.activeReveal.filter (·.endTick ≤ tick) with
  | none => rfl
  | some reveal =>
    dsimp only
    split_ifs
    · rfl
    · exact award_withObjectives { m with activeReveal := none } k _ _ _

/-- Reveals do not look at objectives. -/
theorem revealed_withObjectives (m k : BountyMatchKernel) (tick : SimulationTick) :
    (m.withObjectives k).revealed tick = (m.revealed tick).withObjectives k := by
  have hturn : ∀ s : BountyMatchKernel,
      (s.withObjectives k).revealTurn = s.revealTurn.withObjectives k := by
    intro s
    unfold revealTurn openReveal
    rw [show (s.withObjectives k).nextRevealTick = s.nextRevealTick from rfl,
      revealClosed_withObjectives]
    generalize s.revealClosed s.nextRevealTick = closed
    rw [show (closed.withObjectives k).winner = closed.winner from rfl]
    cases closed.winner <;> simp only [withObjectives]
  exact (revealed_settles _ tick).det ((m.revealed_settles tick).map (·.withObjectives k)
    (fun _ => .rfl) hturn fun s => s.revealClosed_withObjectives k tick)

/-- Reveals and objectives do not touch each other. -/
theorem objectived_revealed (m : BountyMatchKernel) (early late : SimulationTick) :
    (m.revealed late).objectived early = (m.objectived early).revealed late := by
  have hreveals := (m.revealed_sameBut late).1
  have hobjectives : _ = _ := m.objectived_sameBut early
  calc (m.revealed late).objectived early
      = (m.withReveals (m.revealed late)).objectived early := by rw [← hreveals]
    _ = (m.objectived early).withReveals (m.revealed late) := objectived_withReveals ..
    _ = (m.revealed late).withObjectives (m.objectived early) := by
      rw [hreveals, hobjectives]
      rfl
    _ = (m.withObjectives (m.objectived early)).revealed late := (revealed_withObjectives ..).symm
    _ = (m.objectived early).revealed late := by rw [← hobjectives]

theorem advanceTo_advanceTo (row : BountyPlayerState) (h : early ≤ late) :
    (row.advanceTo early).advanceTo late = row.advanceTo late := by
  have hfilter : ∀ last : Option SimulationTick,
      (last.filter (early < ·)).filter (late < ·) = last.filter (late < ·) := by
    intro last
    cases last with
    | none => rfl
    | some last =>
      by_cases hearly : early < last
      · rw [Option.filter_some, if_pos (decide_eq_true hearly)]
      · have hlate : ¬late < last := fun hlate => hearly (UInt64.lt_of_le_of_lt h hlate)
        rw [Option.filter_some, Option.filter_some, if_neg (by simpa using hearly),
          if_neg (by simpa using hlate), Option.filter_none]
  -- after a respawn the row is alive, and before it the respawn tick stands
  have hrespawn : row.respawnsBy early = true → row.respawnsBy late = true := by
    intro hdue
    obtain ⟨hfallen, due, hsome, hle⟩ := by
      simpa [BountyPlayerState.respawnsBy, Option.any_eq_true] using hdue
    simp [BountyPlayerState.respawnsBy, hfallen, hsome, UInt64.le_trans hle h]
  by_cases hdue : row.respawnsBy early = true
  · have halive : (row.advanceTo early).respawnsBy late = false := by
      unfold BountyPlayerState.advanceTo
      rw [if_pos hdue]
      rfl
    rw [BountyPlayerState.advanceTo, halive]
    unfold BountyPlayerState.advanceTo
    rw [if_pos hdue, if_pos (hrespawn hdue)]
    simp only [Bool.false_eq_true, if_false, hfilter]
  · have hsame : (row.advanceTo early).respawnsBy late = row.respawnsBy late := by
      unfold BountyPlayerState.advanceTo
      rw [if_neg hdue]
      rfl
    rw [BountyPlayerState.advanceTo, hsame]
    unfold BountyPlayerState.advanceTo
    rw [if_neg hdue]
    by_cases hlate : row.respawnsBy late = true
    · simp only [if_pos hlate, BountyPlayerState.respawn, hfilter]
    · simp only [if_neg hlate, hfilter]

/-- Points earned before the clock moves are the points earned after it. -/
theorem advanceTo_add (row : BountyPlayerState) (category : BountyScoreCategory) (points : UInt16)
    (tick : SimulationTick) :
    BountyPlayerState.advanceTo { row with score := row.score.add category points } tick
      = { row.advanceTo tick with score := (row.advanceTo tick).score.add category points } := by
  unfold BountyPlayerState.advanceTo
  have hdue : BountyPlayerState.respawnsBy { row with score := row.score.add category points } tick
      = row.respawnsBy tick := rfl
  rw [hdue]
  split_ifs <;> rfl

theorem advanceTo_frame (row : BountyPlayerState) (tick : SimulationTick) :
    (row.advanceTo tick).playerId = row.playerId
      ∧ (row.advanceTo tick).score = row.score := by
  unfold BountyPlayerState.advanceTo
  split_ifs <;> exact ⟨rfl, rfl⟩

/-- The leader does not depend on the clock. -/
theorem winner_moveClock (m : BountyMatchKernel) (tick : SimulationTick) :
    (m.moveClock tick).winner = m.winner := by
  have hrows : (m.moveClock tick).rows
      = m.rows.map fun row => row.advanceTo (min tick m.endTick) := by
    unfold rows moveClock
    rw [ExtTreeMap.toList_map, List.map_map, List.map_map]
    rfl
  unfold winner
  rw [hrows, maxByScore_map, Option.map_map]
  have hscore : BountyPlayerState.totalScore ∘ (fun row => row.advanceTo (min tick m.endTick))
      = BountyPlayerState.totalScore := funext fun row =>
    congrArg BountyScoreBreakdown.total (advanceTo_frame row _).2
  have hplayer : BountyPlayerState.playerId ∘ (fun row => row.advanceTo (min tick m.endTick))
      = BountyPlayerState.playerId := funext fun row => (advanceTo_frame row _).1
  rw [hscore, hplayer]

theorem award_moveClock (m : BountyMatchKernel) (tick : SimulationTick) (player : PlayerId)
    (category : BountyScoreCategory) (points : UInt16) :
    ((m.moveClock tick).award player category points).2
      = (m.award player category points).2.moveClock tick := by
  unfold award
  have hrow : (m.moveClock tick).players[player]?
      = m.players[player]?.map (·.advanceTo (min tick m.endTick)) :=
    ExtTreeMap.getElem?_map
  rw [hrow]
  cases hfound : m.players[player]? with
  | none => rfl
  | some row =>
    dsimp only [Option.map_some]
    unfold moveClock
    dsimp only
    rw [ExtTreeMap.map_insert, advanceTo_add]

theorem moveClock_moveClock (m : BountyMatchKernel) (h : early ≤ late) :
    (m.moveClock early).moveClock late = m.moveClock late := by
  have hmin : min early m.endTick ≤ min late m.endTick := by
    rw [UInt64.le_iff_toNat_le] at h ⊢
    rw [UInt64.toNat_min, UInt64.toNat_min]
    omega
  unfold moveClock
  dsimp only
  rw [ExtTreeMap.map_map]
  simp only [advanceTo_advanceTo _ hmin]

theorem revealClosed_moveClock (m : BountyMatchKernel) (clock tick : SimulationTick) :
    (m.moveClock clock).revealClosed tick = (m.revealClosed tick).moveClock clock := by
  unfold revealClosed closeReveal
  rw [show (m.moveClock clock).activeReveal = m.activeReveal from rfl]
  cases m.activeReveal.filter (·.endTick ≤ tick) with
  | none => rfl
  | some reveal =>
    dsimp only
    split_ifs
    · rfl
    · exact award_moveClock { m with activeReveal := none } clock _ _ _

/-- The clock of the rows does not change which reveals happen, nor whose they are. -/
theorem revealed_moveClock (m : BountyMatchKernel) (clock tick : SimulationTick) :
    (m.moveClock clock).revealed tick = (m.revealed tick).moveClock clock := by
  have hturn : ∀ s : BountyMatchKernel,
      (s.moveClock clock).revealTurn = s.revealTurn.moveClock clock := by
    intro s
    unfold revealTurn openReveal
    rw [show (s.moveClock clock).nextRevealTick = s.nextRevealTick from rfl,
      revealClosed_moveClock]
    generalize s.revealClosed s.nextRevealTick = closed
    rw [winner_moveClock]
    cases closed.winner <;> simp only [moveClock]
  exact (revealed_settles _ tick).det ((m.revealed_settles tick).map (·.moveClock clock)
    (fun _ => .rfl) hturn fun s => s.revealClosed_moveClock clock tick)

theorem objectived_moveClock (m : BountyMatchKernel) (clock tick : SimulationTick) :
    (m.moveClock clock).objectived tick = (m.objectived tick).moveClock clock := by
  have hframe : _ = _ := m.objectived_sameBut tick
  calc (m.moveClock clock).objectived tick
      = (m.withReveals (m.moveClock clock)).objectived tick := rfl
    _ = (m.objectived tick).withReveals (m.moveClock clock) := objectived_withReveals ..
    _ = (m.objectived tick).moveClock clock := by
      rw [hframe]
      rfl

/-! ## The whole clock -/

/-- The kernel with rows, reveals and objectives at a clock, before the match may end. -/
def settled (m : BountyMatchKernel) (tick : SimulationTick) : BountyMatchKernel :=
  ((m.moveClock tick).revealed (min tick m.endTick)).objectived (min tick m.endTick)

/-- The kernel after the end of the match, when the tick has reached it. -/
def ended (m : BountyMatchKernel) (tick : SimulationTick) : BountyMatchKernel :=
  (m.finish tick .empty).2

theorem finish_state (m : BountyMatchKernel) (tick : SimulationTick)
    (output : BountyMatchTickOutput) : (m.finish tick output).2 = m.ended tick := by
  unfold ended finish
  split_ifs <;> rfl

theorem advanceTick_state (h : m.currentTick < tick) :
    (m.advanceTick tick).2 = (m.settled tick).ended tick := by
  unfold advanceTick
  rw [if_neg (UInt64.not_le.mpr h)]
  dsimp only
  rw [finish_state, advanceObjectives_state, advanceReveals_state]
  rfl

theorem settled_frame (m : BountyMatchKernel) (tick : SimulationTick) :
    (m.settled tick).endTick = m.endTick ∧ (m.settled tick).currentTick = tick := by
  have hreveals := (m.moveClock tick).revealed_sameBut (min tick m.endTick)
  have hobjectives : _ = _ := ((m.moveClock tick).revealed (min tick m.endTick)).objectived_sameBut
    (min tick m.endTick)
  unfold settled
  rw [hobjectives]
  refine ⟨?_, hreveals.2⟩
  change ((m.moveClock tick).revealed (min tick m.endTick)).endTick = m.endTick
  rw [hreveals.1]
  rfl

/-- The end of the match does not move, and clamping to it keeps the order of ticks. -/
theorem min_le_min_endTick (m : BountyMatchKernel) (h : early ≤ late) :
    min early m.endTick ≤ min late m.endTick := by
  rw [UInt64.le_iff_toNat_le] at h ⊢
  rw [UInt64.toNat_min, UInt64.toNat_min]
  omega

theorem settled_settled (m : BountyMatchKernel) (h : early ≤ late) :
    (m.settled early).settled late = m.settled late := by
  have hle := m.min_le_min_endTick h
  have hend := (m.settled_frame early).1
  unfold settled at hend ⊢
  rw [hend, ← objectived_moveClock, ← revealed_moveClock, moveClock_moveClock m h,
    ← objectived_revealed, revealed_revealed hle, objectived_objectived hle]

/-- Where reveals and objectives have nothing left to do, only the rows follow the clock. -/
theorem settled_idle (hreveals : m.revealed (min tick m.endTick) = m)
    (hobjectives : m.objectived (min tick m.endTick) = m) : m.settled tick = m.moveClock tick := by
  unfold settled
  rw [revealed_moveClock, hreveals, objectived_moveClock, hobjectives]

theorem revealed_settled (m : BountyMatchKernel) (tick : SimulationTick) :
    (m.settled tick).revealed (min tick m.endTick) = m.settled tick := by
  unfold settled
  rw [← objectived_revealed, revealed_revealed (UInt64.le_refl _)]

theorem objectived_settled (m : BountyMatchKernel) (tick : SimulationTick) :
    (m.settled tick).objectived (min tick m.endTick) = m.settled tick :=
  objectived_objectived (UInt64.le_refl _)

theorem ended_of_live (h : ¬(tick ≥ m.endTick ∧ !m.finished)) : m.ended tick = m := by
  unfold ended finish
  rw [if_neg h]

theorem ended_of_over (h : tick ≥ m.endTick ∧ !m.finished) :
    m.ended tick = { m with finished := true, activeReveal := none, activeObjective := none } := by
  unfold ended finish
  rw [if_pos h]

/-- Ending the match leaves no window to work off. -/
theorem settled_ended (h : tick ≥ m.endTick ∧ !m.finished) (hreveals : m.revealed late = m)
    (hobjectives : m.objectived late = m) :
    (m.ended tick).revealed late = m.ended tick ∧ (m.ended tick).objectived late = m.ended tick := by
  have hreveal : ¬RevealDue late m := hreveals ▸ (m.revealed_settles late).not_due
  have hobjective : ¬ObjectiveDue late m := hobjectives ▸ (m.objectived_settles late).not_due
  rw [ended_of_over h]
  exact ⟨(revealed_settles _ late).det (.idle hreveal (revealClosed_of_running nofun)),
    (objectived_settles _ late).det (.idle hobjective (objectiveClosed_of_running nofun))⟩

/-- **Catch-up equals stepping.**  Advancing to an earlier tick first leaves the same kernel. -/
theorem advanceTick_advanceTick (m : BountyMatchKernel) (hfirst : m.currentTick < early)
    (hlater : early < late) :
    ((m.advanceTick early).2.advanceTick late).2 = (m.advanceTick late).2 := by
  have hle : early ≤ late := UInt64.le_of_lt hlater
  obtain ⟨hend, hclock⟩ := m.settled_frame early
  have hboth := m.settled_settled hle
  have hreveals := m.revealed_settled early
  have hobjectives := m.objectived_settled early
  rw [advanceTick_state hfirst, advanceTick_state (UInt64.lt_trans hfirst hlater), ← hboth]
  rw [← hend] at hreveals hobjectives
  generalize m.settled early = s at hclock hreveals hobjectives
  by_cases hover : early ≥ s.endTick ∧ !s.finished
  · -- the match ends at `early`: afterwards the clock moves rows only
    have hclamp : min early s.endTick = min late s.endTick := by
      rw [← UInt64.toNat_inj, UInt64.toNat_min, UInt64.toNat_min]
      have := UInt64.le_iff_toNat_le.mp hover.1
      have := UInt64.le_iff_toNat_le.mp hle
      omega
    rw [hclamp] at hreveals hobjectives
    obtain ⟨hreveals', hobjectives'⟩ := settled_ended hover hreveals hobjectives
    have hover' : late ≥ (s.moveClock late).endTick ∧ !(s.moveClock late).finished :=
      ⟨UInt64.le_trans hover.1 hle, hover.2⟩
    rw [settled_idle hreveals hobjectives, ended_of_over hover']
    have hended := ended_of_over hover
    rw [hended] at hreveals' hobjectives' ⊢
    rw [advanceTick_state (by exact hclock ▸ hlater), settled_idle hreveals' hobjectives',
      ended_of_live (by simp [moveClock])]
    rfl
  · rw [ended_of_live hover, advanceTick_state (hclock ▸ hlater)]

theorem advanceTick_currentTick (h : m.currentTick < tick) :
    (m.advanceTick tick).2.currentTick = tick := by
  have hclock := (m.settled_frame tick).2
  rw [advanceTick_state h]
  by_cases hover : tick ≥ (m.settled tick).endTick ∧ !(m.settled tick).finished
  · rw [ended_of_over hover]
    exact hclock
  · rw [ended_of_live hover]
    exact hclock

/-- Advancing through any increasing list of ticks is advancing to the last of them. -/
theorem run_advanceTick (m : BountyMatchKernel) {ticks : List SimulationTick}
    {last : SimulationTick} (h : (m.currentTick :: (ticks ++ [last])).Pairwise (· < ·)) :
    Runs.run step m ((ticks ++ [last]).map .advanceTick) = (m.advanceTick last).2 := by
  induction ticks generalizing m with
  | nil => rfl
  | cons tick ticks ih =>
    obtain ⟨hfirst, hrest⟩ := List.pairwise_cons.mp h
    have hclock := advanceTick_currentTick (hfirst tick List.mem_cons_self)
    have hlast : tick < last := (List.pairwise_cons.mp hrest).1 last (by simp)
    calc Runs.run step m (((tick :: ticks) ++ [last]).map .advanceTick)
        = Runs.run step (m.advanceTick tick).2 ((ticks ++ [last]).map .advanceTick) := rfl
      _ = ((m.advanceTick tick).2.advanceTick last).2 := ih _ (by rw [hclock]; exact hrest)
      _ = (m.advanceTick last).2 :=
        advanceTick_advanceTick m (hfirst tick List.mem_cons_self) hlast

/-- **Catch-up equals stepping.**  One intermediate tick, and any number of them, leave the kernel
that a single jump leaves. -/
theorem catchUp_eq_stepping (m : BountyMatchKernel) :
    (∀ early late, m.currentTick < early → early < late →
      ((m.advanceTick early).2.advanceTick late).2 = (m.advanceTick late).2)
    ∧ ∀ (ticks : List SimulationTick) (last : SimulationTick),
      (m.currentTick :: (ticks ++ [last])).Pairwise (· < ·) →
        Runs.run step m ((ticks ++ [last]).map .advanceTick) = (m.advanceTick last).2 :=
  ⟨fun _ _ => advanceTick_advanceTick m, fun _ _ => run_advanceTick m⟩

theorem new_currentTick {authorityEpoch lobbySeed : UInt64} {startTick : SimulationTick}
    {roster : List PlayerId} (hnew : new authorityEpoch lobbySeed startTick roster = .ok m) :
    m.currentTick = startTick := by
  unfold new at hnew
  dsimp only at hnew
  split_ifs at hnew
  cases hnew
  rfl

/-- A match of two, once through its reveals and objectives to its end and once in a jump. -/
theorem catchUp_eq_stepping_endingRoster : ∃ m, new 1 7 100 endingRoster = .ok m
    ∧ ((m.advanceTick 7300).2.advanceTick 60000).2 = (m.advanceTick 60000).2
    ∧ Runs.run step m ([3700, 5500, 7300, 54100].map .advanceTick)
      = (m.advanceTick 54100).2 := by
  have hok : (new 1 7 100 endingRoster).isOk = true := by decide +kernel
  cases hnew : new 1 7 100 endingRoster with
  | error e =>
    rw [hnew] at hok
    exact nomatch hok
  | ok m =>
    have hclock := new_currentTick hnew
    refine ⟨m, rfl, ?_, ?_⟩
    · exact (catchUp_eq_stepping m).1 7300 60000 (by rw [hclock]; decide) (by decide)
    · exact (catchUp_eq_stepping m).2 [3700, 5500, 7300] 54100 (by rw [hclock]; decide)

end BountyMatchKernel

end Spurfire
