import Spurfire.Protocol.DiveTelemetry

/-!
# The life of a dive

The states of the dive kernel, apart from its rows:

* `Aligned`: the state and the records of the dive in flight agree;
* `SameDrive`: what the bookkeeping of rows leaves alone, and `Steps`: a call goes from state to state
  along the transitions it reports;
* `timers`: the two boundaries of a landing as one function of the tick, and `timers_timers`, by which
  an early look changes nothing;
* `dive_lifecycle` is the result for every sequence of calls.
-/

namespace Spurfire

open Std (ExtTreeMap)

namespace SaddleDiveKernel

/-! ## The states -/

/-- The records that the state calls for, and no other. -/
def Aligned (k : SaddleDiveKernel) : Prop :=
  match k.state with
  | .mounted => k.stateDiveId = none ∧ k.airborne.isNone = true ∧ k.landing.isNone = true
  | .saddleDiveAirborne => k.landing.isNone = true
    ∧ ∃ airborne, k.airborne = some airborne ∧ k.stateDiveId = some airborne.diveId
  | .landingProne | .landingRecovery => k.airborne.isNone = true
    ∧ ∃ landing, k.landing = some landing ∧ k.stateDiveId = some landing.diveId
  | .onFootReady => True

/-- The transitions of the machine. -/
inductive Edge : SaddleDiveState → SaddleDiveState → Prop
  | launch : Edge .mounted .saddleDiveAirborne
  | land : Edge .saddleDiveAirborne .landingProne
  | recover : Edge .landingProne .landingRecovery
  | stand : Edge .landingRecovery .onFootReady
  | remount : Edge .onFootReady .mounted
  | dismount : Edge .mounted .onFootReady

/-- The transitions lead from one state to the other. -/
def Path : SaddleDiveState → List SaddleDiveTransition → SaddleDiveState → Prop
  | s, [], s' => s' = s
  | s, t :: ts, s' => t.source = s ∧ Edge s t.target ∧ Path t.target ts s'

theorem Path.append {s s' s'' : SaddleDiveState} {ts us : List SaddleDiveTransition}
    (h : Path s ts s') (h' : Path s' us s'') : Path s (ts ++ us) s'' := by
  induction ts generalizing s with
  | nil =>
    cases h
    exact h'
  | cons t ts ih => exact ⟨h.1, h.2.1, ih h.2.2⟩

theorem path_single {s s' : SaddleDiveState} (h : Edge s s') (tick : SimulationTick)
    (id : Option DiveId) : Path s [⟨s, s', tick, id⟩] s' := ⟨rfl, h, rfl⟩

/-! ## What the rows do not touch -/

def drive (k : SaddleDiveKernel) : SaddleDiveKernel :=
  { k with
    rows := ∅
    damageObservations := ∅
    observationWatermark := none
    health := .initial }

/-- Only rows, damage and health have changed, and no transition is reported. -/
structure SameDrive (turn turn' : SaddleDiveKernel × SaddleDiveEffects) : Prop where
  drive : turn'.1.drive = turn.1.drive
  transitions : turn'.2.transitions = turn.2.transitions

variable {k k' : SaddleDiveKernel} {e : SaddleDiveEffects}
  {turn turn' : SaddleDiveKernel × SaddleDiveEffects}

namespace SameDrive

theorem refl (turn : SaddleDiveKernel × SaddleDiveEffects) : SameDrive turn turn := ⟨rfl, rfl⟩

theorem trans {turn'' : SaddleDiveKernel × SaddleDiveEffects} (h : SameDrive turn turn')
    (h' : SameDrive turn' turn'') : SameDrive turn turn'' :=
  ⟨h'.drive.trans h.drive, h'.transitions.trans h.transitions⟩

theorem foldl {α : Type} {f : SaddleDiveKernel × SaddleDiveEffects → α →
    SaddleDiveKernel × SaddleDiveEffects} (hf : ∀ turn a, SameDrive turn (f turn a))
    (as : List α) (turn : SaddleDiveKernel × SaddleDiveEffects) :
    SameDrive turn (as.foldl f turn) := by
  induction as generalizing turn with
  | nil => exact refl turn
  | cons a as ih => exact (hf turn a).trans (ih (f turn a))

end SameDrive

theorem transitions_pushUpdate (k : SaddleDiveKernel) (id : DiveId) (e : SaddleDiveEffects) :
    (k.pushUpdate id e).transitions = e.transitions := by
  unfold pushUpdate
  cases k.rows[id]? with
  | none => rfl
  | some record => rfl

theorem sameDrive_maybeFinalize (k : SaddleDiveKernel) (id : DiveId) (e : SaddleDiveEffects) :
    SameDrive (k, e) (k.maybeFinalize id e) := by
  unfold maybeFinalize
  cases k.rows[id]?.filter k.shouldFinalize with
  | none => exact .refl _
  | some record => exact ⟨rfl, rfl⟩

theorem sameDrive_settleRow (f : DiveInstrumentationRow → DiveInstrumentationRow)
    (turn : SaddleDiveKernel × SaddleDiveEffects) (id : DiveId) :
    SameDrive turn (settleRow f turn id) := by
  refine SameDrive.trans ?_ (sameDrive_maybeFinalize _ id _)
  exact ⟨rfl, transitions_pushUpdate _ id _⟩

theorem sameDrive_attributeDamage (observation : DamageObservation)
    (turn : SaddleDiveKernel × SaddleDiveEffects) (id : DiveId) :
    SameDrive turn (attributeDamage observation turn id) := by
  unfold attributeDamage
  split_ifs
  · exact .refl turn
  · exact ⟨rfl, transitions_pushUpdate _ id _⟩

theorem sameDrive_observeDeathInternal (k : SaddleDiveKernel) (tick : SimulationTick)
    (e : SaddleDiveEffects) : SameDrive (k, e) (k.observeDeathInternal tick e) :=
  .foldl (sameDrive_settleRow _) _ _

theorem sameDrive_censorOpenRows (k : SaddleDiveKernel) (reason : DiveCensorReason) :
    SameDrive (k, SaddleDiveEffects.empty) (k.censorOpenRows reason) :=
  .foldl (sameDrive_settleRow _) _ _

theorem sameDrive_resolveElapsedDeathWindows (k : SaddleDiveKernel) (tick : SimulationTick)
    (e : SaddleDiveEffects) : SameDrive (k, e) (k.resolveElapsedDeathWindows tick e) :=
  .foldl (sameDrive_settleRow _) _ _

theorem sameDrive_recordDamageInWindows (k : SaddleDiveKernel) (observation : DamageObservation)
    (e : SaddleDiveEffects) : SameDrive (k, e) (k.recordDamageInWindows observation e) :=
  .foldl (sameDrive_attributeDamage observation) _ _

theorem sameDrive_attributeRetained (id : DiveId) (turn : SaddleDiveKernel × SaddleDiveEffects)
    (observation : DamageObservation) :
    SameDrive turn (attributeRetained id turn observation) := by
  have hrecorded := sameDrive_recordDamageInWindows turn.1 observation turn.2
  unfold attributeRetained
  dsimp only
  split_ifs
  · exact hrecorded.trans ⟨rfl, transitions_pushUpdate _ id _⟩
  · exact hrecorded

theorem sameDrive_attributeRetainedDamage (k : SaddleDiveKernel) (id : DiveId)
    (e : SaddleDiveEffects) : SameDrive (k, e) (k.attributeRetainedDamageForDive id e) :=
  .foldl (sameDrive_attributeRetained id) _ _

theorem sameDrive_applyLandingDamage (k : SaddleDiveKernel) (id : DiveId) (tick : SimulationTick)
    (e : SaddleDiveEffects) : SameDrive (k, e) (k.applyLandingDamage id tick e) := by
  unfold applyLandingDamage
  dsimp only
  split
  · exact ⟨rfl, rfl⟩
  · split_ifs
    · refine SameDrive.trans ?_ (sameDrive_observeDeathInternal _ tick _)
      exact ⟨rfl, rfl⟩
    · exact ⟨rfl, rfl⟩

/-! ## The timers -/

/-- The part of the kernel that the timers of a landing move. -/
structure Phase where
  state : SaddleDiveState
  enterTick : SimulationTick
  diveId : Option DiveId

def phase (k : SaddleDiveKernel) : Phase := ⟨k.state, k.stateEnterTick, k.stateDiveId⟩

def withPhase (k : SaddleDiveKernel) (p : Phase) : SaddleDiveKernel :=
  { k with state := p.state, stateEnterTick := p.enterTick, stateDiveId := p.diveId }

def recoveryEnd (tickRate : UInt32) (start : SimulationTick) : SimulationTick :=
  start.satAdd (durationTicksCeil tickRate 400)

/-- The end of the time on the ground, longer after a bad landing. -/
def proneEnd (tickRate : UInt32) (landing : LandingState) : SimulationTick :=
  landing.landingTick.satAdd ((durationTicksCeil tickRate 400).satAdd
    (if landing.bad then durationTicksCeil tickRate 400 else 0))

/-- The phase of a recovery that began at the tick, as seen at another. -/
def recovering (tickRate : UInt32) (landing : LandingState) (start tick : SimulationTick)
    (diveId : Option DiveId) : Phase × List SaddleDiveTransition :=
  let stop := recoveryEnd tickRate start
  if tick < stop then (⟨.landingRecovery, start, diveId⟩, [])
  else (⟨.onFootReady, stop, some landing.diveId⟩,
    [⟨.landingRecovery, .onFootReady, stop, some landing.diveId⟩])

/-- The phase that the timers have reached at the tick, with the transitions they made. -/
def timers (tickRate : UInt32) (landing : Option LandingState) (tick : SimulationTick)
    (p : Phase) : Phase × List SaddleDiveTransition :=
  match landing with
  | none => (p, [])
  | some landing =>
    match p.state with
    | .landingProne =>
      let stop := proneEnd tickRate landing
      if tick < stop then (p, [])
      else
        let next := recovering tickRate landing stop tick p.diveId
        (next.1, ⟨.landingProne, .landingRecovery, stop, some landing.diveId⟩ :: next.2)
    | .landingRecovery => recovering tickRate landing p.enterTick tick p.diveId
    | _ => (p, [])

/-- The timers have nothing to do outside a landing. -/
theorem recoveryBoundaries_still (tick : SimulationTick) (fuel : ℕ)
    (hprone : k.state ≠ .landingProne) (hrecovery : k.state ≠ .landingRecovery)
    (e : SaddleDiveEffects) : recoveryBoundaries tick fuel (k, e) = (k, e) := by
  cases fuel with
  | zero => rfl
  | succ fuel =>
    unfold recoveryBoundaries
    cases k.landing with
    | none => rfl
    | some landing =>
      cases hstate : k.state with
      | landingProne => exact absurd hstate hprone
      | landingRecovery => exact absurd hstate hrecovery
      | _ => rfl

theorem recoveryBoundaries_recovery {landing : LandingState} (tick : SimulationTick) (fuel : ℕ)
    (hlanding : k.landing = some landing) (hstate : k.state = .landingRecovery)
    (e : SaddleDiveEffects) : recoveryBoundaries tick (fuel + 2) (k, e)
      = (k.withPhase (recovering k.tickRate landing k.stateEnterTick tick k.stateDiveId).1,
        { e with transitions := e.transitions
          ++ (recovering k.tickRate landing k.stateEnterTick tick k.stateDiveId).2 }) := by
  unfold recoveryBoundaries recovering recoveryEnd
  dsimp only
  rw [hlanding, hstate]
  dsimp only
  by_cases htick : tick < UInt64.satAdd k.stateEnterTick (durationTicksCeil k.tickRate 400)
  · rw [if_pos htick, if_pos htick, List.append_nil]
    unfold withPhase
    rw [← hstate]
  · rw [if_neg htick, if_neg htick,
      recoveryBoundaries_still tick _ SaddleDiveState.noConfusion SaddleDiveState.noConfusion,
      ← hlanding]
    rfl

/-- The loop over the boundaries is the timers. -/
theorem advanceRecoveryBoundaries_eq (k : SaddleDiveKernel) (tick : SimulationTick)
    (e : SaddleDiveEffects) : k.advanceRecoveryBoundaries tick e
      = (k.withPhase (timers k.tickRate k.landing tick k.phase).1,
        { e with
          transitions := e.transitions ++ (timers k.tickRate k.landing tick k.phase).2 }) := by
  have hstill : ∀ {turn}, turn = (k, e) →
      turn = (k.withPhase k.phase, { e with transitions := e.transitions ++ [] }) := by
    rintro _ rfl
    rw [List.append_nil]
    rfl
  unfold advanceRecoveryBoundaries timers
  cases hlanding : k.landing with
  | none =>
    refine hstill ?_
    unfold recoveryBoundaries
    rw [hlanding]
  | some landing =>
    dsimp only
    cases hstate : k.state with
    | landingProne =>
      have hphase : k.phase.state = .landingProne := hstate
      rw [hphase]
      dsimp only
      by_cases htick : tick < proneEnd k.tickRate landing
      · rw [if_pos htick]
        refine hstill ?_
        unfold recoveryBoundaries
        rw [hlanding, hstate]
        exact if_pos htick
      · rw [if_neg htick]
        unfold recoveryBoundaries
        rw [hlanding, hstate]
        refine (if_neg htick).trans ?_
        rw [← hlanding]
        refine (recoveryBoundaries_recovery (k := { k with
          state := .landingRecovery, stateEnterTick := proneEnd k.tickRate landing })
          tick 0 hlanding rfl _).trans ?_
        unfold SaddleDiveEffects.transition
        rw [List.append_assoc]
        rfl
    | landingRecovery =>
      have hphase : k.phase.state = .landingRecovery := hstate
      rw [hphase]
      exact recoveryBoundaries_recovery tick 1 hlanding hstate e
    | mounted =>
      have hphase : k.phase.state = .mounted := hstate
      rw [hphase]
      exact hstill (recoveryBoundaries_still tick 3 (hstate.trans_ne SaddleDiveState.noConfusion)
        (hstate.trans_ne SaddleDiveState.noConfusion) e)
    | saddleDiveAirborne =>
      have hphase : k.phase.state = .saddleDiveAirborne := hstate
      rw [hphase]
      exact hstill (recoveryBoundaries_still tick 3 (hstate.trans_ne SaddleDiveState.noConfusion)
        (hstate.trans_ne SaddleDiveState.noConfusion) e)
    | onFootReady =>
      have hphase : k.phase.state = .onFootReady := hstate
      rw [hphase]
      exact hstill (recoveryBoundaries_still tick 3 (hstate.trans_ne SaddleDiveState.noConfusion)
        (hstate.trans_ne SaddleDiveState.noConfusion) e)

section Timers

variable {tickRate : UInt32} {landing : LandingState} {start tick : SimulationTick}
  {diveId : Option DiveId} {p : Phase}

theorem path_recovering : Path .landingRecovery (recovering tickRate landing start tick diveId).2
    (recovering tickRate landing start tick diveId).1.state := by
  unfold recovering
  dsimp only
  split_ifs
  · rfl
  · exact path_single .stand _ _

/-- The timers leave a mounted rider alone. -/
theorem timers_mounted (h : p.state = .mounted) (landing : Option LandingState) :
    timers tickRate landing tick p = (p, []) := by
  unfold timers
  cases landing with
  | none => rfl
  | some landing => rw [h]

/-- The timers go along the transitions they make. -/
theorem path_timers (landing : Option LandingState) :
    Path p.state (timers tickRate landing tick p).2 (timers tickRate landing tick p).1.state := by
  unfold timers
  cases landing with
  | none => rfl
  | some landing =>
    dsimp only
    split
    next hstate =>
      rw [hstate]
      split_ifs
      · exact hstate
      · exact ⟨rfl, .recover, path_recovering⟩
    next hstate =>
      rw [hstate]
      exact path_recovering
    next => rfl

theorem recovering_of_lt (h : tick < recoveryEnd tickRate start) :
    recovering tickRate landing start tick diveId = (⟨.landingRecovery, start, diveId⟩, []) :=
  if_pos h

theorem recovering_of_le (h : recoveryEnd tickRate start ≤ tick) :
    recovering tickRate landing start tick diveId
      = (⟨.onFootReady, recoveryEnd tickRate start, some landing.diveId⟩,
        [⟨.landingRecovery, .onFootReady, recoveryEnd tickRate start, some landing.diveId⟩]) :=
  if_neg (UInt64.not_lt.mpr h)

/-- A recovery that has been looked at before ends as it would have. -/
theorem timers_recovering {early : SimulationTick} (h : early ≤ tick) (landing : LandingState)
    (start : SimulationTick) (diveId : Option DiveId) :
    (timers tickRate (some landing) tick
        (recovering tickRate landing start early diveId).1).1
      = (recovering tickRate landing start tick diveId).1
    ∧ (recovering tickRate landing start early diveId).2
        ++ (timers tickRate (some landing) tick
          (recovering tickRate landing start early diveId).1).2
      = (recovering tickRate landing start tick diveId).2 := by
  by_cases hearly : early < recoveryEnd tickRate start
  · rw [recovering_of_lt hearly]
    exact ⟨rfl, rfl⟩
  · have hstop := UInt64.not_lt.mp hearly
    rw [recovering_of_le hstop, recovering_of_le (UInt64.le_trans hstop h)]
    exact ⟨rfl, rfl⟩

/-- **An early look changes nothing**: the timers at one tick and then at a later one reach the phase
and make the transitions that the timers make at the later tick alone. -/
theorem timers_timers {early : SimulationTick} (h : early ≤ tick) (landing : Option LandingState) :
    (timers tickRate landing tick (timers tickRate landing early p).1).1
      = (timers tickRate landing tick p).1
    ∧ (timers tickRate landing early p).2
        ++ (timers tickRate landing tick (timers tickRate landing early p).1).2
      = (timers tickRate landing tick p).2 := by
  cases landing with
  | none => exact ⟨rfl, rfl⟩
  | some landing =>
    obtain ⟨state, enterTick, diveId⟩ := p
    cases state with
    | landingProne =>
      by_cases hearly : early < proneEnd tickRate landing
      · have hstill : timers tickRate (some landing) early ⟨.landingProne, enterTick, diveId⟩
            = (⟨.landingProne, enterTick, diveId⟩, []) := if_pos hearly
        rw [hstill]
        exact ⟨rfl, rfl⟩
      · have hstop := UInt64.not_lt.mp hearly
        have hpassed : ∀ t, proneEnd tickRate landing ≤ t →
            timers tickRate (some landing) t ⟨.landingProne, enterTick, diveId⟩
              = ((recovering tickRate landing (proneEnd tickRate landing) t diveId).1,
                ⟨.landingProne, .landingRecovery, proneEnd tickRate landing,
                  some landing.diveId⟩
                  :: (recovering tickRate landing (proneEnd tickRate landing) t diveId).2) :=
          fun t ht => if_neg (UInt64.not_lt.mpr ht)
        rw [hpassed early hstop, hpassed tick (UInt64.le_trans hstop h)]
        obtain ⟨hphase, hmade⟩ := timers_recovering h landing (proneEnd tickRate landing) diveId
        exact ⟨hphase, congrArg _ hmade⟩
    | landingRecovery => exact timers_recovering h _ _ _
    | mounted => exact ⟨rfl, rfl⟩
    | saddleDiveAirborne => exact ⟨rfl, rfl⟩
    | onFootReady => exact ⟨rfl, rfl⟩

end Timers

/-! ### Ticks without the button -/

/-- The kernel after a tick without the button, in the phase it has reached. -/
def tickedTo (k : SaddleDiveKernel) (input : SaddleDiveTickInput) (p : Phase) : SaddleDiveKernel :=
  { k.withPhase p with
    currentTick := some input.tick
    motionResolved := false
    riderPosition := input.riderPosition
    previousInteractLevel := false
    mountedHorseGrounded :=
      if p.state = .mounted then input.horseGrounded else k.mountedHorseGrounded }

def ticked (k : SaddleDiveKernel) (input : SaddleDiveTickInput) : SaddleDiveKernel :=
  k.tickedTo input (timers k.tickRate k.landing input.tick k.phase).1

/-- A later tick writes over an earlier one. -/
theorem tickedTo_tickedTo {first second : SaddleDiveTickInput} {p q : Phase}
    (h : p.state = .mounted → q.state = .mounted) :
    (k.tickedTo first p).tickedTo second q = k.tickedTo second q := by
  unfold tickedTo
  dsimp only
  by_cases hq : q.state = .mounted
  · rw [if_pos hq, if_pos hq]
    rfl
  · rw [if_neg hq, if_neg hq, if_neg (mt h hq)]
    rfl

theorem interact_idle (k : SaddleDiveKernel) (input : SaddleDiveTickInput)
    (e : SaddleDiveEffects) : k.interact input false e = (.ok (false, e), { k with
      mountedHorseGrounded :=
        if k.state = .mounted then input.horseGrounded else k.mountedHorseGrounded }) := by
  unfold interact
  cases hstate : k.state with
  | mounted => simp only [Bool.false_eq_true, if_false, if_true]
  | _ =>
    simp only [Bool.false_and, Bool.false_eq_true, if_false, reduceCtorEq]
    rw [← hstate]

theorem beginTick_ticked {input : SaddleDiveTickInput}
    (hidentity : k.validateIdentity input.actor input.authorityEpoch = .ok ())
    (hfresh : k.currentTick.any (input.tick ≤ ·) = false) (hidle : input.interactPressed = false) :
    (k.beginTick input).2 = k.ticked input
      ∧ (emitted ((k.beginTick input).1.map (·.effects))).transitions
        = (timers k.tickRate k.landing input.tick k.phase).2 := by
  have hentered : k.enterTick input = _ := advanceRecoveryBoundaries_eq _ input.tick _
  unfold beginTick
  rw [hidentity]
  dsimp only
  rw [if_neg (Bool.eq_false_iff.mp hfresh), hentered, hidle, Bool.false_and, interact_idle]
  exact ⟨rfl, List.nil_append _⟩

/-- A tick that is looked at early, without the button, ends as it would have. -/
theorem beginTick_beginTick {first second : SaddleDiveTickInput} (hticks : first.tick < second.tick)
    (hfirst : first.interactPressed = false) (hsecond : second.interactPressed = false)
    (hactor : second.actor = k.actor) (hepoch : second.authorityEpoch = k.authorityEpoch) :
    ((k.beginTick first).2.beginTick second).2 = (k.beginTick second).2
      ∧ (emitted ((k.beginTick first).1.map (·.effects))).transitions
        ++ (emitted (((k.beginTick first).2.beginTick second).1.map (·.effects))).transitions
        = (emitted ((k.beginTick second).1.map (·.effects))).transitions := by
  have hidentity : k.validateIdentity second.actor second.authorityEpoch = .ok () := by
    unfold validateIdentity
    rw [if_neg (not_not.mpr hactor), if_neg (not_not.mpr hepoch)]
  cases hvalid : k.validateIdentity first.actor first.authorityEpoch with
  | error error =>
    have hrefused : k.beginTick first = (.error error, k) := by
      unfold beginTick
      rw [hvalid]
    rw [hrefused]
    exact ⟨rfl, rfl⟩
  | ok _ =>
    by_cases hstale : k.currentTick.any (first.tick ≤ ·) = true
    · have hrefused : k.beginTick first = (.error .tickReplay, k) := by
        unfold beginTick
        rw [hvalid]
        exact if_pos hstale
      rw [hrefused]
      exact ⟨rfl, rfl⟩
    · have hfresh := Bool.eq_false_of_not_eq_true hstale
      have hlater : k.currentTick.any (second.tick ≤ ·) = false := by
        cases hcurrent : k.currentTick with
        | none => rfl
        | some current =>
          rw [hcurrent, Option.any_some, decide_eq_false_iff_not] at hfresh
          rw [Option.any_some, decide_eq_false_iff_not]
          exact fun h => hfresh (UInt64.le_trans (UInt64.le_of_lt hticks) h)
      obtain ⟨hone, hemitted⟩ := beginTick_ticked hvalid hfresh hfirst
      obtain ⟨halone, hemitted₂⟩ := beginTick_ticked hidentity hlater hsecond
      have hnext : (k.ticked first).currentTick.any (second.tick ≤ ·) = false :=
        decide_eq_false (UInt64.not_le.mpr hticks)
      obtain ⟨htwo, hemitted₁₂⟩ := beginTick_ticked (k := k.ticked first) hidentity hnext hsecond
      obtain ⟨hphase, hmade⟩ := @timers_timers k.tickRate _ k.phase _ (UInt64.le_of_lt hticks)
        k.landing
      rw [hone, htwo, hemitted, hemitted₁₂, halone, hemitted₂]
      refine ⟨?_, hmade⟩
      refine (tickedTo_tickedTo fun hmounted => ?_).trans (congrArg (k.tickedTo second) hphase)
      exact (congrArg (·.1.state) (timers_mounted hmounted k.landing)).trans hmounted

/-! ## Steps -/

def launches (ts : List SaddleDiveTransition) : List DiveId :=
  ts.filterMap fun t => if t.target = .saddleDiveAirborne then t.diveId else none

/-- The identifiers are taken in order between two values of the next one. -/
structure Issues (next next' : Option DiveId) (ids : List DiveId) : Prop where
  increasing : ids.Pairwise (· < ·)
  above : ∀ id ∈ ids, ∃ n, next = some n ∧ n ≤ id
  below : ∀ id ∈ ids, ∀ n, next' = some n → id < n
  mono : ∀ n', next' = some n' → ∃ n, next = some n ∧ n ≤ n'

theorem Issues.refl (next : Option DiveId) : Issues next next [] :=
  ⟨.nil, nofun, nofun, fun n h => ⟨n, h, le_rfl⟩⟩

theorem Issues.trans {next next' next'' : Option DiveId} {ids ids' : List DiveId}
    (h : Issues next next' ids) (h' : Issues next' next'' ids') :
    Issues next next'' (ids ++ ids') := by
  refine ⟨List.pairwise_append.mpr ⟨h.increasing, h'.increasing, fun a ha b hb => ?_⟩, ?_, ?_, ?_⟩
  · obtain ⟨n, hn, hle⟩ := h'.above b hb
    exact lt_of_lt_of_le (h.below a ha n hn) hle
  · intro id hid
    rcases List.mem_append.mp hid with hid | hid
    · exact h.above id hid
    · obtain ⟨m, hm, hle⟩ := h'.above id hid
      obtain ⟨n, hn, hle'⟩ := h.mono m hm
      exact ⟨n, hn, hle'.trans hle⟩
  · intro id hid n hn
    rcases List.mem_append.mp hid with hid | hid
    · obtain ⟨m, hm, hle⟩ := h'.mono n hn
      exact lt_of_lt_of_le (h.below id hid m hm) hle
    · exact h'.below id hid n hn
  · intro n' hn'
    obtain ⟨m, hm, hle⟩ := h'.mono n' hn'
    obtain ⟨n, hn, hle'⟩ := h.mono m hm
    exact ⟨n, hn, hle'.trans hle⟩

/-- A launch takes the next identifier. -/
theorem Issues.one {id : DiveId} :
    Issues (some id) ((id.value.checkedAdd 1).bind DiveId.new) [id] := by
  refine ⟨List.pairwise_singleton _ _, fun x hx => ?_, fun x hx n hn => ?_, fun n hn => ?_⟩
  · exact ⟨id, rfl, (List.mem_singleton.mp hx).ge⟩
  · exact List.mem_singleton.mp hx ▸ DiveId_next_lt hn
  · exact ⟨id, rfl, (DiveId_next_lt hn).le⟩

/-- The kernel goes along the transitions it adds, stays aligned, and takes identifiers in order. -/
structure Steps (turn turn' : SaddleDiveKernel × SaddleDiveEffects)
    (ts : List SaddleDiveTransition) : Prop where
  transitions : turn'.2.transitions = turn.2.transitions ++ ts
  path : Path turn.1.state ts turn'.1.state
  aligned : turn.1.Aligned → turn'.1.Aligned
  issues : Issues turn.1.nextDiveId turn'.1.nextDiveId (launches ts)

theorem Steps.trans {turn'' : SaddleDiveKernel × SaddleDiveEffects}
    {ts us : List SaddleDiveTransition} (h : Steps turn turn' ts) (h' : Steps turn' turn'' us) :
    Steps turn turn'' (ts ++ us) where
  transitions := by rw [h'.transitions, h.transitions, List.append_assoc]
  path := h.path.append h'.path
  aligned hturn := h'.aligned (h.aligned hturn)
  issues := by
    unfold launches
    rw [List.filterMap_append]
    exact h.issues.trans h'.issues

/-- A change that the states do not see. -/
theorem steps_still (hstate : turn'.1.state = turn.1.state)
    (hid : turn'.1.stateDiveId = turn.1.stateDiveId) (hairborne : turn'.1.airborne = turn.1.airborne)
    (hlanding : turn'.1.landing = turn.1.landing) (hnext : turn'.1.nextDiveId = turn.1.nextDiveId)
    (he : turn'.2.transitions = turn.2.transitions) : Steps turn turn' [] where
  transitions := he.trans (List.append_nil _).symm
  path := hstate
  aligned haligned := by
    unfold Aligned
    rw [hstate, hid, hairborne, hlanding]
    exact haligned
  issues := hnext ▸ Issues.refl _

theorem SameDrive.steps (h : SameDrive turn turn') : Steps turn turn' [] := by
  have hsame : ∀ {α : Type} (f : SaddleDiveKernel → α), f turn'.1.drive = f turn.1.drive :=
    fun f => congrArg f h.drive
  exact steps_still (hsame (·.state)) (hsame (·.stateDiveId)) (hsame (·.airborne))
    (hsame (·.landing)) (hsame (·.nextDiveId)) h.transitions

/-- One transition to a state whose records are set with it. -/
theorem steps_single {s : SaddleDiveState} {tick : SimulationTick} {id : Option DiveId}
    (he : turn'.2.transitions = turn.2.transitions ++ [⟨turn.1.state, s, tick, id⟩])
    (hedge : Edge turn.1.state s) (hstate : turn'.1.state = s) (haligned : turn'.1.Aligned)
    (hnext : turn'.1.nextDiveId = turn.1.nextDiveId) (hs : s ≠ .saddleDiveAirborne) :
    Steps turn turn' [⟨turn.1.state, s, tick, id⟩] where
  transitions := he
  path := hstate ▸ path_single hedge tick id
  aligned _ := haligned
  issues := by
    have hnone : launches [⟨turn.1.state, s, tick, id⟩] = [] := by
      unfold launches
      rw [List.filterMap_cons, if_neg hs, List.filterMap_nil]
    rw [hnone, hnext]
    exact .refl _

theorem steps_ordinaryDismount (hstate : k.state = .mounted) (tick : SimulationTick)
    (e : SaddleDiveEffects) : ∃ ts, Steps (k, e) (k.ordinaryDismount tick e) ts :=
  ⟨_, @steps_single (k, e) _ _ _ _ rfl (hstate ▸ .dismount) rfl trivial rfl nofun⟩

theorem steps_completeRemount (hstate : k.state = .onFootReady) (tick : SimulationTick)
    (horsePosition : QuantizedOrigin) (e : SaddleDiveEffects) :
    ∃ ts, Steps (k, e) (k.completeRemount tick horsePosition e) ts := by
  unfold completeRemount
  dsimp only
  generalize hmounted : ({ k with
    state := .mounted
    stateEnterTick := tick
    stateDiveId := none
    airborne := none
    landing := none } : SaddleDiveKernel) = mounted
  generalize hreported : (e.transition ⟨k.state, .mounted, tick, k.stateDiveId⟩).command
    (.attachRider tick horsePosition) = reported
  have hstep : Steps (k, e) (mounted, reported) [⟨k.state, .mounted, tick, k.stateDiveId⟩] := by
    rw [← hmounted, ← hreported]
    exact @steps_single (k, e) _ _ _ _ rfl (hstate ▸ .remount) rfl ⟨rfl, rfl, rfl⟩ rfl nofun
  cases k.stateDiveId with
  | none => exact ⟨_, hstep⟩
  | some id =>
    refine ⟨_, hstep.trans (SameDrive.steps (SameDrive.trans ?_ (sameDrive_maybeFinalize _ id _)))⟩
    exact ⟨rfl, transitions_pushUpdate _ id _⟩

theorem steps_launchDive {input : SaddleDiveTickInput} {launched : SaddleDiveEffects}
    (hstate : k.state = .mounted) (h : (k.launchDive input e).1 = .ok launched) :
    ∃ ts, Steps (k, e) ((k.launchDive input e).2, launched) ts := by
  unfold launchDive at h ⊢
  cases hnext : k.nextDiveId with
  | none =>
    rw [hnext] at h
    exact nomatch h
  | some id =>
    rw [hnext] at h
    cases h
    refine ⟨[⟨k.state, .saddleDiveAirborne, input.tick, some id⟩], ?_, ?_, fun _ => ?_, ?_⟩
    · exact transitions_pushUpdate _ _ _
    · exact hstate ▸ path_single .launch _ _
    · exact ⟨rfl, _, rfl, rfl⟩
    · have hone : Issues k.nextDiveId ((id.value.checkedAdd 1).bind DiveId.new) [id] :=
        hnext ▸ Issues.one
      exact hone

theorem launchDive_error {input : SaddleDiveTickInput} {error : SaddleDiveError}
    (h : (k.launchDive input e).1 = .error error) : (k.launchDive input e).2 = k := by
  unfold launchDive at h ⊢
  cases hnext : k.nextDiveId with
  | none => rfl
  | some id =>
    rw [hnext] at h
    exact nomatch h

theorem steps_landDive (airborne : AirborneState) (hstate : k.state = .saddleDiveAirborne)
    (observation : RiderMotionObservation) (slope : UInt32) (e : SaddleDiveEffects) :
    ∃ ts, Steps (k, e) (k.landDive airborne observation slope e) ts := by
  unfold landDive
  dsimp only
  generalize hlanded : modifyRow _ airborne.diveId
    (withLanding k.windowTicks airborne.launchTick observation slope _) = landed
  generalize hreported : e.transition _ = reported
  have hstep : Steps (k, e) (landed, reported)
      [⟨k.state, .landingProne, observation.tick, some airborne.diveId⟩] := by
    rw [← hlanded, ← hreported]
    exact @steps_single (k, e) _ _ _ _ rfl (hstate ▸ .land) rfl ⟨rfl, _, rfl, rfl⟩ rfl nofun
  have hattributed := sameDrive_attributeRetainedDamage landed airborne.diveId reported
  generalize landed.attributeRetainedDamageForDive airborne.diveId reported = attributed
    at hattributed ⊢
  have hhurt : SameDrive (landed, reported)
      (if decide (slope > BAD_LANDING_THRESHOLD_MILLIDEGREES) = true then
        attributed.1.applyLandingDamage airborne.diveId observation.tick attributed.2
      else attributed) := by
    split_ifs
    · exact hattributed.trans (sameDrive_applyLandingDamage _ _ _ _)
    · exact hattributed
  refine ⟨_, hstep.trans (SameDrive.steps (hhurt.trans
    (SameDrive.trans ?_ (sameDrive_maybeFinalize _ airborne.diveId _))))⟩
  exact ⟨rfl, transitions_pushUpdate _ _ _⟩

theorem launches_recovering {tickRate : UInt32} {landing : LandingState}
    {start tick : SimulationTick} {diveId : Option DiveId} :
    launches (recovering tickRate landing start tick diveId).2 = [] := by
  unfold recovering
  dsimp only
  split_ifs
  · rfl
  · rfl

theorem launches_timers (tickRate : UInt32) (landing : Option LandingState)
    (tick : SimulationTick) (p : Phase) : launches (timers tickRate landing tick p).2 = [] := by
  unfold timers
  cases landing with
  | none => rfl
  | some landing =>
    dsimp only
    split
    · split_ifs
      · rfl
      · exact launches_recovering
    · exact launches_recovering
    · rfl

theorem aligned_recovering {landing : LandingState} {start tick : SimulationTick}
    (hairborne : k.airborne.isNone = true) (hlanding : k.landing = some landing)
    (hid : k.stateDiveId = some landing.diveId) :
    (k.withPhase (recovering k.tickRate landing start tick k.stateDiveId).1).Aligned := by
  unfold recovering
  dsimp only
  split_ifs
  · exact ⟨hairborne, landing, hlanding, hid⟩
  · trivial

/-- The timers keep the records of the landing. -/
theorem aligned_timers (h : k.Aligned) (tick : SimulationTick) :
    (k.withPhase (timers k.tickRate k.landing tick k.phase).1).Aligned := by
  unfold timers
  cases hlanding : k.landing with
  | none => exact h
  | some landing =>
    dsimp only
    split
    next hstate =>
      unfold Aligned at h
      rw [show k.state = .landingProne from hstate] at h
      obtain ⟨hairborne, own, hown, hid⟩ := h
      cases hlanding.symm.trans hown
      split_ifs
      · unfold Aligned
        rw [show (k.withPhase k.phase).state = .landingProne from hstate]
        exact ⟨hairborne, landing, hlanding, hid⟩
      · exact aligned_recovering hairborne hlanding hid
    next hstate =>
      unfold Aligned at h
      rw [show k.state = .landingRecovery from hstate] at h
      obtain ⟨hairborne, own, hown, hid⟩ := h
      cases hlanding.symm.trans hown
      exact aligned_recovering hairborne hlanding hid
    next => exact h

theorem steps_advance (k : SaddleDiveKernel) (tick : SimulationTick) (e : SaddleDiveEffects) :
    Steps (k, e) (k.advanceRecoveryBoundaries tick e)
      (timers k.tickRate k.landing tick k.phase).2 := by
  rw [advanceRecoveryBoundaries_eq]
  refine ⟨rfl, path_timers (p := k.phase) k.landing, fun h => aligned_timers h tick, ?_⟩
  rw [launches_timers]
  exact .refl k.nextDiveId

/-- What the button does is reported. -/
theorem steps_interact (k : SaddleDiveKernel) (input : SaddleDiveTickInput) (edge : Bool)
    (e : SaddleDiveEffects) : (∃ error, (k.interact input edge e).1 = .error error
        ∧ k.state = .mounted ∧ Steps (k, e) ((k.interact input edge e).2, e) [])
      ∨ ∃ answer, (k.interact input edge e).1 = .ok answer
        ∧ ∃ ts, Steps (k, e) ((k.interact input edge e).2, answer.2) ts := by
  have hground : Steps (k, e) ({ k with mountedHorseGrounded := input.horseGrounded }, e) [] :=
    steps_still rfl rfl rfl rfl rfl rfl
  have hsame : ({ k with mountedHorseGrounded := input.horseGrounded } : SaddleDiveKernel).state
    = k.state := rfl
  unfold interact
  dsimp only
  generalize ({ k with mountedHorseGrounded := input.horseGrounded } : SaddleDiveKernel) = grounded
    at hground hsame ⊢
  cases hstate : k.state with
  | mounted =>
    dsimp only
    have hmounted := hsame.trans hstate
    split_ifs
    · cases hlaunch : (grounded.launchDive input e).1 with
      | error error =>
        rw [launchDive_error hlaunch]
        exact .inl ⟨error, rfl, rfl, hground⟩
      | ok launched =>
        obtain ⟨ts, hts⟩ := steps_launchDive hmounted hlaunch
        exact .inr ⟨_, rfl, _, hground.trans hts⟩
    · obtain ⟨ts, hts⟩ := steps_ordinaryDismount hmounted input.tick e
      exact .inr ⟨_, rfl, _, hground.trans hts⟩
    · exact .inr ⟨_, rfl, _, hground⟩
    · exact .inr ⟨_, rfl, _, hground⟩
  | onFootReady =>
    dsimp only
    split_ifs
    · obtain ⟨ts, hts⟩ := steps_completeRemount hstate input.tick input.horsePosition e
      refine .inr ⟨_, rfl, ts ++ [], hts.trans ?_⟩
      exact steps_still rfl rfl rfl rfl rfl rfl
    · exact .inr ⟨_, rfl, _, steps_still rfl rfl rfl rfl rfl rfl⟩
  | _ => exact .inr ⟨_, rfl, _, steps_still rfl rfl rfl rfl rfl rfl⟩

/-- The timers never mount the rider. -/
theorem mounted_of_timers {tickRate : UInt32} {landing : Option LandingState}
    {tick : SimulationTick} {p : Phase} (h : (timers tickRate landing tick p).1.state = .mounted) :
    p.state = .mounted := by
  have hrecovering : ∀ {landing : LandingState} {start diveId},
      (recovering tickRate landing start tick diveId).1.state ≠ .mounted := by
    intro landing start diveId
    unfold recovering
    dsimp only
    split_ifs
    · exact nofun
    · exact nofun
  unfold timers at h
  cases landing with
  | none => exact h
  | some landing =>
    dsimp only at h
    split at h
    · split_ifs at h
      · exact h
      · exact absurd h hrecovering
    · exact absurd h hrecovering
    · exact h

theorem steps_beginTick (k : SaddleDiveKernel) (input : SaddleDiveTickInput) :
    ∃ ts, Steps (k, SaddleDiveEffects.empty)
      ((k.beginTick input).2, emitted ((k.beginTick input).1.map (·.effects))) ts := by
  unfold beginTick
  cases k.validateIdentity input.actor input.authorityEpoch with
  | error error => exact ⟨_, steps_still rfl rfl rfl rfl rfl rfl⟩
  | ok _ =>
    dsimp only
    split_ifs
    · exact ⟨_, steps_still rfl rfl rfl rfl rfl rfl⟩
    · have hentered : Steps (k, SaddleDiveEffects.empty) (k.enterTick input)
          ([] ++ (timers k.tickRate k.landing input.tick k.phase).2) := by
        refine Steps.trans ?_ (steps_advance _ input.tick _)
        exact steps_still rfl rfl rfl rfl rfl rfl
      have hstate : (k.enterTick input).1.state
          = (timers k.tickRate k.landing input.tick k.phase).1.state := by
        unfold enterTick
        rw [advanceRecoveryBoundaries_eq]
        rfl
      have hpressed : Steps (k, SaddleDiveEffects.empty) ({ (k.enterTick input).1 with
          previousInteractLevel := input.interactPressed }, (k.enterTick input).2)
          (([] ++ (timers k.tickRate k.landing input.tick k.phase).2) ++ []) :=
        hentered.trans (steps_still rfl rfl rfl rfl rfl rfl)
      rcases steps_interact ({ (k.enterTick input).1 with
          previousInteractLevel := input.interactPressed }) input
          (input.interactPressed && !(k.enterTick input).1.previousInteractLevel)
          (k.enterTick input).2 with ⟨error, herror, hmounted, hstep⟩ | ⟨answer, hanswer, ts, hstep⟩
      · -- a failed launch was tried from the saddle, so the timers have made no transition
        have hsaddle := mounted_of_timers (hstate.symm.trans hmounted)
        rw [timers_mounted hsaddle] at hpressed
        have hall := hpressed.trans hstep
        refine ⟨[], ?_, hall.path, hall.aligned, hall.issues⟩
        rw [herror]
        rfl
      · have hall := hpressed.trans hstep
        refine ⟨_, ?_, hall.path, hall.aligned, hall.issues⟩
        rw [hanswer]
        exact hall.transitions

/-! ### Every call -/

theorem steps_resolveMotion (k : SaddleDiveKernel) (observation : RiderMotionObservation) :
    ∃ ts, Steps (k, SaddleDiveEffects.empty)
      ((k.resolveMotion observation).2, emitted (k.resolveMotion observation).1) ts := by
  unfold resolveMotion
  split_ifs
  · exact ⟨_, steps_still rfl rfl rfl rfl rfl rfl⟩
  · exact ⟨_, steps_still rfl rfl rfl rfl rfl rfl⟩
  · dsimp only
    split
    next => exact ⟨_, steps_still rfl rfl rfl rfl rfl rfl⟩
    next airborne hairborne =>
      split_ifs with hstate
      · exact ⟨_, steps_still rfl rfl rfl rfl rfl rfl⟩
      · have hflying := not_not.mp hstate
        split
        next slope _ =>
          obtain ⟨ts, hts⟩ := steps_landDive airborne (k := { k with
            motionResolved := true, riderPosition := observation.riderPosition })
            hflying observation slope SaddleDiveEffects.empty
          refine ⟨[] ++ ts, Steps.trans ?_ hts⟩
          exact steps_still rfl rfl rfl rfl rfl rfl
        next =>
          -- the flight keeps its dive
          refine ⟨[], rfl, rfl, fun haligned => ?_, .refl _⟩
          unfold Aligned at haligned ⊢
          rw [show k.state = .saddleDiveAirborne from hflying] at haligned
          obtain ⟨hlanding, own, hown, hid⟩ := haligned
          cases hairborne.symm.trans hown
          dsimp only
          rw [show k.state = .saddleDiveAirborne from hflying]
          exact ⟨hlanding, _, rfl, hid⟩

theorem sameDrive_recordShotAttempt (k : SaddleDiveKernel) (tick : SimulationTick) :
    SameDrive (k, SaddleDiveEffects.empty) (k.recordShotAttempt tick).swap := by
  unfold recordShotAttempt
  split_ifs
  · exact .refl _
  · split
    next => exact .refl _
    next diveId _ =>
      split
      next => exact .refl _
      next =>
        split_ifs
        · exact .refl _
        · exact ⟨rfl, transitions_pushUpdate _ diveId _⟩

theorem sameDrive_recordAcceptedShot (k : SaddleDiveKernel) (shot : AcceptedShotMetadata) :
    SameDrive (k, SaddleDiveEffects.empty) (k.recordAcceptedShot shot).swap := by
  unfold recordAcceptedShot
  split
  next => exact .refl _
  next diveId _ =>
    split_ifs
    · exact .refl _
    · split
      next => exact .refl _
      next =>
        split_ifs
        · exact .refl _
        · exact ⟨rfl, transitions_pushUpdate _ diveId _⟩

theorem sameDrive_recordAuthorityResult (k : SaddleDiveKernel)
    (attribution : ShotResultAttribution) :
    SameDrive (k, SaddleDiveEffects.empty) (k.recordAuthorityResult attribution).swap := by
  unfold recordAuthorityResult
  split_ifs
  · exact .refl _
  · split
    next => exact .refl _
    next shot _ =>
      dsimp only
      split
      next => exact ⟨rfl, rfl⟩
      next diveId _ =>
        split
        next => exact .refl _
        next =>
          split_ifs
          · exact .refl _
          · refine SameDrive.trans ?_ (sameDrive_maybeFinalize _ diveId _)
            exact ⟨rfl, transitions_pushUpdate _ diveId _⟩

theorem sameDrive_applyExternalDamage (k : SaddleDiveKernel) (observation : DamageObservation) :
    SameDrive (k, SaddleDiveEffects.empty) (k.applyExternalDamage observation).swap := by
  unfold applyExternalDamage
  split_ifs
  · exact .refl _
  · dsimp only
    split
    next => exact ⟨rfl, rfl⟩
    next =>
      generalize hrecorded : recordDamageInWindows { k with
        health := (k.health.applyExternal observation).2
        damageObservations := k.damageObservations.insert observation.id observation.amount }
        observation SaddleDiveEffects.empty = recorded
      have hhurt : SameDrive (k, SaddleDiveEffects.empty) recorded := by
        rw [← hrecorded]
        refine SameDrive.trans ?_ (sameDrive_recordDamageInWindows _ observation _)
        exact ⟨rfl, rfl⟩
      split_ifs
      · exact hhurt.trans (sameDrive_observeDeathInternal recorded.1 observation.id.tick recorded.2)
      · exact hhurt

/-- **A call but a reset goes along the machine**, as it reports. -/
theorem steps_step (k : SaddleDiveKernel) {call : SaddleDiveCall}
    (hcall : ∀ tick, call ≠ .reset tick) :
    ∃ ts, Steps (k, SaddleDiveEffects.empty) (k.step call).swap ts := by
  cases call with
  | setAuthorityEpoch authorityEpoch =>
    refine ⟨[], ?_⟩
    unfold step setAuthorityEpoch
    dsimp only
    split_ifs
    · exact steps_still rfl rfl rfl rfl rfl rfl
    · exact steps_still rfl rfl rfl rfl rfl rfl
  | beginTick input => exact steps_beginTick k input
  | settleObservationsThrough tick =>
    refine ⟨[], ?_⟩
    unfold step settleObservationsThrough
    dsimp only
    split_ifs
    · exact steps_still rfl rfl rfl rfl rfl rfl
    · refine SameDrive.steps (SameDrive.trans ?_ (sameDrive_resolveElapsedDeathWindows _ tick _))
      exact ⟨rfl, rfl⟩
  | resolveMotion observation => exact steps_resolveMotion k observation
  | recordShotAttempt tick => exact ⟨[], (sameDrive_recordShotAttempt k tick).steps⟩
  | recordAcceptedShot shot => exact ⟨[], (sameDrive_recordAcceptedShot k shot).steps⟩
  | recordAuthorityResult attribution =>
    exact ⟨[], (sameDrive_recordAuthorityResult k attribution).steps⟩
  | applyExternalDamage observation =>
    exact ⟨[], (sameDrive_applyExternalDamage k observation).steps⟩
  | observeDeath tick =>
    refine ⟨[], SameDrive.steps (SameDrive.trans ?_ (sameDrive_observeDeathInternal _ tick _))⟩
    exact ⟨rfl, rfl⟩
  | endMatch tick => exact ⟨[], (sameDrive_censorOpenRows k .matchEnded).steps⟩
  | censorNotObserved => exact ⟨[], (sameDrive_censorOpenRows k .notObserved).steps⟩
  | reset tick => exact absurd rfl (hcall tick)

/-! ## Runs -/

/-- Where a call takes the states: along the machine, as it reports, or back to the saddle. -/
def Follows (k : SaddleDiveKernel) : SaddleDiveCall → Prop
  | .reset tick => (k.step (.reset tick)).2.state = .mounted
    ∧ (k.step (.reset tick)).1.transitions
      = if k.state = .mounted then [] else [⟨k.state, .mounted, tick, k.stateDiveId⟩]
  | call => Path k.state (k.step call).1.transitions (k.step call).2.state

/-- An earlier tick without the button is made up for by a later one. -/
def MakesUp (k : SaddleDiveKernel) : Prop :=
  ∀ first second : SaddleDiveTickInput, first.tick < second.tick →
    first.interactPressed = false → second.interactPressed = false →
    second.actor = first.actor → second.authorityEpoch = first.authorityEpoch →
    ((k.step (.beginTick first)).2.step (.beginTick second)).2 = (k.step (.beginTick second)).2
      ∧ (k.step (.beginTick first)).1.transitions
          ++ ((k.step (.beginTick first)).2.step (.beginTick second)).1.transitions
        = (k.step (.beginTick second)).1.transitions

def launchedIds (k : SaddleDiveKernel) (calls : List SaddleDiveCall) : List DiveId :=
  Runs.history step (fun k call => launches (k.step call).1.transitions) k calls

theorem follows_step (k : SaddleDiveKernel) (call : SaddleDiveCall) : k.Follows call := by
  have hother : (∀ tick, call ≠ .reset tick) →
      Path k.state (k.step call).1.transitions (k.step call).2.state := by
    intro hcall
    obtain ⟨ts, hts⟩ := steps_step k hcall
    have hreported : (k.step call).1.transitions = ts := hts.transitions
    rw [hreported]
    exact hts.path
  cases call with
  | reset tick =>
    refine ⟨rfl, ?_⟩
    have hcensored : (k.censorOpenRows .reset).2.transitions = [] :=
      (sameDrive_censorOpenRows k .reset).transitions
    unfold step reset
    dsimp only
    split_ifs
    · exact hcensored
    · exact congrArg (· ++ [⟨k.state, .mounted, tick, k.stateDiveId⟩]) hcensored
  | _ => exact hother nofun

theorem makesUp (k : SaddleDiveKernel) : k.MakesUp := by
  intro first second hticks hfirst hsecond hactor hepoch
  by_cases hvalid : second.actor = k.actor ∧ second.authorityEpoch = k.authorityEpoch
  · exact beginTick_beginTick hticks hfirst hsecond hvalid.1 hvalid.2
  · -- both ticks are refused
    have hrefused : ∀ input : SaddleDiveTickInput, input.actor = first.actor →
        input.authorityEpoch = first.authorityEpoch →
        k.step (.beginTick input) = (SaddleDiveEffects.empty, k) := by
      intro input hinput hinputEpoch
      have herror : ∃ error, k.validateIdentity input.actor input.authorityEpoch
          = .error error := by
        unfold validateIdentity
        rw [hinput, hinputEpoch, ← hactor, ← hepoch]
        by_cases hsame : second.actor = k.actor
        · rw [if_neg (not_not.mpr hsame), if_pos fun h => hvalid ⟨hsame, h⟩]
          exact ⟨_, rfl⟩
        · rw [if_pos hsame]
          exact ⟨_, rfl⟩
      obtain ⟨error, herror⟩ := herror
      unfold step beginTick
      dsimp only
      rw [herror]
      rfl
    rw [hrefused first rfl rfl, hrefused second hactor hepoch]
    exact ⟨rfl, rfl⟩

theorem aligned_step (k : SaddleDiveKernel) (call : SaddleDiveCall) (h : k.Aligned) :
    (k.step call).2.Aligned := by
  by_cases hcall : ∀ tick, call ≠ .reset tick
  · obtain ⟨ts, hts⟩ := steps_step k hcall
    exact hts.aligned h
  · obtain ⟨tick, htick⟩ := not_forall.mp hcall
    cases not_not.mp htick
    exact ⟨rfl, rfl, rfl⟩

theorem issues_step (k : SaddleDiveKernel) (call : SaddleDiveCall) :
    Issues k.nextDiveId (k.step call).2.nextDiveId (launches (k.step call).1.transitions) := by
  by_cases hcall : ∀ tick, call ≠ .reset tick
  · obtain ⟨ts, hts⟩ := steps_step k hcall
    have hreported : (k.step call).1.transitions = ts := hts.transitions
    rw [hreported]
    exact hts.issues
  · obtain ⟨tick, htick⟩ := not_forall.mp hcall
    cases not_not.mp htick
    have hnone : launches (k.step (.reset tick)).1.transitions = [] := by
      rw [(follows_step k (.reset tick)).2]
      split_ifs
      · rfl
      · rfl
    have hnext : (k.step (.reset tick)).2.nextDiveId = k.nextDiveId :=
      congrArg (·.nextDiveId) (sameDrive_censorOpenRows k .reset).drive
    rw [hnone, hnext]
    exact .refl k.nextDiveId

theorem aligned_new {tickRate : UInt32} {actor : PlayerId} {authorityEpoch : UInt64}
    (h : new tickRate actor authorityEpoch = .ok k) : k.Aligned := by
  unfold new at h
  split_ifs at h
  cases h
  exact ⟨rfl, rfl, rfl⟩

/-- **The life of a dive.**  After every sequence of calls the state and the records of the dive
agree, the next call goes along the machine as it reports, the dives launched so far have increasing
identifiers, and early ticks are made up for. -/
theorem dive_lifecycle (tickRate : UInt32) (actor : PlayerId) (authorityEpoch : UInt64)
    (k : SaddleDiveKernel) (hk : new tickRate actor authorityEpoch = .ok k)
    (calls : List SaddleDiveCall) :
    (Runs.run step k calls).Aligned
      ∧ (∀ call, (Runs.run step k calls).Follows call)
      ∧ (k.launchedIds calls).Pairwise (· < ·)
      ∧ (Runs.run step k calls).MakesUp := by
  have haligned : (Runs.run step k calls).Aligned :=
    Runs.run_invariant (P := Aligned) (fun k call h => aligned_step k call h) (aligned_new hk) calls
  have hissues : Issues k.nextDiveId (Runs.run step k calls).nextDiveId
      ([] ++ k.launchedIds calls) :=
    Runs.run_history (P := fun k' ids => Issues k.nextDiveId k'.nextDiveId ids)
      (fun k ids call _ h => h.trans (issues_step k call)) (.refl k.nextDiveId)
      (Runs.along_true k calls)
  exact ⟨haligned, follows_step _, hissues.increasing, makesUp _⟩

/-- The rider dives, lands, gets up, mounts again, and dives a second time. -/
def remountedCalls : List SaddleDiveCall :=
  [.beginTick (divingInput 1), .beginTick (divingInput 2), .resolveMotion (fallingObservation 2),
    .beginTick { divingInput 300 with interactPressed := false }, .beginTick (divingInput 301),
    .beginTick { divingInput 302 with interactPressed := false }, .beginTick (divingInput 303)]

theorem dive_lifecycle_remounted :
    ∃ k, new 60 (.ofTail 1) 7 = .ok k
      ∧ (k.launchedIds remountedCalls).map (·.value) = [1, 2]
      ∧ (Runs.run step k remountedCalls).Aligned
      ∧ (∀ call, (Runs.run step k remountedCalls).Follows call)
      ∧ (k.launchedIds remountedCalls).Pairwise (· < ·)
      ∧ (Runs.run step k remountedCalls).MakesUp :=
  ⟨_, rfl, by decide +kernel, dive_lifecycle 60 _ 7 _ rfl remountedCalls⟩

end SaddleDiveKernel

end Spurfire
