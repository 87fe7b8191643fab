import Mathlib.Algebra.GroupWithZero.Nat
import Spurfire.Lib.Runs
import Spurfire.Protocol.Horse

/-!
# Recall

The recall economy, the phases of a return and the mount window (`m3.rs`).

* `RecallKernel.loseHorse`, `applyCredit`, `advanceTick`, `requestRecall`, `requestRecallInstant`,
  `tryMount`: the operations;
* `advancePhases`: the loop over phase boundaries, with `advancePhases_absorb`;
* `RecallKernel.Earned`: the invariant that ties the reduction to the accepted credits;
* **`clock_only`**: a horse and its recall depend on the clock alone;
* **`recall_economy`**: the reduction is that of the credits in one batch.
-/

namespace Spurfire

def BASE_RECALL_TICKS : UInt64 := 20 * 60
def MIN_RECALL_TICKS : UInt64 := 8 * 60
def RUNNING_MOUNT_RANGE_MM : ℕ := 4000
def STATIONARY_REMOUNT_RANGE_MM : ℕ := 3000
def RUNNING_MOUNT_WINDOW_TICKS : UInt64 := 3 * 60 / 2
def HOOFBEAT_TICKS : UInt64 := 2 * 60
def DUST_REVEAL_TICKS : UInt64 := 3 * 60 / 2
def GALLOP_IN_TICKS : UInt64 := 3 * 60

inductive RecallCreditKind
  | damageDealt (damage : UInt16)
  | objectiveTick
deriving DecidableEq

structure RecallCreditCommand where
  id : AuthorityReceiptId
  kind : RecallCreditKind
deriving DecidableEq

structure RecallTickOutput where
  state : RecallState
  readyTick : Option SimulationTick
  cooldownRemainingTicks : UInt64
  mountWindowOpened : Bool
deriving DecidableEq

/-! ## Phases -/

namespace RecallState

/-- The length of a phase of the return, and the phase after it. -/
def transition : RecallState → Option (UInt64 × RecallState)
  | hoofbeats => some (HOOFBEAT_TICKS, dustReveal)
  | dustReveal => some (DUST_REVEAL_TICKS, gallopIn)
  | gallopIn => some (GALLOP_IN_TICKS.satSub RUNNING_MOUNT_WINDOW_TICKS, mountWindow)
  | mountWindow => some (RUNNING_MOUNT_WINDOW_TICKS, waitingMount)
  | horsePresent | coolingDown | ready | waitingMount => none

/-- The phases that are still to come. -/
def phasesLeft : RecallState → ℕ
  | hoofbeats => 4
  | dustReveal => 3
  | gallopIn => 2
  | mountWindow => 1
  | horsePresent | coolingDown | ready | waitingMount => 0

theorem phasesLeft_of_transition {state next : RecallState} {duration : UInt64}
    (h : state.transition = some (duration, next)) : state.phasesLeft = next.phasesLeft + 1 := by
  cases state <;> cases h <;> rfl

theorem transition_of_phasesLeft {state : RecallState} (h : state.phasesLeft = 0) :
    state.transition = none := by
  cases state <;> first | rfl | cases h

end RecallState

/-- A phase, the tick it was entered at, and whether the mount window has opened. -/
structure RecallPhase where
  state : RecallState
  entered : Option SimulationTick
  mountWindowOpened : Bool
deriving DecidableEq

/-- One round of the loop over phase boundaries; `none` where it breaks off. -/
def RecallPhase.next (p : RecallPhase) (tick : SimulationTick) : Option RecallPhase :=
  p.entered.bind fun entered => p.state.transition.bind fun (duration, next) =>
    if tick < entered.satAdd duration then none
    else some ⟨next, some (entered.satAdd duration), p.mountWindowOpened || next == .mountWindow⟩

/-- The loop, for at most as many rounds as there are phases left. -/
def RecallPhase.advancePhases (tick : SimulationTick) : ℕ → RecallPhase → RecallPhase
  | 0, p => p
  | rounds + 1, p =>
    match p.next tick with
    | none => p
    | some p' => advancePhases tick rounds p'

namespace RecallPhase

theorem phasesLeft_of_next {p p' : RecallPhase} {tick : SimulationTick} (h : p.next tick = some p') :
    p.state.phasesLeft = p'.state.phasesLeft + 1 := by
  unfold next at h
  obtain ⟨entered, -, h⟩ := Option.bind_eq_some_iff.mp h
  obtain ⟨⟨duration, next⟩, htransition, h⟩ := Option.bind_eq_some_iff.mp h
  dsimp only at h
  split_ifs at h
  obtain rfl := Option.some.inj h
  exact RecallState.phasesLeft_of_transition htransition

theorem next_of_phasesLeft {p : RecallPhase} (tick : SimulationTick) (h : p.state.phasesLeft = 0) :
    p.next tick = none := by
  unfold next
  rw [RecallState.transition_of_phasesLeft h]
  cases p.entered <;> rfl

theorem advancePhases_of_none {tick : SimulationTick} {p : RecallPhase} (h : p.next tick = none)
    (rounds : ℕ) : advancePhases tick rounds p = p := by
  cases rounds with
  | zero => rfl
  | succ rounds =>
    rw [advancePhases]
    simp only [h]

theorem advancePhases_of_some {tick : SimulationTick} {p p' : RecallPhase}
    (h : p.next tick = some p') (rounds : ℕ) :
    advancePhases tick (rounds + 1) p = advancePhases tick rounds p' := by
  rw [advancePhases]
  simp only [h]

/-- The loop ends because it breaks off, not because its rounds run out. -/
theorem next_advancePhases {tick : SimulationTick} {rounds : ℕ} {p : RecallPhase}
    (h : p.state.phasesLeft ≤ rounds) : (advancePhases tick rounds p).next tick = none := by
  induction rounds generalizing p with
  | zero => exact next_of_phasesLeft tick (Nat.le_zero.mp h)
  | succ rounds ih =>
    cases hnext : p.next tick with
    | none => rwa [advancePhases_of_none hnext]
    | some p' =>
      have hleft := phasesLeft_of_next hnext
      rw [advancePhases_of_some hnext]
      exact ih (by omega)

/-- More rounds change nothing. -/
theorem advancePhases_succ {tick : SimulationTick} {rounds : ℕ} {p : RecallPhase}
    (h : p.state.phasesLeft ≤ rounds) :
    advancePhases tick (rounds + 1) p = advancePhases tick rounds p := by
  induction rounds generalizing p with
  | zero => rw [advancePhases_of_none (next_of_phasesLeft tick (Nat.le_zero.mp h)), advancePhases]
  | succ rounds ih =>
    cases hnext : p.next tick with
    | none => rw [advancePhases_of_none hnext, advancePhases_of_none hnext]
    | some p' =>
      have hleft := phasesLeft_of_next hnext
      rw [advancePhases_of_some hnext, advancePhases_of_some hnext]
      exact ih (by omega)

theorem advancePhases_of_le {tick : SimulationTick} {rounds : ℕ} {p : RecallPhase}
    (h : p.state.phasesLeft ≤ rounds) :
    advancePhases tick rounds p = advancePhases tick p.state.phasesLeft p := by
  induction rounds with
  | zero => rw [Nat.le_zero.mp h]
  | succ rounds ih =>
    by_cases hmore : p.state.phasesLeft ≤ rounds
    · rw [advancePhases_succ hmore, ih hmore]
    · rw [show p.state.phasesLeft = rounds + 1 by omega]

theorem phasesLeft_advancePhases (tick : SimulationTick) (rounds : ℕ) (p : RecallPhase) :
    (advancePhases tick rounds p).state.phasesLeft ≤ p.state.phasesLeft := by
  induction rounds generalizing p with
  | zero => exact Nat.le_refl _
  | succ rounds ih =>
    cases hnext : p.next tick with
    | none => rw [advancePhases_of_none hnext]
    | some p' =>
      have hleft := phasesLeft_of_next hnext
      have hrest := ih p'
      rw [advancePhases_of_some hnext]
      omega

/-- A boundary that is passed at a tick is passed at every later one. -/
theorem next_of_le {p p' : RecallPhase} {t₁ t₂ : SimulationTick} (hle : t₁ ≤ t₂)
    (h : p.next t₁ = some p') : p.next t₂ = some p' := by
  unfold next at *
  obtain ⟨entered, hentered, h⟩ := Option.bind_eq_some_iff.mp h
  obtain ⟨⟨duration, next⟩, htransition, h⟩ := Option.bind_eq_some_iff.mp h
  dsimp only at h
  split_ifs at h with hearly
  rw [hentered, htransition]
  simp only [Option.bind_some]
  rw [if_neg fun hlate => hearly (UInt64.lt_of_le_of_lt hle hlate)]
  exact h

/-- **The loop at a later tick absorbs the loop at an earlier one.** -/
theorem advancePhases_absorb {t₁ t₂ : SimulationTick} (hle : t₁ ≤ t₂) {rounds : ℕ} (earlier : ℕ)
    {p : RecallPhase} (h : p.state.phasesLeft ≤ rounds) :
    advancePhases t₂ rounds (advancePhases t₁ earlier p) = advancePhases t₂ rounds p := by
  induction earlier generalizing p with
  | zero => rfl
  | succ earlier ih =>
    cases hnext : p.next t₁ with
    | none => rw [advancePhases_of_none hnext]
    | some p' =>
      have hleft := phasesLeft_of_next hnext
      obtain ⟨rest, rfl⟩ : ∃ rest, rounds = rest + 1 := ⟨rounds - 1, by omega⟩
      rw [advancePhases_of_some hnext, ih (by omega), advancePhases_succ (by omega),
        advancePhases_of_some (next_of_le hle hnext)]

/-- The phase without the flag of the mount window, which the loop never reads. -/
def cleared (p : RecallPhase) : RecallPhase := { p with mountWindowOpened := false }

theorem next_cleared (p : RecallPhase) (tick : SimulationTick) :
    (p.cleared.next tick).map cleared = (p.next tick).map cleared := by
  unfold next cleared
  dsimp only
  cases p.entered with
  | none => rfl
  | some entered =>
    cases p.state.transition with
    | none => rfl
    | some after =>
      obtain ⟨duration, next⟩ := after
      simp only [Option.bind_some]
      split_ifs <;> rfl

theorem cleared_advancePhases (tick : SimulationTick) (rounds : ℕ) {p q : RecallPhase}
    (h : p.cleared = q.cleared) :
    (advancePhases tick rounds p).cleared = (advancePhases tick rounds q).cleared := by
  induction rounds generalizing p q with
  | zero => exact h
  | succ rounds ih =>
    have hnext : (p.next tick).map cleared = (q.next tick).map cleared := by
      rw [← next_cleared p, ← next_cleared q, h]
    cases hp : p.next tick with
    | none =>
      cases hq : q.next tick with
      | none => rwa [advancePhases_of_none hp, advancePhases_of_none hq]
      | some q' => simp [hp, hq] at hnext
    | some p' =>
      cases hq : q.next tick with
      | none => simp [hp, hq] at hnext
      | some q' =>
        rw [hp, hq, Option.map_some, Option.map_some, Option.some.injEq] at hnext
        rw [advancePhases_of_some hp, advancePhases_of_some hq]
        exact ih hnext

/-- The loop never returns to the cooldown. -/
theorem advancePhases_ne_coolingDown (tick : SimulationTick) (rounds : ℕ) {p : RecallPhase}
    (h : p.state ≠ .coolingDown) : (advancePhases tick rounds p).state ≠ .coolingDown := by
  induction rounds generalizing p with
  | zero => exact h
  | succ rounds ih =>
    cases hnext : p.next tick with
    | none => rwa [advancePhases_of_none hnext]
    | some p' =>
      rw [advancePhases_of_some hnext]
      apply ih
      intro hcooling
      have hleft := phasesLeft_of_next hnext
      unfold next at hnext
      obtain ⟨entered, -, hnext⟩ := Option.bind_eq_some_iff.mp hnext
      obtain ⟨⟨duration, after⟩, htransition, hnext⟩ := Option.bind_eq_some_iff.mp hnext
      dsimp only at hnext
      split_ifs at hnext
      obtain rfl := Option.some.inj hnext
      cases hstate : p.state <;> rw [hstate] at htransition <;> cases htransition <;> cases hcooling

end RecallPhase

/-! ## The kernel -/

namespace RecallKernel

protected def default : RecallKernel where
  state := .horsePresent
  currentTick := none
  horseLossTick := none
  lostTick := none
  phaseEnterTick := none
  earnedReductionTicks := 0
  damageRemainder := 0
  lastCreditId := none
  telemetry := none

/-- Starts recall timing when the spooked horse completes its bolt. -/
def loseHorse (k : RecallKernel) (despawnTick horseLossTick : SimulationTick) :
    Except M3Error Unit × RecallKernel :=
  if k.state ≠ .horsePresent ∨ horseLossTick > despawnTick then (.error .invalidState, k)
  else
    (.ok (), {
      state := .coolingDown
      currentTick := some despawnTick
      horseLossTick := some horseLossTick
      lostTick := some despawnTick
      phaseEnterTick := some despawnTick
      earnedReductionTicks := 0
      damageRemainder := 0
      lastCreditId := none
      telemetry := some ⟨horseLossTick, none, none, false⟩ })

/-- A credit out of phase, replayed, from before the loss, or from the future. -/
def RefusesCredit (k : RecallKernel) (id : AuthorityReceiptId) : Prop :=
  ¬(k.state = .coolingDown ∨ k.state = .ready)
    ∨ (k.lastCreditId.any fun last => ¬last.precedes id)
    ∨ (k.lostTick.all fun lost => id.tick < lost)
    ∨ (k.currentTick.all fun current => id.tick > current)

instance (k : RecallKernel) (id : AuthorityReceiptId) : Decidable (k.RefusesCredit id) :=
  inferInstanceAs (Decidable (_ ∨ _))

/-- The reduction after another `ticks`, under the cap. -/
def reducedBy (k : RecallKernel) (ticks : UInt64) : UInt64 :=
  min (k.earnedReductionTicks.satAdd ticks) (BASE_RECALL_TICKS - MIN_RECALL_TICKS)

/-- Applies one strictly newer credit: a second for each complete 25 damage, two for an objective. -/
def applyCredit (k : RecallKernel) (command : RecallCreditCommand) : Bool × RecallKernel :=
  if k.RefusesCredit command.id then (false, k)
  else
    match command.kind with
    | .damageDealt damage =>
      let total := k.damageRemainder.satAdd damage.toUInt32
      (true, { k with
        lastCreditId := some command.id
        damageRemainder := total % 25
        earnedReductionTicks := k.reducedBy ((total / 25).toUInt64 * M3_TICK_RATE_HZ.toUInt64) })
    | .objectiveTick =>
      (true, { k with
        lastCreditId := some command.id
        earnedReductionTicks := k.reducedBy (2 * M3_TICK_RATE_HZ.toUInt64) })

/-- Earliest recall request after reductions and the hard floor. -/
def readyTick (k : RecallKernel) : Option SimulationTick :=
  k.lostTick.map fun lost =>
    lost.satAdd (max (BASE_RECALL_TICKS.satSub k.earnedReductionTicks) MIN_RECALL_TICKS)

/-- The phase at `tick` before the loop: a cooldown that is over is ready. -/
def phaseAt (k : RecallKernel) (tick : SimulationTick) : RecallPhase :=
  if k.state = .coolingDown ∧ k.readyTick.any fun ready => tick ≥ ready then
    ⟨.ready, k.readyTick, false⟩
  else ⟨k.state, k.phaseEnterTick, false⟩

def phaseAfter (k : RecallKernel) (tick : SimulationTick) : RecallPhase :=
  (k.phaseAt tick).advancePhases tick (k.phaseAt tick).state.phasesLeft

/-- Advances the phases by the absolute shared tick. -/
def advanceTick (k : RecallKernel) (tick : SimulationTick) :
    Except M3Error RecallTickOutput × RecallKernel :=
  if k.currentTick.any fun current => tick ≤ current then (.error .tickReplay, k)
  else
    let p := k.phaseAfter tick
    let k' := { k with currentTick := some tick, state := p.state, phaseEnterTick := p.entered }
    (.ok {
      state := k'.state
      readyTick := k'.readyTick
      cooldownRemainingTicks := if k'.state = .coolingDown then
        (k'.readyTick.bind fun ready => UInt64.checkedSub ready tick).getD 0 else 0
      mountWindowOpened := p.mountWindowOpened }, k')

/-- Starts the return after the recall delay. -/
def requestRecall (k : RecallKernel) (tick : SimulationTick) : Bool × RecallKernel :=
  if k.state ≠ .ready ∨ k.currentTick ≠ some tick then (false, k)
  else (true, { k with state := .hoofbeats, phaseEnterTick := some tick })

/-- Starts the return at once, for a full Spur meter. -/
def requestRecallInstant (k : RecallKernel) (tick : SimulationTick) : Bool × RecallKernel :=
  if ¬(k.state = .coolingDown ∨ k.state = .ready) ∨ k.currentTick ≠ some tick then (false, k)
  else (true, { k with state := .hoofbeats, phaseEnterTick := some tick })

def mountRange (k : RecallKernel) (horseMoving : Bool) : Option (ℕ × Bool) :=
  match k.state, horseMoving with
  | .mountWindow, true => some (RUNNING_MOUNT_RANGE_MM, true)
  | .waitingMount, false => some (STATIONARY_REMOUNT_RANGE_MM, false)
  | _, _ => none

/-- Checks range and window, and records one successful mount. -/
def tryMount (k : RecallKernel) (tick : SimulationTick) (riderPosition horsePosition : QuantizedOrigin)
    (horseMoving : Bool) : Bool × RecallKernel :=
  if k.currentTick ≠ some tick then (false, k)
  else
    match k.mountRange horseMoving with
    | none => (false, k)
    | some (rangeMm, runningMount) =>
      if riderPosition.squaredDistanceMm horsePosition > rangeMm ^ 2 then (false, k)
      else
        match k.telemetry with
        | none => (false, k)
        | some row =>
          (true, { k with
            telemetry := some { row with
              remountTick := some tick
              loseHorseToRemountTicks := UInt64.checkedSub tick row.horseLostTick
              runningMount }
            state := .horsePresent
            phaseEnterTick := some tick })

/-- A mount is refused and changes nothing, or the horse is present again. -/
theorem tryMount_cases (k : RecallKernel) (tick : SimulationTick)
    (riderPosition horsePosition : QuantizedOrigin) (horseMoving : Bool) :
    k.tryMount tick riderPosition horsePosition horseMoving = (false, k)
      ∨ ∃ k', k.tryMount tick riderPosition horsePosition horseMoving = (true, k')
        ∧ k'.state = .horsePresent ∧ k'.currentTick = k.currentTick
        ∧ k'.lostTick = k.lostTick ∧ k'.earnedReductionTicks = k.earnedReductionTicks
        ∧ k'.damageRemainder = k.damageRemainder ∧ k'.lastCreditId = k.lastCreditId := by
  unfold tryMount
  by_cases hclock : k.currentTick ≠ some tick
  · rw [if_pos hclock]
    exact Or.inl rfl
  · rw [if_neg hclock]
    cases k.mountRange horseMoving with
    | none => exact Or.inl rfl
    | some range =>
      dsimp only
      by_cases hfar : riderPosition.squaredDistanceMm horsePosition > range.1 ^ 2
      · rw [if_pos hfar]
        exact Or.inl rfl
      · rw [if_neg hfar]
        cases htelemetry : k.telemetry with
        | none => exact Or.inl rfl
        | some row => exact Or.inr ⟨_, rfl, rfl, rfl, rfl, rfl, rfl, rfl⟩

/-- The rows of a kernel without, and with, a horse to come back. -/
def telemetryIsValid (k : RecallKernel) : Bool :=
  match k.state with
  | .horsePresent =>
    match k.telemetry with
    | none => k.horseLossTick.isNone && k.lostTick.isNone && k.phaseEnterTick.isNone
        && k.earnedReductionTicks = 0 && k.damageRemainder = 0 && k.lastCreditId.isNone
    | some row => decide (some row.horseLostTick = k.horseLossTick)
        && k.lostTick.isSome
        && decide (k.phaseEnterTick = row.remountTick)
        && tickIsNotAfter k.lostTick row.remountTick
        && decide (row.loseHorseToRemountTicks
          = row.remountTick.bind fun tick => UInt64.checkedSub tick row.horseLostTick)
  | .coolingDown | .ready | .hoofbeats | .dustReveal | .gallopIn | .mountWindow | .waitingMount =>
    k.horseLossTick.isSome && k.lostTick.isSome && k.phaseEnterTick.isSome
      && tickIsNotAfter k.horseLossTick k.lostTick
      && tickIsNotAfter k.lostTick k.phaseEnterTick
      && tickIsNotAfter k.phaseEnterTick k.currentTick
      && k.telemetry.any fun row => decide (some row.horseLostTick = k.horseLossTick)
        && row.remountTick.isNone && row.loseHorseToRemountTicks.isNone

def stateIsValid (k : RecallKernel) : Bool :=
  decide (k.earnedReductionTicks ≤ BASE_RECALL_TICKS - MIN_RECALL_TICKS)
    && decide (k.damageRemainder < 25)
    && (k.lastCreditId.all fun id => (k.lostTick.any fun lost => id.tick ≥ lost)
      && k.currentTick.any fun current => id.tick ≤ current)
    && k.telemetryIsValid

/-! ## The clock -/

theorem advanceTick_snd {k : RecallKernel} {tick : SimulationTick}
    (hnew : ∀ current ∈ k.currentTick, current < tick) :
    (k.advanceTick tick).2 = { k with
      currentTick := some tick
      state := (k.phaseAfter tick).state
      phaseEnterTick := (k.phaseAfter tick).entered } := by
  unfold advanceTick
  rw [if_neg (not_any_le hnew)]

/-- The loop does nothing in a cooldown. -/
theorem phaseAfter_of_coolingDown {k : RecallKernel} (h : k.state = .coolingDown)
    (tick : SimulationTick) : k.phaseAfter tick = k.phaseAt tick := by
  have hzero : (k.phaseAt tick).state.phasesLeft = 0 := by
    unfold phaseAt
    split_ifs
    · rfl
    · rw [h]
      rfl
  unfold phaseAfter
  rw [hzero]
  rfl

theorem phaseAt_of_ne_coolingDown {k : RecallKernel} (h : k.state ≠ .coolingDown)
    (tick : SimulationTick) : k.phaseAt tick = ⟨k.state, k.phaseEnterTick, false⟩ := by
  unfold phaseAt
  rw [if_neg fun hboth => h hboth.1]

/-- From the phase at `t₁` the clock reaches the phase that it reaches from the start. -/
theorem phaseAfter_of_phaseAfter {k k₁ : RecallKernel} {t₁ t₂ : SimulationTick} (hle : t₁ ≤ t₂)
    (hstate : k₁.state = (k.phaseAfter t₁).state)
    (hentered : k₁.phaseEnterTick = (k.phaseAfter t₁).entered)
    (hready : k₁.readyTick = k.readyTick) :
    (k₁.phaseAfter t₂).cleared = (k.phaseAfter t₂).cleared := by
  by_cases hcooling : k.state = .coolingDown
  · rw [phaseAfter_of_coolingDown hcooling] at hstate hentered ⊢
    by_cases hdue : (k.readyTick.any fun ready => t₁ ≥ ready) = true
    · have hdue₂ : (k.readyTick.any fun ready => t₂ ≥ ready) = true := by
        cases hr : k.readyTick with
        | none => simp [hr] at hdue
        | some ready =>
          rw [hr, Option.any_some, decide_eq_true_eq] at hdue
          rw [Option.any_some, decide_eq_true_eq]
          exact UInt64.le_trans hdue hle
      have hat : ∀ t, (k.readyTick.any fun ready => t ≥ ready) = true →
          k.phaseAt t = ⟨.ready, k.readyTick, false⟩ := by
        intro t ht
        unfold phaseAt
        rw [if_pos ⟨hcooling, ht⟩]
      rw [hat t₁ hdue] at hstate hentered
      have hne : k₁.state ≠ .coolingDown := by
        rw [hstate]
        exact nofun
      rw [hat t₂ hdue₂]
      unfold phaseAfter
      rw [phaseAt_of_ne_coolingDown hne, hstate, hentered]
      rfl
    · have hat : k.phaseAt t₁ = ⟨k.state, k.phaseEnterTick, false⟩ := by
        unfold phaseAt
        rw [if_neg fun hboth => hdue hboth.2]
      rw [hat] at hstate hentered
      rw [phaseAfter_of_coolingDown (hstate.trans hcooling)]
      unfold phaseAt
      rw [hstate, hentered, hready]
  · have hafter : k₁.state ≠ .coolingDown := by
      rw [hstate]
      unfold phaseAfter
      apply RecallPhase.advancePhases_ne_coolingDown
      rwa [phaseAt_of_ne_coolingDown hcooling]
    -- the loop starts again where it broke off, and absorbs what it had done
    have hcleared : (k₁.phaseAt t₂).cleared = (k.phaseAfter t₁).cleared := by
      rw [phaseAt_of_ne_coolingDown hafter, hstate, hentered]
      rfl
    have hleft : (k₁.phaseAt t₂).state.phasesLeft ≤ (k.phaseAt t₂).state.phasesLeft := by
      rw [phaseAt_of_ne_coolingDown hafter, phaseAt_of_ne_coolingDown hcooling, hstate]
      unfold phaseAfter
      rw [phaseAt_of_ne_coolingDown hcooling]
      exact RecallPhase.phasesLeft_advancePhases _ _ _
    have hsame : k.phaseAt t₁ = k.phaseAt t₂ := by
      rw [phaseAt_of_ne_coolingDown hcooling, phaseAt_of_ne_coolingDown hcooling]
    rw [phaseAfter, ← RecallPhase.advancePhases_of_le hleft,
      RecallPhase.cleared_advancePhases _ _ hcleared, phaseAfter, phaseAfter, hsame,
      RecallPhase.advancePhases_absorb hle _ (Nat.le_refl _)]

/-- **Two calls in a row do what the second does alone.** -/
theorem advanceTick_advanceTick {k : RecallKernel} {t₁ t₂ : SimulationTick}
    (hnew : ∀ current ∈ k.currentTick, current < t₁) (hlt : t₁ < t₂) :
    ((k.advanceTick t₁).2.advanceTick t₂).2 = (k.advanceTick t₂).2 := by
  have hnew₂ : ∀ current ∈ k.currentTick, current < t₂ :=
    fun current hcurrent => UInt64.lt_trans (hnew current hcurrent) hlt
  have hfirst := advanceTick_snd hnew
  have hclock : ∀ current ∈ (k.advanceTick t₁).2.currentTick, current < t₂ := by
    rw [hfirst]
    rintro current ⟨⟩
    exact hlt
  have hphase : ((k.advanceTick t₁).2.phaseAfter t₂).cleared = (k.phaseAfter t₂).cleared :=
    phaseAfter_of_phaseAfter (UInt64.le_of_lt hlt) (by rw [hfirst]) (by rw [hfirst])
      (by rw [hfirst]; rfl)
  have hstate := congrArg RecallPhase.state hphase
  have hentered := congrArg RecallPhase.entered hphase
  unfold RecallPhase.cleared at hstate hentered
  dsimp only at hstate hentered
  rw [advanceTick_snd hclock, advanceTick_snd hnew₂, hstate, hentered, hfirst]

/-- Over a series of ticks only the last one counts. -/
theorem run_advanceTick {k : RecallKernel} {ticks : List SimulationTick} {tick : SimulationTick}
    (hnew : ∀ t ∈ ticks ++ [tick], ∀ current ∈ k.currentTick, current < t)
    (hsorted : (ticks ++ [tick]).Pairwise (· < ·)) :
    Runs.run advanceTick k (ticks ++ [tick]) = (k.advanceTick tick).2 := by
  refine Runs.run_absorbed (I := fun _ => True)
    (C := fun k t => ∀ current ∈ k.currentTick, current < t) (fun _ _ _ _ => trivial)
    (fun k t t' _ hc hlt => ?_) (fun _ _ _ _ hc hlt => advanceTick_advanceTick hc hlt) trivial hnew
    hsorted
  rw [advanceTick_snd hc]
  rintro current ⟨⟩
  exact hlt

end RecallKernel

/-! ## The timetable of a return -/

/-- Ticks from the start of a return to a phase of it. -/
def RecallState.offset : RecallState → ℕ
  | dustReveal => 120
  | gallopIn => 210
  | mountWindow => 300
  | waitingMount => 390
  | hoofbeats | horsePresent | coolingDown | ready => 0

theorem RecallState.offset_of_transition {state next : RecallState} {duration : UInt64}
    (h : state.transition = some (duration, next)) :
    next.offset = state.offset + duration.toNat := by
  cases state <;> cases h <;> rfl

/-- Before the last representable tick the loop enters each phase at its place in the timetable. -/
theorem RecallPhase.advancePhases_exact {tick : SimulationTick} (htick : tick.toNat < 2 ^ 64 - 1)
    (rounds : ℕ) {p : RecallPhase} {entered : SimulationTick} (h : p.entered = some entered) :
    ∃ entered', (advancePhases tick rounds p).entered = some entered'
      ∧ entered'.toNat + p.state.offset
        = entered.toNat + (advancePhases tick rounds p).state.offset
      ∧ ((advancePhases tick rounds p).state = p.state ∨ entered' ≤ tick) := by
  induction rounds generalizing p entered with
  | zero => exact ⟨entered, h, rfl, Or.inl rfl⟩
  | succ rounds ih =>
    cases hnext : p.next tick with
    | none =>
      rw [advancePhases_of_none hnext]
      exact ⟨entered, h, rfl, Or.inl rfl⟩
    | some p' =>
      rw [advancePhases_of_some hnext]
      unfold next at hnext
      rw [h, Option.bind_some] at hnext
      obtain ⟨⟨duration, after⟩, htransition, hnext⟩ := Option.bind_eq_some_iff.mp hnext
      dsimp only at hnext
      split_ifs at hnext with hearly
      obtain rfl := Option.some.inj hnext
      have hoffset := RecallState.offset_of_transition htransition
      have hboundary := UInt64.not_lt.mp hearly
      rw [UInt64.le_iff_toNat_le, UInt64.toNat_satAdd] at hboundary
      obtain ⟨entered', hentered', hplace, hpast⟩ := ih
        (p := ⟨after, some (entered.satAdd duration), p.mountWindowOpened || after == .mountWindow⟩) rfl
      refine ⟨entered', hentered', ?_, Or.inr ?_⟩
      · rw [UInt64.toNat_satAdd] at hplace
        dsimp only at hplace
        omega
      · rcases hpast with hsame | hle
        · rw [hsame, UInt64.toNat_satAdd] at hplace
          rw [UInt64.le_iff_toNat_le]
          dsimp only at hplace
          omega
        · exact hle

namespace RecallKernel

/-- A return enters each phase at its place in the timetable, and stays in it as long as it lasts. -/
theorem advanceTick_exact {k : RecallKernel} {tick entered : SimulationTick}
    (hnew : ∀ current ∈ k.currentTick, current < tick) (htick : tick.toNat < 2 ^ 64 - 1)
    (hstate : k.state ≠ .coolingDown) (h : k.phaseEnterTick = some entered) :
    ∃ entered', (k.advanceTick tick).2.phaseEnterTick = some entered'
      ∧ entered'.toNat + k.state.offset = entered.toNat + (k.advanceTick tick).2.state.offset
      ∧ ((k.advanceTick tick).2.state = k.state ∨ entered' ≤ tick)
      ∧ ∀ duration next, (k.advanceTick tick).2.state.transition = some (duration, next) →
        tick.toNat < entered'.toNat + duration.toNat := by
  have hat := phaseAt_of_ne_coolingDown hstate tick
  rw [advanceTick_snd hnew]
  unfold phaseAfter
  dsimp only
  rw [hat]
  obtain ⟨entered', hentered', hplace, hpast⟩ := RecallPhase.advancePhases_exact htick
    k.state.phasesLeft (p := ⟨k.state, k.phaseEnterTick, false⟩) h
  refine ⟨entered', hentered', hplace, hpast, fun duration next htransition => ?_⟩
  have hstops := @RecallPhase.next_advancePhases tick k.state.phasesLeft
    ⟨k.state, k.phaseEnterTick, false⟩ (Nat.le_refl _)
  unfold RecallPhase.next at hstops
  rw [hentered', htransition] at hstops
  simp only [Option.bind_some] at hstops
  split_ifs at hstops with hearly
  rw [UInt64.lt_iff_toNat_lt, UInt64.toNat_satAdd] at hearly
  omega

/-- What every run keeps. -/
structure Kept (k : RecallKernel) : Prop where
  earned : k.earnedReductionTicks.toNat ≤ 720
  remainder : k.damageRemainder.toNat < 25

theorem kept_of_stateIsValid {k : RecallKernel} (h : k.stateIsValid = true) : k.Kept := by
  unfold stateIsValid at h
  simp only [Bool.and_eq_true, decide_eq_true_eq] at h
  exact ⟨UInt64.le_iff_toNat_le.mp h.1.1.1, UInt32.lt_iff_toNat_lt.mp h.1.1.2⟩

/-- A tick that is not stale succeeds, and neither a cooldown nor its end begins a return. -/
theorem advanceTick_ok {k : RecallKernel} {tick : SimulationTick}
    (hnew : ∀ current ∈ k.currentTick, current < tick) :
    (∃ output, (k.advanceTick tick).1 = .ok output)
      ∧ (k.advanceTick tick).2.currentTick = some tick
      ∧ (k.state = .coolingDown ∨ k.state = .ready →
        (k.advanceTick tick).2.state = .coolingDown ∨ (k.advanceTick tick).2.state = .ready) := by
  refine ⟨?_, ?_, fun hwaits => ?_⟩
  · unfold advanceTick
    rw [if_neg (not_any_le hnew)]
    exact ⟨_, rfl⟩
  · rw [advanceTick_snd hnew]
  · rw [advanceTick_snd hnew]
    change (k.phaseAfter tick).state = _ ∨ (k.phaseAfter tick).state = _
    rcases hwaits with hstate | hstate
    · rw [phaseAfter_of_coolingDown hstate]
      unfold phaseAt
      split_ifs
      · exact Or.inr rfl
      · exact Or.inl hstate
    · have hat := phaseAt_of_ne_coolingDown (k := k) (by rw [hstate]; decide) tick
      unfold phaseAfter
      rw [hat, hstate]
      exact Or.inr rfl

/-- The delay after the reductions, which never falls below the floor. -/
theorem Kept.readyTick {k : RecallKernel} (h : k.Kept) {lost : SimulationTick}
    (hlost : k.lostTick = some lost) : ∃ ready, k.readyTick = some ready
      ∧ ready.toNat = min (lost.toNat + (1200 - k.earnedReductionTicks.toNat)) (2 ^ 64 - 1) := by
  have hmax : ∀ a b : UInt64, (max a b).toNat = max a.toNat b.toNat := by
    intro a b
    change (if a ≤ b then b else a).toNat = _
    split_ifs with hle <;> rw [UInt64.le_iff_toNat_le] at hle <;> omega
  have hbase : BASE_RECALL_TICKS.toNat = 1200 := rfl
  have hmin : MIN_RECALL_TICKS.toNat = 480 := rfl
  have hearned := h.earned
  unfold RecallKernel.readyTick
  rw [hlost]
  refine ⟨_, rfl, ?_⟩
  rw [UInt64.toNat_satAdd, hmax, UInt64.toNat_satSub, hbase, hmin]
  omega

/-- A cooldown ends at the exact ready tick. -/
theorem Kept.advanceTick_ready {k : RecallKernel} (h : k.Kept) {tick lost : SimulationTick}
    (hnew : ∀ current ∈ k.currentTick, current < tick) (htick : tick.toNat < 2 ^ 64 - 1)
    (hstate : k.state = .coolingDown) (hlost : k.lostTick = some lost) :
    (tick.toNat < lost.toNat + (1200 - k.earnedReductionTicks.toNat)
        ∧ (k.advanceTick tick).2.state = .coolingDown)
      ∨ (lost.toNat + (1200 - k.earnedReductionTicks.toNat) ≤ tick.toNat
        ∧ (k.advanceTick tick).2.state = .ready
        ∧ ∃ ready, (k.advanceTick tick).2.phaseEnterTick = some ready
          ∧ ready.toNat = lost.toNat + (1200 - k.earnedReductionTicks.toNat)) := by
  obtain ⟨ready, hready, hexact⟩ := h.readyTick hlost
  rw [advanceTick_snd hnew, phaseAfter_of_coolingDown hstate]
  unfold phaseAt
  rw [hready]
  simp only [hstate, true_and, Option.any_some, decide_eq_true_eq]
  by_cases hdue : tick ≥ ready
  · rw [if_pos hdue]
    rw [ge_iff_le, UInt64.le_iff_toNat_le] at hdue
    exact Or.inr ⟨by omega, rfl, ready, rfl, by omega⟩
  · rw [if_neg hdue]
    rw [ge_iff_le, UInt64.le_iff_toNat_le] at hdue
    exact Or.inl ⟨by omega, rfl⟩

theorem toNat_reducedBy (k : RecallKernel) {ticks : UInt64} :
    (k.reducedBy ticks).toNat = min (k.earnedReductionTicks.toNat + ticks.toNat) 720 := by
  have hmin : ∀ a b : UInt64, (min a b).toNat = min a.toNat b.toNat := by
    intro a b
    change (if a ≤ b then a else b).toNat = _
    split_ifs with hle <;> rw [UInt64.le_iff_toNat_le] at hle <;> omega
  have hcap : (BASE_RECALL_TICKS - MIN_RECALL_TICKS).toNat = 720 := by decide
  unfold reducedBy
  rw [hmin, UInt64.toNat_satAdd, hcap]
  omega

end RecallKernel

/-! ## Calls -/

inductive RecallCall
  | loseHorse (despawnTick horseLossTick : SimulationTick)
  | applyCredit (command : RecallCreditCommand)
  | advanceTick (tick : SimulationTick)
  | requestRecall (tick : SimulationTick)
  | requestRecallInstant (tick : SimulationTick)
  | tryMount (tick : SimulationTick) (riderPosition horsePosition : QuantizedOrigin)
      (horseMoving : Bool)
deriving DecidableEq

def RecallCall.isLoss : RecallCall → Bool
  | loseHorse _ _ => true
  | _ => false

inductive RecallAnswer
  | lost (result : Except M3Error Unit)
  | done (accepted : Bool)
  | ticked (output : Except M3Error RecallTickOutput)

namespace RecallKernel

def step (k : RecallKernel) : RecallCall → RecallAnswer × RecallKernel
  | .loseHorse despawnTick horseLossTick =>
    let (result, k') := k.loseHorse despawnTick horseLossTick
    (.lost result, k')
  | .applyCredit command =>
    let (accepted, k') := k.applyCredit command
    (.done accepted, k')
  | .advanceTick tick =>
    let (output, k') := k.advanceTick tick
    (.ticked output, k')
  | .requestRecall tick =>
    let (accepted, k') := k.requestRecall tick
    (.done accepted, k')
  | .requestRecallInstant tick =>
    let (accepted, k') := k.requestRecallInstant tick
    (.done accepted, k')
  | .tryMount tick riderPosition horsePosition horseMoving =>
    let (accepted, k') := k.tryMount tick riderPosition horsePosition horseMoving
    (.done accepted, k')

def note (k : RecallKernel) : RecallCall → List RecallCreditCommand
  | .applyCredit command => if k.RefusesCredit command.id then [] else [command]
  | _ => []

theorem note_applyCredit (k : RecallKernel) (command : RecallCreditCommand) :
    k.note (.applyCredit command) = if k.RefusesCredit command.id then [] else [command] := rfl

/-- A run of calls leads from a fresh or a restored kernel to `k`. -/
def Reached (k : RecallKernel) : Prop :=
  ∃ start calls, start.stateIsValid = true ∧ Runs.run step start calls = k

end RecallKernel

/-! ## The economy of one loss -/

def RecallCreditKind.damage : RecallCreditKind → ℕ
  | damageDealt damage => damage.toNat
  | objectiveTick => 0

def RecallCreditKind.objectives : RecallCreditKind → ℕ
  | damageDealt _ => 0
  | objectiveTick => 1

namespace RecallCredits

variable (credits credits' : List RecallCreditCommand)

def damage : ℕ := (credits.map fun credit => credit.kind.damage).sum

def objectives : ℕ := (credits.map fun credit => credit.kind.objectives).sum

/-- What the credits earn in one batch. -/
def reduction : ℕ := min 720 (60 * (damage credits / 25) + 120 * objectives credits)

theorem damage_append : damage (credits ++ credits') = damage credits + damage credits' := by
  unfold damage
  rw [List.map_append, List.sum_append]

theorem objectives_append :
    objectives (credits ++ credits') = objectives credits + objectives credits' := by
  unfold objectives
  rw [List.map_append, List.sum_append]

/-- More credits never earn less. -/
theorem reduction_le_append : reduction credits ≤ reduction (credits ++ credits') := by
  unfold reduction
  rw [damage_append, objectives_append]
  omega

end RecallCredits

namespace RecallKernel

open RecallCredits

/-- The kernel after the loss at `lost` and the accepted `credits`. -/
structure Earned (lost : SimulationTick) (k : RecallKernel) (credits : List RecallCreditCommand) :
    Prop where
  lost : k.lostTick = some lost
  earned : k.earnedReductionTicks.toNat = reduction credits
  remainder : k.damageRemainder.toNat = damage credits % 25
  ordered : (credits.map (·.id)).Pairwise AuthorityReceiptId.precedes
  watermark : ∀ credit ∈ credits, ∃ last ∈ k.lastCreditId,
    credit.id = last ∨ credit.id.precedes last

theorem earned_loseHorse {k : RecallKernel} {despawnTick horseLossTick : SimulationTick}
    (h : (k.loseHorse despawnTick horseLossTick).1 = .ok ()) :
    Earned despawnTick (k.loseHorse despawnTick horseLossTick).2 [] := by
  unfold loseHorse at h ⊢
  split_ifs at h ⊢
  exact ⟨rfl, rfl, rfl, List.Pairwise.nil, nofun⟩

/-- One accepted credit adds to the batch. -/
theorem Earned.applyCredit {lost : SimulationTick} {k : RecallKernel}
    {credits : List RecallCreditCommand} (h : Earned lost k credits) {command : RecallCreditCommand}
    (haccepted : ¬k.RefusesCredit command.id) :
    Earned lost (k.applyCredit command).2 (credits ++ [command]) := by
  have hnewer : ∀ credit ∈ credits, credit.id.precedes command.id := by
    intro credit hcredit
    obtain ⟨last, hlast, hle⟩ := h.watermark credit hcredit
    rw [Option.mem_def] at hlast
    unfold RefusesCredit at haccepted
    push Not at haccepted
    have hprecedes := haccepted.2.1
    rw [hlast, Option.any_some, Ne, decide_eq_true_eq, not_not] at hprecedes
    rcases hle with rfl | hbefore
    · exact hprecedes
    · exact AuthorityReceiptId.precedes_trans hbefore hprecedes
  have hordered : ((credits ++ [command]).map (·.id)).Pairwise AuthorityReceiptId.precedes := by
    rw [List.map_append, List.pairwise_append]
    refine ⟨h.ordered, List.pairwise_singleton _ _, fun id hid id' hid' => ?_⟩
    obtain ⟨credit, hcredit, rfl⟩ := List.mem_map.mp hid
    obtain rfl := List.mem_singleton.mp hid'
    exact hnewer credit hcredit
  have hwatermark : ∀ credit ∈ credits ++ [command], ∃ last ∈ some command.id,
      credit.id = last ∨ credit.id.precedes last := by
    intro credit hcredit
    refine ⟨command.id, rfl, ?_⟩
    rcases List.mem_append.mp hcredit with hold | hnew
    · exact Or.inr (hnewer credit hold)
    · exact Or.inl (by rw [List.mem_singleton.mp hnew])
  have hearned := h.earned
  have hremainder := h.remainder
  unfold RecallKernel.applyCredit
  rw [if_neg haccepted]
  unfold reduction at hearned
  cases hkind : command.kind with
  | damageDealt amount =>
    have hdamage : damage (credits ++ [command]) = damage credits + amount.toNat := by
      rw [damage_append]
      simp [damage, hkind, RecallCreditKind.damage]
    have hobjectives : objectives (credits ++ [command]) = objectives credits := by
      rw [objectives_append]
      simp [objectives, hkind, RecallCreditKind.objectives]
    have htotal : (k.damageRemainder.satAdd amount.toUInt32).toNat
        = damage credits % 25 + amount.toNat := by
      have hamount := amount.toNat_lt
      rw [UInt32.toNat_satAdd, UInt16.toNat_toUInt32]
      omega
    have h25 : (25 : UInt32).toNat = 25 := rfl
    refine ⟨h.lost, ?_, ?_, hordered, hwatermark⟩
    · have hwhole : ((k.damageRemainder.satAdd amount.toUInt32 / 25).toUInt64
          * M3_TICK_RATE_HZ.toUInt64).toNat = (damage credits % 25 + amount.toNat) / 25 * 60 := by
        have hrate : M3_TICK_RATE_HZ.toUInt64.toNat = 60 := rfl
        have hamount := amount.toNat_lt
        rw [UInt64.toNat_mul, UInt32.toNat_toUInt64, UInt32.toNat_div, htotal, h25, hrate]
        omega
      change (k.reducedBy _).toNat = _
      rw [toNat_reducedBy, hwhole, hearned]
      unfold reduction
      rw [hdamage, hobjectives]
      omega
    · change (k.damageRemainder.satAdd amount.toUInt32 % 25).toNat = _
      rw [UInt32.toNat_mod, htotal, h25, hdamage]
      omega
  | objectiveTick =>
    have hdamage : damage (credits ++ [command]) = damage credits := by
      rw [damage_append]
      simp [damage, hkind, RecallCreditKind.damage]
    have hobjectives : objectives (credits ++ [command]) = objectives credits + 1 := by
      rw [objectives_append]
      simp [objectives, hkind, RecallCreditKind.objectives]
    refine ⟨h.lost, ?_, ?_, hordered, hwatermark⟩
    · have htwo : (2 * M3_TICK_RATE_HZ.toUInt64).toNat = 120 := by decide
      change (k.reducedBy _).toNat = _
      rw [toNat_reducedBy, htwo, hearned]
      unfold reduction
      rw [hdamage, hobjectives]
      omega
    · change k.damageRemainder.toNat = _
      rw [hdamage, hremainder]

/-- The economy is in four fields of the kernel. -/
theorem Earned.of_eq {lost : SimulationTick} {k k' : RecallKernel}
    {credits : List RecallCreditCommand} (h : Earned lost k credits) (hlost : k'.lostTick = k.lostTick)
    (hearned : k'.earnedReductionTicks = k.earnedReductionTicks)
    (hremainder : k'.damageRemainder = k.damageRemainder)
    (hlast : k'.lastCreditId = k.lastCreditId) : Earned lost k' credits := by
  refine ⟨hlost.trans h.lost, ?_, ?_, h.ordered, ?_⟩
  · rw [hearned]
    exact h.earned
  · rw [hremainder]
    exact h.remainder
  · rw [hlast]
    exact h.watermark

/-- Clock, requests and mounts leave the economy alone. -/
theorem step_frame (k : RecallKernel) {call : RecallCall} (hloss : call.isLoss = false)
    (hcredit : k.note call = []) :
    (k.step call).2.lostTick = k.lostTick
      ∧ (k.step call).2.earnedReductionTicks = k.earnedReductionTicks
      ∧ (k.step call).2.damageRemainder = k.damageRemainder
      ∧ (k.step call).2.lastCreditId = k.lastCreditId := by
  cases call with
  | loseHorse despawnTick horseLossTick => exact nomatch hloss
  | applyCredit command =>
    by_cases hrefused : k.RefusesCredit command.id
    · change (k.applyCredit command).2.lostTick = _ ∧ (k.applyCredit command).2.earnedReductionTicks
        = _ ∧ (k.applyCredit command).2.damageRemainder = _ ∧ (k.applyCredit command).2.lastCreditId = _
      unfold applyCredit
      rw [if_pos hrefused]
      exact ⟨rfl, rfl, rfl, rfl⟩
    · rw [note_applyCredit, if_neg hrefused] at hcredit
      exact nomatch hcredit
  | advanceTick tick =>
    unfold step advanceTick
    dsimp only
    split_ifs <;> exact ⟨rfl, rfl, rfl, rfl⟩
  | requestRecall tick =>
    unfold step requestRecall
    dsimp only
    split_ifs <;> exact ⟨rfl, rfl, rfl, rfl⟩
  | requestRecallInstant tick =>
    unfold step requestRecallInstant
    dsimp only
    split_ifs <;> exact ⟨rfl, rfl, rfl, rfl⟩
  | tryMount tick riderPosition horsePosition horseMoving =>
    change (k.tryMount tick riderPosition horsePosition horseMoving).2.lostTick = _ ∧ _
    rcases k.tryMount_cases tick riderPosition horsePosition horseMoving with heq | ⟨k', heq, -, -,
      hlost, hearned, hremainder, hlast⟩
    · rw [step, heq]
      exact ⟨rfl, rfl, rfl, rfl⟩
    · rw [step, heq]
      exact ⟨hlost, hearned, hremainder, hlast⟩

theorem Earned.step {lost : SimulationTick} {k : RecallKernel} {credits : List RecallCreditCommand}
    (h : Earned lost k credits) {call : RecallCall} (hloss : call.isLoss = false) :
    Earned lost (k.step call).2 (credits ++ k.note call) := by
  by_cases hcredit : k.note call = []
  · obtain ⟨hlost, hearned, hremainder, hlast⟩ := k.step_frame hloss hcredit
    rw [hcredit, List.append_nil]
    exact h.of_eq hlost hearned hremainder hlast
  · cases call with
    | applyCredit command =>
      rw [note_applyCredit] at hcredit ⊢
      by_cases hrefused : k.RefusesCredit command.id
      · rw [if_pos hrefused] at hcredit
        exact absurd rfl hcredit
      · rw [if_neg hrefused]
        exact h.applyCredit hrefused
    | loseHorse _ _ | advanceTick _ | requestRecall _ | requestRecallInstant _
    | tryMount _ _ _ _ => exact absurd rfl hcredit

/-- The economy after a run without a further loss. -/
theorem Earned.run {lost : SimulationTick} {k : RecallKernel} {credits : List RecallCreditCommand}
    (h : Earned lost k credits) {calls : List RecallCall} (hcalls : ∀ call ∈ calls, call.isLoss = false) :
    Earned lost (Runs.run RecallKernel.step k calls)
      (credits ++ Runs.history RecallKernel.step note k calls) :=
  Runs.run_history (P := Earned lost) (fun _ _ _ hloss hs => hs.step hloss) h
    (Runs.along_of_forall hcalls)

theorem Earned.kept {lost : SimulationTick} {k : RecallKernel} {credits : List RecallCreditCommand}
    (h : Earned lost k credits) : k.Kept := by
  refine ⟨?_, ?_⟩
  · rw [h.earned]
    exact min_le_left _ _
  · rw [h.remainder]
    exact Nat.mod_lt _ (by decide)

theorem Earned.readyTick {lost : SimulationTick} {k : RecallKernel}
    {credits : List RecallCreditCommand} (h : Earned lost k credits) :
    ∃ ready, k.readyTick = some ready
      ∧ ready.toNat = min (lost.toNat + (1200 - reduction credits)) (2 ^ 64 - 1) := by
  have hready := h.kept.readyTick h.lost
  rwa [h.earned] at hready

end RecallKernel

/-- **The recall economy is that of one batch.**  After a loss, and until the next, the reduction
depends on the accepted credits only through their total damage and their number of objectives; no
credit is accepted twice; and the ready tick lies between 480 and 1200 ticks after the despawn, or at
the last representable tick where that is earlier, and never moves to a later tick. -/
theorem recall_economy {k : RecallKernel} {despawnTick horseLossTick : SimulationTick}
    (hloss : (k.loseHorse despawnTick horseLossTick).1 = .ok ()) {calls : List RecallCall}
    (hcalls : ∀ call ∈ calls, call.isLoss = false) :
    (Runs.run RecallKernel.step (k.loseHorse despawnTick horseLossTick).2
          calls).earnedReductionTicks.toNat
        = RecallCredits.reduction
          (Runs.history RecallKernel.step RecallKernel.note (k.loseHorse despawnTick horseLossTick).2
            calls)
      ∧ ((Runs.history RecallKernel.step RecallKernel.note
          (k.loseHorse despawnTick horseLossTick).2 calls).map (·.id)).Nodup
      ∧ ∃ ready, (Runs.run RecallKernel.step (k.loseHorse despawnTick horseLossTick).2
          calls).readyTick = some ready
        ∧ min (despawnTick.toNat + 480) (2 ^ 64 - 1) ≤ ready.toNat
        ∧ ready.toNat ≤ despawnTick.toNat + 1200
        ∧ ∀ before, before <+: calls → ∀ earlier, (Runs.run RecallKernel.step
            (k.loseHorse despawnTick horseLossTick).2 before).readyTick = some earlier →
          ready ≤ earlier := by
  have hstart := RecallKernel.earned_loseHorse hloss
  generalize (k.loseHorse despawnTick horseLossTick).2 = lost at hstart ⊢
  have hend := hstart.run hcalls
  rw [List.nil_append] at hend
  obtain ⟨ready, hready, hexact⟩ := hend.readyTick
  have hcap : RecallCredits.reduction (Runs.history RecallKernel.step RecallKernel.note lost calls)
      ≤ 720 := min_le_left _ _
  refine ⟨hend.earned, ?_, ready, hready, by omega, by omega, ?_⟩
  · refine hend.ordered.imp ?_
    rintro a b hab rfl
    exact AuthorityReceiptId.precedes_irrefl a hab
  · rintro before ⟨after, rfl⟩ earlier hearlier
    have hbefore := hstart.run fun call hcall => hcalls call (List.mem_append_left _ hcall)
    rw [List.nil_append] at hbefore
    obtain ⟨ready', hready', hexact'⟩ := hbefore.readyTick
    obtain rfl := Option.some.inj (hearlier.symm.trans hready')
    have hmore := RecallCredits.reduction_le_append
      (Runs.history RecallKernel.step RecallKernel.note lost before)
      (Runs.history RecallKernel.step RecallKernel.note (Runs.run RecallKernel.step lost before) after)
    rw [← Runs.history_append] at hmore
    rw [UInt64.le_iff_toNat_le]
    omega

/-- A loss at tick 1000, 60 damage, and an objective. -/
def economyCalls : List RecallCall :=
  [.advanceTick 1100, .applyCredit ⟨⟨1, 1050, 1⟩, .damageDealt 30⟩,
    .applyCredit ⟨⟨1, 1050, 2⟩, .damageDealt 30⟩, .applyCredit ⟨⟨1, 1060, 1⟩, .objectiveTick⟩]

theorem recall_economy_example :
    (Runs.run RecallKernel.step (RecallKernel.default.loseHorse 1000 820).2
        economyCalls).earnedReductionTicks.toNat
      = RecallCredits.reduction (Runs.history RecallKernel.step RecallKernel.note
        (RecallKernel.default.loseHorse 1000 820).2 economyCalls) :=
  (@recall_economy .default 1000 820 rfl economyCalls (by decide)).1

/-- A loss at the last representable tick has a ready tick at once: the claim that it always lies 480
ticks later is false. -/
theorem readyTick_saturates :
    ¬∀ (k : RecallKernel) (despawnTick horseLossTick : SimulationTick),
      (k.loseHorse despawnTick horseLossTick).1 = .ok () →
      ∀ ready, (k.loseHorse despawnTick horseLossTick).2.readyTick = some ready →
        despawnTick.toNat + 480 ≤ ready.toNat := by
  intro h
  have hlast := h .default 0xffffffffffffffff 0xffffffffffffffff rfl 0xffffffffffffffff rfl
  revert hlast
  decide

/-! ## Clocks -/

namespace HorseVitalityKernel

/-- Two calls in a row do what the second does alone. -/
def ClockOnly (k : HorseVitalityKernel) : Prop :=
  ∀ t₁ t₂, (∀ current ∈ k.currentTick, current < t₁) → t₁ < t₂ →
    ((k.advanceTick t₁).2.advanceTick t₂).2 = (k.advanceTick t₂).2

/-- Health after damage that leaves the horse available, whatever the calls up to `tick`. -/
def RegeneratesExactly (k : HorseVitalityKernel) : Prop :=
  ∀ (command : HorseDamageCommand) (application : HorseDamageApplication)
    (ticks : List SimulationTick) (tick : SimulationTick),
    (k.applyDamage command).1 = some application → application.spooked = false →
    (∀ t ∈ ticks ++ [tick], ∀ current ∈ k.currentTick, current < t) →
    (ticks ++ [tick]).Pairwise (· < ·) →
    (Runs.run advanceTick (k.applyDamage command).2 (ticks ++ [tick])).health.toNat
      = min (application.healthAfter.toNat
          + 10 * (tick.toNat + 1 - (command.id.tick.toNat + 360)) / 60)
        k.horseClass.maxHealth.toNat

/-- A bolt ends 180 ticks after it began, whatever the calls: the first call from then on answers that
tick. -/
def DespawnsExactly (k : HorseVitalityKernel) : Prop :=
  ∀ (started : SimulationTick) (ticks : List SimulationTick) (tick : SimulationTick),
    k.state = .bolting → k.boltStartedTick = some started →
    (∀ t ∈ ticks ++ [tick], ∀ current ∈ k.currentTick, current < t) →
    (ticks ++ [tick]).Pairwise (· < ·) →
    (∀ t ∈ ticks, t.toNat < started.toNat + 180) →
    (started.toNat + 180 ≤ tick.toNat
        ∧ ∃ despawned, despawned.toNat = started.toNat + 180
          ∧ ((Runs.run advanceTick k ticks).advanceTick tick).1 = .ok (some despawned)
          ∧ ((Runs.run advanceTick k ticks).advanceTick tick).2.state = .despawned)
      ∨ (tick.toNat < started.toNat + 180
        ∧ ((Runs.run advanceTick k ticks).advanceTick tick).1 = .ok none
        ∧ ((Runs.run advanceTick k ticks).advanceTick tick).2.state = .bolting)

end HorseVitalityKernel

namespace RecallKernel

/-- Two calls in a row do what the second does alone. -/
def ClockOnly (k : RecallKernel) : Prop :=
  ∀ t₁ t₂, (∀ current ∈ k.currentTick, current < t₁) → t₁ < t₂ →
    ((k.advanceTick t₁).2.advanceTick t₂).2 = (k.advanceTick t₂).2

/-- Below the last representable tick a cooldown ends at the exact ready tick, whatever the calls. -/
def ReadiesExactly (k : RecallKernel) : Prop :=
  ∀ (lost : SimulationTick) (ticks : List SimulationTick) (tick : SimulationTick),
    k.state = .coolingDown → k.lostTick = some lost → tick.toNat < 2 ^ 64 - 1 →
    (∀ t ∈ ticks ++ [tick], ∀ current ∈ k.currentTick, current < t) →
    (ticks ++ [tick]).Pairwise (· < ·) →
    (tick.toNat < lost.toNat + (1200 - k.earnedReductionTicks.toNat)
        ∧ (Runs.run advanceTick k (ticks ++ [tick])).state = .coolingDown)
      ∨ (lost.toNat + (1200 - k.earnedReductionTicks.toNat) ≤ tick.toNat
        ∧ (Runs.run advanceTick k (ticks ++ [tick])).state = .ready
        ∧ ∃ ready, (Runs.run advanceTick k (ticks ++ [tick])).phaseEnterTick = some ready
          ∧ ready.toNat = lost.toNat + (1200 - k.earnedReductionTicks.toNat))

/-- Below the last representable tick each phase of a return is entered at its place in the timetable
and lasts as long as it does there, whatever the calls. -/
def ReturnsExactly (k : RecallKernel) : Prop :=
  ∀ (entered : SimulationTick) (ticks : List SimulationTick) (tick : SimulationTick),
    k.state ≠ .coolingDown → k.phaseEnterTick = some entered → tick.toNat < 2 ^ 64 - 1 →
    (∀ t ∈ ticks ++ [tick], ∀ current ∈ k.currentTick, current < t) →
    (ticks ++ [tick]).Pairwise (· < ·) →
    ∃ entered', (Runs.run advanceTick k (ticks ++ [tick])).phaseEnterTick = some entered'
      ∧ entered'.toNat + k.state.offset
        = entered.toNat + (Runs.run advanceTick k (ticks ++ [tick])).state.offset
      ∧ ((Runs.run advanceTick k (ticks ++ [tick])).state = k.state ∨ entered' ≤ tick)
      ∧ ∀ duration next,
        (Runs.run advanceTick k (ticks ++ [tick])).state.transition = some (duration, next) →
        tick.toNat < entered'.toNat + duration.toNat

end RecallKernel

namespace HorseVitalityKernel

/-- A bolt that has not run out goes on. -/
theorem run_of_bolting {started tick : SimulationTick} {ticks : List SimulationTick}
    {k : HorseVitalityKernel} (hstate : k.state = .bolting) (hstarted : k.boltStartedTick = some started)
    (hnew : ∀ t ∈ ticks ++ [tick], ∀ current ∈ k.currentTick, current < t)
    (hsorted : (ticks ++ [tick]).Pairwise (· < ·))
    (hshort : ∀ t ∈ ticks, t.toNat < started.toNat + 180) :
    (Runs.run advanceTick k ticks).state = .bolting
      ∧ (Runs.run advanceTick k ticks).boltStartedTick = some started
      ∧ ∀ current ∈ (Runs.run advanceTick k ticks).currentTick, current < tick := by
  induction ticks generalizing k with
  | nil => exact ⟨hstate, hstarted, hnew tick List.mem_cons_self⟩
  | cons t ticks ih =>
    rw [List.cons_append, List.pairwise_cons] at hsorted
    have ht := hnew t List.mem_cons_self
    have hgoes := advanceTick_fst_of_bolting ht hstate hstarted
    have hearly := hshort t List.mem_cons_self
    have hfirst := advanceTick_snd ht
    rw [Runs.run_cons]
    refine ih ?_ ?_ ?_ hsorted.2 fun t' ht' => hshort t' (List.mem_cons_of_mem t ht')
    · rcases hgoes with ⟨hlate, -⟩ | ⟨-, -, hbolting⟩
      · omega
      · exact hbolting
    · rw [hfirst]
      exact hstarted
    · rw [hfirst]
      rintro t' ht' current ⟨⟩
      exact hsorted.1 t' ht'

theorem despawnsExactly (k : HorseVitalityKernel) : k.DespawnsExactly := by
  intro started ticks tick hstate hstarted hnew hsorted hshort
  obtain ⟨hbolting, hstarted', hclock⟩ := run_of_bolting hstate hstarted hnew hsorted hshort
  exact advanceTick_fst_of_bolting hclock hbolting hstarted'

end HorseVitalityKernel

namespace RecallKernel

theorem applyCredit_frame (k : RecallKernel) (command : RecallCreditCommand) :
    (k.applyCredit command).2.state = k.state
      ∧ (k.applyCredit command).2.currentTick = k.currentTick := by
  unfold RecallKernel.applyCredit
  by_cases hrefused : k.RefusesCredit command.id
  · rw [if_pos hrefused]
    exact ⟨rfl, rfl⟩
  · rw [if_neg hrefused]
    cases command.kind <;> exact ⟨rfl, rfl⟩

theorem Kept.applyCredit {k : RecallKernel} (h : k.Kept) (command : RecallCreditCommand) :
    (k.applyCredit command).2.Kept := by
  have hcap : ∀ ticks, (k.reducedBy ticks).toNat ≤ 720 := by
    intro ticks
    rw [toNat_reducedBy]
    exact min_le_right _ _
  unfold RecallKernel.applyCredit
  by_cases hrefused : k.RefusesCredit command.id
  · rw [if_pos hrefused]
    exact h
  · rw [if_neg hrefused]
    cases command.kind with
    | damageDealt amount =>
      refine ⟨hcap _, ?_⟩
      change (k.damageRemainder.satAdd amount.toUInt32 % 25).toNat < 25
      rw [UInt32.toNat_mod]
      exact Nat.mod_lt _ (by decide)
    | objectiveTick => exact ⟨hcap _, h.remainder⟩

theorem Kept.step {k : RecallKernel} (h : k.Kept) (call : RecallCall) : (k.step call).2.Kept := by
  have hframe : ∀ call : RecallCall, call.isLoss = false → k.note call = [] →
      (k.step call).2.Kept := by
    intro call hloss hcredit
    obtain ⟨-, hearned, hremainder, -⟩ := k.step_frame hloss hcredit
    exact ⟨by rw [hearned]; exact h.earned, by rw [hremainder]; exact h.remainder⟩
  cases call with
  | loseHorse despawnTick horseLossTick =>
    change (k.loseHorse despawnTick horseLossTick).2.Kept
    unfold loseHorse
    split_ifs
    · exact h
    · exact ⟨Nat.zero_le _, Nat.zero_lt_succ _⟩
  | applyCredit command => exact h.applyCredit command
  | advanceTick tick => exact hframe (.advanceTick tick) rfl rfl
  | requestRecall tick => exact hframe (.requestRecall tick) rfl rfl
  | requestRecallInstant tick => exact hframe (.requestRecallInstant tick) rfl rfl
  | tryMount tick rider horse moving => exact hframe (.tryMount tick rider horse moving) rfl rfl

theorem Reached.kept {k : RecallKernel} (h : k.Reached) : k.Kept := by
  obtain ⟨start, calls, hvalid, rfl⟩ := h
  exact Runs.run_invariant (fun _ call hk => hk.step call) (kept_of_stateIsValid hvalid) calls

theorem Kept.readiesExactly {k : RecallKernel} (h : k.Kept) : k.ReadiesExactly := by
  intro lost ticks tick hstate hlost htick hnew hsorted
  have hcurrent := hnew tick (List.mem_append_right _ List.mem_cons_self)
  rw [run_advanceTick hnew hsorted]
  exact h.advanceTick_ready hcurrent htick hstate hlost

theorem returnsExactly (k : RecallKernel) : k.ReturnsExactly := by
  intro entered ticks tick hstate hentered htick hnew hsorted
  have hcurrent := hnew tick (List.mem_append_right _ List.mem_cons_self)
  rw [run_advanceTick hnew hsorted]
  exact advanceTick_exact hcurrent htick hstate hentered

end RecallKernel

/-- **A horse and its recall depend on the clock alone.**  Two calls in a row leave what the second
leaves alone; damage heals at exactly ten a second from six seconds after it; and despawn, ready and
phase-entry ticks are the exact boundaries, whatever the spacing of the calls, below the last
representable tick. -/
theorem clock_only {horse : HorseVitalityKernel} (hhorse : horse.Reached) {recallKernel : RecallKernel}
    (hrecall : recallKernel.Reached) :
    horse.ClockOnly ∧ recallKernel.ClockOnly ∧ horse.RegeneratesExactly ∧ horse.DespawnsExactly
      ∧ recallKernel.ReadiesExactly ∧ recallKernel.ReturnsExactly := by
  refine ⟨fun _ _ hnew hlt => hhorse.kept.advanceTick_advanceTick hnew hlt,
    fun _ _ hnew hlt => RecallKernel.advanceTick_advanceTick hnew hlt, ?_,
    horse.despawnsExactly, hrecall.kept.readiesExactly, recallKernel.returnsExactly⟩
  intro command application ticks tick hdamage hsurvived hnew hsorted
  exact hhorse.kept.health_of_damage hdamage hsurvived hnew hsorted

def blow (tick : SimulationTick) (sequence : UInt64) (amount : UInt16) : HorseDamageCommand :=
  ⟨⟨1, tick, sequence⟩, amount, ⟨0, 0, 0⟩, ⟨0, 0, 1000⟩⟩

/-- A horse that has been hit at tick 5, and heals again. -/
def woundedHorse : HorseVitalityKernel :=
  Runs.run HorseVitalityKernel.step (.new .courser)
    [.advanceTick 5, .applyDamage (blow 5 1 100), .advanceTick 400]

def coolingRecall : RecallKernel :=
  Runs.run RecallKernel.step .default
    [.loseHorse 10 5, .advanceTick 300, .applyCredit ⟨⟨1, 300, 1⟩, .damageDealt 250⟩]

theorem forall_new {clock : Option SimulationTick} {now : SimulationTick} {ticks : List SimulationTick}
    (hclock : clock = some now) (hlater : ticks.all (now < ·) = true) :
    ∀ t ∈ ticks, ∀ current ∈ clock, current < t := by
  intro t ht current hcurrent
  cases hclock.symm.trans hcurrent
  exact of_decide_eq_true (List.all_eq_true.mp hlater t ht)

/-- The horse is hit again at tick 400 and heals from tick 760 on, and the cooldown ends at tick
610. -/
theorem clock_only_wounded :
    ((woundedHorse.advanceTick 500).2.advanceTick 900).2 = (woundedHorse.advanceTick 900).2
      ∧ (Runs.run HorseVitalityKernel.advanceTick (woundedHorse.applyDamage (blow 400 2 60)).2
        [500, 900]).health = 69
      ∧ (Runs.run RecallKernel.advanceTick coolingRecall [400, 1200]).state = .ready
      ∧ (Runs.run RecallKernel.advanceTick coolingRecall [400, 1200]).phaseEnterTick
        = some 610 := by
  have hhorse : woundedHorse.Reached :=
    ⟨_, _, HorseVitalityKernel.new_stateIsValid .courser, rfl⟩
  have hrecall : coolingRecall.Reached := ⟨.default, _, by decide, rfl⟩
  obtain ⟨hclock, -, hheals, -, hreadies, -⟩ := clock_only hhorse hrecall
  have hblow : ((woundedHorse.applyDamage (blow 400 2 60)).1.any fun application =>
      decide (application.spooked = false ∧ application.healthAfter = 46)) = true := by decide
  obtain ⟨application, happlied, hsurvived⟩ := (Option.any_eq_true _ _).mp hblow
  obtain ⟨hspooked, hafter⟩ := of_decide_eq_true hsurvived
  have hnew : ∀ t ∈ [(500 : SimulationTick)] ++ [900], ∀ current ∈ woundedHorse.currentTick,
      current < t := @forall_new _ 400 _ (by decide +kernel) (by decide)
  refine ⟨hclock 500 900 (hnew 500 List.mem_cons_self) (by decide), UInt16.toNat_inj.mp ?_, ?_⟩
  · have hhealth := hheals (blow 400 2 60) application [500] 900 happlied hspooked hnew (by decide)
    rw [hafter] at hhealth
    exact hhealth.trans (by decide)
  · rcases hreadies 10 [400] 1200 (by decide) (by decide) (by decide)
      (@forall_new _ 300 _ (by decide +kernel) (by decide)) (by decide) with
      ⟨hearly, -⟩ | ⟨-, hready, entered, hentered, htick⟩
    · exact absurd hearly (by decide)
    · refine ⟨hready, hentered.trans (congrArg some (UInt64.toNat_inj.mp (htick.trans ?_)))⟩
      decide

/-- A cooldown that begins at tick `2 ^ 64 - 2` is over one tick later, at the last representable tick:
the claim that the ready tick is always the exact boundary is false. -/
theorem readies_early_at_last_tick :
    ¬∀ (despawnTick tick : SimulationTick), despawnTick < tick →
      ((RecallKernel.default.loseHorse despawnTick despawnTick).2.advanceTick tick).2.state = .ready →
      despawnTick.toNat + 1200 ≤ tick.toNat := by
  intro h
  have hlast := h 0xfffffffffffffffe 0xffffffffffffffff (by decide) (by decide)
  revert hlast
  decide

end Spurfire
