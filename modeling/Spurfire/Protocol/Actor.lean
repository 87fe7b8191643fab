import Spurfire.Lib.Fallible
import Spurfire.Protocol.OnFoot
import Spurfire.Protocol.Recall

/-!
# One gameplay actor

`ActorGameplayKernel` of `m3.rs`: one rider and one horse on a shared tick.  A tick moves the horse,
the Spur meter, the rider on foot and the recall one after another, and any of them may refuse it.

* `ActorGameplayKernel.advanceTick`: the composed tick, as a program that may fail;
* `ActorGameplayKernel.Composed`: the invariant across the five kernels;
* **`actor_tick`**: a tick fails exactly when it is stale, and then changes nothing;
* **`horse_damage_once`**: no damage is applied twice, unless it is replayed across a respawn.
-/

namespace Spurfire

open Fallible

/-! ## Inputs and outputs -/

structure ActorM3TickInput where
  tick : SimulationTick
  onFoot : OnFootTickInput
  interactPressed : Bool
  spurPressed : Bool
  mountedForSpur : Bool
  riderPosition : QuantizedOrigin
  returnHorsePosition : QuantizedOrigin
  returnHorseMoving : Bool
deriving DecidableEq

structure ActorM3TickOutput where
  mode : ActorM3Mode
  onFoot : Option OnFootTickOutput
  recallOutput : Option RecallTickOutput
  horseDespawned : Bool
  remounted : Bool
  runningMount : Bool
  spur : SpurTickOutput
deriving DecidableEq

inductive M3CheckpointError
  | wireVersionMismatch
  | invalidState
deriving DecidableEq

/-- An error of the kernel, or the debug assertion of a remount; a release build goes on there. -/
inductive ActorFailure
  | error (e : M3Error)
  | assertion
deriving DecidableEq

/-! ## The kernel -/

namespace ActorGameplayKernel

protected def new (horseClass : HorseVitalityClass) : ActorGameplayKernel where
  currentTick := none
  horse := .new horseClass
  onFoot := .default
  recallKernel := .default
  horseLossTick := none
  pendingHorseLossEffects := none
  spur := .default

/-- A new life on the same clock and with the same Spur economy. -/
def respawn (k : ActorGameplayKernel) : ActorGameplayKernel :=
  { currentTick := k.currentTick
    horse := { HorseVitalityKernel.new k.horse.horseClass with currentTick := k.currentTick }
    onFoot := { OnFootKernel.default with currentTick := k.currentTick }
    recallKernel := { RecallKernel.default with currentTick := k.currentTick }
    horseLossTick := none
    pendingHorseLossEffects := none
    spur := k.spur }

/-- Acknowledges the exact fatal event that was delivered. -/
def acknowledgeHorseLossEffects (k : ActorGameplayKernel) (id : AuthorityReceiptId) :
    Bool × ActorGameplayKernel :=
  match k.pendingHorseLossEffects.bind (·.horseBolted) with
  | none => (false, k)
  | some event =>
    if event.id ≠ id then (false, k) else (true, { k with pendingHorseLossEffects := none })

def checkpoint (k : ActorGameplayKernel) : ActorGameplayCheckpointV2 := ⟨M3_WIRE_VERSION, k⟩

/-- The kernels agree on whether the horse is there. -/
def crossKernelValid (k : ActorGameplayKernel) : Bool :=
  match k.horse.state with
  | .available => decide (k.recallKernel.state = .horsePresent) && k.horseLossTick.isNone
  | .bolting => decide (k.recallKernel.state = .horsePresent)
      && decide (k.horseLossTick = k.horse.boltStartedTick)
  | .despawned => decide (k.recallKernel.state ≠ .horsePresent)
      && decide (k.horseLossTick = k.recallKernel.horseLossTick)

/-- An undelivered fatal event belongs to the loss that is recorded. -/
def pendingValid (k : ActorGameplayKernel) : Bool :=
  k.pendingHorseLossEffects.all fun effects => effects.horseBolted.any fun event =>
    decide (effects.application.healthBefore > 0)
      && decide (effects.application.healthAfter = 0)
      && effects.application.spooked
      && decide (effects.application.boltAwayDeltaMm = k.horse.boltAwayDeltaMm)
      && decide (effects.application.riderThrowDistanceMm = SPOOK_THROW_DISTANCE_MM)
      && decide (effects.application.riderStunTicks = SPOOK_STUN_TICKS)
      && !effects.application.riderFallDamage
      && decide (some event.id = k.horse.lastDamageId)
      && decide (event.horseClass = k.horse.horseClass)
      && decide (event.boltAwayDeltaMm = k.horse.boltAwayDeltaMm)
      && decide (event.notificationPoints = 15)
      && decide (some event.id.tick = k.recallKernel.horseLossTick.or k.horseLossTick)

/-- Validates every kernel before migrated state is accepted. -/
def restoreCheckpoint (c : ActorGameplayCheckpointV2) :
    Except M3CheckpointError ActorGameplayKernel :=
  if c.wireVersion ≠ M3_WIRE_VERSION then .error .wireVersionMismatch
  else if !c.actor.horse.stateIsValid || !c.actor.onFoot.stateIsValid
      || !c.actor.recallKernel.stateIsValid || !c.actor.spur.stateIsValid
      || !tickIsNotAfter c.actor.horse.currentTick c.actor.currentTick
      || !tickIsNotAfter c.actor.onFoot.currentTick c.actor.currentTick
      || !tickIsNotAfter c.actor.recallKernel.currentTick c.actor.currentTick
      || !tickIsNotAfter c.actor.spur.currentTick c.actor.currentTick then .error .invalidState
  else if !c.actor.crossKernelValid || !c.actor.pendingValid then .error .invalidState
  else .ok c.actor

/-- Applies one horse-damage command; fatal damage begins the stun of the rider with it. -/
def applyHorseDamage (k : ActorGameplayKernel) (command : HorseDamageCommand) :
    Option HorseDamageEffects × ActorGameplayKernel :=
  if k.currentTick.any fun current => command.id.tick ≠ current then (none, k)
  else
    match k.horse.applyDamage command with
    | (none, _) => (none, k)
    | (some application, horse) =>
      if application.spooked then
        match k.onFoot.beginSpookStun command.id.tick with
        | (false, _) => (none, k)
        | (true, onFoot) =>
          let effects : HorseDamageEffects := {
            application
            horseBolted := some {
              id := command.id
              horseClass := horse.horseClass
              boltAwayDeltaMm := application.boltAwayDeltaMm
              notificationPoints := 15 } }
          (some effects, { k with
            horse
            onFoot
            horseLossTick := some command.id.tick
            pendingHorseLossEffects := some effects })
      else (some { application, horseBolted := none }, { k with horse })

def applyRecallCredit (k : ActorGameplayKernel) (command : RecallCreditCommand) :
    Bool × ActorGameplayKernel :=
  let (accepted, recallKernel) := k.recallKernel.applyCredit command
  (accepted, { k with recallKernel })

def applySpurCredit (k : ActorGameplayKernel) (command : SpurCreditCommand) :
    Option UInt8 × ActorGameplayKernel :=
  let (points, spur) := k.spur.applyCredit command
  (points, { k with spur })

/-- The bank issues an award under the next sequence of the meter. -/
def issueSpurCredit (k : ActorGameplayKernel) (authorityEpoch : UInt64) (tick : SimulationTick)
    (kind : SpurCreditKind) : Option UInt8 × ActorGameplayKernel :=
  let (points, spur) := k.spur.issueCredit authorityEpoch tick kind
  (points, { k with spur })

/-! ## A tick, part by part -/

/-- A part of a tick. -/
abbrev Part (α : Type) := Prog ActorGameplayKernel ActorFailure α

/-- An error of one of the kernels ends the tick. -/
def failed {α : Type} (result : Except M3Error α) : Except ActorFailure α :=
  result.mapError .error

/-- Refuses a stale tick, and moves the clock of the actor. -/
def beginTick (input : ActorM3TickInput) : Part Unit := act fun k =>
  if input.onFoot.tick ≠ input.tick ∨ (k.currentTick.any fun current => input.tick ≤ current) then
    (.error (.error .tickReplay), k)
  else (.ok (), { k with currentTick := some input.tick })

def tickHorse (tick : SimulationTick) : Part (Option SimulationTick) := act fun k =>
  let (despawned, horse) := k.horse.advanceTick tick
  (failed despawned, { k with horse })

/-- Starts the recall of a horse that has just despawned. -/
def loseHorse : Option SimulationTick → Part Unit
  | none => pure ()
  | some despawnTick => act fun k =>
    match k.horseLossTick with
    | none => (.error (.error .invalidState), k)
    | some horseLossTick =>
      let (lost, recallKernel) := k.recallKernel.loseHorse despawnTick horseLossTick
      (failed lost, { k with recallKernel })

def spurContext (k : ActorGameplayKernel) (mountedForSpur : Bool) : SpurSpendContext :=
  if k.horse.state = .available ∧ mountedForSpur then .mounted
  else if k.horse.state = .despawned
      ∧ (k.recallKernel.state = .coolingDown ∨ k.recallKernel.state = .ready) then .horseAbsent
  else .ineligible

def tickSpur (input : ActorM3TickInput) : Part SpurTickOutput := act fun k =>
  let (output, spur) := k.spur.advanceTick input.tick input.spurPressed
    (k.spurContext input.mountedForSpur)
  (output.mapError fun _ => .error .tickReplay, { k with spur })

/-- The rider moves on foot while the horse is not available. -/
def tickOnFoot (input : ActorM3TickInput) : Part (Option OnFootTickOutput) := act fun k =>
  if k.horse.state ≠ .available then
    let (output, onFoot) := k.onFoot.advanceTick input.onFoot
    ((failed output).map some, { k with onFoot })
  else (.ok none, k)

/-- The recall moves once the horse is gone; a despawn on this very tick leaves it where it is. -/
def tickRecall (tick : SimulationTick) (despawned : Option SimulationTick) :
    Part (Option RecallTickOutput) := act fun k =>
  match despawned with
  | some despawnTick =>
    if tick > despawnTick then
      let (output, recallKernel) := k.recallKernel.advanceTick tick
      ((failed output).map some, { k with recallKernel })
    else
      (.ok (some {
        state := k.recallKernel.state
        readyTick := k.recallKernel.readyTick
        cooldownRemainingTicks :=
          (k.recallKernel.readyTick.bind fun ready => UInt64.checkedSub ready tick).getD 0
        mountWindowOpened := false }), k)
  | none =>
    if k.horse.state = .despawned then
      let (output, recallKernel) := k.recallKernel.advanceTick tick
      ((failed output).map some, { k with recallKernel })
    else (.ok none, k)

/-- A return begins: at once for a spent meter, or on the Spur button once it is ready. -/
def requestReturn (input : ActorM3TickInput) (spend : Option SpurSpendOutcome)
    (recalled : Option RecallTickOutput) : Part (Option RecallTickOutput) := act fun k =>
  if spend = some .instantMajesticReturn then
    match k.recallKernel.requestRecallInstant input.tick with
    | (false, recallKernel) => (.error (.error .invalidState), { k with recallKernel })
    | (true, recallKernel) =>
      (.ok (recalled.map fun output => { output with state := recallKernel.state }),
        { k with recallKernel })
  else if input.spurPressed ∧ k.recallKernel.state = .ready then
    let (_, recallKernel) := k.recallKernel.requestRecall input.tick
    (.ok (recalled.map fun output => { output with state := recallKernel.state }),
      { k with recallKernel })
  else (.ok recalled, k)

/-- The rider mounts the horse that has come back; the answer says whether, and whether running. -/
def remount (input : ActorM3TickInput) : Part (Bool × Bool) := act fun k =>
  let runningMountCandidate := decide (k.recallKernel.state = .mountWindow) && input.returnHorseMoving
  if (k.recallKernel.state = .mountWindow ∨ k.recallKernel.state = .waitingMount)
      ∧ input.interactPressed then
    match k.recallKernel.tryMount input.tick input.riderPosition input.returnHorsePosition
        input.returnHorseMoving with
    | (false, recallKernel) => (.ok (false, runningMountCandidate), { k with recallKernel })
    | (true, recallKernel) =>
      match k.horse.restoreReturnedHorse with
      | (false, horse) => (.error .assertion, { k with recallKernel, horse })
      | (true, horse) => (.ok (true, runningMountCandidate), { k with
          recallKernel
          horse
          onFoot := .default
          horseLossTick := none })
  else (.ok (false, runningMountCandidate), k)

def tickProgram (input : ActorM3TickInput) : Part ActorM3TickOutput := do
  beginTick input
  let despawned ← tickHorse input.tick
  loseHorse despawned
  let spur ← tickSpur input
  let onFoot ← tickOnFoot input
  let recalled ← tickRecall input.tick despawned
  let recalled ← requestReturn input spur.spend recalled
  let (remounted, runningMountCandidate) ← remount input
  act fun k => (.ok {
    mode := k.mode
    onFoot := if remounted then none else onFoot
    recallOutput := if remounted then none else recalled
    horseDespawned := despawned.isSome
    remounted
    runningMount := remounted && runningMountCandidate
    spur }, k)

/-- Advances horse, rider, recall and remount on one shared tick. -/
def advanceTick (k : ActorGameplayKernel) (input : ActorM3TickInput) :
    Except ActorFailure ActorM3TickOutput × ActorGameplayKernel :=
  exec (tickProgram input) k

end ActorGameplayKernel

/-! ## Calls -/

inductive ActorCall
  | applyHorseDamage (command : HorseDamageCommand)
  | applyRecallCredit (command : RecallCreditCommand)
  | applySpurCredit (command : SpurCreditCommand)
  | issueSpurCredit (authorityEpoch : UInt64) (tick : SimulationTick) (kind : SpurCreditKind)
  | acknowledgeHorseLossEffects (id : AuthorityReceiptId)
  | respawn
  | advanceTick (input : ActorM3TickInput)
deriving DecidableEq

inductive ActorAnswer
  | damaged (effects : Option HorseDamageEffects)
  | done (accepted : Bool)
  | credited (points : Option UInt8)
  | respawned
  | ticked (output : Except ActorFailure ActorM3TickOutput)

namespace ActorGameplayKernel

def step (k : ActorGameplayKernel) : ActorCall → ActorAnswer × ActorGameplayKernel
  | .applyHorseDamage command =>
    let (effects, k') := k.applyHorseDamage command
    (.damaged effects, k')
  | .applyRecallCredit command =>
    let (accepted, k') := k.applyRecallCredit command
    (.done accepted, k')
  | .applySpurCredit command =>
    let (points, k') := k.applySpurCredit command
    (.credited points, k')
  | .issueSpurCredit authorityEpoch tick kind =>
    let (points, k') := k.issueSpurCredit authorityEpoch tick kind
    (.credited points, k')
  | .acknowledgeHorseLossEffects id =>
    let (accepted, k') := k.acknowledgeHorseLossEffects id
    (.done accepted, k')
  | .respawn => (.respawned, k.respawn)
  | .advanceTick input =>
    let (output, k') := k.advanceTick input
    (.ticked output, k')

/-- A fresh actor, or one restored from a checkpoint that passes validation. -/
def Started (k : ActorGameplayKernel) : Prop :=
  (∃ horseClass, k = .new horseClass) ∨ ∃ c, restoreCheckpoint c = .ok k

/-- A run of the public operations leads from a start to `k`. -/
def Reached (k : ActorGameplayKernel) : Prop :=
  ∃ start calls, Started start ∧ Runs.run step start calls = k

/-! ## The invariant across the kernels -/

/-- The clock lies before `tick`. -/
def Fresh (clock : Option SimulationTick) (tick : SimulationTick) : Prop :=
  ∀ current ∈ clock, current < tick

theorem fresh_of_tickIsNotAfter {clock now : Option SimulationTick} {tick : SimulationTick}
    (h : tickIsNotAfter clock now = true) (hnow : Fresh now tick) : Fresh clock tick := by
  rintro current ⟨⟩
  cases now with
  | none => exact nomatch h
  | some now => exact UInt64.lt_of_le_of_lt (of_decide_eq_true h) (hnow now rfl)

theorem tickIsNotAfter_self (clock : Option SimulationTick) : tickIsNotAfter clock clock = true := by
  cases clock with
  | none => rfl
  | some current => exact decide_eq_true (UInt64.le_refl current)

theorem tickIsNotAfter_of_fresh {clock : Option SimulationTick} {tick : SimulationTick}
    (h : Fresh clock tick) : tickIsNotAfter clock (some tick) = true := by
  cases clock with
  | none => rfl
  | some current => exact decide_eq_true (UInt64.le_of_lt (h current rfl))

/-- Where the kernels agree: on the loss of a bolting horse, and on a horse that is still there. -/
structure Agree (k : ActorGameplayKernel) : Prop where
  bolting : k.horse.state = .bolting → ∃ started, k.horse.boltStartedTick = some started
    ∧ k.horseLossTick = some started
  present : k.horse.state ≠ .despawned → k.recallKernel.state = .horsePresent
  armed : k.onFoot.Armed

/-- What every run keeps: the kernels agree, and none of their clocks is ahead of the actor's. -/
structure Composed (k : ActorGameplayKernel) : Prop where
  agree : k.Agree
  horseClock : tickIsNotAfter k.horse.currentTick k.currentTick = true
  footClock : tickIsNotAfter k.onFoot.currentTick k.currentTick = true
  recallClock : tickIsNotAfter k.recallKernel.currentTick k.currentTick = true
  spurClock : tickIsNotAfter k.spur.currentTick k.currentTick = true

theorem composed_new (horseClass : HorseVitalityClass) :
    (ActorGameplayKernel.new horseClass).Composed :=
  ⟨⟨nofun, fun _ => rfl, OnFootKernel.armed_default⟩, rfl, rfl, rfl, rfl⟩

theorem Composed.respawn {k : ActorGameplayKernel} (h : k.Composed) : k.respawn.Composed :=
  ⟨⟨nofun, fun _ => rfl, ⟨nofun, nofun⟩⟩, tickIsNotAfter_self _, tickIsNotAfter_self _,
    tickIsNotAfter_self _, h.spurClock⟩

/-- The checkpoint validator establishes the invariant. -/
theorem composed_of_restoreCheckpoint {c : ActorGameplayCheckpointV2} {k : ActorGameplayKernel}
    (h : restoreCheckpoint c = .ok k) : k.Composed := by
  unfold restoreCheckpoint at h
  split_ifs at h with hwire hkernels hcross
  cases h
  simp only [Bool.or_eq_true, Bool.not_eq_true', not_or, Bool.not_eq_false] at hkernels hcross
  obtain ⟨⟨⟨⟨⟨⟨⟨hhorse, hfoot⟩, -⟩, -⟩, hhorseClock⟩, hfootClock⟩, hrecallClock⟩, hspurClock⟩ :=
    hkernels
  have hvalid := hcross.1
  unfold crossKernelValid at hvalid
  refine ⟨⟨fun hstate => ?_, fun hstate => ?_, OnFootKernel.armed_of_stateIsValid hfoot⟩,
    hhorseClock, hfootClock, hrecallClock, hspurClock⟩
  · unfold HorseVitalityKernel.stateIsValid HorseVitalityKernel.boltIsValid at hhorse
    rw [hstate] at hvalid hhorse
    simp only [Bool.and_eq_true, decide_eq_true_eq, Option.any_eq_true] at hvalid hhorse
    obtain ⟨-, -, started, hstarted, -⟩ := hhorse
    exact ⟨started, hstarted, hvalid.2.trans hstarted⟩
  · cases hhorseState : c.actor.horse.state with
    | available =>
      rw [hhorseState] at hvalid
      simp only [Bool.and_eq_true, decide_eq_true_eq] at hvalid
      exact hvalid.1
    | bolting =>
      rw [hhorseState] at hvalid
      simp only [Bool.and_eq_true, decide_eq_true_eq] at hvalid
      exact hvalid.1
    | despawned => exact absurd hhorseState hstate

/-! ### Damage -/

/-- What an accepted damage command does to the actor. -/
structure ActorDamaged (k : ActorGameplayKernel) (command : HorseDamageCommand)
    (effects : HorseDamageEffects) (k' : ActorGameplayKernel) : Prop where
  horse : HorseVitalityKernel.Damaged k.horse command effects.application k'.horse
  clock : k'.currentTick = k.currentTick
  dated : ∀ current ∈ k.currentTick, command.id.tick = current
  recallKernel : k'.recallKernel = k.recallKernel
  spur : k'.spur = k.spur
  survived : effects.application.spooked = false →
    k'.onFoot = k.onFoot ∧ k'.horseLossTick = k.horseLossTick ∧ effects.horseBolted = none
  spooked : effects.application.spooked = true →
    k'.onFoot = (k.onFoot.beginSpookStun command.id.tick).2
      ∧ (k.onFoot.beginSpookStun command.id.tick).1 = true
      ∧ k'.horseLossTick = some command.id.tick
      ∧ ∃ event, effects.horseBolted = some event ∧ event.id = command.id

theorem applyHorseDamage_cases (k : ActorGameplayKernel) (command : HorseDamageCommand) :
    k.applyHorseDamage command = (none, k)
      ∨ ∃ effects k', k.applyHorseDamage command = (some effects, k')
        ∧ ActorDamaged k command effects k' := by
  unfold applyHorseDamage
  by_cases hlate : (k.currentTick.any fun current => command.id.tick ≠ current) = true
  · rw [if_pos hlate]
    exact Or.inl rfl
  · rw [if_neg hlate]
    have hdated : ∀ current ∈ k.currentTick, command.id.tick = current := by
      intro current hcurrent
      rw [Option.mem_def] at hcurrent
      rw [hcurrent, Option.any_some, decide_eq_true_eq, not_not] at hlate
      exact hlate
    rcases k.horse.applyDamage_cases command with ⟨-, heq⟩ | ⟨application, horse, heq, hdamaged⟩
    · rw [heq]
      exact Or.inl rfl
    · rw [heq]
      dsimp only
      by_cases hspooked : application.spooked = true
      · rw [if_pos hspooked]
        rcases hstun : k.onFoot.beginSpookStun command.id.tick with ⟨begun, onFoot⟩
        cases begun with
        | false => exact Or.inl rfl
        | true =>
          refine Or.inr ⟨_, _, rfl, hdamaged, rfl, hdated, rfl, rfl, fun hsurvived => ?_, fun _ => ?_⟩
          · exact nomatch hspooked.symm.trans hsurvived
          · exact ⟨by rw [hstun], by rw [hstun], rfl, _, rfl, rfl⟩
      · rw [if_neg hspooked]
        refine Or.inr ⟨_, _, rfl, hdamaged, rfl, hdated, rfl, rfl, fun _ => ⟨rfl, rfl, rfl⟩,
          fun hfatal => absurd hfatal hspooked⟩

theorem Composed.applyHorseDamage {k : ActorGameplayKernel} (h : k.Composed)
    (command : HorseDamageCommand) : (k.applyHorseDamage command).2.Composed := by
  rcases k.applyHorseDamage_cases command with heq | ⟨effects, k', heq, hdamaged⟩
  · rw [heq]
    exact h
  · rw [heq]
    have hpresent := h.agree.present (by rw [hdamaged.horse.available]; decide)
    have hclock : tickIsNotAfter k'.horse.currentTick k'.currentTick = true := by
      rw [hdamaged.horse.clock, hdamaged.clock]
      exact h.horseClock
    have hrecall : tickIsNotAfter k'.recallKernel.currentTick k'.currentTick = true := by
      rw [hdamaged.recallKernel, hdamaged.clock]
      exact h.recallClock
    have hspur : tickIsNotAfter k'.spur.currentTick k'.currentTick = true := by
      rw [hdamaged.spur, hdamaged.clock]
      exact h.spurClock
    by_cases hspooked : effects.application.spooked = true
    · obtain ⟨hfoot, -, hloss, -⟩ := hdamaged.spooked hspooked
      obtain ⟨harmed, hfootClock⟩ := h.agree.armed.beginSpookStun command.id.tick
      refine ⟨⟨fun _ => ⟨command.id.tick, ?_, hloss⟩, fun _ => ?_, ?_⟩, hclock, ?_, hrecall, hspur⟩
      · rw [hdamaged.horse.started, if_pos hspooked]
      · rw [hdamaged.recallKernel]
        exact hpresent
      · rw [hfoot]
        exact harmed
      · rw [hfoot, hfootClock, hdamaged.clock]
        exact h.footClock
    · obtain ⟨hfoot, -, -⟩ := hdamaged.survived (Bool.eq_false_iff.mpr hspooked)
      have hstate := hdamaged.horse.state
      rw [if_neg hspooked] at hstate
      refine ⟨⟨fun hbolting => (nomatch hstate.symm.trans hbolting), fun _ => ?_, ?_⟩, hclock, ?_,
        hrecall, hspur⟩
      · rw [hdamaged.recallKernel]
        exact hpresent
      · rw [hfoot]
        exact h.agree.armed
      · rw [hfoot, hdamaged.clock]
        exact h.footClock

/-! ### A tick -/

/-- Nothing fails from here on. -/
def NoFailure (_ : ActorFailure) (_ : ActorGameplayKernel) : Prop := False

/-- The horse has moved to `tick`, and the kernels agree. -/
structure Moved (tick : SimulationTick) (k : ActorGameplayKernel) : Prop where
  agree : k.Agree
  clock : k.currentTick = some tick
  horseClock : k.horse.currentTick = some tick

/-- The recall has not moved yet; a loss on this tick has put its clock at the despawn. -/
def RecallWaits (tick : SimulationTick) (despawned : Option SimulationTick)
    (k : ActorGameplayKernel) : Prop :=
  match despawned with
  | none => Fresh k.recallKernel.currentTick tick
  | some despawnTick => despawnTick ≤ tick ∧ k.recallKernel.currentTick = some despawnTick
    ∧ k.horse.state = .despawned

/-- A meter spent on a return found the horse gone and the recall waiting. -/
def SpendFits (spend : Option SpurSpendOutcome) (k : ActorGameplayKernel) : Prop :=
  spend = some .instantMajesticReturn → k.horse.state = .despawned
    ∧ (k.recallKernel.state = .coolingDown ∨ k.recallKernel.state = .ready)

/-- A bolt that ends starts the recall. -/
theorem ends_tickHorse {k : ActorGameplayKernel} {tick : SimulationTick} (h : k.Agree)
    (hclock : k.currentTick = some tick) (hhorse : Fresh k.horse.currentTick tick)
    (hrecall : Fresh k.recallKernel.currentTick tick) {α : Type}
    {rest : Option SimulationTick → Part α} {Q : α → ActorGameplayKernel → Prop}
    (hrest : ∀ despawned k', Moved tick k' → RecallWaits tick despawned k' →
      k'.onFoot = k.onFoot → k'.spur = k.spur → Ends NoFailure k' (rest despawned) Q) :
    Ends NoFailure k (do
      let despawned ← tickHorse tick
      loseHorse despawned
      rest despawned) Q := by
  have hmoves := HorseVitalityKernel.advanceTick_ok hhorse fun hstate =>
    (h.bolting hstate).imp fun _ hstarted => hstarted.1
  have hmoved := HorseVitalityKernel.advanceTick_snd hhorse
  have hhorseClock : (k.horse.advanceTick tick).2.currentTick = some tick := by rw [hmoved]
  have hstarted : (k.horse.advanceTick tick).2.boltStartedTick = k.horse.boltStartedTick := by
    rw [hmoved]
  rcases hmoves with ⟨hanswer, hstate⟩ | ⟨started, despawnTick, hbolting, hstart, hanswer, hgone,
    hle, hdue⟩
  · have hact : (match k.horse.advanceTick tick with
        | (despawned, horse) => (failed despawned, { k with horse }))
        = (.ok none, { k with horse := (k.horse.advanceTick tick).2 }) := by
      rw [← Prod.mk.eta (p := k.horse.advanceTick tick), hanswer]
      rfl
    refine ends_bind (ends_act_ok hact ?_)
    refine ends_bind (ends_pure ?_)
    refine hrest none _ ⟨⟨fun hbolting => ?_, fun hpresent => ?_, h.armed⟩, hclock, hhorseClock⟩
      hrecall rfl rfl
    · obtain ⟨started, hstart, hloss⟩ := h.bolting (hstate.symm.trans hbolting)
      exact ⟨started, hstarted.trans hstart, hloss⟩
    · exact h.present (hstate ▸ hpresent)
  · obtain ⟨started', hstart', hloss⟩ := h.bolting hbolting
    obtain rfl := Option.some.inj (hstart.symm.trans hstart')
    have hpresent := h.present (by rw [hbolting]; decide)
    have hact : (match k.horse.advanceTick tick with
        | (despawned, horse) => (failed despawned, { k with horse }))
        = (.ok (some despawnTick), { k with horse := (k.horse.advanceTick tick).2 }) := by
      rw [← Prod.mk.eta (p := k.horse.advanceTick tick), hanswer]
      rfl
    refine ends_bind (ends_act_ok hact ?_)
    have hlost : (k.recallKernel.loseHorse despawnTick started).1 = .ok ()
        ∧ (k.recallKernel.loseHorse despawnTick started).2.currentTick = some despawnTick := by
      unfold RecallKernel.loseHorse
      rw [if_neg (by
        rintro (hstate | hlate)
        · exact hstate hpresent
        · exact UInt64.not_lt.mpr hle hlate)]
      exact ⟨rfl, rfl⟩
    refine ends_bind (ends_act_ok (a := ()) (t := { k with
      horse := (k.horse.advanceTick tick).2
      recallKernel := (k.recallKernel.loseHorse despawnTick started).2 }) ?_ ?_)
    · dsimp only
      rw [hloss]
      dsimp only
      rw [hlost.1]
      rfl
    · refine hrest (some despawnTick) _ ⟨⟨fun hbolting => ?_, fun hstate => ?_, h.armed⟩, hclock,
        hhorseClock⟩ ⟨hdue, hlost.2, hgone⟩ rfl rfl
      · exact nomatch hgone.symm.trans hbolting
      · exact absurd hgone hstate

/-- The meter has its own clock, and a return is spent only while the horse is gone. -/
theorem ends_tickSpur {k : ActorGameplayKernel} {input : ActorM3TickInput} {E : ActorFailure →
    ActorGameplayKernel → Prop} {Q : SpurTickOutput → ActorGameplayKernel → Prop}
    (hspur : Fresh k.spur.currentTick input.tick)
    (hrest : ∀ output spur, spur.currentTick = some input.tick → SpendFits output.spend k →
      Q output { k with spur }) : Ends E k (tickSpur input) Q := by
  obtain ⟨⟨output, hanswer, hcontext⟩, hclock⟩ := k.spur.advanceTick_ok input.spurPressed
    (k.spurContext input.mountedForSpur) hspur
  have hfits : SpendFits output.spend k := by
    intro hspend
    have habsent := hcontext hspend
    unfold spurContext at habsent
    split_ifs at habsent with hmounted hgone
    exact hgone
  refine ends_act_ok (a := output) ?_ (hrest output _ hclock hfits)
  rw [← Prod.mk.eta (p := k.spur.advanceTick input.tick input.spurPressed
    (k.spurContext input.mountedForSpur)), hanswer]
  rfl

theorem ends_tickOnFoot {k : ActorGameplayKernel} {input : ActorM3TickInput} {E : ActorFailure →
    ActorGameplayKernel → Prop} {Q : Option OnFootTickOutput → ActorGameplayKernel → Prop}
    (harmed : k.onFoot.Armed) (htick : input.onFoot.tick = input.tick)
    (hfoot : Fresh k.onFoot.currentTick input.tick)
    (hrest : ∀ output onFoot, onFoot.Armed →
      tickIsNotAfter onFoot.currentTick (some input.tick) = true → Q output { k with onFoot }) :
    Ends E k (tickOnFoot input) Q := by
  by_cases hstate : k.horse.state ≠ .available
  · obtain ⟨output, onFoot, heq, hclock, harmed'⟩ := harmed.advanceTick (by rw [htick]; exact hfoot)
    refine ends_act_ok (a := some output) (t := { k with onFoot }) ?_ (hrest _ _ harmed' ?_)
    · rw [if_pos hstate, heq]
      rfl
    · rw [hclock, htick]
      exact tickIsNotAfter_self _
  · refine ends_act_ok (a := none) (t := k) ?_
      (hrest none k.onFoot harmed (tickIsNotAfter_of_fresh hfoot))
    rw [if_neg hstate]

/-- The recall moves to the tick once the horse is gone, and otherwise stays. -/
theorem ends_tickRecall {k : ActorGameplayKernel} {tick : SimulationTick}
    {despawned : Option SimulationTick} {spend : Option SpurSpendOutcome} {E : ActorFailure →
    ActorGameplayKernel → Prop} {Q : Option RecallTickOutput → ActorGameplayKernel → Prop}
    (hwaits : RecallWaits tick despawned k) (hfits : SpendFits spend k)
    (hrest : ∀ output recallKernel,
      tickIsNotAfter recallKernel.currentTick (some tick) = true →
      (k.horse.state = .despawned → recallKernel.currentTick = some tick) →
      (k.horse.state ≠ .despawned → recallKernel = k.recallKernel) →
      SpendFits spend { k with recallKernel } → Q output { k with recallKernel }) :
    Ends E k (tickRecall tick despawned) Q := by
  -- a recall that moves
  have hmove : Fresh k.recallKernel.currentTick tick → k.horse.state = .despawned →
      ∃ output, (k.recallKernel.advanceTick tick).1 = .ok output
        ∧ Q (some output) { k with recallKernel := (k.recallKernel.advanceTick tick).2 } := by
    intro hfresh hgone
    obtain ⟨⟨output, hanswer⟩, hclock, hstays⟩ := RecallKernel.advanceTick_ok hfresh
    refine ⟨output, hanswer, hrest _ _ ?_ (fun _ => hclock) (fun hstate => absurd hgone hstate)
      fun hspend => ⟨hgone, hstays (hfits hspend).2⟩⟩
    rw [hclock]
    exact tickIsNotAfter_self _
  unfold tickRecall
  cases despawned with
  | none =>
    by_cases hgone : k.horse.state = .despawned
    · obtain ⟨output, hanswer, hq⟩ := hmove hwaits hgone
      refine ends_act_ok ?_ hq
      dsimp only
      rw [if_pos hgone, ← Prod.mk.eta (p := k.recallKernel.advanceTick tick), hanswer]
      rfl
    · refine ends_act_ok (a := none) (t := k) ?_ (hrest none k.recallKernel
        (tickIsNotAfter_of_fresh hwaits) (fun hstate => absurd hstate hgone) (fun _ => rfl) hfits)
      dsimp only
      rw [if_neg hgone]
  | some despawnTick =>
    obtain ⟨hdue, hclock, hgone⟩ := hwaits
    by_cases hlater : tick > despawnTick
    · have hfresh : Fresh k.recallKernel.currentTick tick := by
        rw [hclock]
        rintro current ⟨⟩
        exact hlater
      obtain ⟨output, hanswer, hq⟩ := hmove hfresh hgone
      refine ends_act_ok ?_ hq
      dsimp only
      rw [if_pos hlater, ← Prod.mk.eta (p := k.recallKernel.advanceTick tick), hanswer]
      rfl
    · have hsame : despawnTick = tick :=
        UInt64.le_antisymm hdue (UInt64.not_lt.mp hlater)
      refine ends_act_ok (t := k) (by dsimp only; rw [if_neg hlater]) (hrest _ k.recallKernel ?_
        (fun _ => by rw [hclock, hsame]) (fun _ => rfl) hfits)
      rw [hclock, hsame]
      exact tickIsNotAfter_self _

/-- A return begins only while the horse is gone. -/
theorem ends_requestReturn {k : ActorGameplayKernel} {input : ActorM3TickInput}
    {spend : Option SpurSpendOutcome} {recalled : Option RecallTickOutput} {E : ActorFailure →
    ActorGameplayKernel → Prop} {Q : Option RecallTickOutput → ActorGameplayKernel → Prop}
    (hclock : k.horse.state = .despawned → k.recallKernel.currentTick = some input.tick)
    (hpresent : k.horse.state ≠ .despawned → k.recallKernel.state = .horsePresent)
    (hfits : SpendFits spend k)
    (hrest : ∀ output recallKernel, recallKernel.currentTick = k.recallKernel.currentTick →
      (k.horse.state ≠ .despawned → recallKernel.state = .horsePresent) →
      Q output { k with recallKernel }) : Ends E k (requestReturn input spend recalled) Q := by
  by_cases hspend : spend = some .instantMajesticReturn
  · obtain ⟨hgone, hwaits⟩ := hfits hspend
    have hdone : k.recallKernel.requestRecallInstant input.tick
        = (true, { k.recallKernel with state := .hoofbeats, phaseEnterTick := some input.tick }) := by
      unfold RecallKernel.requestRecallInstant
      rw [if_neg]
      rintro (hstate | hlate)
      · exact hstate hwaits
      · exact hlate (hclock hgone)
    refine ends_act_ok ?_ (hrest (recalled.map fun output => { output with state := .hoofbeats })
      { k.recallKernel with
        state := .hoofbeats
        phaseEnterTick := some input.tick } rfl fun hstate => absurd hgone hstate)
    rw [if_pos hspend, hdone]
  · by_cases hready : input.spurPressed ∧ k.recallKernel.state = .ready
    · have hgone : k.horse.state = .despawned := by
        by_contra hstate
        exact nomatch hready.2.symm.trans (hpresent hstate)
      have hrequested : (k.recallKernel.requestRecall input.tick).2.currentTick
          = k.recallKernel.currentTick := by
        unfold RecallKernel.requestRecall
        split_ifs <;> rfl
      refine ends_act_ok ?_ (hrest (recalled.map fun output => { output with
          state := (k.recallKernel.requestRecall input.tick).2.state })
        (k.recallKernel.requestRecall input.tick).2 hrequested fun hstate => absurd hgone hstate)
      rw [if_neg hspend, if_pos hready]
    · refine ends_act_ok ?_ (hrest recalled k.recallKernel rfl hpresent)
      rw [if_neg hspend, if_neg hready]

/-- A mount finds the horse despawned, so the assertion behind it holds. -/
theorem ends_remount {k : ActorGameplayKernel} {input : ActorM3TickInput} {E : ActorFailure →
    ActorGameplayKernel → Prop} {Q : Bool × Bool → ActorGameplayKernel → Prop} (h : k.Composed)
    (hrest : ∀ answer k', k'.Composed → Q answer k') : Ends E k (remount input) Q := by
  let running := decide (k.recallKernel.state = .mountWindow) && input.returnHorseMoving
  by_cases hwindow : (k.recallKernel.state = .mountWindow ∨ k.recallKernel.state = .waitingMount)
      ∧ input.interactPressed
  · have hgone : k.horse.state = .despawned := by
      by_contra hstate
      have hpresent := h.agree.present hstate
      rcases hwindow.1 with hopen | hwaits
      · exact nomatch hopen.symm.trans hpresent
      · exact nomatch hwaits.symm.trans hpresent
    rcases k.recallKernel.tryMount_cases input.tick input.riderPosition input.returnHorsePosition
      input.returnHorseMoving with heq | ⟨recallKernel, heq, hstate, hclock, -⟩
    · refine ends_act_ok (t := k) ?_ (hrest (false, running) k h)
      dsimp only
      rw [if_pos hwindow, heq]
    · let horse : HorseVitalityKernel := { k.horse with
        health := k.horse.horseClass.maxHealth
        state := .available
        boltStartedTick := none
        boltAwayDeltaMm := Planar.new 0 1
        regenUnits := 0 }
      have hrestored : k.horse.restoreReturnedHorse = (true, horse) := by
        unfold HorseVitalityKernel.restoreReturnedHorse
        rw [if_neg (not_not.mpr hgone)]
      refine ends_act_ok ?_ (hrest (true, running) { k with
        recallKernel
        horse
        onFoot := .default
        horseLossTick := none } ?_)
      · dsimp only
        rw [if_pos hwindow, heq]
        dsimp only
        rw [hrestored]
      · refine ⟨⟨nofun, fun _ => hstate, OnFootKernel.armed_default⟩, h.horseClock, rfl, ?_,
          h.spurClock⟩
        dsimp only
        rw [hclock]
        exact h.recallClock
  · refine ends_act_ok (t := k) ?_ (hrest (false, running) k h)
    dsimp only
    rw [if_neg hwindow]

/-- **A tick that is not stale succeeds**, and keeps the kernels together. -/
theorem Composed.ends_tickProgram {k : ActorGameplayKernel} (h : k.Composed)
    {input : ActorM3TickInput} (htick : input.onFoot.tick = input.tick)
    (hfresh : Fresh k.currentTick input.tick) :
    Ends NoFailure k (tickProgram input) fun _ k' => k'.Composed := by
  have hhorse := fresh_of_tickIsNotAfter h.horseClock hfresh
  have hfoot := fresh_of_tickIsNotAfter h.footClock hfresh
  have hrecall := fresh_of_tickIsNotAfter h.recallClock hfresh
  have hspur := fresh_of_tickIsNotAfter h.spurClock hfresh
  unfold tickProgram
  refine ends_bind (ends_act_ok (a := ()) (t := { k with currentTick := some input.tick }) ?_ ?_)
  · rw [if_neg]
    rintro (hother | hstale)
    · exact hother htick
    · exact not_any_le hfresh hstale
  refine ends_tickHorse (k := { k with currentTick := some input.tick })
    ⟨h.agree.bolting, h.agree.present, h.agree.armed⟩ rfl hhorse hrecall ?_
  intro despawned k₁ hmoved hwaits hfoot₁ hspur₁
  refine ends_bind (ends_tickSpur (by rw [hspur₁]; exact hspur) fun output spur hclock hfits => ?_)
  refine ends_bind (ends_tickOnFoot hmoved.agree.armed htick (by rw [hfoot₁]; exact hfoot)
    fun walked onFoot harmed hfootClock => ?_)
  refine ends_bind (ends_tickRecall hwaits hfits
    fun recalled recallKernel hrecallClock hgone hstays hfits' => ?_)
  have hpresent : k₁.horse.state ≠ .despawned → recallKernel.state = .horsePresent := by
    intro hstate
    rw [hstays hstate]
    exact hmoved.agree.present hstate
  refine ends_bind (ends_requestReturn hgone hpresent hfits'
    fun recalled' recallKernel' hsame hpresent' => ?_)
  have hcomposed : ({ k₁ with
      spur := spur
      onFoot := onFoot
      recallKernel := recallKernel' } : ActorGameplayKernel).Composed := by
    refine ⟨⟨hmoved.agree.bolting, hpresent', harmed⟩, ?_, ?_, ?_, ?_⟩
    all_goals
      dsimp only
      rw [hmoved.clock]
    · rw [hmoved.horseClock]
      exact tickIsNotAfter_self _
    · exact hfootClock
    · rw [hsame]
      exact hrecallClock
    · rw [hclock]
      exact tickIsNotAfter_self _
  refine ends_bind (ends_remount hcomposed fun answer k₂ hcomposed₂ => ?_)
  exact ends_act_ok rfl hcomposed₂

/-- A tick from another time, or not after the last one. -/
def Stale (k : ActorGameplayKernel) (input : ActorM3TickInput) : Prop :=
  input.onFoot.tick ≠ input.tick ∨ ∃ current, k.currentTick = some current ∧ input.tick ≤ current

theorem advanceTick_of_stale {k : ActorGameplayKernel} {input : ActorM3TickInput}
    (h : k.Stale input) : k.advanceTick input = (.error (.error .tickReplay), k) := by
  have hstale : input.onFoot.tick ≠ input.tick
      ∨ (k.currentTick.any fun current => input.tick ≤ current) := by
    rcases h with hother | ⟨current, hcurrent, hle⟩
    · exact Or.inl hother
    · rw [hcurrent]
      exact Or.inr (decide_eq_true hle)
  have hbegin : exec (beginTick input) k = (.error (.error .tickReplay), k) := if_pos hstale
  unfold advanceTick tickProgram
  rw [exec_bind, hbegin]

theorem fresh_of_not_stale {k : ActorGameplayKernel} {input : ActorM3TickInput}
    (h : ¬k.Stale input) : input.onFoot.tick = input.tick ∧ Fresh k.currentTick input.tick := by
  refine ⟨by_contra fun hother => h (Or.inl hother), fun current hcurrent => ?_⟩
  exact UInt64.not_le.mp fun hle => h (Or.inr ⟨current, hcurrent, hle⟩)

theorem Composed.advanceTick {k : ActorGameplayKernel} (h : k.Composed) {input : ActorM3TickInput}
    (hnew : ¬k.Stale input) :
    (∃ output, (k.advanceTick input).1 = .ok output) ∧ (k.advanceTick input).2.Composed := by
  obtain ⟨htick, hfresh⟩ := fresh_of_not_stale hnew
  have hends := h.ends_tickProgram htick hfresh
  unfold Ends at hends
  unfold ActorGameplayKernel.advanceTick
  rcases heq : exec (tickProgram input) k with ⟨failure | output, k'⟩
  · rw [heq] at hends
    exact hends.elim
  · rw [heq] at hends
    exact ⟨⟨output, rfl⟩, hends⟩

/-! ### Runs -/

theorem Composed.step {k : ActorGameplayKernel} (h : k.Composed) (call : ActorCall) :
    (k.step call).2.Composed := by
  cases call with
  | applyHorseDamage command => exact h.applyHorseDamage command
  | applyRecallCredit command =>
    obtain ⟨hstate, hclock⟩ := k.recallKernel.applyCredit_frame command
    refine ⟨⟨h.agree.bolting, fun hthere => hstate.trans (h.agree.present hthere), h.agree.armed⟩,
      h.horseClock, h.footClock, ?_, h.spurClock⟩
    change tickIsNotAfter (k.recallKernel.applyCredit command).2.currentTick k.currentTick = true
    rw [hclock]
    exact h.recallClock
  | applySpurCredit command =>
    refine ⟨⟨h.agree.bolting, h.agree.present, h.agree.armed⟩, h.horseClock, h.footClock,
      h.recallClock, ?_⟩
    change tickIsNotAfter (k.spur.applyCredit command).2.currentTick k.currentTick = true
    rw [SpurKernel.applyCredit_currentTick]
    exact h.spurClock
  | issueSpurCredit authorityEpoch tick kind =>
    refine ⟨⟨h.agree.bolting, h.agree.present, h.agree.armed⟩, h.horseClock, h.footClock,
      h.recallClock, ?_⟩
    change tickIsNotAfter (k.spur.issueCredit authorityEpoch tick kind).2.currentTick k.currentTick
      = true
    unfold SpurKernel.issueCredit
    rw [SpurKernel.applyCredit_currentTick]
    exact h.spurClock
  | acknowledgeHorseLossEffects id =>
    change (k.acknowledgeHorseLossEffects id).2.Composed
    unfold acknowledgeHorseLossEffects
    cases k.pendingHorseLossEffects.bind (·.horseBolted) with
    | none => exact h
    | some event =>
      dsimp only
      split_ifs
      · exact h
      · exact ⟨⟨h.agree.bolting, h.agree.present, h.agree.armed⟩, h.horseClock, h.footClock,
          h.recallClock, h.spurClock⟩
  | respawn => exact h.respawn
  | advanceTick input =>
    by_cases hstale : k.Stale input
    · change (k.advanceTick input).2.Composed
      rw [advanceTick_of_stale hstale]
      exact h
    · exact (h.advanceTick hstale).2

theorem Reached.composed {k : ActorGameplayKernel} (h : k.Reached) : k.Composed := by
  obtain ⟨start, calls, hstarted, rfl⟩ := h
  refine Runs.run_invariant (fun _ call hk => hk.step call) ?_ calls
  rcases hstarted with ⟨horseClass, rfl⟩ | ⟨c, hrestored⟩
  · exact composed_new horseClass
  · exact composed_of_restoreCheckpoint hrestored

end ActorGameplayKernel

/-- **Ticks fail only when stale**, and then change nothing; no inner kernel ever refuses. -/
theorem actor_tick {k : ActorGameplayKernel} (h : k.Reached) (input : ActorM3TickInput) :
    ((∃ failure, (k.advanceTick input).1 = .error failure) ↔ k.Stale input)
      ∧ ∀ failure, (k.advanceTick input).1 = .error failure →
        failure = .error .tickReplay ∧ (k.advanceTick input).2 = k := by
  by_cases hstale : k.Stale input
  · have heq := ActorGameplayKernel.advanceTick_of_stale hstale
    rw [heq]
    refine ⟨iff_of_true ⟨_, rfl⟩ hstale, fun failure hfailed => ?_⟩
    exact ⟨(Except.error.inj hfailed).symm, rfl⟩
  · obtain ⟨⟨output, hok⟩, -⟩ := h.composed.advanceTick hstale
    rw [hok]
    exact ⟨iff_of_false nofun hstale, nofun⟩

/-- The rider does nothing. -/
def idleInput (tick : SimulationTick) : ActorM3TickInput where
  tick
  onFoot := ⟨tick, none, false, false, false⟩
  interactPressed := false
  spurPressed := false
  mountedForSpur := true
  riderPosition := ⟨0, 0, 0⟩
  returnHorsePosition := ⟨0, 0, 0⟩
  returnHorseMoving := false

/-- The horse is hit twice, and bolts at tick 6. -/
def boltedActor : ActorGameplayKernel :=
  Runs.run ActorGameplayKernel.step (.new .courser)
    [.advanceTick (idleInput 5), .applyHorseDamage (blow 5 1 10), .advanceTick (idleInput 6),
      .applyHorseDamage (blow 6 2 250), .advanceTick (idleInput 7)]

/-- Tick 7 is stale by now, and tick 8 is not. -/
theorem actor_tick_bolted :
    boltedActor.advanceTick (idleInput 7) = (.error (.error .tickReplay), boltedActor)
      ∧ ∃ output, (boltedActor.advanceTick (idleInput 8)).1 = .ok output := by
  have hreached : boltedActor.Reached := ⟨.new .courser, _, Or.inl ⟨.courser, rfl⟩, rfl⟩
  have hclock : boltedActor.currentTick = some 7 := by decide
  constructor
  · obtain ⟨hstale, hsame⟩ := actor_tick hreached (idleInput 7)
    obtain ⟨failure, hfailed⟩ := hstale.mpr (Or.inr ⟨7, hclock, UInt64.le_refl 7⟩)
    obtain ⟨rfl, hkept⟩ := hsame failure hfailed
    exact Prod.ext hfailed hkept
  · cases hticked : (boltedActor.advanceTick (idleInput 8)).1 with
    | ok output => exact ⟨output, rfl⟩
    | error failure =>
      rcases (actor_tick hreached (idleInput 8)).1.mp ⟨failure, hticked⟩ with
        hother | ⟨current, hcurrent, hle⟩
      · exact absurd rfl hother
      · obtain rfl := Option.some.inj (hclock.symm.trans hcurrent)
        exact absurd hle (by decide)

/-! ## Damage once -/

namespace ActorGameplayKernel

def note (k : ActorGameplayKernel) : ActorCall → List (AuthorityReceiptId × HorseDamageEffects)
  | .applyHorseDamage command =>
    ((k.applyHorseDamage command).1.map fun effects => (command.id, effects)).toList
  | _ => []

theorem note_applyHorseDamage (k : ActorGameplayKernel) (command : HorseDamageCommand) :
    k.note (.applyHorseDamage command)
      = ((k.applyHorseDamage command).1.map fun effects => (command.id, effects)).toList := rfl

/-- The damage that a run applies, in order. -/
def damages (k : ActorGameplayKernel) (calls : List ActorCall) :
    List (AuthorityReceiptId × HorseDamageEffects) :=
  Runs.history step note k calls

def damageIds (k : ActorGameplayKernel) (calls : List ActorCall) : List AuthorityReceiptId :=
  (k.damages calls).map (·.1)

def Spooks (k : ActorGameplayKernel) (call : ActorCall) : Prop :=
  ∃ damage ∈ k.note call, damage.2.application.spooked = true

def BecomesAvailable (k : ActorGameplayKernel) (call : ActorCall) : Prop :=
  k.horse.state ≠ .available ∧ (k.step call).2.horse.state = .available

/-- Spooking damage, and no other, emits the bolt, under the id of its command. -/
def EmitsBolt (damage : AuthorityReceiptId × HorseDamageEffects) : Prop :=
  (damage.2.application.spooked = true ↔ ∃ event, damage.2.horseBolted = some event)
    ∧ ∀ event ∈ damage.2.horseBolted, event.id = damage.1

/-- What a run owes to the horse. -/
structure DamagedOnce (start : ActorGameplayKernel) (calls : List ActorCall) : Prop where
  once : (start.damageIds calls).Nodup
  capped : ∀ before, before <+: calls → (Runs.run step start before).horse.health
    ≤ (Runs.run step start before).horse.horseClass.maxHealth
  oneSpook : ∀ before first mid second after, calls = before ++ first :: (mid ++ second :: after) →
    (Runs.run step start before).Spooks first →
    (Runs.run step start (before ++ first :: mid)).Spooks second →
    ∃ mid₁ call mid₂, mid = mid₁ ++ call :: mid₂
      ∧ (Runs.run step start (before ++ first :: mid₁)).BecomesAvailable call
  bolted : ∀ damage ∈ start.damages calls, EmitsBolt damage

/-- The guards of `apply_horse_damage`, on the state before the command. -/
def RefusesHorseDamage (k : ActorGameplayKernel) (command : HorseDamageCommand) : Prop :=
  (∃ current, k.currentTick = some current ∧ command.id.tick ≠ current)
    ∨ k.horse.RefusesDamage command.id
    ∨ 0 < k.horse.health ∧ k.horse.health ≤ command.amount
      ∧ ((∃ current, k.onFoot.currentTick = some current ∧ command.id.tick ≤ current)
        ∨ k.onFoot.state = .spookStunned)

/-- No damage is replayed across a respawn, unless the kernel refuses it there anyway. -/
def NoReplayAcrossRespawn (start : ActorGameplayKernel) (calls : List ActorCall) : Prop :=
  ∀ before mid command after,
    calls = before ++ .respawn :: (mid ++ .applyHorseDamage command :: after) →
    command.id ∈ start.damageIds before →
    (Runs.run step start (before ++ .respawn :: mid)).RefusesHorseDamage command

theorem refusesHorseDamage_iff {k : ActorGameplayKernel} {command : HorseDamageCommand} :
    k.RefusesHorseDamage command ↔ (k.applyHorseDamage command).1 = none := by
  unfold RefusesHorseDamage applyHorseDamage
  by_cases hlate : (k.currentTick.any fun current => command.id.tick ≠ current) = true
  · rw [if_pos hlate]
    obtain ⟨current, hcurrent, hother⟩ := (Option.any_eq_true _ _).mp hlate
    exact iff_of_true (Or.inl ⟨current, hcurrent, of_decide_eq_true hother⟩) rfl
  · have hdated : ¬∃ current, k.currentTick = some current ∧ command.id.tick ≠ current := by
      rintro ⟨current, hcurrent, hother⟩
      exact hlate ((Option.any_eq_true _ _).mpr ⟨current, hcurrent, decide_eq_true hother⟩)
    rw [if_neg hlate, or_iff_right hdated]
    rcases k.horse.applyDamage_cases command with ⟨hrefused, heq⟩ | ⟨application, horse, heq, hdamaged⟩
    · rw [heq]
      exact iff_of_true (Or.inl hrefused) rfl
    · have haccepted : ¬k.horse.RefusesDamage command.id := by
        unfold HorseVitalityKernel.applyDamage at heq
        by_contra hrefused
        rw [if_pos hrefused] at heq
        cases heq
      have hspooked : application.spooked = true
          ↔ 0 < k.horse.health ∧ k.horse.health ≤ command.amount := by
        rw [hdamaged.spooked, decide_eq_true_eq, hdamaged.health.2, ← UInt16.toNat_inj,
          UInt16.toNat_satSub, UInt16.le_iff_toNat_le]
        change 0 < k.horse.health ∧ k.horse.health.toNat - command.amount.toNat = 0 ↔ _
        rw [Nat.sub_eq_zero_iff_le]
      have hstun : ((∃ current, k.onFoot.currentTick = some current ∧ command.id.tick ≤ current)
          ∨ k.onFoot.state = .spookStunned) ↔ (k.onFoot.beginSpookStun command.id.tick).1 = false := by
        unfold OnFootKernel.beginSpookStun
        simp only [Option.any_eq_true, decide_eq_true_eq]
        split_ifs with hbegun
        · exact iff_of_true hbegun rfl
        · exact iff_of_false hbegun id
      rw [heq, or_iff_right haccepted, ← and_assoc, ← hspooked, hstun]
      dsimp only
      by_cases hfatal : application.spooked = true
      · rw [if_pos hfatal]
        rcases k.onFoot.beginSpookStun command.id.tick with ⟨begun, onFoot⟩
        cases begun with
        | false => exact iff_of_true ⟨hfatal, rfl⟩ rfl
        | true =>
          exact iff_of_false (fun hrefused => Bool.noConfusion hrefused.2) (Option.some_ne_none _)
      · rw [if_neg hfatal]
        exact iff_of_false (fun hrefused => hfatal hrefused.1) (Option.some_ne_none _)

/-- A call records nothing, or one damage that it has applied. -/
theorem note_cases (k : ActorGameplayKernel) (call : ActorCall) :
    k.note call = [] ∨ ∃ command effects, call = .applyHorseDamage command
      ∧ k.note call = [(command.id, effects)] ∧ ActorDamaged k command effects (k.step call).2 := by
  cases call with
  | applyHorseDamage command =>
    change ((k.applyHorseDamage command).1.map fun effects => (command.id, effects)).toList = []
      ∨ ∃ command' effects, ActorCall.applyHorseDamage command = .applyHorseDamage command'
        ∧ ((k.applyHorseDamage command).1.map fun effects => (command.id, effects)).toList
          = [(command'.id, effects)]
        ∧ ActorDamaged k command' effects (k.applyHorseDamage command).2
    rcases k.applyHorseDamage_cases command with heq | ⟨effects, k', heq, hdamaged⟩
    · rw [heq]
      exact Or.inl rfl
    · rw [heq]
      exact Or.inr ⟨command, effects, rfl, rfl, hdamaged⟩
  | applyRecallCredit _ | applySpurCredit _ | issueSpurCredit _ _ _
  | acknowledgeHorseLossEffects _ | respawn | advanceTick _ => exact Or.inl rfl

/-- A tick moves the horse by the operations of the horse only. -/
theorem horse_of_advanceTick {P : HorseVitalityKernel → Prop}
    (htick : ∀ horse tick, P horse → P (horse.advanceTick tick).2)
    (hrestore : ∀ horse, P horse → P horse.restoreReturnedHorse.2) {k : ActorGameplayKernel}
    (hk : P k.horse) (input : ActorM3TickInput) : P (k.advanceTick input).2.horse := by
  let Q : ActorGameplayKernel → Prop := fun k => P k.horse
  suffices hends : Ends (fun _ => Q) k (tickProgram input) fun _ => Q from hends.exec
  unfold tickProgram
  refine ends_next (R := fun _ => Q) (ends_act_snd ?_) fun _ k₁ h₁ => ?_
  · split_ifs <;> exact hk
  refine ends_next (R := fun _ => Q) (ends_act_snd (htick _ _ h₁)) fun despawned k₂ h₂ => ?_
  refine ends_next (R := fun _ => Q) ?_ fun _ k₃ h₃ => ?_
  · cases despawned with
    | none => exact ends_pure h₂
    | some despawnTick =>
      refine ends_act_snd ?_
      cases k₂.horseLossTick <;> exact h₂
  refine ends_next (R := fun _ => Q) (ends_act_snd h₃) fun _ k₄ h₄ => ?_
  refine ends_next (R := fun _ => Q) (ends_act_snd ?_) fun _ k₅ h₅ => ?_
  · split_ifs <;> exact h₄
  refine ends_next (R := fun _ => Q) (ends_act_snd ?_) fun _ k₆ h₆ => ?_
  · cases despawned with
    | none =>
      dsimp only
      split_ifs <;> exact h₅
    | some despawnTick =>
      dsimp only
      split_ifs <;> exact h₅
  refine ends_next (R := fun _ => Q) (ends_act_snd ?_) fun _ k₇ h₇ => ?_
  · split_ifs
    · rcases k₆.recallKernel.requestRecallInstant input.tick with ⟨done, recallKernel⟩
      cases done <;> exact h₆
    · exact h₆
    · exact h₆
  refine ends_next (R := fun _ => Q) (ends_act_snd ?_) fun _ k₈ h₈ => ends_act_snd h₈
  dsimp only
  split_ifs
  · rcases k₇.recallKernel.tryMount input.tick input.riderPosition input.returnHorsePosition
      input.returnHorseMoving with ⟨mounted, recallKernel⟩
    cases mounted with
    | false => exact h₇
    | true =>
      have hrestored := hrestore _ h₇
      rcases heq : k₇.horse.restoreReturnedHorse with ⟨done, horse⟩
      rw [heq] at hrestored
      cases done <;> exact hrestored
  · exact h₇

/-! ### The high-water mark -/

/-- Only damage and respawns touch the receipt of the last damage. -/
theorem lastDamageId_of_note {k : ActorGameplayKernel} {call : ActorCall} (hquiet : k.note call = [])
    (hlife : call ≠ .respawn) : (k.step call).2.horse.lastDamageId = k.horse.lastDamageId := by
  cases call with
  | applyHorseDamage command =>
    change (k.applyHorseDamage command).2.horse.lastDamageId = _
    rcases k.applyHorseDamage_cases command with heq | ⟨effects, k', heq, -⟩
    · rw [heq]
    · change ((k.applyHorseDamage command).1.map fun effects => (command.id, effects)).toList = []
        at hquiet
      rw [heq] at hquiet
      exact nomatch hquiet
  | acknowledgeHorseLossEffects id =>
    change (k.acknowledgeHorseLossEffects id).2.horse.lastDamageId = _
    unfold acknowledgeHorseLossEffects
    cases k.pendingHorseLossEffects.bind (·.horseBolted) with
    | none => rfl
    | some event =>
      dsimp only
      split_ifs <;> rfl
  | respawn => exact absurd rfl hlife
  | advanceTick input =>
    refine horse_of_advanceTick (P := fun horse => horse.lastDamageId = k.horse.lastDamageId)
      (fun horse tick hsame => ?_) (fun horse hsame => ?_) rfl input
    · unfold HorseVitalityKernel.advanceTick
      by_cases hstale : (horse.currentTick.any fun current => tick ≤ current) = true
      · rw [if_pos hstale]
        exact hsame
      · rw [if_neg hstale]
        dsimp only
        split_ifs
        · exact hsame
        · cases horse.boltStartedTick with
          | none => exact hsame
          | some started =>
            dsimp only
            split_ifs <;> exact hsame
    · unfold HorseVitalityKernel.restoreReturnedHorse
      split_ifs <;> exact hsame
  | applyRecallCredit _ | applySpurCredit _ | issueSpurCredit _ _ _ => rfl

theorem damageIds_concat (start : ActorGameplayKernel) (calls : List ActorCall) (call : ActorCall) :
    start.damageIds (calls ++ [call])
      = start.damageIds calls ++ ((Runs.run step start calls).note call).map (·.1) := by
  unfold damageIds damages
  rw [Runs.history_append, List.map_append, Runs.history, Runs.history, List.append_nil]

/-- An applied id is at or below the mark of the horse, or a respawn has erased the mark since. -/
def Remembered (start : ActorGameplayKernel) (calls : List ActorCall) (id : AuthorityReceiptId) :
    Prop :=
  (∃ last, (Runs.run step start calls).horse.lastDamageId = some last
      ∧ (id = last ∨ id.precedes last))
    ∨ ∃ before mid, calls = before ++ .respawn :: mid ∧ id ∈ start.damageIds before

theorem remembered (start : ActorGameplayKernel) (calls : List ActorCall) :
    ∀ id ∈ start.damageIds calls, Remembered start calls id := by
  induction calls using List.reverseRecOn with
  | nil => exact fun id hid => nomatch hid
  | append_singleton calls call ih =>
    intro id hid
    have hrun : Runs.run step start (calls ++ [call]) = ((Runs.run step start calls).step call).2 := by
      rw [Runs.run_append, Runs.run_cons, Runs.run_nil]
    rw [damageIds_concat] at hid
    by_cases hlife : call = .respawn
    · subst hlife
      rcases List.mem_append.mp hid with hid | hid
      · exact Or.inr ⟨calls, [], rfl, hid⟩
      · exact nomatch hid
    · rcases (Runs.run step start calls).note_cases call with hquiet | ⟨command, effects, rfl, hnote,
        hdamaged⟩
      · rw [hquiet, List.map_nil, List.append_nil] at hid
        rcases ih id hid with ⟨last, hlast, horder⟩ | ⟨before, mid, rfl, hbefore⟩
        · refine Or.inl ⟨last, ?_, horder⟩
          rw [hrun, lastDamageId_of_note hquiet hlife]
          exact hlast
        · exact Or.inr ⟨before, mid ++ [call], by rw [List.append_assoc, List.cons_append], hbefore⟩
      · have hmark := hdamaged.horse.receipt
        rw [← hrun] at hmark
        rw [hnote, List.map_singleton] at hid
        rcases List.mem_append.mp hid with hid | hid
        · rcases ih id hid with ⟨last, hlast, horder⟩ | ⟨before, mid, rfl, hbefore⟩
          · have hnewer := hdamaged.horse.newer last hlast
            refine Or.inl ⟨command.id, hmark, Or.inr ?_⟩
            rcases horder with rfl | hprecedes
            · exact hnewer
            · exact AuthorityReceiptId.precedes_trans hprecedes hnewer
          · exact Or.inr ⟨before, mid ++ [.applyHorseDamage command],
              by rw [List.append_assoc, List.cons_append], hbefore⟩
        · exact Or.inl ⟨command.id, hmark, Or.inl (List.mem_singleton.mp hid)⟩

theorem NoReplayAcrossRespawn.concat {start : ActorGameplayKernel} {calls : List ActorCall}
    {call : ActorCall} (h : start.NoReplayAcrossRespawn (calls ++ [call])) :
    start.NoReplayAcrossRespawn calls := by
  rintro before mid command after rfl
  exact h before mid command (after ++ [call]) (by simp)

theorem nodup_of_noReplay {start : ActorGameplayKernel} {calls : List ActorCall}
    (h : start.NoReplayAcrossRespawn calls) : (start.damageIds calls).Nodup := by
  induction calls using List.reverseRecOn with
  | nil => exact List.nodup_nil
  | append_singleton calls call ih =>
    rw [damageIds_concat]
    rcases (Runs.run step start calls).note_cases call with hquiet | ⟨command, effects, rfl, hnote,
      hdamaged⟩
    · rw [hquiet, List.map_nil, List.append_nil]
      exact ih h.concat
    · rw [hnote, List.map_singleton]
      refine (ih h.concat).append (List.nodup_singleton _) ?_
      rw [List.disjoint_singleton]
      intro hused
      rcases remembered start calls command.id hused with ⟨last, hlast, horder⟩ |
        ⟨before, mid, rfl, hbefore⟩
      · have hnewer := hdamaged.horse.newer last hlast
        rcases horder with hsame | hprecedes
        · rw [hsame] at hnewer
          exact AuthorityReceiptId.precedes_irrefl _ hnewer
        · exact AuthorityReceiptId.precedes_irrefl _
            (AuthorityReceiptId.precedes_trans hprecedes hnewer)
      · have hrefused := h before mid command [] (by simp) hbefore
        rw [refusesHorseDamage_iff] at hrefused
        rw [note_applyHorseDamage, hrefused] at hnote
        exact nomatch hnote

theorem noReplay_of_nodup {start : ActorGameplayKernel} {calls : List ActorCall}
    (h : (start.damageIds calls).Nodup) : start.NoReplayAcrossRespawn calls := by
  rintro before mid command after rfl hbefore
  rw [refusesHorseDamage_iff]
  by_contra happlied
  obtain ⟨effects, heffects⟩ := Option.ne_none_iff_exists'.mp happlied
  have hnote : (Runs.run step start (before ++ .respawn :: mid)).note (.applyHorseDamage command)
      = [(command.id, effects)] := by
    rw [note_applyHorseDamage, heffects]
    rfl
  have hsplit : before ++ ActorCall.respawn :: (mid ++ .applyHorseDamage command :: after)
      = (before ++ .respawn :: mid) ++ .applyHorseDamage command :: after := by simp
  rw [hsplit] at h
  unfold damageIds damages at h hbefore
  have hlast := @Runs.history_cons _ _ _ _ step note
    (Runs.run step start (before ++ .respawn :: mid)) (.applyHorseDamage command) after
  rw [Runs.history_append, Runs.history_append, hlast, hnote, List.append_assoc, List.map_append] at h
  refine (List.nodup_append.mp h).2.2 command.id hbefore command.id ?_ rfl
  rw [List.map_append]
  exact List.mem_append_right _ List.mem_cons_self

/-! ### Health and spooks -/

theorem Started.kept {k : ActorGameplayKernel} (h : Started k) : k.horse.Kept := by
  rcases h with ⟨horseClass, rfl⟩ | ⟨c, hrestored⟩
  · exact HorseVitalityKernel.kept_of_stateIsValid (HorseVitalityKernel.new_stateIsValid horseClass)
  · unfold restoreCheckpoint at hrestored
    split_ifs at hrestored with hwire hkernels hcross
    cases hrestored
    simp only [Bool.or_eq_true, Bool.not_eq_true', not_or, Bool.not_eq_false] at hkernels
    exact HorseVitalityKernel.kept_of_stateIsValid hkernels.1.1.1.1.1.1.1

theorem kept_step {k : ActorGameplayKernel} (h : k.horse.Kept) (call : ActorCall) :
    (k.step call).2.horse.Kept := by
  cases call with
  | applyHorseDamage command =>
    change (k.applyHorseDamage command).2.horse.Kept
    rcases k.applyHorseDamage_cases command with heq | ⟨effects, k', heq, hdamaged⟩
    · rw [heq]
      exact h
    · rw [heq]
      exact h.damaged hdamaged.horse
  | acknowledgeHorseLossEffects id =>
    change (k.acknowledgeHorseLossEffects id).2.horse.Kept
    unfold acknowledgeHorseLossEffects
    cases k.pendingHorseLossEffects.bind (·.horseBolted) with
    | none => exact h
    | some event =>
      dsimp only
      split_ifs <;> exact h
  | respawn =>
    have hnew := HorseVitalityKernel.kept_of_stateIsValid
      (HorseVitalityKernel.new_stateIsValid k.horse.horseClass)
    exact ⟨hnew.health, hnew.carry, hnew.full⟩
  | advanceTick input =>
    exact horse_of_advanceTick (fun horse tick hkept => hkept.step (.advanceTick tick))
      (fun horse hkept => hkept.restoreReturnedHorse) h input
  | applyRecallCredit _ | applySpurCredit _ | issueSpurCredit _ _ _ => exact h

/-- A spook finds the horse available and leaves it bolting. -/
theorem Spooks.states {k : ActorGameplayKernel} {call : ActorCall} (h : k.Spooks call) :
    k.horse.state = .available ∧ (k.step call).2.horse.state ≠ .available := by
  obtain ⟨damage, hmem, hspooked⟩ := h
  rcases k.note_cases call with hquiet | ⟨command, effects, -, hnote, hdamaged⟩
  · rw [hquiet] at hmem
    exact nomatch hmem
  · rw [hnote] at hmem
    obtain rfl := List.mem_singleton.mp hmem
    refine ⟨hdamaged.horse.available, ?_⟩
    rw [hdamaged.horse.state, if_pos hspooked]
    decide

theorem oneSpook (start : ActorGameplayKernel) (before : List ActorCall) (first : ActorCall)
    (mid : List ActorCall) (second : ActorCall) (hfirst : (Runs.run step start before).Spooks first)
    (hsecond : (Runs.run step start (before ++ first :: mid)).Spooks second) :
    ∃ mid₁ call mid₂, mid = mid₁ ++ call :: mid₂
      ∧ (Runs.run step start (before ++ first :: mid₁)).BecomesAvailable call := by
  have hrun : ∀ calls, Runs.run step start (before ++ first :: calls)
      = Runs.run step ((Runs.run step start before).step first).2 calls := by
    intro calls
    rw [Runs.run_append, Runs.run_cons]
  rw [hrun] at hsecond
  obtain ⟨mid₁, call, mid₂, hsplit, hgone, hback⟩ := Runs.exists_turn
    (P := fun k : ActorGameplayKernel => k.horse.state = .available) hfirst.states.2 hsecond.states.1
  refine ⟨mid₁, call, mid₂, hsplit, ?_⟩
  rw [hrun]
  exact ⟨hgone, hback⟩

theorem bolted (start : ActorGameplayKernel) (calls : List ActorCall) :
    ∀ damage ∈ start.damages calls, EmitsBolt damage := by
  have hnone : ∀ damage ∈ ([] : List (AuthorityReceiptId × HorseDamageEffects)), EmitsBolt damage :=
    fun damage hdamage => nomatch hdamage
  refine @Runs.run_history _ _ _ _ step (fun _ _ => True) note
    (fun _ damages => ∀ damage ∈ damages, EmitsBolt damage)
    (fun k damages call _ hdamages => ?_) start [] hnone calls (Runs.along_true start calls)
  intro damage hmem
  rcases List.mem_append.mp hmem with hbefore | hnow
  · exact hdamages damage hbefore
  rcases k.note_cases call with hquiet | ⟨command, effects, -, hnote, hdamaged⟩
  · rw [hquiet] at hnow
    exact nomatch hnow
  · rw [hnote] at hnow
    obtain rfl := List.mem_singleton.mp hnow
    by_cases hspooked : effects.application.spooked = true
    · obtain ⟨-, -, -, event, hevent, hid⟩ := hdamaged.spooked hspooked
      refine ⟨iff_of_true hspooked ⟨event, hevent⟩, fun other hother => ?_⟩
      obtain rfl := Option.some.inj (hevent.symm.trans hother)
      exact hid
    · obtain ⟨-, -, hquiet⟩ := hdamaged.survived (Bool.eq_false_iff.mpr hspooked)
      unfold EmitsBolt
      rw [hquiet]
      exact ⟨iff_of_false hspooked nofun, nofun⟩

end ActorGameplayKernel

/-- **Damage is applied once**, as long as none is replayed across a respawn. -/
theorem horse_damage_once {start : ActorGameplayKernel} (h : ActorGameplayKernel.Started start)
    (calls : List ActorCall) : start.DamagedOnce calls ↔ start.NoReplayAcrossRespawn calls := by
  refine ⟨fun honce => ActorGameplayKernel.noReplay_of_nodup honce.once, fun hfresh => ?_⟩
  refine ⟨ActorGameplayKernel.nodup_of_noReplay hfresh, fun before _ => ?_,
    fun before first mid second _ _ hfirst hsecond =>
      start.oneSpook before first mid second hfirst hsecond, start.bolted calls⟩
  exact (Runs.run_invariant (P := fun k : ActorGameplayKernel => k.horse.Kept)
    (fun _ call hk => ActorGameplayKernel.kept_step hk call) h.kept before).health

/-- Damage that is repeated and damage that spooks, a respawn, and damage that spooks again. -/
def twoLives : List ActorCall :=
  [.advanceTick (idleInput 5), .applyHorseDamage (blow 5 1 10), .applyHorseDamage (blow 5 1 10),
    .advanceTick (idleInput 6), .applyHorseDamage (blow 6 2 250), .respawn,
    .advanceTick (idleInput 8), .applyHorseDamage (blow 8 3 250)]

theorem horse_damage_once_twoLives :
    (ActorGameplayKernel.new .courser).damageIds twoLives = [⟨1, 5, 1⟩, ⟨1, 6, 2⟩, ⟨1, 8, 3⟩]
      ∧ (ActorGameplayKernel.new .courser).DamagedOnce twoLives := by
  have hids : (ActorGameplayKernel.new .courser).damageIds twoLives
      = [⟨1, 5, 1⟩, ⟨1, 6, 2⟩, ⟨1, 8, 3⟩] := by decide
  refine ⟨hids, (horse_damage_once (Or.inl ⟨.courser, rfl⟩) twoLives).mpr
    (ActorGameplayKernel.noReplay_of_nodup ?_)⟩
  rw [hids]
  decide

/-- Ten damage on tick 5 of the first life, and the same command again in the second. -/
def replayedDamage : List ActorCall :=
  [.advanceTick (idleInput 5), .applyHorseDamage (blow 5 1 10), .respawn,
    .applyHorseDamage (blow 5 1 10)]

theorem replays_across_respawn :
    ¬(ActorGameplayKernel.new .courser).DamagedOnce replayedDamage := by
  have hids : (ActorGameplayKernel.new .courser).damageIds replayedDamage
      = [⟨1, 5, 1⟩, ⟨1, 5, 1⟩] := by decide
  intro h
  have honce := h.once
  rw [hids] at honce
  exact absurd honce (by decide)

end Spurfire
