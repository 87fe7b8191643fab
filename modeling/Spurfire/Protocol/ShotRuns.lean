import Spurfire.Lib.Runs
import Spurfire.Protocol.Rounds

/-!
# Runs of shot validation

Every sequence of `validate_shot` calls against one authority and one target registry.

* `CombatAuthority.ShotMove`: what one call can do to the authority and the targets;
* `CombatAuthority.validateShot_moves`: the inversion of a call;
* **`shots_inert`**: a rejected shot costs and hurts nothing, an accepted one costs a round, and no
  tick of a shooter is accepted twice.
-/

namespace Spurfire

open Std (ExtTreeMap)

structure ShotCall where
  command : ShotCommand
  authorityTick : SimulationTick
  rider : RiderSnapshot

namespace CombatAuthority

variable {T : Type} (B : Ballistics) (R : TargetRange T)

/-- One validation, answered by its outcome. -/
def shotStep (s : CombatAuthority × T) (call : ShotCall) : ShotOutcome × CombatAuthority × T :=
  let (shot, a, targets) := s.1.validateShot B R call.command call.authorityTick call.rider s.2
  (shot.result.outcome, a, targets)

/-- The shooter of the call, with its kernel and its command tick replaced. -/
def stored (a : CombatAuthority) (command : ShotCommand) (kernel : CombatKernel) :
    ExtTreeMap PlayerId AuthorityShooter :=
  a.shooters.insert command.shooterPeerId ⟨kernel, some command.tick⟩

/-- What a call can do: nothing at all, a refusal that moves the clock of the shooter, or a shot. -/
inductive ShotMove (s : CombatAuthority × T) (call : ShotCall) :
    ShotOutcome × CombatAuthority × T → Prop
  | unseen : ShotMove s call (.reject, s)
  | refused {shooter : AuthorityShooter} {kernel : CombatKernel} {a : CombatAuthority}
      (known : s.1.shooters[call.command.shooterPeerId]? = some shooter)
      (later : ∀ last ∈ shooter.lastCommandTick, last < call.command.tick)
      (advanced : kernel = shooter.kernel
        ∨ kernel = (shooter.kernel.advanceTo call.command.tick call.rider.riding).2)
      (shooters : a.shooters = s.1.stored call.command kernel)
      (ledger : a.shotLedger = s.1.shotLedger) : ShotMove s call (.reject, a, s.2)
  | accepted {outcome : ShotOutcome} {shooter : AuthorityShooter} {kernel : CombatKernel}
      {prepared : PreparedShot} {a : CombatAuthority} {targets : T}
      (known : s.1.shooters[call.command.shooterPeerId]? = some shooter)
      (later : ∀ last ∈ shooter.lastCommandTick, last < call.command.tick)
      (outcome_ne : outcome ≠ .reject)
      (accepts : shooter.kernel.Accepts call.command.tick call.command.direction call.rider.riding
        call.command.spreadSeed prepared kernel)
      (shooters : a.shooters = s.1.stored call.command kernel) :
      ShotMove s call (outcome, a, targets)

theorem validateShot_moves (s : CombatAuthority × T) (call : ShotCall) :
    ShotMove s call (shotStep B R s call) := by
  obtain ⟨a, targets⟩ := s
  unfold shotStep validateShot
  dsimp only
  cases hknown : a.shooters[call.command.shooterPeerId]? with
  | none => exact .unseen
  | some shooter =>
    dsimp only
    cases htick : a.tickRefusal shooter call.command call.authorityTick call.rider with
    | some reason => exact .unseen
    | none =>
      have hlater := later_of_tickRefusal htick
      dsimp only
      cases hcommand : commandRefusal shooter call.command call.rider with
      | some reason => exact .refused hknown hlater (Or.inl rfl) rfl rfl
      | none =>
        dsimp only
        rcases shooter.kernel.requestFireDetailed_cases B call.command.tick call.command.direction
          call.rider.riding call.command.spreadSeed with ⟨rejection, kernel, heq, hadvanced⟩ |
          ⟨prepared, kernel, heq, haccepts⟩
        · rw [heq]
          exact .refused hknown hlater hadvanced rfl rfl
        · rw [heq]
          exact .accepted hknown hlater (resolveAccepted_result R _ _).1 haccepts rfl

/-! ## What a refusal leaves -/

/-- A kernel that has spent nothing. -/
structure Unspent (k k' : CombatKernel) : Prop where
  shotIndex : k'.shotIndex = k.shotIndex
  lastAcceptedTick : k'.lastAcceptedTick = k.lastAcceptedTick
  rounds : ∀ weaponId, k'.rounds weaponId = k.rounds weaponId

theorem unspent_refl (k : CombatKernel) : Unspent k k := ⟨rfl, rfl, fun _ => rfl⟩

theorem unspent_advanceTo (k : CombatKernel) (tick : SimulationTick) (riding : RidingState) :
    Unspent k (k.advanceTo tick riding).2 := by
  have hsame := k.sameShots_advanceTo tick riding
  exact ⟨hsame.shotIndex, hsame.lastAcceptedTick, (k.reloads_advanceTo tick riding).rounds⟩

theorem getElem?_stored (a : CombatAuthority) (command : ShotCommand) (kernel : CombatKernel)
    (player : PlayerId) : (a.stored command kernel)[player]?
      = if player = command.shooterPeerId then some ⟨kernel, some command.tick⟩
        else a.shooters[player]? := by
  unfold stored
  rw [ExtTreeMap.getElem?_insert]
  by_cases heq : player = command.shooterPeerId
  · subst heq
    rw [if_pos rfl, if_pos Std.ReflCmp.compare_self]
  · rw [if_neg heq, if_neg fun hcompare => heq (Std.LawfulEqCmp.eq_of_compare hcompare).symm]

/-- What a call owes when it is rejected. -/
structure Inert (s s' : CombatAuthority × T) (player : PlayerId) : Prop where
  targets : s'.2 = s.2
  ledger : s'.1.shotLedger = s.1.shotLedger
  shooter : ∀ shooter, s.1.shooters[player]? = some shooter →
    ∃ shooter', s'.1.shooters[player]? = some shooter' ∧ Unspent shooter.kernel shooter'.kernel

/-- What a call owes when it is not: one round from the magazine that the tick finds. -/
def CostsOne (s s' : CombatAuthority × T) (call : ShotCall) : Prop :=
  ∃ shooter shooter', s.1.shooters[call.command.shooterPeerId]? = some shooter
    ∧ s'.1.shooters[call.command.shooterPeerId]? = some shooter'
    ∧ shooter'.kernel.equipped = shooter.kernel.equipped
    ∧ shooter'.kernel.equippedAmmo.magazine.toNat + 1
      = (shooter.kernel.advanceTo call.command.tick
        call.rider.riding).2.equippedAmmo.magazine.toNat

variable {B R}

theorem inert_of_reject {s : CombatAuthority × T} {call : ShotCall}
    (h : (shotStep B R s call).1 = .reject) :
    Inert s (shotStep B R s call).2 call.command.shooterPeerId := by
  have hmove := validateShot_moves B R s call
  generalize shotStep B R s call = answer at h hmove
  cases hmove with
  | unseen => exact ⟨rfl, rfl, fun shooter hknown => ⟨shooter, hknown, unspent_refl _⟩⟩
  | @refused before kernel a known later advanced shooters ledger =>
    refine ⟨rfl, ledger, fun shooter hknown => ?_⟩
    obtain rfl := Option.some.inj (known.symm.trans hknown)
    refine ⟨⟨kernel, some call.command.tick⟩, ?_, ?_⟩
    · change a.shooters[call.command.shooterPeerId]? = _
      rw [shooters, getElem?_stored, if_pos rfl]
    · rcases advanced with hsame | hadvanced
      · rw [hsame]
        exact unspent_refl _
      · rw [hadvanced]
        exact unspent_advanceTo _ _ _
  | accepted known later outcome_ne accepts shooters => exact absurd h outcome_ne

theorem costsOne_of_accepted {s : CombatAuthority × T} {call : ShotCall}
    (h : (shotStep B R s call).1 ≠ .reject) : CostsOne s (shotStep B R s call).2 call := by
  have hmove := validateShot_moves B R s call
  generalize shotStep B R s call = answer at h hmove
  cases hmove with
  | unseen => exact absurd rfl h
  | refused known later advanced shooters ledger => exact absurd rfl h
  | @accepted outcome shooter kernel prepared a targets known later outcome_ne accepts shooters =>
    refine ⟨shooter, ⟨kernel, some call.command.tick⟩, known, ?_, ?_, ?_⟩
    · change a.shooters[call.command.shooterPeerId]? = _
      rw [shooters, getElem?_stored, if_pos rfl]
    · obtain ⟨dive, -, -, hcommit⟩ := accepts.gated
      rw [hcommit]
      exact (shooter.kernel.advanceTo_frame call.command.tick call.rider.riding).2
    · obtain ⟨dive, -, -, hcommit⟩ := accepts.gated
      have hmagazine := accepts.ready.magazine
      rw [hcommit, CombatKernel.equippedAmmo_commitShot, UInt16.toNat_satSub]
      rw [← UInt16.toNat_inj.ne] at hmagazine
      have hzero : (0 : UInt16).toNat = 0 := rfl
      have hone : (1 : UInt16).toNat = 1 := rfl
      omega

/-! ## Ticks are consumed once -/

/-- The shooter has been seen at `tick` or later. -/
def Seen (player : PlayerId) (tick : SimulationTick) (s : CombatAuthority × T) : Prop :=
  ∃ shooter last, s.1.shooters[player]? = some shooter ∧ shooter.lastCommandTick = some last
    ∧ tick ≤ last

theorem Seen.store {player : PlayerId} {tick : SimulationTick} {s : CombatAuthority × T}
    (h : Seen player tick s) {call : ShotCall} {shooter : AuthorityShooter} {kernel : CombatKernel}
    {a : CombatAuthority} {targets : T}
    (known : s.1.shooters[call.command.shooterPeerId]? = some shooter)
    (later : ∀ last ∈ shooter.lastCommandTick, last < call.command.tick)
    (shooters : a.shooters = s.1.stored call.command kernel) : Seen player tick (a, targets) := by
  obtain ⟨before, last, hbefore, hlast, hle⟩ := h
  by_cases heq : player = call.command.shooterPeerId
  · subst heq
    obtain rfl := Option.some.inj (known.symm.trans hbefore)
    refine ⟨⟨kernel, some call.command.tick⟩, call.command.tick, ?_, rfl, ?_⟩
    · change a.shooters[call.command.shooterPeerId]? = _
      rw [shooters, getElem?_stored, if_pos rfl]
    · exact UInt64.le_trans hle (UInt64.le_of_lt (later last hlast))
  · refine ⟨before, last, ?_, hlast, hle⟩
    change a.shooters[player]? = _
    rw [shooters, getElem?_stored, if_neg heq]
    exact hbefore

theorem Seen.step {player : PlayerId} {tick : SimulationTick} {s : CombatAuthority × T}
    (h : Seen player tick s) (call : ShotCall) : Seen player tick (shotStep B R s call).2 := by
  have hmove := validateShot_moves B R s call
  generalize shotStep B R s call = answer at hmove
  cases hmove with
  | unseen => exact h
  | refused known later advanced shooters ledger => exact h.store known later shooters
  | accepted known later outcome_ne accepts shooters => exact h.store known later shooters

theorem seen_of_accepted {s : CombatAuthority × T} {call : ShotCall}
    (h : (shotStep B R s call).1 ≠ .reject) :
    ¬Seen call.command.shooterPeerId call.command.tick s
      ∧ Seen call.command.shooterPeerId call.command.tick (shotStep B R s call).2 := by
  have hmove := validateShot_moves B R s call
  generalize shotStep B R s call = answer at h hmove
  cases hmove with
  | unseen => exact absurd rfl h
  | refused known later advanced shooters ledger => exact absurd rfl h
  | @accepted outcome shooter kernel prepared a targets known later outcome_ne accepts shooters =>
    constructor
    · rintro ⟨before, last, hbefore, hlast, hle⟩
      obtain rfl := Option.some.inj (known.symm.trans hbefore)
      exact UInt64.not_lt.mpr hle (later last hlast)
    · refine ⟨⟨kernel, some call.command.tick⟩, call.command.tick, ?_, rfl, UInt64.le_refl _⟩
      change a.shooters[call.command.shooterPeerId]? = _
      rw [shooters, getElem?_stored, if_pos rfl]

variable (B R)

/-- What a run of validations owes. -/
structure ShotsInert (start : CombatAuthority × T) (calls : List ShotCall) : Prop where
  rejected : ∀ before call after, calls = before ++ call :: after →
    (shotStep B R (Runs.run (shotStep B R) start before) call).1 = .reject →
    Inert (Runs.run (shotStep B R) start before)
      (Runs.run (shotStep B R) start (before ++ [call])) call.command.shooterPeerId
  accepted : ∀ before call after, calls = before ++ call :: after →
    (shotStep B R (Runs.run (shotStep B R) start before) call).1 ≠ .reject →
    CostsOne (Runs.run (shotStep B R) start before)
      (Runs.run (shotStep B R) start (before ++ [call])) call
  once : ∀ before first mid second after, calls = before ++ first :: (mid ++ second :: after) →
    first.command.shooterPeerId = second.command.shooterPeerId →
    first.command.tick = second.command.tick →
    (shotStep B R (Runs.run (shotStep B R) start before) first).1 ≠ .reject →
    (shotStep B R (Runs.run (shotStep B R) start (before ++ first :: mid)) second).1 = .reject

end CombatAuthority

/-- **Rejected shots cost and hurt nothing**, accepted ones a round, and no tick fires twice. -/
theorem shots_inert {T : Type} (B : Ballistics) (R : TargetRange T) (start : CombatAuthority × T)
    (calls : List ShotCall) : CombatAuthority.ShotsInert B R start calls := by
  have hone : ∀ before call, Runs.run (CombatAuthority.shotStep B R) start (before ++ [call])
      = (CombatAuthority.shotStep B R
        (Runs.run (CombatAuthority.shotStep B R) start before) call).2 := by
    intro before call
    rw [Runs.run_append, Runs.run_cons, Runs.run_nil]
  constructor
  · intro before call after _ hreject
    rw [hone]
    exact CombatAuthority.inert_of_reject hreject
  · intro before call after _ haccepted
    rw [hone]
    exact CombatAuthority.costsOne_of_accepted haccepted
  · intro before first mid second after _ hplayer htick hfirst
    have hseen : CombatAuthority.Seen first.command.shooterPeerId first.command.tick
        (Runs.run (CombatAuthority.shotStep B R) start (before ++ first :: mid)) := by
      rw [Runs.run_append, Runs.run_cons]
      exact Runs.run_invariant (fun _ call hs => hs.step call)
        (CombatAuthority.seen_of_accepted hfirst).2 mid
    by_contra hsecond
    rw [hplayer, htick] at hseen
    exact (CombatAuthority.seen_of_accepted hsecond).1 hseen

end Spurfire
