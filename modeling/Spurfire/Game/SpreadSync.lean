import Mathlib.Data.List.Sort
import Spurfire.Game.MountedWeapon
import Spurfire.Lib.Runs

/-!
# Spread seeds across a lossy link

One client controller and the authority's kernel for the same shooter.  Both derive the next seed
from a shot index of their own: the client's moves when its kernel accepts a shot, the authority's
when the authority accepts the command.  The network delivers what was sent at any time, any number
of times, or never.

`fired` and `accepted` are bookkeeping: the ticks at which the client kernel accepted a shot and at
which the authority accepted a command.  No step reads them.

* `InStep` is the invariant: the indices count the two histories, each command in flight carries
  the seed of its own place in `fired`, and the authority accepts in tick order.
* `spread_seed_refused_only_after_a_gap` is the safety result: the seed of a command is refused
  only while some earlier shot of the client is missing from `accepted`; and while one is missing,
  no later command is accepted at all.
-/

namespace Spurfire

open Std (ExtTreeMap)

/-! ## The link -/

structure SpreadLink (T : Type) where
  client : MountedWeaponController
  authority : CombatAuthority
  targets : T
  sent : List ShotCommand
  results : List ShotResult
  fired : List SimulationTick
  accepted : List SimulationTick

/-- What the scene may do to the controller besides firing. -/
inductive ControllerOp
  | setRiderContext (context : RiderContext)
  | advanceToTick (tick : Int64)
  | beginSaddleDive (diveId launchTick : Int64) (prelaunch : Option (Vector Int32 2))
      (nominalAirtimeTicks : Int64)
  | finishSaddleDive (diveId landingTick : Int64)
  | completeRemount (tick : Int64)
  | equipWeapon (id : Int64)
  | requestReload
  | applyAuthorityResult (result : ShotResult) (rider : Option RiderAnswers)
  | resolveLocalHit (targetId : Int64) (hitZone : Option HitZone) (distanceMm : Option UInt32)
      (rider : Option RiderAnswers)
  | resolveLocalMiss (rider : Option RiderAnswers)
  | synchronizeAuthoritativeStance (stance : RiderStance) (diveId : Option DiveId)
  | advanceAuthorityEpoch (authorityEpoch : UInt64)
  | bindSessionIdentity (authorityEpoch : UInt64)

/-- A session identity is bound again for the shooter the controller already has. -/
def ControllerOp.apply (c : MountedWeaponController) : ControllerOp → MountedWeaponController
  | setRiderContext context => (c.setRiderContext context).2
  | advanceToTick tick => (c.advanceToTick tick).2
  | beginSaddleDive diveId launchTick prelaunch airtime =>
    (c.beginSaddleDive diveId launchTick prelaunch airtime).2
  | finishSaddleDive diveId landingTick => (c.finishSaddleDive diveId landingTick).2
  | completeRemount tick => (c.completeRemount tick).2
  | equipWeapon id => (c.equipWeapon id).2
  | requestReload => c.requestReload.2
  | applyAuthorityResult result rider => (c.applyAuthorityResult result rider).2
  | resolveLocalHit targetId hitZone distanceMm rider =>
    (c.resolveLocalHit targetId hitZone distanceMm rider).2
  | resolveLocalMiss rider => (c.resolveLocalMiss rider).2
  | synchronizeAuthoritativeStance stance diveId =>
    (c.synchronizeAuthoritativeStance stance diveId).2
  | advanceAuthorityEpoch authorityEpoch => (c.advanceAuthorityEpoch authorityEpoch).2
  | bindSessionIdentity authorityEpoch =>
    (c.bindSessionIdentity c.kernel.shooterPeerId authorityEpoch).2

/-- What the authority may do besides judging commands of this shooter. -/
inductive AuthorityOp
  | otherCommand (command : ShotCommand) (authorityTick : SimulationTick) (rider : RiderSnapshot)
  | kernelOp (player : PlayerId) (op : KernelOp)
  | registerShooter (player : PlayerId) (weaponId : WeaponId)
  | setAuthorityEpoch (authorityEpoch : UInt64)
  | observeAuthorityResult (result : ShotResult)

inductive LinkStep
  | controller (op : ControllerOp)
  | requestFire (request : FireRequest)
  | takePendingShotCommand
  | deliverCommand (index : ℕ) (authorityTick : SimulationTick) (rider : RiderSnapshot)
  | deliverResult (index : ℕ) (rider : Option RiderAnswers)
  | authority (op : AuthorityOp)

namespace SpreadLink

variable {T : Type} (B : Ballistics) (R : TargetRange T)

/-- The tick of the shot by which a request moved the client kernel, if it did. -/
def shotOf (c : MountedWeaponController) (request : FireRequest) : Option SimulationTick :=
  match c.fireInputs request with
  | none => none
  | some (tick, _, direction, _) =>
    if (c.kernel.requestFireDetailed B tick direction c.riding c.kernel.nextSpreadSeed).1.isOk then
      some tick
    else none

def authorityStep (s : SpreadLink T) : AuthorityOp → SpreadLink T
  | .otherCommand command authorityTick rider =>
    -- commands of this shooter only come through the link
    if command.shooterPeerId = s.client.kernel.shooterPeerId then s
    else
      let judged := s.authority.validateShot B R command authorityTick rider s.targets
      { s with
        authority := judged.2.1, targets := judged.2.2, results := s.results ++ [judged.1.result] }
  | .kernelOp player op =>
    match s.authority.shooterKernel player with
    | none => s
    | some kernel =>
      { s with authority := s.authority.setShooterKernel player (op.apply kernel) }
  | .registerShooter player weaponId =>
    { s with authority := (s.authority.registerShooter player weaponId).2 }
  | .setAuthorityEpoch authorityEpoch =>
    { s with authority := (s.authority.setAuthorityEpoch authorityEpoch).2 }
  | .observeAuthorityResult result =>
    { s with authority := (s.authority.observeAuthorityResult result).2 }

/-- One step of the link; a delivered command answers with the authority's result. -/
def step (s : SpreadLink T) : LinkStep → Option ShotResult × SpreadLink T
  | .controller op => (none, { s with client := op.apply s.client })
  | .requestFire request =>
    (none, { s with
      client := (s.client.requestFire B request).2
      fired := s.fired ++ (shotOf B s.client request).toList })
  | .takePendingShotCommand =>
    let taken := s.client.takePendingShotCommand
    (none, { s with client := taken.2, sent := s.sent ++ taken.1.toList })
  | .deliverCommand index authorityTick rider =>
    match s.sent[index]? with
    | none => (none, s)
    | some command =>
      let judged := s.authority.validateShot B R command authorityTick rider s.targets
      (some judged.1.result, { s with
        authority := judged.2.1
        targets := judged.2.2
        results := s.results ++ [judged.1.result]
        accepted :=
          if judged.1.result.outcome = .reject then s.accepted
          else s.accepted ++ [command.tick] })
  | .deliverResult index rider =>
    match s.results[index]? with
    | none => (none, s)
    | some result => (none, { s with client := (s.client.applyAuthorityResult result rider).2 })
  | .authority op => (none, s.authorityStep B R op)

end SpreadLink

/-! ## The controller's shot sequence -/

namespace MountedWeaponController

/-- `c'` will send the same sequence of shots as `c`.  A controller that never fired may have been
rebuilt from its exports. -/
structure KeepsSequence (c c' : MountedWeaponController) : Prop where
  lobbySeed : c'.lobbySeed = c.lobbySeed
  pendingWireCommand : c'.pendingWireCommand = c.pendingWireCommand
  kernel : CombatKernel.SameShots c.kernel c'.kernel
    ∨ c.kernel.shotIndex = 0 ∧ c'.kernel.shotIndex = 0 ∧ c'.kernel.lobbySeed = c.lobbySeed
      ∧ c'.kernel.shooterPeerId = c.kernel.shooterPeerId

variable {c c' : MountedWeaponController}

theorem KeepsSequence.refl (c : MountedWeaponController) : KeepsSequence c c :=
  ⟨rfl, rfl, .inl (.refl _)⟩

/-- The common case: only the kernel matters, and it did not fire. -/
theorem KeepsSequence.of_kernel (hseed : c'.lobbySeed = c.lobbySeed)
    (hpending : c'.pendingWireCommand = c.pendingWireCommand)
    (hkernel : CombatKernel.SameShots c.kernel c'.kernel) : KeepsSequence c c' :=
  ⟨hseed, hpending, .inl hkernel⟩

/-- Neither step of a remount fires or touches what is pending. -/
theorem sameShots_advanceKernelTo (c : MountedWeaponController) (tick : SimulationTick) :
    CombatKernel.SameShots c.kernel (c.advanceKernelTo tick).2.kernel
      ∧ (c.advanceKernelTo tick).2.lobbySeed = c.lobbySeed
      ∧ (c.advanceKernelTo tick).2.pendingWireCommand = c.pendingWireCommand := by
  have h := c.kernel.sameShots_advanceTo tick c.riding
  unfold advanceKernelTo
  dsimp only
  split_ifs
  · exact ⟨h, rfl, rfl⟩
  · exact ⟨h, rfl, rfl⟩

theorem sameShots_closeOpenDive (c : MountedWeaponController) (tick : SimulationTick) :
    CombatKernel.SameShots c.kernel (c.closeOpenDive tick).2.kernel
      ∧ (c.closeOpenDive tick).2.lobbySeed = c.lobbySeed
      ∧ (c.closeOpenDive tick).2.pendingWireCommand = c.pendingWireCommand := by
  unfold closeOpenDive
  cases c.kernel.diveContext with
  | none => exact ⟨.refl _, rfl, rfl⟩
  | some context =>
    dsimp only
    split_ifs
    · exact ⟨.refl _, rfl, rfl⟩
    · exact ⟨c.kernel.sameShots_finishSaddleDive _ _, rfl, rfl⟩

theorem keepsSequence_completeRemount (c : MountedWeaponController) (tick : Int64) :
    KeepsSequence c (c.completeRemount tick).2 := by
  unfold completeRemount
  cases tryU64 tick with
  | none => exact .refl c
  | some tick =>
    obtain ⟨hclosed, hseed, hpending⟩ := c.sameShots_closeOpenDive tick
    dsimp only
    -- the remounted rider advances, then unholsters
    obtain ⟨hadvanced, hseed', hpending'⟩ := sameShots_advanceKernelTo
      { (c.closeOpenDive tick).2 with
        riding := { (c.closeOpenDive tick).2.riding with stance := .mounted, diveId := none } } tick
    split_ifs
    · exact .of_kernel hseed hpending hclosed
    · exact .of_kernel (hseed'.trans hseed) (hpending'.trans hpending) (hclosed.trans hadvanced)
    · exact .of_kernel (hseed'.trans hseed) (hpending'.trans hpending)
        ((hclosed.trans hadvanced).trans (CombatKernel.sameShots_equipWeapon _ _))

theorem keepsSequence_applyAuthorityResult (c : MountedWeaponController) (result : ShotResult)
    (rider : Option RiderAnswers) : KeepsSequence c (c.applyAuthorityResult result rider).2 := by
  unfold applyAuthorityResult
  split_ifs
  · exact .refl c
  · exact .of_kernel rfl rfl (.refl _)

/-- A rebuilt kernel starts the sequence of the exported lobby seed. -/
theorem withFullLoadout_eq_some {tickRate : UInt32} {lobbySeed : UInt64} {player : PlayerId}
    {kernel : CombatKernel}
    (h : CombatKernel.withFullLoadout tickRate lobbySeed player = some kernel) :
    kernel.lobbySeed = lobbySeed ∧ kernel.shooterPeerId = player ∧ kernel.shotIndex = 0 := by
  unfold CombatKernel.withFullLoadout CombatKernel.withWeapon at h
  split_ifs at h
  · exact nomatch h
  · rw [Option.map_some, Option.some.injEq] at h
    subst h
    exact ⟨rfl, rfl, rfl⟩

theorem keepsSequence_bindSessionIdentity (c : MountedWeaponController) (authorityEpoch : UInt64) :
    KeepsSequence c (c.bindSessionIdentity c.kernel.shooterPeerId authorityEpoch).2 := by
  unfold bindSessionIdentity
  split_ifs with _ hbusy
  · exact .refl c
  · exact .refl c
  · have hidle : c.kernel.shotIndex = 0 := by
      by_contra hne
      exact hbusy (.inl hne)
    cases hkernel : CombatKernel.withFullLoadout c.kernel.tickRate c.lobbySeed
        c.kernel.shooterPeerId with
    | none => exact .refl c
    | some kernel =>
      obtain ⟨hseed, hshooter, hindex⟩ := withFullLoadout_eq_some hkernel
      have hequip := kernel.sameShots_equipWeapon c.kernel.equipped
      dsimp only
      split_ifs
      · exact .refl c
      · exact ⟨rfl, rfl, .inr ⟨hidle, hequip.shotIndex.trans hindex,
          hequip.lobbySeed.trans hseed, hequip.shooterPeerId.trans hshooter⟩⟩
      · exact ⟨rfl, rfl, .inr ⟨hidle, hindex, hseed, hshooter⟩⟩

/-- **Only firing sends shots**: every other operation keeps the sequence. -/
theorem keepsSequence_apply (c : MountedWeaponController) (op : ControllerOp) :
    KeepsSequence c (op.apply c) := by
  cases op with
  | setRiderContext context =>
    dsimp only [ControllerOp.apply, setRiderContext]
    repeat' split
    all_goals first | exact .refl c | exact .of_kernel rfl rfl (.refl _)
  | advanceToTick tick =>
    dsimp only [ControllerOp.apply, advanceToTick]
    cases tryU64 tick with
    | none => exact .refl c
    | some tick =>
      obtain ⟨h, hseed, hpending⟩ := c.sameShots_advanceKernelTo tick
      exact .of_kernel hseed hpending h
  | beginSaddleDive diveId launchTick prelaunch airtime =>
    dsimp only [ControllerOp.apply, beginSaddleDive]
    repeat' split
    all_goals
      first | exact .refl c | exact .of_kernel rfl rfl (c.kernel.sameShots_beginSaddleDive _ _ _ _ _)
  | finishSaddleDive diveId landingTick =>
    dsimp only [ControllerOp.apply, finishSaddleDive]
    repeat' split
    all_goals
      first | exact .refl c | exact .of_kernel rfl rfl (c.kernel.sameShots_finishSaddleDive _ _)
  | completeRemount tick => exact c.keepsSequence_completeRemount tick
  | equipWeapon id =>
    dsimp only [ControllerOp.apply, equipWeapon]
    repeat' split
    all_goals first | exact .refl c | exact .of_kernel rfl rfl (c.kernel.sameShots_equipWeapon _)
  | requestReload => exact .of_kernel rfl rfl (c.kernel.sameShots_requestReload _ _)
  | applyAuthorityResult result rider => exact c.keepsSequence_applyAuthorityResult result rider
  | resolveLocalHit targetId hitZone distanceMm rider =>
    dsimp only [ControllerOp.apply, resolveLocalHit]
    cases c.pendingLocalShot with
    | none => exact .refl c
    | some pending =>
      have hresult := fun result =>
        keepsSequence_applyAuthorityResult { c with pendingLocalShot := none } result rider
      dsimp only
      split
      · split_ifs
        · exact .of_kernel rfl rfl (.refl _)
        · exact ⟨(hresult _).1, (hresult _).2, (hresult _).3⟩
      · exact .of_kernel rfl rfl (.refl _)
  | resolveLocalMiss rider =>
    dsimp only [ControllerOp.apply, resolveLocalMiss]
    cases c.pendingLocalShot with
    | none => exact .refl c
    | some pending =>
      have hresult := fun result =>
        keepsSequence_applyAuthorityResult { c with pendingLocalShot := none } result rider
      exact ⟨(hresult _).1, (hresult _).2, (hresult _).3⟩
  | synchronizeAuthoritativeStance stance diveId =>
    dsimp only [ControllerOp.apply, synchronizeAuthoritativeStance]
    split_ifs
    · exact .refl c
    · exact .of_kernel rfl rfl (c.kernel.sameShots_advanceTo _ _)
  | advanceAuthorityEpoch authorityEpoch =>
    dsimp only [ControllerOp.apply, advanceAuthorityEpoch]
    split_ifs
    · exact .refl c
    · exact .of_kernel rfl rfl (.refl _)
  | bindSessionIdentity authorityEpoch => exact c.keepsSequence_bindSessionIdentity authorityEpoch

end MountedWeaponController

/-! ## The invariant -/

/-- The shot index after `n` acceptances; it saturates. -/
def indexAfter (origin : UInt64) (n : ℕ) : UInt64 :=
  UInt64.ofNat (min (origin.toNat + n) (2 ^ 64 - 1))

theorem toNat_indexAfter (origin : UInt64) (n : ℕ) :
    (indexAfter origin n).toNat = min (origin.toNat + n) (2 ^ 64 - 1) := by
  rw [indexAfter, UInt64.toNat_ofNat', Nat.mod_eq_of_lt (by omega)]

theorem indexAfter_zero (origin : UInt64) : indexAfter origin 0 = origin := by
  have := origin.toNat_lt
  rw [← UInt64.toNat_inj, toNat_indexAfter]
  omega

theorem indexAfter_succ (origin : UInt64) (n : ℕ) :
    (indexAfter origin n).satAdd 1 = indexAfter origin (n + 1) := by
  have hone : (1 : UInt64).toNat = 1 := rfl
  rw [← UInt64.toNat_inj, UInt64.toNat_satAdd, toNat_indexAfter, toNat_indexAfter, hone]
  omega

/-- The kernel of `player` in the lobby of `seed`, expecting its shot number `index`. -/
structure CombatKernel.Expects (k : CombatKernel) (seed : UInt64) (player : PlayerId)
    (index : UInt64) : Prop where
  lobbySeed : k.lobbySeed = seed
  shooterPeerId : k.shooterPeerId = player
  shotIndex : k.shotIndex = index

namespace CombatKernel.Expects

variable {k k' : CombatKernel} {seed : UInt64} {player : PlayerId} {index : UInt64}

theorem nextSpreadSeed (h : k.Expects seed player index) :
    k.nextSpreadSeed = shotSpreadSeed seed player index := by
  unfold CombatKernel.nextSpreadSeed
  rw [h.lobbySeed, h.shooterPeerId, h.shotIndex]

theorem same (h : k.Expects seed player index) (hsame : CombatKernel.SameShots k k') :
    k'.Expects seed player index :=
  ⟨hsame.lobbySeed.trans h.lobbySeed, hsame.shooterPeerId.trans h.shooterPeerId,
    hsame.shotIndex.trans h.shotIndex⟩

theorem fires {origin : UInt64} {n : ℕ} {tick : SimulationTick} {supplied : UInt64}
    (h : k.Expects seed player (indexAfter origin n)) (hfires : k.Fires tick supplied k') :
    k'.Expects seed player (indexAfter origin (n + 1)) := by
  refine ⟨hfires.lobbySeed.trans h.lobbySeed, hfires.shooterPeerId.trans h.shooterPeerId, ?_⟩
  rw [hfires.shotIndex, h.shotIndex, indexAfter_succ]

end CombatKernel.Expects

/-- A command the client's kernel accepted: it carries the seed of its place among the shots. -/
def Genuine (seed : UInt64) (player : PlayerId) (origin : UInt64) (fired : List SimulationTick)
    (command : ShotCommand) : Prop :=
  command.shooterPeerId = player ∧ ∃ i, fired[i]? = some command.tick
    ∧ command.spreadSeed = shotSpreadSeed seed player (indexAfter origin i)

theorem Genuine.append {seed : UInt64} {player : PlayerId} {origin : UInt64}
    {fired : List SimulationTick} {command : ShotCommand}
    (h : Genuine seed player origin fired command) (later : List SimulationTick) :
    Genuine seed player origin (fired ++ later) command := by
  obtain ⟨hplayer, i, hi, hseed⟩ := h
  refine ⟨hplayer, i, ?_, hseed⟩
  rw [List.getElem?_append_left (List.getElem?_eq_some_iff.mp hi).1, hi]

/-- All ticks of the history are at most the last one remembered. -/
def UpTo (history : List SimulationTick) (last : Option SimulationTick) : Prop :=
  ∀ tick ∈ history, ∃ bound ∈ last, tick ≤ bound

theorem pairwise_append_of_upTo {history : List SimulationTick} {last : Option SimulationTick}
    {tick : SimulationTick} (hsorted : history.Pairwise (· < ·)) (hupTo : UpTo history last)
    (hlater : ∀ bound ∈ last, bound < tick) : (history ++ [tick]).Pairwise (· < ·) := by
  rw [List.pairwise_append]
  refine ⟨hsorted, List.pairwise_singleton _ _, fun earlier hearlier later hlater' => ?_⟩
  rw [List.mem_singleton] at hlater'
  obtain ⟨bound, hbound, hle⟩ := hupTo earlier hearlier
  exact hlater' ▸ UInt64.lt_of_le_of_lt hle (hlater bound hbound)

theorem upTo_append {history : List SimulationTick} {last : Option SimulationTick}
    {tick : SimulationTick} (hupTo : UpTo history last) (hlater : ∀ bound ∈ last, bound < tick) :
    UpTo (history ++ [tick]) (some tick) := by
  intro earlier hearlier
  refine ⟨tick, rfl, ?_⟩
  rcases List.mem_append.mp hearlier with h | h
  · obtain ⟨bound, hbound, hle⟩ := hupTo earlier h
    exact UInt64.le_of_lt (UInt64.lt_of_le_of_lt hle (hlater bound hbound))
  · rw [List.mem_singleton.mp h]
    exact UInt64.le_refl tick

theorem UpTo.mono {history : List SimulationTick} {last : Option SimulationTick}
    {tick : SimulationTick} (hupTo : UpTo history last) (hlater : ∀ bound ∈ last, bound < tick) :
    UpTo history (some tick) :=
  fun earlier hearlier => upTo_append hupTo hlater earlier (List.mem_append_left _ hearlier)

namespace SpreadLink

variable {T : Type}

/-- What both ends know about the shooter's shots. -/
structure InStep (seed : UInt64) (player : PlayerId) (origin : UInt64) (s : SpreadLink T) :
    Prop where
  exported : s.client.lobbySeed = seed
  clientKernel : s.client.kernel.Expects seed player (indexAfter origin s.fired.length)
  clientLast : UpTo s.fired s.client.kernel.lastAcceptedTick
  firedSorted : s.fired.Pairwise (· < ·)
  commands : ∀ command ∈ s.sent ++ s.client.pendingWireCommand.toList,
    Genuine seed player origin s.fired command
  authorityKernel : ∃ shooter, s.authority.shooters[player]? = some shooter
    ∧ shooter.kernel.Expects seed player (indexAfter origin s.accepted.length)
    ∧ UpTo s.accepted shooter.lastCommandTick
  acceptedSorted : s.accepted.Pairwise (· < ·)
  acceptedFired : s.accepted ⊆ s.fired

/-- **Both ends start from the same lobby seed and shot index**, with nothing in flight. -/
structure Start (seed : UInt64) (player : PlayerId) (origin : UInt64) (s : SpreadLink T) :
    Prop where
  exported : s.client.lobbySeed = seed
  clientKernel : s.client.kernel.Expects seed player origin
  authorityKernel : ∃ kernel, s.authority.shooterKernel player = some kernel
    ∧ kernel.Expects seed player origin
  nothingPending : s.client.pendingWireCommand = none
  nothingSent : s.sent = []
  nothingFired : s.fired = []
  nothingAccepted : s.accepted = []

variable {seed : UInt64} {player : PlayerId} {origin : UInt64} {s : SpreadLink T}

theorem Start.inStep (h : s.Start seed player origin) : s.InStep seed player origin := by
  have hsome := h.authorityKernel
  obtain ⟨kernel, hkernel, hexpects⟩ := hsome
  unfold CombatAuthority.shooterKernel at hkernel
  rw [Option.map_eq_some_iff] at hkernel
  obtain ⟨shooter, hshooter, rfl⟩ := hkernel
  constructor
  · exact h.exported
  · rw [h.nothingFired, List.length_nil, indexAfter_zero]
    exact h.clientKernel
  · rw [h.nothingFired]
    exact fun tick htick => absurd htick (List.not_mem_nil)
  · rw [h.nothingFired]
    exact .nil
  · rw [h.nothingSent, h.nothingPending]
    exact fun command hcommand => absurd hcommand (List.not_mem_nil)
  · refine ⟨shooter, hshooter, ?_, ?_⟩
    · rw [h.nothingAccepted, List.length_nil, indexAfter_zero]
      exact hexpects
    · rw [h.nothingAccepted]
      exact fun tick htick => absurd htick (List.not_mem_nil)
  · rw [h.nothingAccepted]
    exact .nil
  · rw [h.nothingAccepted]
    exact List.nil_subset _

/-! ## Steps keep the invariant -/

theorem inStep_controller (h : s.InStep seed player origin) {client : MountedWeaponController}
    (hkeep : s.client.KeepsSequence client) :
    { s with client }.InStep seed player origin := by
  have hexported : client.lobbySeed = seed := hkeep.lobbySeed.trans h.exported
  have hcommands : ∀ command ∈ s.sent ++ client.pendingWireCommand.toList,
      Genuine seed player origin s.fired command := hkeep.pendingWireCommand ▸ h.commands
  rcases hkeep.kernel with hsame | ⟨hidle, hindex, hseed, hshooter⟩
  · exact ⟨hexported, h.clientKernel.same hsame, hsame.lastAcceptedTick ▸ h.clientLast,
      h.firedSorted, hcommands, h.authorityKernel, h.acceptedSorted, h.acceptedFired⟩
  · -- a controller that can be rebuilt has never fired
    have hzero := congrArg UInt64.toNat (h.clientKernel.shotIndex.symm.trans hidle)
    rw [toNat_indexAfter] at hzero
    have hnil : s.fired = [] := by
      have : (0 : UInt64).toNat = 0 := rfl
      exact List.length_eq_zero_iff.mp (by omega)
    refine ⟨hexported, ⟨hseed.trans h.exported, hshooter.trans h.clientKernel.shooterPeerId, ?_⟩,
      ?_, h.firedSorted, hcommands, h.authorityKernel, h.acceptedSorted, h.acceptedFired⟩
    · exact hindex.trans (hidle.symm.trans h.clientKernel.shotIndex)
    · intro tick htick
      exact absurd (hnil ▸ htick) List.not_mem_nil

/-- What booking a shot leaves to the network. -/
theorem pending_bookShot (c : MountedWeaponController) (prepared : PreparedShot)
    (origin : QuantizedOrigin) (supplied : UInt64) (rider : RiderAnswers) :
    (c.bookShot prepared origin supplied rider).2.lobbySeed = c.lobbySeed
      ∧ (c.bookShot prepared origin supplied rider).2.kernel = c.kernel
      ∧ ((c.bookShot prepared origin supplied rider).2.pendingWireCommand = c.pendingWireCommand
        ∨ (c.bookShot prepared origin supplied rider).2.pendingWireCommand
          = some (c.wireCommand prepared origin supplied)) := by
  unfold MountedWeaponController.bookShot
  dsimp only
  split_ifs
  · exact ⟨rfl, rfl, .inl rfl⟩
  · exact ⟨rfl, rfl, .inr rfl⟩

theorem inStep_requestFire (B : Ballistics) (R : TargetRange T) (h : s.InStep seed player origin)
    (request : FireRequest) : (step B R s (.requestFire request)).2.InStep seed player origin := by
  dsimp only [step, shotOf, MountedWeaponController.requestFire]
  cases s.client.fireInputs request with
  | none =>
    dsimp only
    rw [Option.toList_none, List.append_nil]
    exact inStep_controller h (.of_kernel rfl rfl (.refl _))
  | some inputs =>
    obtain ⟨tick, muzzle, direction, rider⟩ := inputs
    have houtcome := s.client.kernel.requestFireDetailed_outcome B tick direction s.client.riding
      s.client.kernel.nextSpreadSeed
    dsimp only
    generalize s.client.kernel.requestFireDetailed B tick direction s.client.riding
      s.client.kernel.nextSpreadSeed = answer at houtcome ⊢
    cases houtcome with
    | refused same blame =>
      rw [if_neg (by simp [Except.isOk, Except.toBool]), Option.toList_none, List.append_nil]
      exact inStep_controller h (.of_kernel rfl rfl same)
    | @fired prepared kernel htick fires =>
      rw [if_pos (by simp [Except.isOk, Except.toBool]), Option.toList_some]
      dsimp only
      obtain ⟨hseed, hkernel, hpending⟩ := pending_bookShot { s.client with kernel } prepared muzzle
        s.client.kernel.nextSpreadSeed rider
      refine ⟨hseed.trans h.exported, ?_, ?_, ?_, ?_, h.authorityKernel, h.acceptedSorted, ?_⟩
      · rw [hkernel, List.length_append]
        exact h.clientKernel.fires fires
      · rw [hkernel]
        exact fires.lastAcceptedTick ▸ upTo_append h.clientLast fires.later
      · exact pairwise_append_of_upTo h.firedSorted h.clientLast fires.later
      · -- the new command sits at the end of the history, under the seed expected there
        have hnew : Genuine seed player origin (s.fired ++ [tick])
            ({ s.client with kernel }.wireCommand prepared muzzle
              s.client.kernel.nextSpreadSeed) := by
          refine ⟨fires.shooterPeerId.trans h.clientKernel.shooterPeerId, s.fired.length, ?_,
            h.clientKernel.nextSpreadSeed⟩
          rw [List.getElem?_concat_length]
          exact congrArg some htick.symm
        intro command hcommand
        rcases List.mem_append.mp hcommand with hsent | hpend
        · exact (h.commands command (List.mem_append_left _ hsent)).append _
        · rw [Option.mem_toList] at hpend
          rcases hpending with hp | hp
          · rw [hp] at hpend
            exact (h.commands command
              (List.mem_append_right _ (Option.mem_toList.mpr hpend))).append _
          · rw [hp] at hpend
            exact Option.some.inj hpend ▸ hnew
      · exact fun tick' htick' => List.mem_append_left _ (h.acceptedFired htick')

theorem inStep_take (B : Ballistics) (R : TargetRange T) (h : s.InStep seed player origin) :
    (step B R s .takePendingShotCommand).2.InStep seed player origin := by
  refine ⟨h.exported, h.clientKernel, h.clientLast, h.firedSorted, ?_, h.authorityKernel,
    h.acceptedSorted, h.acceptedFired⟩
  intro command hcommand
  dsimp only [step, MountedWeaponController.takePendingShotCommand] at hcommand
  rw [Option.toList_none, List.append_nil] at hcommand
  exact h.commands command hcommand

/-- The verdict on a command in flight, against what both ends know. -/
theorem inStep_deliverCommand (B : Ballistics) (R : TargetRange T)
    (h : s.InStep seed player origin) (index : ℕ) (authorityTick : SimulationTick)
    (rider : RiderSnapshot) :
    (step B R s (.deliverCommand index authorityTick rider)).2.InStep seed player origin := by
  dsimp only [step]
  cases hcommand : s.sent[index]? with
  | none => exact h
  | some command =>
    obtain ⟨hplayer, i, hi, -⟩ :=
      h.commands command (List.mem_append_left _ (List.mem_of_getElem? hcommand))
    obtain ⟨shooter, hshooter, hexpects, hlast⟩ := h.authorityKernel
    rw [← hplayer] at hshooter
    obtain ⟨shooter', hverdict, hshooter'⟩ := @CombatAuthority.validateShot_verdict T B R
      s.authority shooter command authorityTick rider s.targets hshooter
    rw [hplayer] at hshooter'
    dsimp only
    generalize (s.authority.validateShot B R command authorityTick rider s.targets) = judged
      at hverdict hshooter' ⊢
    cases hverdict with
    | unseen outcome reason =>
      rw [if_pos outcome]
      exact ⟨h.exported, h.clientKernel, h.clientLast, h.firedSorted, h.commands,
        ⟨shooter, hshooter', hexpects, hlast⟩, h.acceptedSorted, h.acceptedFired⟩
    | refused later same outcome blame =>
      rw [if_pos outcome]
      exact ⟨h.exported, h.clientKernel, h.clientLast, h.firedSorted, h.commands,
        ⟨_, hshooter', hexpects.same same, hlast.mono later⟩, h.acceptedSorted, h.acceptedFired⟩
    | accepted later fires outcome reason =>
      rw [if_neg outcome]
      refine ⟨h.exported, h.clientKernel, h.clientLast, h.firedSorted, h.commands,
        ⟨_, hshooter', ?_, upTo_append hlast later⟩,
        pairwise_append_of_upTo h.acceptedSorted hlast later, ?_⟩
      · rw [List.length_append]
        exact hexpects.fires fires
      · intro tick htick
        rcases List.mem_append.mp htick with hold | hnew
        · exact h.acceptedFired hold
        · rw [List.mem_singleton] at hnew
          subst hnew
          exact List.mem_of_getElem? hi

theorem inStep_deliverResult (B : Ballistics) (R : TargetRange T) (h : s.InStep seed player origin)
    (index : ℕ) (rider : Option RiderAnswers) :
    (step B R s (.deliverResult index rider)).2.InStep seed player origin := by
  dsimp only [step]
  cases s.results[index]? with
  | none => exact h
  | some result =>
    exact inStep_controller h (s.client.keepsSequence_applyAuthorityResult result rider)

/-- An authority step that leaves the shooter's own entry with the same shots. -/
theorem inStep_entry (h : s.InStep seed player origin) {authority : CombatAuthority} {targets : T}
    {results : List ShotResult}
    (hentry : ∀ shooter, s.authority.shooters[player]? = some shooter →
      ∃ shooter', authority.shooters[player]? = some shooter'
        ∧ CombatKernel.SameShots shooter.kernel shooter'.kernel
        ∧ shooter'.lastCommandTick = shooter.lastCommandTick) :
    { s with authority, targets, results }.InStep seed player origin := by
  obtain ⟨shooter, hshooter, hexpects, hlast⟩ := h.authorityKernel
  obtain ⟨shooter', hshooter', hsame, htick⟩ := hentry shooter hshooter
  exact ⟨h.exported, h.clientKernel, h.clientLast, h.firedSorted, h.commands,
    ⟨shooter', hshooter', hexpects.same hsame, htick ▸ hlast⟩, h.acceptedSorted, h.acceptedFired⟩

theorem inStep_authorityStep (B : Ballistics) (R : TargetRange T)
    (h : s.InStep seed player origin) (op : AuthorityOp) :
    (s.authorityStep B R op).InStep seed player origin := by
  cases op with
  | otherCommand command authorityTick rider =>
    dsimp only [authorityStep]
    split_ifs with hown
    · exact h
    · refine inStep_entry h fun shooter hshooter => ⟨shooter, ?_, .refl _, rfl⟩
      have hne : player ≠ command.shooterPeerId := fun heq =>
        hown (heq.symm.trans h.clientKernel.shooterPeerId.symm)
      exact (CombatAuthority.validateShot_frame B R hne).trans hshooter
  | kernelOp other op =>
    dsimp only [authorityStep]
    cases hkernel : s.authority.shooterKernel other with
    | none => exact h
    | some kernel =>
      refine inStep_entry h fun shooter hshooter => ?_
      dsimp only [CombatAuthority.setShooterKernel]
      rw [ExtTreeMap.getElem?_modify]
      by_cases heq : other = player
      · subst heq
        rw [if_pos Std.ReflCmp.compare_self, hshooter]
        unfold CombatAuthority.shooterKernel at hkernel
        rw [hshooter, Option.map_some, Option.some.injEq] at hkernel
        exact ⟨_, rfl, hkernel ▸ op.sameShots shooter.kernel, rfl⟩
      · rw [if_neg fun hcompare => heq (Std.LawfulEqCmp.eq_of_compare hcompare)]
        exact ⟨shooter, hshooter, .refl _, rfl⟩
  | registerShooter other weaponId =>
    dsimp only [authorityStep, CombatAuthority.registerShooter]
    split_ifs with hknown
    · exact h
    · refine inStep_entry h fun shooter hshooter => ⟨shooter, ?_, .refl _, rfl⟩
      rw [ExtTreeMap.getElem?_insert, if_neg, hshooter]
      intro hcompare
      rw [Std.LawfulEqCmp.eq_of_compare hcompare, ExtTreeMap.mem_iff_isSome_getElem?,
        hshooter] at hknown
      exact hknown rfl
  | setAuthorityEpoch authorityEpoch =>
    refine inStep_entry h fun shooter hshooter => ⟨shooter, ?_, .refl _, rfl⟩
    unfold CombatAuthority.setAuthorityEpoch
    split_ifs <;> exact hshooter
  | observeAuthorityResult result =>
    exact inStep_entry h fun shooter hshooter => ⟨shooter, hshooter, .refl _, rfl⟩

/-- **Every step keeps the two ends in step.** -/
theorem inStep_step (B : Ballistics) (R : TargetRange T) (s : SpreadLink T) (a : LinkStep)
    (h : s.InStep seed player origin) : (step B R s a).2.InStep seed player origin := by
  cases a with
  | controller op => exact inStep_controller h (s.client.keepsSequence_apply op)
  | requestFire request => exact inStep_requestFire B R h request
  | takePendingShotCommand => exact inStep_take B R h
  | deliverCommand index authorityTick rider =>
    exact inStep_deliverCommand B R h index authorityTick rider
  | deliverResult index rider => exact inStep_deliverResult B R h index rider
  | authority op => exact inStep_authorityStep B R h op

/-! ## Which commands the authority refuses -/

/-- Before position `i` of a sorted history stand exactly the earlier ticks. -/
theorem mem_take_iff_lt {history : List SimulationTick} {i : ℕ} {tick other : SimulationTick}
    (hsorted : history.Pairwise (· < ·)) (hi : history[i]? = some tick) :
    other ∈ history.take i ↔ other ∈ history ∧ other < tick := by
  obtain ⟨hlt, hget⟩ := List.getElem?_eq_some_iff.mp hi
  have hdrop : history.drop i = tick :: history.drop (i + 1) := by
    rw [List.drop_eq_getElem_cons hlt, hget]
  have hparts := hsorted
  rw [← List.take_append_drop i history, hdrop, List.pairwise_append, List.pairwise_cons] at hparts
  obtain ⟨-, ⟨hafter, -⟩, hbefore⟩ := hparts
  constructor
  · exact fun hmem => ⟨List.mem_of_mem_take hmem, hbefore other hmem tick List.mem_cons_self⟩
  · rintro ⟨hmem, hother⟩
    rw [← List.take_append_drop i history, hdrop, List.mem_append, List.mem_cons] at hmem
    rcases hmem with hmem | rfl | hmem
    · exact hmem
    · exact absurd hother (UInt64.lt_irrefl _)
    · exact absurd (UInt64.lt_trans hother (hafter other hmem)) (UInt64.lt_irrefl _)

theorem nodup_of_sorted {history : List SimulationTick} (h : history.Pairwise (· < ·)) :
    history.Nodup := by
  refine h.imp fun hlt heq => ?_
  rw [heq] at hlt
  exact UInt64.lt_irrefl _ hlt

/-- The accepted shots all stand before a command that is later than all of them. -/
theorem InStep.accepted_subperm (h : s.InStep seed player origin) {shooter : AuthorityShooter}
    {i : ℕ} {command : ShotCommand} (hi : s.fired[i]? = some command.tick)
    (hlast : UpTo s.accepted shooter.lastCommandTick)
    (hlater : ∀ last ∈ shooter.lastCommandTick, last < command.tick) :
    s.accepted.Subperm (s.fired.take i) := by
  refine (nodup_of_sorted h.acceptedSorted).subperm fun tick htick => ?_
  obtain ⟨bound, hbound, hle⟩ := hlast tick htick
  exact (mem_take_iff_lt h.firedSorted hi).mpr
    ⟨h.acceptedFired htick, UInt64.lt_of_le_of_lt hle (hlater bound hbound)⟩

theorem length_take_of_getElem? {history : List SimulationTick} {i : ℕ} {tick : SimulationTick}
    (hi : history[i]? = some tick) : (history.take i).length = i := by
  rw [List.length_take]
  exact Nat.min_eq_left (List.getElem?_eq_some_iff.mp hi).1.le

/-- When every earlier shot was accepted, the authority expects this very command. -/
theorem InStep.accepted_length (h : s.InStep seed player origin) {shooter : AuthorityShooter}
    {i : ℕ} {command : ShotCommand} (hi : s.fired[i]? = some command.tick)
    (hlast : UpTo s.accepted shooter.lastCommandTick)
    (hlater : ∀ last ∈ shooter.lastCommandTick, last < command.tick)
    (hpre : ∀ tick ∈ s.fired, tick < command.tick → tick ∈ s.accepted) :
    s.accepted.length = i := by
  have hle := (h.accepted_subperm hi hlast hlater).length_le
  have hnodup : (s.fired.take i).Nodup :=
    (nodup_of_sorted h.firedSorted).sublist (List.take_sublist i s.fired)
  have hge := (hnodup.subperm fun tick htick =>
    let ⟨hmem, hlt⟩ := (mem_take_iff_lt h.firedSorted hi).mp htick
    hpre tick hmem hlt).length_le
  rw [length_take_of_getElem? hi] at hle hge
  exact le_antisymm hle hge

/-- A missing earlier shot leaves the authority's index behind. -/
theorem InStep.accepted_length_lt (h : s.InStep seed player origin) {shooter : AuthorityShooter}
    {i : ℕ} {command : ShotCommand} (hi : s.fired[i]? = some command.tick)
    (hlast : UpTo s.accepted shooter.lastCommandTick)
    (hlater : ∀ last ∈ shooter.lastCommandTick, last < command.tick)
    (hgap : ∃ tick ∈ s.fired, tick < command.tick ∧ tick ∉ s.accepted) :
    s.accepted.length < i := by
  have hsub := h.accepted_subperm hi hlast hlater
  have hle := hsub.length_le
  rw [length_take_of_getElem? hi] at hle
  refine lt_of_le_of_ne hle fun heq => ?_
  have hperm := hsub.perm_of_length_le (by rw [length_take_of_getElem? hi]; exact heq.ge)
  obtain ⟨tick, hmem, hlt, hmissing⟩ := hgap
  exact hmissing (hperm.mem_iff.mpr ((mem_take_iff_lt h.firedSorted hi).mpr ⟨hmem, hlt⟩))

/-- Below saturation the indices of two positions differ. -/
theorem indexAfter_ne {origin : UInt64} {m n : ℕ} (hmn : m < n)
    (hroom : origin.toNat + n < 2 ^ 64) : indexAfter origin m ≠ indexAfter origin n := by
  intro heq
  have := congrArg UInt64.toNat heq
  rw [toNat_indexAfter, toNat_indexAfter] at this
  omega

/-- The verdict on a command in flight, between the two cases. -/
theorem InStep.verdict (B : Ballistics) (R : TargetRange T) (h : s.InStep seed player origin)
    {command : ShotCommand} (hcommand : command ∈ s.sent) (authorityTick : SimulationTick)
    (rider : RiderSnapshot) :
    let result := (s.authority.validateShot B R command authorityTick rider s.targets).1.result
    ((∀ tick ∈ s.fired, tick < command.tick → tick ∈ s.accepted) →
        result.rejectionReason ≠ some .spreadSeed)
      ∧ ((∃ tick ∈ s.fired, tick < command.tick ∧ tick ∉ s.accepted) →
        origin.toNat + s.fired.length < 2 ^ 64 → result.outcome = .reject) := by
  obtain ⟨hplayer, i, hi, hseed⟩ := h.commands command (List.mem_append_left _ hcommand)
  obtain ⟨shooter, hshooter, hexpects, hlast⟩ := h.authorityKernel
  rw [← hplayer] at hshooter
  obtain ⟨shooter', hverdict, -⟩ := @CombatAuthority.validateShot_verdict T B R
    s.authority shooter command authorityTick rider s.targets hshooter
  dsimp only
  generalize (s.authority.validateShot B R command authorityTick rider s.targets).1.result = result
    at hverdict ⊢
  cases hverdict with
  | unseen outcome reason => exact ⟨fun _ => reason, fun _ _ => outcome⟩
  | refused later same outcome blame =>
    refine ⟨fun hpre hreason => blame hreason ?_, fun _ _ => outcome⟩
    rw [hseed, hexpects.nextSpreadSeed, h.accepted_length hi hlast later hpre]
  | accepted later fires outcome reason =>
    refine ⟨fun _ => reason ▸ nofun, fun hgap hroom => ?_⟩
    -- the seeds agree, so the positions do
    have hlt := h.accepted_length_lt hi hlast later hgap
    have hroom' : origin.toNat + i < 2 ^ 64 := by
      have := (List.getElem?_eq_some_iff.mp hi).1
      omega
    have heq := fires.seed
    rw [hseed, hexpects.nextSpreadSeed] at heq
    exact absurd (shotSpreadSeed_injective seed player heq).symm (indexAfter_ne hlt hroom')

/-- **A seed is refused only after a gap.**  In every run of the link, a command the client's
kernel accepted is not refused for its seed as long as the authority accepted every shot before it;
while one of them is missing, the command is not accepted (until the 64-bit index saturates). -/
theorem spread_seed_refused_only_after_a_gap (B : Ballistics) (R : TargetRange T)
    (seed : UInt64) (player : PlayerId) (origin : UInt64) (s : SpreadLink T)
    (hstart : s.Start seed player origin) (steps : List LinkStep) :
    let t := Runs.run (step B R) s steps
    ∀ command ∈ t.sent, ∀ authorityTick rider,
      let result := (t.authority.validateShot B R command authorityTick rider t.targets).1.result
      ((∀ tick ∈ t.fired, tick < command.tick → tick ∈ t.accepted) →
          result.rejectionReason ≠ some .spreadSeed)
        ∧ ((∃ tick ∈ t.fired, tick < command.tick ∧ tick ∉ t.accepted) →
          origin.toNat + t.fired.length < 2 ^ 64 → result.outcome = .reject) := by
  have hrun : (Runs.run (step B R) s steps).InStep seed player origin :=
    Runs.run_invariant (fun s a h => inStep_step B R s a h) hstart.inStep steps
  exact fun command hcommand authorityTick rider =>
    hrun.verdict B R hcommand authorityTick rider

/-! ### A run with a lost command -/

/-- The deflections of the first two shots of one shooter, as the code computes them; a command
carries the deflected direction, so the authority deflects it again. -/
def pinnedSpread : Ballistics where
  swayWave _ _ _ := (0, 0)
  spreadDirection base seed _ _ :=
    if base = ⟨0, 0, -1000000⟩ ∧ seed = 0xe7fd08017441664a then some ⟨9445, 6122, -999937⟩
    else if base = ⟨0, 0, -1000000⟩ ∧ seed = 0x6595b693bf46bcc8 then some ⟨-2786, -3091, -999991⟩
    else if base = ⟨9445, 6122, -999937⟩ ∧ seed = 0xe7fd08017441664a then
      some ⟨18888, 12243, -999747⟩
    else none

def emptyRange : TargetRange Unit where
  nearestHit _ _ _ _ _ _ _ := none
  applyDamage targets _ _ := (⟨0, false⟩, targets)

def pinnedShooter : PlayerId := .ofTail 1

def pinnedKernel : CombatKernel :=
  .armed (show (60 : UInt32) ≠ 0 by decide) 0x0123456789abcdef pinnedShooter .dustwalker

/-- A fresh client and an authority that registered its shooter. -/
def pinnedLink : SpreadLink Unit where
  client := {
    lobbySeed := 0x0123456789abcdef
    currentTick := 0
    kernel := pinnedKernel
    riding := .standing
    contextTick := none
    authorityEpoch := 0
    shotLedger := .empty
    pendingLocalShot := none
    pendingWireCommand := none }
  authority := {
    tickRate := 60
    lobbySeed := 0x0123456789abcdef
    authorityEpoch := 0
    shooters := (∅ : ExtTreeMap PlayerId AuthorityShooter).insert pinnedShooter ⟨pinnedKernel, none⟩
    shotLedger := .empty
    tickRate_ne := by decide }
  targets := ()
  sent := []
  results := []
  fired := []
  accepted := []

def forwardRequest (tick : Int64) : FireRequest where
  origin := some ⟨0, 0, 0⟩
  direction := some ⟨0, 0, -1000000⟩
  muzzle := some ⟨0, 0, 0⟩
  tick := tick
  rider := some ⟨true, true, true⟩

def standingRider (tick : SimulationTick) : RiderSnapshot where
  tick := tick
  shooterPeerId := pinnedShooter
  muzzleOrigin := ⟨0, 0, 0⟩
  teamId := 1
  riding := .standing

/-- Two shots, of which only the second command is still in flight. -/
def lossySteps : List LinkStep :=
  [.requestFire (forwardRequest 0), .takePendingShotCommand, .requestFire (forwardRequest 8),
    .takePendingShotCommand]

theorem pinnedLink_start : pinnedLink.Start 0x0123456789abcdef pinnedShooter 0 where
  exported := rfl
  clientKernel := ⟨rfl, rfl, rfl⟩
  authorityKernel :=
    ⟨pinnedKernel, congrArg (Option.map _) ExtTreeMap.getElem?_insert_self, rfl, rfl, rfl⟩
  nothingPending := rfl
  nothingSent := rfl
  nothingFired := rfl
  nothingAccepted := rfl

theorem spread_seed_refused_only_after_a_gap_pinned :
    let t := Runs.run (step pinnedSpread emptyRange) pinnedLink lossySteps
    ∀ command ∈ t.sent, ∀ authorityTick rider,
      let result := (t.authority.validateShot pinnedSpread emptyRange command authorityTick rider
        t.targets).1.result
      ((∀ tick ∈ t.fired, tick < command.tick → tick ∈ t.accepted) →
          result.rejectionReason ≠ some .spreadSeed)
        ∧ ((∃ tick ∈ t.fired, tick < command.tick ∧ tick ∉ t.accepted) →
          (0 : UInt64).toNat + t.fired.length < 2 ^ 64 → result.outcome = .reject) :=
  spread_seed_refused_only_after_a_gap pinnedSpread emptyRange 0x0123456789abcdef pinnedShooter 0
    pinnedLink pinnedLink_start lossySteps

/-- The client accepted both shots; the second is refused for its seed. -/
theorem spread_seed_refused_after_lost_command :
    pinnedLink.Start 0x0123456789abcdef pinnedShooter 0
      ∧ (Runs.run (step pinnedSpread emptyRange) pinnedLink lossySteps).fired = [0, 8]
      ∧ (step pinnedSpread emptyRange
            (Runs.run (step pinnedSpread emptyRange) pinnedLink lossySteps)
            (.deliverCommand 1 8 (standingRider 8))).1.map (·.rejectionReason)
          = some (some .spreadSeed) := by
  refine ⟨pinnedLink_start, ?_, ?_⟩
  · decide +kernel
  · decide +kernel

end SpreadLink

end Spurfire
