import Spurfire.Lib.Runs
import Spurfire.Protocol.Rounds

/-!
# Whole runs of a combat kernel

What the public operations of a kernel can do together: firing, reloading, equipment, dives and
respawns in any order.

* `KernelCall`, `CombatKernel.step`: the calls, and what each does;
* `CombatKernel.step_cases`: a call is an operation, a refused shot or an accepted one;
* `CombatKernel.Law`: what a run owes (cadence, capacities, rounds, shot index, seeds, dive cap);
* **`fire_law`**: every run of a fresh kernel keeps it;
* **`shotIndex_saturates`**: the index stops at the largest word, one shot short of the last tick.
-/

namespace Spurfire

/-! ## Calls -/

/-- A fire request, under the expected seed where none is supplied, or any other operation. -/
inductive KernelCall
  | fire (tick : SimulationTick) (direction : QuantizedDirection) (riding : RidingState)
      (suppliedSeed : Option UInt64)
  | other (op : KernelOp)

/-- An accepted shot, as a run records it. -/
structure ShotRecord where
  tick : SimulationTick
  weaponId : WeaponId
  suppliedSeed : UInt64
  diveId : Option DiveId
deriving DecidableEq

def KernelCall.Restocks : KernelCall → Prop
  | .fire _ _ _ _ => False
  | .other op => op.Restocks

def KernelCall.Launches (k : CombatKernel) : KernelCall → Prop
  | .fire _ _ _ _ => False
  | .other op => op.Launches k

namespace CombatKernel

variable (B : Ballistics)

def requestFire (k : CombatKernel) (tick : SimulationTick) (direction : QuantizedDirection)
    (riding : RidingState) (suppliedSeed : Option UInt64) :
    Except FireRejection PreparedShot × CombatKernel :=
  k.requestFireDetailed B tick direction riding (suppliedSeed.getD k.nextSpreadSeed)

def step (k : CombatKernel) : KernelCall → Option PreparedShot × CombatKernel
  | .fire tick direction riding suppliedSeed =>
    let (answer, k') := k.requestFire B tick direction riding suppliedSeed
    (answer.toOption, k')
  | .other op => (none, op.apply k)

def shot (k : CombatKernel) (call : KernelCall) : List ShotRecord :=
  match call, (k.step B call).1 with
  | .fire _ _ _ suppliedSeed, some prepared =>
    [⟨prepared.tick, prepared.weaponId, suppliedSeed.getD k.nextSpreadSeed, prepared.diveId⟩]
  | _, _ => []

/-- The accepted shots of a run, in order. -/
def shots (k : CombatKernel) (calls : List KernelCall) : List ShotRecord :=
  Runs.history (step B) (shot B) k calls

/-- A kernel as its constructors build it. -/
def Fresh (k : CombatKernel) : Prop :=
  (∃ tickRate lobbySeed shooterPeerId weaponId,
      withWeapon tickRate lobbySeed shooterPeerId weaponId = some k)
    ∨ ∃ tickRate lobbySeed shooterPeerId, withFullLoadout tickRate lobbySeed shooterPeerId = some k

def openDive (k : CombatKernel) : Option DiveFireContext :=
  k.diveContext.filter fun context => !context.closedToNewShots

/-- What a run owes. -/
structure Law (start : CombatKernel) (calls : List KernelCall) : Prop where
  cadence : (start.shots B calls).Pairwise fun earlier later =>
    earlier.tick.toNat + (later.weaponId.stats.cadenceTicks start.tickRate).toNat ≤ later.tick.toNat
  onePerTick : ((start.shots B calls).map (·.tick)).Nodup
  capacity : (Runs.run (step B) start calls).Stocked
  rounds : ∀ before mid, calls = before ++ mid → (∀ call ∈ mid, ¬call.Restocks) → ∀ weaponId,
    (Runs.run (step B) start calls).rounds weaponId
        + (((Runs.run (step B) start before).shots B mid).countP fun shot => shot.weaponId = weaponId)
      = (Runs.run (step B) start before).rounds weaponId
  index : (Runs.run (step B) start calls).shotIndex.toNat
    = min (start.shots B calls).length (2 ^ 64 - 1)
  seeds : ∀ before call after, calls = before ++ call :: after →
    ∀ shot ∈ (Runs.run (step B) start before).shot B call, shot.suppliedSeed
      = shotSpreadSeed start.lobbySeed start.shooterPeerId
        (Runs.run (step B) start before).shotIndex
  dives : ∀ before call after, calls = before ++ call :: after →
    ∀ shot ∈ (Runs.run (step B) start before).shot B call,
      shot.diveId = (Runs.run (step B) start before).openDive.map (·.diveId)
  cap : ∀ before diveId launchTick launchWeapon velocity airtime mid,
    calls = before ++ .other (.beginSaddleDive diveId launchTick launchWeapon velocity airtime) :: mid →
    ∀ launched, (Runs.run (step B) start before).beginSaddleDive diveId launchTick launchWeapon
      velocity airtime = (.ok (), launched) →
    Runs.Along (step B) (fun k call => ¬call.Launches k) launched mid →
    ((launched.shots B mid).countP fun shot => shot.diveId.isSome)
      ≤ (diveShotCap launchWeapon).toNat

/-! ## One call -/

variable {B}

/-- A call is an operation, a refused shot, or an accepted one. -/
theorem step_cases (B : Ballistics) (k : CombatKernel) (call : KernelCall) :
    (∃ op, call = .other op ∧ k.shot B call = [] ∧ (k.step B call).2 = op.apply k)
      ∨ (∃ tick direction riding seed, call = .fire tick direction riding seed
        ∧ k.shot B call = []
        ∧ ((k.step B call).2 = k ∨ (k.step B call).2 = (k.advanceTo tick riding).2))
      ∨ ∃ tick direction riding seed prepared, call = .fire tick direction riding seed
        ∧ k.shot B call = [⟨tick, k.equipped, seed.getD k.nextSpreadSeed, prepared.diveId⟩]
        ∧ k.Accepts tick direction riding (seed.getD k.nextSpreadSeed) prepared
          (k.step B call).2 := by
  cases call with
  | other op => exact Or.inl ⟨op, rfl, rfl, rfl⟩
  | fire tick direction riding seed =>
    right
    have hshot : k.shot B (.fire tick direction riding seed)
        = ((k.requestFire B tick direction riding seed).1.toOption.map fun prepared =>
          (⟨prepared.tick, prepared.weaponId, seed.getD k.nextSpreadSeed, prepared.diveId⟩
            : ShotRecord)).toList := by
      unfold shot step
      dsimp only
      cases (k.requestFire B tick direction riding seed).1.toOption <;> rfl
    have hstep : (k.step B (.fire tick direction riding seed)).2
        = (k.requestFire B tick direction riding seed).2 := rfl
    unfold requestFire at hshot hstep
    rcases k.requestFireDetailed_cases B tick direction riding (seed.getD k.nextSpreadSeed) with
      ⟨rejection, k', heq, hmoved⟩ | ⟨prepared, k', heq, haccepts⟩
    · rw [heq] at hshot hstep
      refine Or.inl ⟨tick, direction, riding, seed, rfl, hshot, ?_⟩
      rw [hstep]
      exact hmoved
    · rw [heq] at hshot hstep
      refine Or.inr ⟨tick, direction, riding, seed, prepared, rfl, ?_, ?_⟩
      · rw [hshot]
        dsimp only [Except.toOption, Option.map_some, Option.toList_some]
        rw [haccepts.shotTick, haccepts.weaponId]
      · rw [hstep]
        exact haccepts

/-- A call that fires nothing leaves the shot clock alone. -/
theorem sameShots_of_shot {k : CombatKernel} {call : KernelCall} (h : k.shot B call = []) :
    SameShots k (k.step B call).2 := by
  rcases k.step_cases B call with ⟨op, -, -, hstep⟩ | ⟨tick, direction, riding, seed, -, -, hmoved⟩ |
    ⟨tick, direction, riding, seed, prepared, -, hshot, -⟩
  · rw [hstep]
    exact op.sameShots k
  · rcases hmoved with hsame | hadvanced
    · rw [hsame]
      exact .refl k
    · rw [hadvanced]
      exact k.sameShots_advanceTo tick riding
  · exact nomatch hshot.symm.trans h

/-! ## Cadence and the shot index -/

/-- What a run keeps: the shots so far are spaced, and the kernel knows the last and their number. -/
structure Clocked (start : CombatKernel) (k : CombatKernel) (h : List ShotRecord) : Prop where
  tickRate : k.tickRate = start.tickRate
  lobbySeed : k.lobbySeed = start.lobbySeed
  shooterPeerId : k.shooterPeerId = start.shooterPeerId
  spaced : h.Pairwise fun earlier later =>
    earlier.tick.toNat + (later.weaponId.stats.cadenceTicks start.tickRate).toNat ≤ later.tick.toNat
  last : ∀ shot ∈ h, ∃ last, k.lastAcceptedTick = some last ∧ shot.tick ≤ last
  index : k.shotIndex.toNat = min h.length (2 ^ 64 - 1)

theorem Clocked.quiet {start k : CombatKernel} {h : List ShotRecord} (hk : Clocked start k h)
    {call : KernelCall} (hshot : k.shot B call = []) :
    Clocked start (k.step B call).2 (h ++ k.shot B call) := by
  have hsame := sameShots_of_shot hshot
  rw [hshot, List.append_nil]
  refine ⟨hsame.tickRate.trans hk.tickRate, hsame.lobbySeed.trans hk.lobbySeed,
    hsame.shooterPeerId.trans hk.shooterPeerId, hk.spaced, ?_, ?_⟩
  · rw [hsame.lastAcceptedTick]
    exact hk.last
  · rw [hsame.shotIndex]
    exact hk.index

theorem Clocked.step {start k : CombatKernel} {h : List ShotRecord} (hk : Clocked start k h)
    (call : KernelCall) : Clocked start (k.step B call).2 (h ++ k.shot B call) := by
  rcases k.step_cases B call with ⟨op, -, hshot, -⟩ | ⟨tick, direction, riding, seed, -, hshot, -⟩ |
    ⟨tick, direction, riding, seed, prepared, -, hshot, haccepts⟩
  · exact hk.quiet hshot
  · exact hk.quiet hshot
  · obtain ⟨dive, -, -, hcommit⟩ := haccepts.gated
    have hsame := k.sameShots_advanceTo tick riding
    have hequipped := (k.advanceTo_frame tick riding).2
    have hearlier := cadenceRefusal_eq_none_iff.mp haccepts.ready.cadence
    rw [hsame.lastAcceptedTick, hequipped, hsame.tickRate, hk.tickRate] at hearlier
    rw [hshot, hcommit]
    refine ⟨hsame.tickRate.trans hk.tickRate, hsame.lobbySeed.trans hk.lobbySeed,
      hsame.shooterPeerId.trans hk.shooterPeerId, ?_, ?_, ?_⟩
    · refine List.pairwise_append.mpr ⟨hk.spaced, List.pairwise_singleton _ _, fun shot hmem => ?_⟩
      intro fired hfired
      obtain rfl := List.mem_singleton.mp hfired
      obtain ⟨last, hlast, hle⟩ := hk.last shot hmem
      have hgap := hearlier last hlast
      rw [UInt64.le_iff_toNat_le] at hle
      change shot.tick.toNat + (k.equipped.stats.cadenceTicks start.tickRate).toNat ≤ tick.toNat
      omega
    · intro shot hmem
      refine ⟨tick, rfl, ?_⟩
      rcases List.mem_append.mp hmem with hbefore | hnow
      · obtain ⟨last, hlast, hle⟩ := hk.last shot hbefore
        have hgap := hearlier last hlast
        rw [UInt64.le_iff_toNat_le] at hle ⊢
        omega
      · obtain rfl := List.mem_singleton.mp hnow
        exact UInt64.le_refl _
    · change ((k.advanceTo tick riding).2.shotIndex.satAdd 1).toNat = _
      have hone : (1 : UInt64).toNat = 1 := rfl
      rw [hsame.shotIndex, UInt64.toNat_satAdd, hk.index, hone, List.length_append,
        List.length_singleton]
      omega

theorem Fresh.clocked {start : CombatKernel} (h : start.Fresh) : Clocked start start [] := by
  have hindex : start.shotIndex = 0 := by
    rcases h with ⟨tickRate, lobbySeed, shooterPeerId, weaponId, hnew⟩ | ⟨tickRate, lobbySeed,
      shooterPeerId, hnew⟩
    · unfold withWeapon at hnew
      split_ifs at hnew with hrate
      cases hnew
      rfl
    · unfold withFullLoadout withWeapon at hnew
      split_ifs at hnew with hrate
      · exact nomatch hnew
      · cases hnew
        rfl
  refine ⟨rfl, rfl, rfl, List.Pairwise.nil, nofun, ?_⟩
  rw [hindex]
  rfl

theorem seed_of_shot {k : CombatKernel} {call : KernelCall} :
    ∀ shot ∈ k.shot B call, shot.suppliedSeed = k.nextSpreadSeed := by
  intro shot hmem
  rcases k.step_cases B call with ⟨op, -, hshot, -⟩ | ⟨tick, direction, riding, seed, -, hshot, -⟩ |
    ⟨tick, direction, riding, seed, prepared, -, hshot, haccepts⟩
  · rw [hshot] at hmem
    exact nomatch hmem
  · rw [hshot] at hmem
    exact nomatch hmem
  · rw [hshot] at hmem
    obtain rfl := List.mem_singleton.mp hmem
    exact haccepts.ready.seed.trans (k.sameShots_advanceTo tick riding).nextSpreadSeed

theorem clocked_run {start : CombatKernel} (h : start.Fresh) (calls : List KernelCall) :
    Clocked start (Runs.run (step B) start calls) (start.shots B calls) :=
  @Runs.run_history _ _ _ _ (step B) (fun _ _ => True) (shot B) (Clocked start)
    (fun _ _ call _ hk => hk.step call) start [] h.clocked calls (Runs.along_true start calls)

/-! ## Rounds -/

theorem Fresh.stocked {start : CombatKernel} (h : start.Fresh) : start.Stocked := by
  have harmed : ∀ {tickRate : UInt32} (hrate : tickRate ≠ 0) lobbySeed shooterPeerId weaponId,
      (armed hrate lobbySeed shooterPeerId weaponId).Stocked := by
    intro tickRate hrate lobbySeed shooterPeerId weaponId w ammo hammo
    change ((∅ : Std.ExtTreeMap WeaponId WeaponAmmo).insert weaponId
      (.full weaponId.stats))[w]? = _ at hammo
    rw [getElem?_insert] at hammo
    split_ifs at hammo with heq
    · cases hammo
      exact heq ▸ WeaponAmmo.fits_full weaponId.stats
    · rw [Std.ExtTreeMap.getElem?_empty] at hammo
      exact nomatch hammo
  have hstock : ∀ {k : CombatKernel}, k.Stocked → ∀ weaponId : WeaponId,
      (k.stock weaponId (.full weaponId.stats)).Stocked := by
    intro k hk weaponId w ammo hammo
    rw [ammo_stock] at hammo
    split_ifs at hammo with heq
    · cases hammo
      exact heq ▸ WeaponAmmo.fits_full weaponId.stats
    · exact hk w ammo hammo
  rcases h with ⟨tickRate, lobbySeed, shooterPeerId, weaponId, hnew⟩ | ⟨tickRate, lobbySeed,
    shooterPeerId, hnew⟩
  · unfold withWeapon at hnew
    split_ifs at hnew with hrate
    cases hnew
    exact harmed hrate lobbySeed shooterPeerId weaponId
  · unfold withFullLoadout withWeapon at hnew
    split_ifs at hnew with hrate
    · exact nomatch hnew
    · cases hnew
      exact hstock (hstock (hstock (harmed hrate lobbySeed shooterPeerId .dustwalker) _) _) _

theorem Stocked.step {k : CombatKernel} (h : k.Stocked) (call : KernelCall) :
    (k.step B call).2.Stocked := by
  rcases k.step_cases B call with ⟨op, -, -, hstep⟩ | ⟨tick, direction, riding, seed, -, -, hmoved⟩ |
    ⟨tick, direction, riding, seed, prepared, -, -, haccepts⟩
  · rw [hstep]
    exact KernelOp.stocked h op
  · rcases hmoved with hsame | hadvanced
    · rw [hsame]
      exact h
    · rw [hadvanced]
      exact (k.reloads_advanceTo tick riding).stocked h
  · obtain ⟨dive, -, -, hcommit⟩ := haccepts.gated
    rw [hcommit]
    exact stocked_commitShot ((k.reloads_advanceTo tick riding).stocked h) tick dive

/-- Without a restock, a call costs a rifle the rounds it fires with it. -/
theorem rounds_step {call : KernelCall} (h : ¬call.Restocks) (k : CombatKernel)
    (weaponId : WeaponId) : (k.step B call).2.rounds weaponId
      + ((k.shot B call).countP fun shot => shot.weaponId = weaponId) = k.rounds weaponId := by
  rcases k.step_cases B call with ⟨op, rfl, hshot, hstep⟩ | ⟨tick, direction, riding, seed, -, hshot,
    hmoved⟩ | ⟨tick, direction, riding, seed, prepared, -, hshot, haccepts⟩
  · rw [hstep, hshot]
    exact (KernelOp.reloads h k).rounds weaponId
  · rw [hshot]
    rcases hmoved with hsame | hadvanced
    · rw [hsame]
      rfl
    · rw [hadvanced]
      exact (k.reloads_advanceTo tick riding).rounds weaponId
  · obtain ⟨dive, -, -, hcommit⟩ := haccepts.gated
    have hcost := rounds_commitShot haccepts.ready.magazine tick dive weaponId
    rw [(k.advanceTo_frame tick riding).2, (k.reloads_advanceTo tick riding).rounds] at hcost
    rw [hcommit, hshot, List.countP_singleton, ← hcost]
    by_cases heq : weaponId = k.equipped
    · rw [if_pos heq, if_pos (decide_eq_true heq.symm)]
    · rw [if_neg heq, if_neg fun hsame => heq (of_decide_eq_true hsame).symm]

theorem rounds_run {calls : List KernelCall} (h : ∀ call ∈ calls, ¬call.Restocks)
    (k : CombatKernel) (weaponId : WeaponId) : (Runs.run (step B) k calls).rounds weaponId
      + ((k.shots B calls).countP fun shot => shot.weaponId = weaponId) = k.rounds weaponId := by
  induction calls generalizing k with
  | nil => rfl
  | cons call calls ih =>
    have hfirst := rounds_step (B := B) (h call List.mem_cons_self) k weaponId
    have hrest := ih (fun c hc => h c (List.mem_cons_of_mem call hc)) (k.step B call).2
    unfold shots at hrest ⊢
    rw [Runs.run_cons, Runs.history_cons, List.countP_append]
    omega

/-! ## Dives -/

/-- The gate lets through the shots of the open dive below its cap, and others only without one. -/
theorem diveGate_ok {k : CombatKernel} {tick : SimulationTick} {riding : RidingState}
    {dive : Option DiveFireContext} (h : k.diveGate tick riding = .ok dive) :
    dive = k.openDive ∧ ∀ context ∈ dive, context.acceptedCount < diveShotCap context.launchWeapon := by
  unfold diveGate at h
  unfold openDive
  by_cases hlate : tick < k.lastAdvancedTick
  · rw [if_pos hlate] at h
    exact nomatch h
  rw [if_neg hlate] at h
  by_cases hmismatch : (!riding.isConsistent
      || (k.hasOpenDiveContext && riding.stance != .saddleDiveAirborne)) = true
  · rw [if_pos hmismatch] at h
    exact nomatch h
  rw [if_neg hmismatch] at h
  by_cases hairborne : riding.stance = .saddleDiveAirborne
  · rw [if_pos hairborne] at h
    cases hcontext : k.diveContext with
    | none =>
      rw [hcontext] at h
      exact nomatch h
    | some context =>
      rw [hcontext] at h
      dsimp only at h
      split_ifs at h with hid hclosed hweapon hcap
      cases h
      refine ⟨?_, fun other hother => ?_⟩
      · rw [Option.filter_some, if_pos (by rw [Bool.eq_false_iff.mpr hclosed]; rfl)]
      · obtain rfl := Option.some.inj hother
        exact UInt16.not_le.mp hcap
  · rw [if_neg hairborne] at h
    cases h
    refine ⟨?_, fun context hmem => absurd hmem (Option.not_mem_none context)⟩
    simp only [Bool.or_eq_true, Bool.and_eq_true, bne_iff_ne, not_or, not_and, not_not] at hmismatch
    have hclosed : ¬k.hasOpenDiveContext = true := fun hopen => hairborne (hmismatch.2 hopen)
    unfold hasOpenDiveContext at hclosed
    cases hcontext : k.diveContext with
    | none => rfl
    | some context =>
      rw [hcontext, Option.any_some] at hclosed
      rw [Option.filter_some, if_neg hclosed]

theorem diveId_of_shot {k : CombatKernel} {call : KernelCall} :
    ∀ shot ∈ k.shot B call, shot.diveId = k.openDive.map (·.diveId) := by
  intro shot hmem
  rcases k.step_cases B call with ⟨op, -, hshot, -⟩ | ⟨tick, direction, riding, seed, -, hshot, -⟩ |
    ⟨tick, direction, riding, seed, prepared, -, hshot, haccepts⟩
  · rw [hshot] at hmem
    exact nomatch hmem
  · rw [hshot] at hmem
    exact nomatch hmem
  · rw [hshot] at hmem
    obtain rfl := List.mem_singleton.mp hmem
    obtain ⟨dive, hgate, hdive, -⟩ := haccepts.gated
    rw [← (diveGate_ok hgate).1]
    exact hdive

/-- The dive launched with `weapon` has fired `n` shots, or a respawn has dropped it. -/
def Diving (weapon : WeaponId) (k : CombatKernel) (n : ℕ) : Prop :=
  n ≤ (diveShotCap weapon).toNat
    ∧ ∀ context ∈ k.diveContext, context.launchWeapon = weapon ∧ context.acceptedCount.toNat = n

theorem Diving.step {weapon : WeaponId} {k : CombatKernel} {n : ℕ} (h : Diving weapon k n)
    {call : KernelCall} (hquiet : ¬call.Launches k) : Diving weapon (k.step B call).2
      (n + (k.shot B call).countP fun shot => shot.diveId.isSome) := by
  obtain ⟨hcap, hcontext⟩ := h
  rcases k.step_cases B call with ⟨op, rfl, hshot, hstep⟩ | ⟨tick, direction, riding, seed, -, hshot,
    hmoved⟩ | ⟨tick, direction, riding, seed, prepared, -, hshot, haccepts⟩
  · rw [hshot, hstep]
    refine ⟨hcap, fun context hmem => ?_⟩
    rcases KernelOp.dive_cases hquiet with hsame | hdropped | ⟨before, hbefore, hclosed⟩
    · rw [hsame] at hmem
      exact hcontext context hmem
    · rw [hdropped] at hmem
      exact nomatch hmem
    · rw [hclosed] at hmem
      obtain rfl := Option.some.inj hmem
      exact hcontext before hbefore
  · rw [hshot]
    refine ⟨hcap, fun context hmem => ?_⟩
    rcases hmoved with hsame | hadvanced
    · rw [hsame] at hmem
      exact hcontext context hmem
    · rw [hadvanced, (k.advanceTo_frame tick riding).1] at hmem
      exact hcontext context hmem
  · obtain ⟨dive, hgate, hdive, hcommit⟩ := haccepts.gated
    obtain ⟨hopen, hbelow⟩ := diveGate_ok hgate
    have hframe := (k.advanceTo_frame tick riding).1
    have hcommitted : (k.step B call).2.diveContext
        = if dive.isSome then k.diveContext.map fun context =>
            { context with acceptedCount := context.acceptedCount.satAdd 1 }
          else k.diveContext := by
      rw [hcommit, ← hframe]
      rfl
    rw [hshot, List.countP_singleton, hdive, Option.isSome_map]
    cases hcases : dive with
    | none =>
      rw [hcases] at hcommitted
      rw [Option.isSome_none, if_neg Bool.false_ne_true, Nat.add_zero]
      refine ⟨hcap, fun context hmem => ?_⟩
      rw [hcommitted] at hmem
      exact hcontext context hmem
    | some context =>
      have hstored : k.diveContext = some context := by
        rw [hcases] at hopen
        exact (Option.filter_eq_some_iff.mp hopen.symm).1
      obtain ⟨hweapon, hcount⟩ := hcontext context hstored
      have hless := UInt16.lt_iff_toNat_lt.mp (hbelow context hcases)
      rw [hweapon, hcount] at hless
      rw [hcases, hstored] at hcommitted
      refine ⟨?_, fun next hmem => ?_⟩
      · rw [Option.isSome_some, if_pos rfl]
        exact hless
      · rw [hcommitted] at hmem
        obtain rfl := Option.some.inj hmem
        refine ⟨hweapon, ?_⟩
        have hsmall := (diveShotCap weapon).toNat_lt
        have hone : (1 : UInt16).toNat = 1 := rfl
        rw [UInt16.toNat_satAdd, hcount, hone, Option.isSome_some, if_pos rfl]
        omega

theorem diving_run {weapon : WeaponId} {launched : CombatKernel} (h : Diving weapon launched 0)
    {calls : List KernelCall}
    (hquiet : Runs.Along (step B) (fun k call => ¬call.Launches k) launched calls) :
    Diving weapon (Runs.run (step B) launched calls)
      ((launched.shots B calls).countP fun shot => shot.diveId.isSome) := by
  have hnil : Diving weapon launched
      (([] : List ShotRecord).countP fun shot => shot.diveId.isSome) := h
  refine @Runs.run_history _ _ _ _ (step B) (fun k call => ¬call.Launches k) (shot B)
    (fun k h => Diving weapon k (h.countP fun shot => shot.diveId.isSome))
    (fun k h call hcall hk => ?_) launched [] hnil calls hquiet
  rw [List.countP_append]
  exact hk.step hcall

end CombatKernel

/-- **Fire rate, ammunition and dive cap** over every run of a fresh kernel. -/
theorem fire_law (B : Ballistics) {start : CombatKernel} (h : start.Fresh)
    (calls : List KernelCall) : start.Law B calls := by
  have hclocked := CombatKernel.clocked_run (B := B) h calls
  constructor
  · exact hclocked.spaced
  · refine List.pairwise_map.mpr (hclocked.spaced.imp ?_)
    intro earlier later hgap heq
    have hpos := WeaponStats.cadenceTicks_ne_zero later.weaponId.stats start.tickRate_ne
    rw [← UInt64.toNat_inj.ne] at hpos
    have hzero : (0 : UInt64).toNat = 0 := rfl
    rw [heq] at hgap
    omega
  · exact Runs.run_invariant (fun _ call hk => hk.step call) h.stocked calls
  · rintro before mid rfl hquiet weaponId
    rw [Runs.run_append]
    exact CombatKernel.rounds_run hquiet _ weaponId
  · exact hclocked.index
  · rintro before call after rfl shot hmem
    have hbefore := CombatKernel.clocked_run (B := B) h before
    rw [CombatKernel.seed_of_shot shot hmem]
    unfold CombatKernel.nextSpreadSeed
    rw [hbefore.lobbySeed, hbefore.shooterPeerId]
  · rintro before call after - shot hmem
    exact CombatKernel.diveId_of_shot shot hmem
  · rintro before diveId launchTick launchWeapon velocity airtime mid - launched hlaunched hquiet
    refine (CombatKernel.diving_run ⟨Nat.zero_le _, fun context hcontext => ?_⟩ hquiet).1
    rcases (Runs.run (CombatKernel.step B) start before).beginSaddleDive_cases diveId launchTick
      launchWeapon velocity airtime with ⟨error, heq⟩ | ⟨k', opened, heq, -, hopened, hcount, hweapon⟩
    · exact nomatch (Prod.mk.inj (heq.symm.trans hlaunched)).1
    · obtain rfl := (Prod.mk.inj (heq.symm.trans hlaunched)).2
      obtain rfl := Option.some.inj (hopened.symm.trans hcontext)
      exact ⟨hweapon, by rw [hcount]; rfl⟩

/-! ## The last tick -/

namespace CombatKernel

/-- A request that passes every check is accepted, where the deflection is defined. -/
theorem requestFireDetailed_of_ready {B : Ballistics} {k : CombatKernel} {tick : SimulationTick}
    {direction : QuantizedDirection} {riding : RidingState} {suppliedSeed : UInt64}
    {dive : Option DiveFireContext}
    (hspread : ∀ seed spread sway, (B.spreadDirection direction seed spread sway).isSome)
    (hgate : k.diveGate tick riding = .ok dive) (hmoved : k.lastAdvancedTick ≤ tick)
    (hready : (k.advanceTo tick riding).2.Ready tick direction riding suppliedSeed) :
    ∃ prepared, k.requestFireDetailed B tick direction riding suppliedSeed
      = (.ok prepared, (k.advanceTo tick riding).2.commitShot tick dive) := by
  have hadvanced : ∃ outcome, (k.advanceTo tick riding).1 = some outcome := by
    unfold advanceTo UInt64.checkedSub
    rw [if_pos hmoved]
    exact ⟨_, rfl⟩
  obtain ⟨outcome, houtcome⟩ := hadvanced
  unfold requestFireDetailed
  rw [hgate]
  dsimp only
  rw [← Prod.mk.eta (p := k.advanceTo tick riding), houtcome]
  dsimp only
  unfold fireAdvanced
  rw [fireRefusal_eq_none_iff.mpr hready, Option.elim_none]
  unfold fireShot
  dsimp only
  obtain ⟨resolvedDirection, hresolved⟩ := Option.isSome_iff_exists.mp (hspread
    (k.advanceTo tick riding).2.nextSpreadSeed
    (effectiveSpreadMillidegrees (k.advanceTo tick riding).2.equipped.stats (shotHandling riding dive))
    (shotSway B (k.advanceTo tick riding).2 tick riding dive))
  rw [hresolved]
  exact ⟨_, rfl⟩

theorem step_fire (B : Ballistics) (k : CombatKernel) (tick : SimulationTick)
    (direction : QuantizedDirection) (riding : RidingState) (seed : Option UInt64) :
    k.step B (.fire tick direction riding seed)
      = ((k.requestFire B tick direction riding seed).1.toOption,
        (k.requestFire B tick direction riding seed).2) := rfl

/-- Time on a mounted kernel without a reload moves the clock, the handling and the recoil. -/
theorem advanceTo_of_idle {k : CombatKernel} {tick : SimulationTick} {riding : RidingState}
    (hmoved : k.lastAdvancedTick ≤ tick) (hmounted : riding.stance.carriesMountedWeapon = true)
    (hidle : k.reload = none) : (k.advanceTo tick riding).2 = { k with
      riding
      recoil := k.recoil.recover (tick - k.lastAdvancedTick) k.tickRate
      lastAdvancedTick := tick } := by
  unfold advanceTo UInt64.checkedSub
  rw [if_pos hmoved]
  dsimp only
  rw [if_pos hmounted]
  unfold advanceReloadBy
  dsimp only
  rw [hidle]

/-- A rider at rest who has the rifle in hand, on a clock before tick `n`. -/
structure Firing (k : CombatKernel) (n : ℕ) : Prop where
  equipped : k.equipped = .rattler
  tickRate : k.tickRate = 1
  drawn : k.holstered = false
  ashore : k.diveContext = none
  clock : k.lastAdvancedTick.toNat ≤ n
  accepted : ∀ last ∈ k.lastAcceptedTick, last.toNat < n

/-- A refill and a shot on each of the first `n` ticks. -/
def everyTick : ℕ → List KernelCall
  | 0 => []
  | n + 1 => everyTick n ++ [.other .refillEquippedAmmo,
      .fire (UInt64.ofNat n) ⟨0, 0, -1000000⟩ .standing none]

/-- No deflection and no sway. -/
def steadyBallistics : Ballistics where
  swayWave _ _ _ := (0, 0)
  spreadDirection direction _ _ _ := some direction

theorem Firing.step {k : CombatKernel} {n : ℕ} (h : k.Firing n) (hn : n < 2 ^ 64) :
    let fire := KernelCall.fire (UInt64.ofNat n) ⟨0, 0, -1000000⟩ .standing none
    (k.refillEquippedAmmo.2.shot steadyBallistics fire).length = 1
      ∧ (k.refillEquippedAmmo.2.step steadyBallistics fire).2.Firing (n + 1) := by
  intro fire
  set refilled := k.refillEquippedAmmo.2 with hrefilled
  have htick : (UInt64.ofNat n).toNat = n := UInt64.toNat_ofNat_of_lt' hn
  have hmoved : refilled.lastAdvancedTick ≤ UInt64.ofNat n := by
    rw [UInt64.le_iff_toNat_le, htick]
    exact h.clock
  have hidle := @advanceTo_of_idle refilled (UInt64.ofNat n) .standing hmoved rfl rfl
  have hgate : refilled.diveGate (UInt64.ofNat n) .standing = .ok none := by
    have hashore : refilled.diveContext = none := h.ashore
    have hconsistent : RidingState.standing.isConsistent = true := by decide
    have hstance : RidingState.standing.stance ≠ .saddleDiveAirborne := by decide
    unfold diveGate hasOpenDiveContext
    rw [if_neg (UInt64.not_lt.mpr hmoved), hashore, hconsistent, if_neg (by decide),
      if_neg hstance]
  have hready : (refilled.advanceTo (UInt64.ofNat n) .standing).2.Ready (UInt64.ofNat n)
      ⟨0, 0, -1000000⟩ .standing refilled.nextSpreadSeed := by
    have hseed := (refilled.sameShots_advanceTo (UInt64.ofNat n) .standing).nextSpreadSeed
    have hdirection : (⟨0, 0, -1000000⟩ : QuantizedDirection).isNormalized = true := by
      decide +kernel
    rw [hidle] at hseed ⊢
    refine ⟨hdirection, rfl, rfl, h.drawn, rfl, ?_, ?_, hseed.symm⟩
    · have hcadence : (WeaponId.rattler.stats.cadenceTicks 1).toNat = 1 := by decide +kernel
      refine cadenceRefusal_eq_none_iff.mpr fun last hlast => ?_
      have hless := h.accepted last hlast
      change last.toNat + (k.equipped.stats.cadenceTicks k.tickRate).toNat ≤ (UInt64.ofNat n).toNat
      rw [h.equipped, h.tickRate, hcadence, htick]
      omega
    · change ((k.stock k.equipped (.full k.equipped.stats)).equippedAmmo).magazine ≠ 0
      unfold equippedAmmo
      change (((k.stock k.equipped (.full k.equipped.stats)).ammo k.equipped).getD .empty).magazine ≠ 0
      rw [ammo_stock, if_pos rfl, h.equipped]
      decide
  obtain ⟨prepared, hfired⟩ := requestFireDetailed_of_ready (B := steadyBallistics)
    (fun _ _ _ => rfl) hgate hmoved hready
  have hstep : (refilled.step steadyBallistics fire)
      = (some prepared, (refilled.advanceTo (UInt64.ofNat n) .standing).2.commitShot
        (UInt64.ofNat n) none) := by
    have hrequest : refilled.requestFire steadyBallistics (UInt64.ofNat n) ⟨0, 0, -1000000⟩
        .standing none = _ := hfired
    rw [step_fire, hrequest]
    rfl
  refine ⟨?_, ?_⟩
  · unfold shot
    rw [hstep]
    rfl
  · rw [hstep, hidle]
    refine ⟨h.equipped, h.tickRate, h.drawn, h.ashore, ?_, ?_⟩
    · change (UInt64.ofNat n).toNat ≤ n + 1
      omega
    · rintro last ⟨⟩
      omega

theorem firing_everyTick {k : CombatKernel} (h : k.Firing 0) {n : ℕ} (hn : n ≤ 2 ^ 64) :
    (Runs.run (step steadyBallistics) k (everyTick n)).Firing n
      ∧ (k.shots steadyBallistics (everyTick n)).length = n := by
  induction n with
  | zero => exact ⟨h, rfl⟩
  | succ n ih =>
    obtain ⟨hfiring, hlength⟩ := ih (by omega)
    obtain ⟨hone, hnext⟩ := hfiring.step (by omega)
    unfold everyTick shots
    rw [Runs.run_append, Runs.history_append, List.length_append]
    refine ⟨hnext, ?_⟩
    unfold shots at hlength
    rw [hlength]
    change n + (([] : List ShotRecord) ++ (_ ++ [])).length = n + 1
    rw [List.append_nil, List.nil_append]
    exact congrArg (n + ·) hone

end CombatKernel

/-- A Rattler on a one-hertz clock. -/
def rattlerKernel : CombatKernel :=
  .armed (show (1 : UInt32) ≠ 0 by decide) 0 (.ofTail 1) .rattler

def volleyShot (riding : RidingState) (tick : UInt64) : KernelCall :=
  .fire tick ⟨0, 0, -1000000⟩ riding none

/-- A shot, the same again, one under another seed, one in its place, one during a reload and one after
it, and a dive with seven shots for a cap of five. -/
def volley : List KernelCall :=
  [volleyShot .standing 0, volleyShot .standing 0, .fire 1 ⟨0, 0, -1000000⟩ .standing (some 0),
    volleyShot .standing 1, .other (.requestReload 2 .standing), volleyShot .standing 3,
    .other (.advanceTo 12 .standing), volleyShot .standing 12,
    .other (.beginSaddleDive ⟨1, by decide⟩ 13 .rattler #v[0, -8000] 9)]
    ++ [14, 15, 16, 17, 18, 19, 20].map (volleyShot
      { RidingState.standing with stance := .saddleDiveAirborne, diveId := some ⟨1, by decide⟩ })

theorem fire_law_volley :
    (rattlerKernel.shots CombatKernel.steadyBallistics volley).map (·.tick)
        = [0, 1, 12, 14, 15, 16, 17, 18]
      ∧ rattlerKernel.Law CombatKernel.steadyBallistics volley :=
  ⟨by decide +kernel, fire_law CombatKernel.steadyBallistics
    (Or.inl ⟨1, 0, .ofTail 1, .rattler, rfl⟩) volley⟩

/-- It may fire on each of the 2^64 ticks of its clock. -/
theorem shotIndex_saturates :
    (Runs.run (CombatKernel.step CombatKernel.steadyBallistics) rattlerKernel
        (CombatKernel.everyTick (2 ^ 64))).shotIndex.toNat
      ≠ (rattlerKernel.shots CombatKernel.steadyBallistics (CombatKernel.everyTick (2 ^ 64))).length := by
  have hfiring : rattlerKernel.Firing 0 := ⟨rfl, rfl, rfl, rfl, Nat.le_refl 0, nofun⟩
  obtain ⟨-, hlength⟩ := CombatKernel.firing_everyTick hfiring (Nat.le_refl (2 ^ 64))
  rw [hlength]
  exact Nat.ne_of_lt (UInt64.toNat_lt _)

end Spurfire
