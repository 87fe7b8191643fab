import Spurfire.Protocol.ShotClock

/-!
# The rounds of a kernel

What the operations of a kernel do to its ammunition and to its dive context.

* `KernelOp.reloads`: an operation that does not restock leaves the inventory alone, or moves rounds
  from a reserve into its magazine;
* `KernelOp.stocked`: every operation stays within the capacities;
* `KernelOp.dive_cases`: a dive context changes by a launch, a landing or a respawn only;
* `requestFireDetailed_cases`: the inversion of a fire request, with everything that an accepted
  shot has passed.
-/

namespace Spurfire

open Std (ExtTreeMap)

/-! ## Ammunition -/

namespace WeaponAmmo

def rounds (a : WeaponAmmo) : ℕ := a.magazine.toNat + a.reserve.toNat

/-- Within the capacities of its row. -/
def Fits (a : WeaponAmmo) (stats : WeaponStats) : Prop :=
  a.magazine ≤ stats.magazineCapacity ∧ a.reserve ≤ stats.reserveCapacity

theorem fits_full (stats : WeaponStats) : (WeaponAmmo.full stats).Fits stats :=
  ⟨UInt16.le_refl _, UInt16.le_refl _⟩

theorem fits_clamped (a : WeaponAmmo) (stats : WeaponStats) : (a.clamped stats).Fits stats := by
  have hmin : ∀ x y : UInt16, min x y ≤ y := by
    intro x y
    rw [UInt16.le_iff_toNat_le]
    change (if x ≤ y then x else y).toNat ≤ _
    split_ifs with h
    · exact UInt16.le_iff_toNat_le.mp h
    · exact le_rfl
  exact ⟨hmin _ _, hmin _ _⟩

end WeaponAmmo

namespace CombatKernel

/-- The rounds that a reload moves are neither lost nor made. -/
theorem loadRounds_toNat (stats : WeaponStats) (a : WeaponAmmo) :
    (loadRounds stats a).magazine.toNat
        = a.magazine.toNat + min (stats.magazineCapacity.toNat - a.magazine.toNat) a.reserve.toNat
      ∧ (loadRounds stats a).reserve.toNat
        = a.reserve.toNat - min (stats.magazineCapacity.toNat - a.magazine.toNat) a.reserve.toNat := by
  have hcapacity := stats.magazineCapacity.toNat_lt
  have hmin : (min (stats.magazineCapacity.satSub a.magazine) a.reserve).toNat
      = min (stats.magazineCapacity.toNat - a.magazine.toNat) a.reserve.toNat := by
    rw [← UInt16.toNat_satSub]
    change (if _ ≤ a.reserve then _ else _ : UInt16).toNat = _
    split_ifs with h <;> rw [UInt16.le_iff_toNat_le] at h <;> omega
  unfold loadRounds
  constructor
  · rw [UInt16.toNat_satAdd, hmin]
    have := a.magazine.toNat_lt
    omega
  · rw [UInt16.toNat_satSub, hmin]

theorem rounds_loadRounds (stats : WeaponStats) (a : WeaponAmmo) :
    (loadRounds stats a).rounds = a.rounds := by
  obtain ⟨hmagazine, hreserve⟩ := loadRounds_toNat stats a
  unfold WeaponAmmo.rounds
  omega

theorem fits_loadRounds {stats : WeaponStats} {a : WeaponAmmo} (h : a.Fits stats) :
    (loadRounds stats a).Fits stats := by
  obtain ⟨hmagazine, hreserve⟩ := loadRounds_toNat stats a
  obtain ⟨hm, hr⟩ := h
  rw [UInt16.le_iff_toNat_le] at hm hr
  constructor <;> rw [UInt16.le_iff_toNat_le] <;> omega

/-- All the rounds of a rifle, none where it is not owned. -/
def rounds (k : CombatKernel) (weaponId : WeaponId) : ℕ :=
  ((k.ammo weaponId).map WeaponAmmo.rounds).getD 0

/-- Every rifle stays within its capacities. -/
def Stocked (k : CombatKernel) : Prop :=
  ∀ weaponId ammo, k.ammo weaponId = some ammo → ammo.Fits weaponId.stats

def Reloads (k k' : CombatKernel) : Prop :=
  k'.inventory = k.inventory
    ∨ ∃ weaponId, k'.inventory = k.inventory.modify weaponId (loadRounds weaponId.stats)

theorem getElem?_modify (inventory : ExtTreeMap WeaponId WeaponAmmo) (w w' : WeaponId)
    (f : WeaponAmmo → WeaponAmmo) :
    (inventory.modify w f)[w']? = if w = w' then inventory[w']?.map f else inventory[w']? := by
  rw [ExtTreeMap.getElem?_modify]
  by_cases heq : w = w'
  · subst heq
    rw [if_pos rfl, if_pos Std.ReflCmp.compare_self]
  · rw [if_neg heq, if_neg fun hcompare => heq (Std.LawfulEqCmp.eq_of_compare hcompare)]

theorem getElem?_insert (inventory : ExtTreeMap WeaponId WeaponAmmo) (w w' : WeaponId)
    (ammo : WeaponAmmo) :
    (inventory.insert w ammo)[w']? = if w = w' then some ammo else inventory[w']? := by
  rw [ExtTreeMap.getElem?_insert]
  by_cases heq : w = w'
  · subst heq
    rw [if_pos rfl, if_pos Std.ReflCmp.compare_self]
  · rw [if_neg heq, if_neg fun hcompare => heq (Std.LawfulEqCmp.eq_of_compare hcompare)]

theorem ammo_stock (k : CombatKernel) (w w' : WeaponId) (ammo : WeaponAmmo) :
    (k.stock w ammo).ammo w' = if w = w' then some ammo else k.ammo w' :=
  getElem?_insert k.inventory w w' ammo

variable {k k' : CombatKernel}

theorem Reloads.rounds (h : Reloads k k') (weaponId : WeaponId) :
    k'.rounds weaponId = k.rounds weaponId := by
  unfold CombatKernel.rounds CombatKernel.ammo
  rcases h with hsame | ⟨w, hmoved⟩
  · rw [hsame]
  · rw [hmoved, getElem?_modify]
    split_ifs with heq
    · rw [Option.map_map]
      have hrounds : WeaponAmmo.rounds ∘ loadRounds w.stats = WeaponAmmo.rounds :=
        funext (rounds_loadRounds w.stats)
      rw [hrounds]
    · rfl

theorem Reloads.stocked (h : Reloads k k') (hk : k.Stocked) : k'.Stocked := by
  intro weaponId ammo hammo
  unfold CombatKernel.ammo at hammo
  rcases h with hsame | ⟨w, hmoved⟩
  · rw [hsame] at hammo
    exact hk weaponId ammo hammo
  · rw [hmoved, getElem?_modify] at hammo
    split_ifs at hammo with heq
    · obtain ⟨before, hbefore, rfl⟩ := Option.map_eq_some_iff.mp hammo
      subst heq
      exact fits_loadRounds (hk w before hbefore)
    · exact hk weaponId ammo hammo

/-! ### Operations that do not restock -/

theorem reloads_advanceReloadBy (k : CombatKernel) (elapsedTicks : UInt64) (paused : Bool) :
    Reloads k (k.advanceReloadBy elapsedTicks paused).2 := by
  unfold advanceReloadBy
  cases k.reload with
  | none => exact Or.inl rfl
  | some reload =>
    dsimp only
    split_ifs
    · exact Or.inr ⟨reload.weaponId, rfl⟩
    · exact Or.inl rfl
    · exact Or.inr ⟨reload.weaponId, rfl⟩
    · exact Or.inl rfl

/-- Time touches the dive context and the equipped rifle no more than the shot clock. -/
theorem advanceReloadBy_frame (k : CombatKernel) (elapsedTicks : UInt64) (paused : Bool) :
    (k.advanceReloadBy elapsedTicks paused).2.diveContext = k.diveContext
      ∧ (k.advanceReloadBy elapsedTicks paused).2.equipped = k.equipped
      ∧ (k.advanceReloadBy elapsedTicks paused).2.holstered = k.holstered := by
  unfold advanceReloadBy
  cases k.reload with
  | none => exact ⟨rfl, rfl, rfl⟩
  | some reload =>
    dsimp only
    split_ifs <;> exact ⟨rfl, rfl, rfl⟩

theorem reloads_advanceTo (k : CombatKernel) (tick : SimulationTick) (riding : RidingState) :
    Reloads k (k.advanceTo tick riding).2 := by
  unfold advanceTo
  cases tick.checkedSub k.lastAdvancedTick with
  | none => exact Or.inl rfl
  | some elapsedTicks =>
    dsimp only
    have hreload := reloads_advanceReloadBy
    split_ifs
    · exact hreload { k with riding, recoil := k.recoil.recover elapsedTicks k.tickRate } elapsedTicks
        riding.sprintGallop
    · exact hreload { k.holster with riding, recoil := k.recoil.recover elapsedTicks k.tickRate }
        elapsedTicks riding.sprintGallop

theorem advanceTo_frame (k : CombatKernel) (tick : SimulationTick) (riding : RidingState) :
    (k.advanceTo tick riding).2.diveContext = k.diveContext
      ∧ (k.advanceTo tick riding).2.equipped = k.equipped := by
  unfold advanceTo
  cases tick.checkedSub k.lastAdvancedTick with
  | none => exact ⟨rfl, rfl⟩
  | some elapsedTicks =>
    dsimp only
    split_ifs
    · exact ⟨(advanceReloadBy_frame _ _ _).1, (advanceReloadBy_frame _ _ _).2.1⟩
    · exact ⟨(advanceReloadBy_frame _ _ _).1, (advanceReloadBy_frame _ _ _).2.1⟩

theorem settleForLaunch_frame (k : CombatKernel) (launchTick : SimulationTick) :
    Reloads k (k.settleForLaunch launchTick)
      ∧ (k.settleForLaunch launchTick).diveContext = k.diveContext := by
  have hreload := k.reloads_advanceTo (launchTick - 1) k.riding
  obtain ⟨hdive, -⟩ := k.advanceTo_frame (launchTick - 1) k.riding
  unfold settleForLaunch
  split_ifs
  · exact ⟨hreload, hdive⟩
  · exact ⟨Or.inl rfl, rfl⟩
  · exact ⟨Or.inl rfl, rfl⟩

/-- A launch is refused and changes nothing, or it opens a context with no shots. -/
theorem beginSaddleDive_cases (k : CombatKernel) (diveId : DiveId) (launchTick : SimulationTick)
    (launchWeapon : WeaponId) (velocity : Vector Int32 2) (nominalAirtimeTicks : UInt64) :
    (∃ error, k.beginSaddleDive diveId launchTick launchWeapon velocity nominalAirtimeTicks
        = (.error error, k))
      ∨ ∃ k' context, k.beginSaddleDive diveId launchTick launchWeapon velocity nominalAirtimeTicks
          = (.ok (), k')
        ∧ Reloads k k' ∧ k'.diveContext = some context ∧ context.acceptedCount = 0
        ∧ context.launchWeapon = launchWeapon := by
  obtain ⟨hreload, -⟩ := k.settleForLaunch_frame launchTick
  unfold beginSaddleDive
  split_ifs
  · exact Or.inl ⟨_, rfl⟩
  · exact Or.inl ⟨_, rfl⟩
  · exact Or.inl ⟨_, rfl⟩
  · exact Or.inl ⟨_, rfl⟩
  · exact Or.inr ⟨_, _, rfl, hreload, rfl, rfl, rfl⟩

/-- A landing closes the context and counts nothing. -/
theorem finishSaddleDive_cases (k : CombatKernel) (diveId : DiveId) (landingTick : SimulationTick) :
    (k.finishSaddleDive diveId landingTick).2 = k
      ∨ (k.finishSaddleDive diveId landingTick).2.inventory = k.inventory
        ∧ ∃ context, k.diveContext = some context
          ∧ (k.finishSaddleDive diveId landingTick).2.diveContext
            = some { context with closedToNewShots := true } := by
  unfold finishSaddleDive
  by_cases hlate : landingTick < k.lastAdvancedTick
  · rw [if_pos hlate]
    exact Or.inl rfl
  · rw [if_neg hlate]
    cases k.diveContext with
    | none => exact Or.inl rfl
    | some context =>
      dsimp only
      split_ifs
      · exact Or.inl rfl
      · exact Or.inr ⟨rfl, context, rfl, rfl⟩

theorem beginReload_frame (k : CombatKernel) :
    k.beginReload.2.inventory = k.inventory ∧ k.beginReload.2.diveContext = k.diveContext := by
  unfold beginReload
  dsimp only
  split_ifs <;> exact ⟨rfl, rfl⟩

theorem requestReload_frame (k : CombatKernel) (tick : SimulationTick) (riding : RidingState) :
    Reloads k (k.requestReload tick riding).2
      ∧ (k.requestReload tick riding).2.diveContext = k.diveContext := by
  have hreload := k.reloads_advanceTo tick riding
  obtain ⟨hdive, -⟩ := k.advanceTo_frame tick riding
  unfold requestReload
  split_ifs
  · exact ⟨Or.inl rfl, rfl⟩
  · exact ⟨Or.inl rfl, rfl⟩
  · exact ⟨Or.inl rfl, rfl⟩
  · match hk : k.advanceTo tick riding with
    | (none, k') =>
      rw [hk] at hreload hdive
      exact ⟨hreload, hdive⟩
    | (some _, k') =>
      rw [hk] at hreload hdive
      obtain ⟨hinventory, hcontext⟩ := k'.beginReload_frame
      refine ⟨?_, hcontext.trans hdive⟩
      unfold Reloads
      rw [hinventory]
      exact hreload

/-- A pickup refills a reserve, or swaps the equipped rifle for a clamped one. -/
theorem pickup_frame (k : CombatKernel) (p : WeaponPickup) (distanceMm : UInt32)
    (tick : SimulationTick) : (k.pickup p distanceMm tick).2.diveContext = k.diveContext := by
  unfold pickup
  split_ifs
  · rfl
  · rfl
  · rfl
  · dsimp only
    cases k.ammo p.weaponId <;> rfl

end CombatKernel

namespace KernelOp

/-- The operations that bring ammunition into a kernel, or take a rifle away. -/
def Restocks : KernelOp → Prop
  | respawnAt _ | grantWeapon _ _ | refillEquippedAmmo | setAmmo _ _ | pickup _ _ _ => True
  | _ => False

instance (op : KernelOp) : Decidable op.Restocks := by
  cases op <;> unfold Restocks <;> infer_instance

open CombatKernel in
/-- **Reloads only move rounds.** -/
theorem reloads {op : KernelOp} (h : ¬op.Restocks) (k : CombatKernel) : Reloads k (op.apply k) := by
  cases op with
  | respawnAt _ | grantWeapon _ _ | refillEquippedAmmo | setAmmo _ _ | pickup _ _ _ =>
    exact absurd trivial h
  | beginSaddleDive diveId launchTick launchWeapon velocity airtime =>
    rcases k.beginSaddleDive_cases diveId launchTick launchWeapon velocity airtime with
      ⟨error, heq⟩ | ⟨k', context, heq, hreload, -⟩
    · exact Or.inl (by rw [apply, heq])
    · rw [apply, heq]
      exact hreload
  | finishSaddleDive diveId landingTick =>
    rcases k.finishSaddleDive_cases diveId landingTick with heq | ⟨hinventory, -⟩
    · exact Or.inl (by rw [apply, heq])
    · exact Or.inl hinventory
  | equipWeapon weaponId =>
    change Reloads k (k.equipWeapon weaponId).2
    unfold CombatKernel.equipWeapon
    split_ifs <;> exact Or.inl rfl
  | holster => exact Or.inl rfl
  | advanceTo tick riding => exact k.reloads_advanceTo tick riding
  | requestM3Reload =>
    change Reloads k k.requestM3Reload.2
    unfold CombatKernel.requestM3Reload
    split_ifs
    · exact Or.inl rfl
    · exact Or.inl k.beginReload_frame.1
  | advanceM3Reload elapsedTicks paused => exact k.reloads_advanceReloadBy elapsedTicks paused
  | restoreM3Reload reload =>
    change Reloads k (k.restoreM3Reload reload).2
    unfold CombatKernel.restoreM3Reload
    dsimp only
    split_ifs <;> exact Or.inl rfl
  | requestReload tick riding => exact (k.requestReload_frame tick riding).1

open CombatKernel in
/-- **No operation exceeds a capacity.** -/
theorem stocked {k : CombatKernel} (h : k.Stocked) (op : KernelOp) : (op.apply k).Stocked := by
  -- a rifle is replaced by one that fits
  have hstock : ∀ w ammo, ammo.Fits w.stats → (k.stock w ammo).Stocked := by
    intro w ammo hfits weaponId found hfound
    rw [ammo_stock] at hfound
    split_ifs at hfound with heq
    · cases hfound
      exact heq ▸ hfits
    · exact h weaponId found hfound
  by_cases hrestocks : op.Restocks
  · cases op with
    | respawnAt tick =>
      change (k.respawnAt tick).2.Stocked
      unfold CombatKernel.respawnAt
      split_ifs
      · exact h
      · intro weaponId ammo hammo
        change (k.inventory.map fun weaponId _ => WeaponAmmo.full weaponId.stats)[weaponId]? = _
          at hammo
        rw [ExtTreeMap.getElem?_map] at hammo
        obtain ⟨before, -, rfl⟩ := Option.map_eq_some_iff.mp hammo
        exact WeaponAmmo.fits_full weaponId.stats
    | grantWeapon weaponId ammo => exact hstock _ _ (ammo.fits_clamped weaponId.stats)
    | refillEquippedAmmo => exact hstock _ _ (WeaponAmmo.fits_full k.equipped.stats)
    | setAmmo weaponId ammo =>
      change (k.setAmmo weaponId ammo).2.Stocked
      unfold CombatKernel.setAmmo
      split_ifs
      · exact hstock _ _ (ammo.fits_clamped weaponId.stats)
      · exact h
    | pickup p distanceMm tick =>
      change (k.pickup p distanceMm tick).2.Stocked
      unfold CombatKernel.pickup
      split_ifs
      · exact h
      · exact h
      · exact h
      · dsimp only
        cases hexisting : k.ammo p.weaponId with
        | some existing => exact hstock _ _ ⟨(h _ _ hexisting).1, UInt16.le_refl _⟩
        | none =>
          intro weaponId ammo hammo
          change ((k.inventory.erase k.equipped).insert p.weaponId
            (p.ammo.clamped p.weaponId.stats))[weaponId]? = _ at hammo
          rw [getElem?_insert] at hammo
          split_ifs at hammo with heq
          · cases hammo
            exact heq ▸ p.ammo.fits_clamped p.weaponId.stats
          · rw [ExtTreeMap.getElem?_erase] at hammo
            split_ifs at hammo
            exact h weaponId ammo hammo
    | beginSaddleDive _ _ _ _ _ | finishSaddleDive _ _ | equipWeapon _ | holster | advanceTo _ _
    | requestM3Reload | advanceM3Reload _ _ | restoreM3Reload _ | requestReload _ _ =>
      exact absurd hrestocks id
  · exact (reloads hrestocks k).stocked h

/-! ## The dive context -/

/-- A launch that opens a context. -/
def Launches (k : CombatKernel) : KernelOp → Prop
  | beginSaddleDive diveId launchTick launchWeapon velocity airtime =>
    (k.beginSaddleDive diveId launchTick launchWeapon velocity airtime).1 = .ok ()
  | _ => False

theorem dive_cases {k : CombatKernel} {op : KernelOp} (h : ¬op.Launches k) :
    (op.apply k).diveContext = k.diveContext ∨ (op.apply k).diveContext = none
      ∨ ∃ context, k.diveContext = some context
        ∧ (op.apply k).diveContext = some { context with closedToNewShots := true } := by
  cases op with
  | respawnAt tick =>
    change (k.respawnAt tick).2.diveContext = _ ∨ (k.respawnAt tick).2.diveContext = none ∨ _
    unfold CombatKernel.respawnAt
    split_ifs
    · exact Or.inl rfl
    · exact Or.inr (Or.inl rfl)
  | beginSaddleDive diveId launchTick launchWeapon velocity airtime =>
    rcases k.beginSaddleDive_cases diveId launchTick launchWeapon velocity airtime with
      ⟨error, heq⟩ | ⟨k', context, heq, -⟩
    · exact Or.inl (by rw [apply, heq])
    · exact absurd (show (_ : Except _ _ × _).1 = _ by rw [heq]) h
  | finishSaddleDive diveId landingTick =>
    rcases k.finishSaddleDive_cases diveId landingTick with heq | ⟨-, context, hcontext, hclosed⟩
    · exact Or.inl (by rw [apply, heq])
    · exact Or.inr (Or.inr ⟨context, hcontext, hclosed⟩)
  | setAmmo weaponId ammo =>
    change (k.setAmmo weaponId ammo).2.diveContext = _ ∨ _
    unfold CombatKernel.setAmmo
    split_ifs <;> exact Or.inl rfl
  | equipWeapon weaponId =>
    change (k.equipWeapon weaponId).2.diveContext = _ ∨ _
    unfold CombatKernel.equipWeapon
    split_ifs <;> exact Or.inl rfl
  | advanceTo tick riding => exact Or.inl (k.advanceTo_frame tick riding).1
  | requestM3Reload =>
    change k.requestM3Reload.2.diveContext = _ ∨ _
    unfold CombatKernel.requestM3Reload
    split_ifs
    · exact Or.inl rfl
    · exact Or.inl k.beginReload_frame.2
  | advanceM3Reload elapsedTicks paused =>
    exact Or.inl (k.advanceReloadBy_frame elapsedTicks paused).1
  | restoreM3Reload reload =>
    change (k.restoreM3Reload reload).2.diveContext = _ ∨ _
    unfold CombatKernel.restoreM3Reload
    dsimp only
    split_ifs <;> exact Or.inl rfl
  | requestReload tick riding => exact Or.inl (k.requestReload_frame tick riding).2
  | pickup p distanceMm tick => exact Or.inl (k.pickup_frame p distanceMm tick)
  | grantWeapon _ _ | refillEquippedAmmo | holster => exact Or.inl rfl

end KernelOp

/-! ## Firing -/

namespace CombatKernel

variable {k : CombatKernel} {tick : SimulationTick} {direction : QuantizedDirection}
  {riding : RidingState} {suppliedSeed : UInt64}

/-- What an accepted shot has passed, on the kernel advanced to its tick. -/
structure Ready (k : CombatKernel) (tick : SimulationTick) (direction : QuantizedDirection)
    (riding : RidingState) (suppliedSeed : UInt64) : Prop where
  normalized : direction.isNormalized = true
  stance : stanceRefusal riding.stance = none
  steady : riding.stumbling = false
  drawn : k.holstered = false
  loaded : k.reload = none
  cadence : k.cadenceRefusal tick = none
  magazine : k.equippedAmmo.magazine ≠ 0
  seed : suppliedSeed = k.nextSpreadSeed

theorem fireRefusal_eq_none_iff :
    k.fireRefusal tick direction riding suppliedSeed = none
      ↔ k.Ready tick direction riding suppliedSeed := by
  unfold fireRefusal
  by_cases hdirection : direction.isNormalized = true
  · rw [if_neg (by rw [hdirection]; decide)]
    cases hstance : stanceRefusal riding.stance with
    | some reason => exact iff_of_false nofun fun h => nomatch hstance.symm.trans h.stance
    | none =>
      dsimp only
      by_cases hsteady : riding.stumbling = true
      · rw [if_pos hsteady]
        exact iff_of_false nofun fun h => nomatch hsteady.symm.trans h.steady
      rw [if_neg hsteady]
      by_cases hdrawn : k.holstered = true
      · rw [if_pos hdrawn]
        exact iff_of_false nofun fun h => nomatch hdrawn.symm.trans h.drawn
      rw [if_neg hdrawn]
      by_cases hloaded : k.reload.isSome = true
      · rw [if_pos hloaded]
        refine iff_of_false nofun fun h => ?_
        rw [h.loaded] at hloaded
        exact nomatch hloaded
      rw [if_neg hloaded]
      cases hcadence : k.cadenceRefusal tick with
      | some reason => exact iff_of_false nofun fun h => nomatch hcadence.symm.trans h.cadence
      | none =>
        dsimp only
        by_cases hmagazine : k.equippedAmmo.magazine = 0
        · rw [if_pos hmagazine]
          exact iff_of_false nofun fun h => h.magazine hmagazine
        rw [if_neg hmagazine]
        by_cases hseed : suppliedSeed = k.nextSpreadSeed
        · rw [if_neg (not_not.mpr hseed)]
          exact iff_of_true rfl ⟨hdirection, hstance, Bool.eq_false_iff.mpr hsteady,
            Bool.eq_false_iff.mpr hdrawn, Option.not_isSome_iff_eq_none.mp hloaded, hcadence,
            hmagazine, hseed⟩
        · rw [if_pos hseed]
          exact iff_of_false nofun fun h => hseed h.seed
  · rw [if_pos (by rw [Bool.eq_false_iff.mpr hdirection]; rfl)]
    exact iff_of_false nofun fun h => hdirection h.normalized

/-- Accepted shots lie a cadence of the firing rifle apart. -/
theorem cadenceRefusal_eq_none_iff : k.cadenceRefusal tick = none ↔ ∀ last ∈ k.lastAcceptedTick,
    last.toNat + (k.equipped.stats.cadenceTicks k.tickRate).toNat ≤ tick.toNat := by
  unfold cadenceRefusal UInt64.checkedSub
  cases hlast : k.lastAcceptedTick with
  | none => exact iff_of_true rfl fun last hmem => absurd hmem (Option.not_mem_none last)
  | some last =>
    simp only [Option.mem_some_iff, forall_eq']
    by_cases hle : last ≤ tick
    · have hnat := UInt64.le_iff_toNat_le.mp hle
      have helapsed := UInt64.toNat_sub_of_le tick last hle
      rw [if_pos hle]
      dsimp only
      split_ifs with hearly
      · rw [UInt64.lt_iff_toNat_lt] at hearly
        refine iff_of_false nofun ?_
        omega
      · rw [UInt64.lt_iff_toNat_lt] at hearly
        refine iff_of_true rfl ?_
        omega
    · rw [if_neg hle]
      rw [UInt64.le_iff_toNat_le] at hle
      refine iff_of_false nofun ?_
      omega

/-- An accepted shot: the checks before the kernel moves, those after, and the commit. -/
structure Accepts (k : CombatKernel) (tick : SimulationTick) (direction : QuantizedDirection)
    (riding : RidingState) (suppliedSeed : UInt64) (prepared : PreparedShot) (k' : CombatKernel) :
    Prop where
  ready : (k.advanceTo tick riding).2.Ready tick direction riding suppliedSeed
  shotTick : prepared.tick = tick
  weaponId : prepared.weaponId = k.equipped
  gated : ∃ dive, k.diveGate tick riding = .ok dive ∧ prepared.diveId = dive.map (·.diveId)
    ∧ k' = (k.advanceTo tick riding).2.commitShot tick dive

/-- A refusal leaves the kernel as it was, or advanced to the tick. -/
theorem requestFireDetailed_cases (B : Ballistics) (k : CombatKernel) (tick : SimulationTick)
    (direction : QuantizedDirection) (riding : RidingState) (suppliedSeed : UInt64) :
    (∃ rejection k', k.requestFireDetailed B tick direction riding suppliedSeed
        = (.error rejection, k') ∧ (k' = k ∨ k' = (k.advanceTo tick riding).2))
      ∨ ∃ prepared k', k.requestFireDetailed B tick direction riding suppliedSeed
        = (.ok prepared, k') ∧ k.Accepts tick direction riding suppliedSeed prepared k' := by
  unfold requestFireDetailed
  cases hgate : k.diveGate tick riding with
  | error rejection => exact Or.inl ⟨rejection, k, rfl, Or.inl rfl⟩
  | ok dive =>
    have hequipped := (k.advanceTo_frame tick riding).2
    dsimp only
    match hadvance : k.advanceTo tick riding with
    | (none, k') => exact Or.inl ⟨_, k', rfl, Or.inr rfl⟩
    | (some outcome, k') =>
      rw [hadvance] at hequipped
      dsimp only at hequipped ⊢
      unfold fireAdvanced
      cases hrefusal : k'.fireRefusal tick direction riding suppliedSeed with
      | some reason => exact Or.inl ⟨_, k', rfl, Or.inr rfl⟩
      | none =>
        rw [Option.elim_none]
        unfold fireShot
        dsimp only
        cases B.spreadDirection direction k'.nextSpreadSeed _ _ with
        | none => exact Or.inl ⟨_, k', rfl, Or.inr rfl⟩
        | some resolvedDirection =>
          refine Or.inr ⟨_, _, rfl, ?_, rfl, hequipped, dive, hgate, rfl, ?_⟩
          · rw [hadvance]
            exact fireRefusal_eq_none_iff.mp hrefusal
          · rw [hadvance]

/-- The commit takes one round from the magazine in hand. -/
theorem equippedAmmo_commitShot (k : CombatKernel) (tick : SimulationTick)
    (dive : Option DiveFireContext) :
    (k.commitShot tick dive).equippedAmmo.magazine = k.equippedAmmo.magazine.satSub 1 := by
  unfold equippedAmmo
  change (((k.inventory.modify k.equipped fun ammo =>
    { ammo with magazine := ammo.magazine.satSub 1 })[k.equipped]?).getD .empty).magazine = _
  rw [getElem?_modify, if_pos rfl]
  change _ = ((k.inventory[k.equipped]?).getD .empty).magazine.satSub 1
  cases k.inventory[k.equipped]? <;> rfl

theorem rounds_commitShot {k : CombatKernel} (h : k.equippedAmmo.magazine ≠ 0)
    (tick : SimulationTick) (dive : Option DiveFireContext) (weaponId : WeaponId) :
    (k.commitShot tick dive).rounds weaponId + (if weaponId = k.equipped then 1 else 0)
      = k.rounds weaponId := by
  unfold rounds
  change ((((k.inventory.modify k.equipped fun ammo =>
    { ammo with magazine := ammo.magazine.satSub 1 })[weaponId]?).map WeaponAmmo.rounds).getD 0) + _
    = _
  unfold equippedAmmo at h
  rw [getElem?_modify]
  by_cases heq : k.equipped = weaponId
  · subst heq
    rw [if_pos rfl, if_pos rfl]
    change ((((k.ammo k.equipped).map _).map WeaponAmmo.rounds).getD 0) + 1 = _
    cases hammo : k.ammo k.equipped with
    | none =>
      rw [hammo] at h
      exact absurd rfl h
    | some ammo =>
      rw [hammo, Option.getD_some, ← UInt16.toNat_inj.ne] at h
      have hzero : (0 : UInt16).toNat = 0 := rfl
      have hone : (1 : UInt16).toNat = 1 := rfl
      simp only [Option.map_some, Option.getD_some, WeaponAmmo.rounds, UInt16.toNat_satSub, hone]
      omega
  · rw [if_neg heq, if_neg fun hsame => heq hsame.symm, Nat.add_zero]
    rfl

theorem stocked_commitShot {k : CombatKernel} (h : k.Stocked) (tick : SimulationTick)
    (dive : Option DiveFireContext) : (k.commitShot tick dive).Stocked := by
  intro weaponId ammo hammo
  change (k.inventory.modify k.equipped fun ammo =>
    { ammo with magazine := ammo.magazine.satSub 1 })[weaponId]? = _ at hammo
  rw [getElem?_modify] at hammo
  split_ifs at hammo with heq
  · obtain ⟨before, hbefore, rfl⟩ := Option.map_eq_some_iff.mp hammo
    obtain ⟨hmagazine, hreserve⟩ := h weaponId before hbefore
    refine ⟨?_, hreserve⟩
    rw [UInt16.le_iff_toNat_le] at hmagazine ⊢
    rw [UInt16.toNat_satSub]
    omega
  · exact h weaponId ammo hammo

end CombatKernel

end Spurfire
