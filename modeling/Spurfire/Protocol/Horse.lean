import Mathlib.Algebra.GroupWithZero.Nat
import Spurfire.Lib.Runs
import Spurfire.Protocol.SaddleGeometry
import Spurfire.Protocol.Spur

/-!
# Horse vitality

Damage, regeneration, bolt and return of one horse (`m3.rs`).  A horse regenerates ten health a
second from six seconds after its last damage, in sixtieths that are carried from call to call.

* `HorseVitalityKernel.applyDamage`, `advanceTick`, `restoreReturnedHorse`: the operations;
* `regenerated`: health and carry after a call, with `healed` and `carried` as the arithmetic behind
  it;
* `HorseVitalityKernel.advanceTick_advanceTick`: two calls in a row do what the second does alone;
* `Kept.health_of_damage`: the exact health after a damage and any series of calls.
-/

namespace Spurfire

def HORSE_BOLT_TICKS : UInt64 := 3 * 60
def HORSE_REGEN_DELAY_TICKS : UInt64 := 6 * 60
def HORSE_REGEN_HEALTH_PER_SECOND : UInt32 := 10
def SPOOK_THROW_DISTANCE_MM : UInt32 := 3000

structure HorseDamageCommand where
  id : AuthorityReceiptId
  amount : UInt16
  horsePosition : QuantizedOrigin
  damageSourcePosition : QuantizedOrigin
deriving DecidableEq

/-- From the source of the damage to the horse, or ahead where they coincide. -/
def HorseDamageCommand.boltAway (command : HorseDamageCommand) : Planar :=
  let awayX := command.horsePosition.x.satSub command.damageSourcePosition.x
  let awayZ := command.horsePosition.z.satSub command.damageSourcePosition.z
  if awayX = 0 ∧ awayZ = 0 then Planar.new 0 1 else Planar.new awayX awayZ

namespace HorseVitalityKernel

protected def new (horseClass : HorseVitalityClass) : HorseVitalityKernel where
  horseClass := horseClass
  health := horseClass.maxHealth
  state := .available
  boltStartedTick := none
  boltAwayDeltaMm := Planar.new 0 1
  lastDamageId := none
  currentTick := none
  lastDamageTick := none
  regenUnits := 0

/-- The damage is a duplicate, late or early, or the horse is gone. -/
def RefusesDamage (k : HorseVitalityKernel) (id : AuthorityReceiptId) : Prop :=
  k.state ≠ .available ∨ (k.lastDamageId.any fun last => ¬last.precedes id)
    ∨ (k.currentTick.any fun current => id.tick ≠ current)

instance (k : HorseVitalityKernel) (id : AuthorityReceiptId) : Decidable (k.RefusesDamage id) :=
  inferInstanceAs (Decidable (_ ∨ _))

/-- Applies a unique command; duplicates and damage after the spook do nothing. -/
def applyDamage (k : HorseVitalityKernel) (command : HorseDamageCommand) :
    Option HorseDamageApplication × HorseVitalityKernel :=
  if k.RefusesDamage command.id then (none, k)
  else
    let health := k.health.satSub command.amount
    let spooked := decide (k.health > 0 ∧ health = 0)
    let damaged := { k with
      lastDamageId := some command.id
      health
      lastDamageTick := some command.id.tick
      regenUnits := 0
      state := if spooked then .bolting else k.state
      boltStartedTick := if spooked then some command.id.tick else k.boltStartedTick
      boltAwayDeltaMm := if spooked then command.boltAway else k.boltAwayDeltaMm }
    (some {
      healthBefore := k.health
      healthAfter := health
      spooked
      boltAwayDeltaMm := damaged.boltAwayDeltaMm
      riderThrowDistanceMm := if spooked then SPOOK_THROW_DISTANCE_MM else 0
      riderStunTicks := if spooked then SPOOK_STUN_TICKS else 0
      riderFallDamage := false }, damaged)

/-- The first tick that restores health: six seconds after the damage, and after the last call. -/
def eligibleStart (k : HorseVitalityKernel) (boundary : SimulationTick) : SimulationTick :=
  max ((k.currentTick.map fun previous => previous.satAdd 1).getD boundary) boundary

/-- Health and carried sixtieths after the call at `tick`. -/
def regenerated (k : HorseVitalityKernel) (tick : SimulationTick) : UInt16 × UInt32 :=
  if k.state = .available ∧ k.health < k.horseClass.maxHealth then
    match k.lastDamageTick.map fun last => last.satAdd HORSE_REGEN_DELAY_TICKS with
    | none => (k.health, k.regenUnits)
    | some boundary =>
      if tick ≥ k.eligibleStart boundary then
        let eligibleTicks := tick - k.eligibleStart boundary + 1
        let units := k.regenUnits.toUInt64.satAdd
          (eligibleTicks.satMul HORSE_REGEN_HEALTH_PER_SECOND.toUInt64)
        let restored := units / M3_TICK_RATE_HZ.toUInt64
        let health := min (k.health.satAdd (u16OrElse restored.toNat 0xffff)) k.horseClass.maxHealth
        (health, if health = k.horseClass.maxHealth then 0
          else (units % M3_TICK_RATE_HZ.toUInt64).toUInt32)
      else (k.health, k.regenUnits)
  else (k.health, k.regenUnits)

/-- Advances regeneration and the bolt, and answers the exact tick of a despawn. -/
def advanceTick (k : HorseVitalityKernel) (tick : SimulationTick) :
    Except M3Error (Option SimulationTick) × HorseVitalityKernel :=
  if k.currentTick.any fun current => tick ≤ current then (.error .tickReplay, k)
  else
    let ticked := { k with
      currentTick := some tick
      health := (k.regenerated tick).1
      regenUnits := (k.regenerated tick).2 }
    if k.state ≠ .bolting then (.ok none, ticked)
    else
      match k.boltStartedTick with
      | none => (.error .invalidState, ticked)
      | some started =>
        if (UInt64.checkedSub tick started).getD 0 ≥ HORSE_BOLT_TICKS then
          (.ok (some (started.satAdd HORSE_BOLT_TICKS)), { ticked with state := .despawned })
        else (.ok none, ticked)

/-- Completes a return with the same horse at full health. -/
def restoreReturnedHorse (k : HorseVitalityKernel) : Bool × HorseVitalityKernel :=
  if k.state ≠ .despawned then (false, k)
  else
    (true, { k with
      health := k.horseClass.maxHealth
      state := .available
      boltStartedTick := none
      boltAwayDeltaMm := Planar.new 0 1
      regenUnits := 0 })

/-- The bolt fields agree with the state. -/
def boltIsValid (k : HorseVitalityKernel) : Bool :=
  match k.state with
  | .available => k.health > 0 && k.boltStartedTick.isNone
  | .bolting => k.health = 0
      && k.boltStartedTick.any fun started => k.currentTick.all fun current =>
        (UInt64.checkedSub current started).getD 0 < HORSE_BOLT_TICKS
  | .despawned => k.health = 0
      && k.boltStartedTick.any fun started => k.currentTick.any fun current =>
        (UInt64.checkedSub current started).getD 0 ≥ HORSE_BOLT_TICKS

def stateIsValid (k : HorseVitalityKernel) : Bool :=
  decide (k.health ≤ k.horseClass.maxHealth)
    && decide (k.regenUnits < M3_TICK_RATE_HZ)
    && decide (k.lastDamageId.map (·.tick) = k.lastDamageTick)
    && tickIsNotAfter k.lastDamageTick k.currentTick
    && tickIsNotAfter k.boltStartedTick k.currentTick
    && decide (k.health = k.horseClass.maxHealth → k.regenUnits = 0)
    && k.boltIsValid

/-! ## Regeneration in whole numbers -/

section Regeneration

variable (top health carry a b : ℕ)

/-- Health after `a` eligible ticks, of which each is worth ten sixtieths. -/
def healed : ℕ := min (health + (carry + 10 * a) / 60) top

/-- Sixtieths left after `a` eligible ticks; a full horse keeps none. -/
def carried : ℕ := if healed top health carry a = top then 0 else (carry + 10 * a) % 60

variable {top health carry a b}

/-- Ticks in two calls restore what they restore in one. -/
theorem healed_healed : healed top (healed top health carry a) (carried top health carry a) b
    = healed top health carry (a + b) := by
  unfold carried
  by_cases hfull : healed top health carry a = top
  · rw [if_pos hfull]
    unfold healed at *
    omega
  · rw [if_neg hfull]
    unfold healed at *
    omega

theorem carried_carried : carried top (healed top health carry a) (carried top health carry a) b
    = carried top health carry (a + b) := by
  have hsame := @healed_healed top health carry a b
  unfold carried at *
  rw [hsame]
  by_cases hfull : healed top health carry (a + b) = top
  · rw [if_pos hfull, if_pos hfull]
  · have hpart : healed top health carry a ≠ top := by
      unfold healed at *
      omega
    rw [if_neg hfull, if_neg hfull, if_neg hpart]
    omega

/-- A boundary cut off at the last tick restores no more than the boundary itself. -/
theorem restored_of_saturated {tick last : ℕ} (h : tick < 2 ^ 64) :
    10 * (tick + 1 - min (last + 360) (2 ^ 64 - 1)) / 60 = 10 * (tick + 1 - (last + 360)) / 60 := by
  by_cases hfits : last + 360 ≤ 2 ^ 64 - 1
  · rw [Nat.min_eq_left hfits]
  · rw [Nat.min_eq_right (by omega)]
    have hone : tick + 1 - (2 ^ 64 - 1) ≤ 1 := by omega
    have hzero : tick + 1 - (last + 360) = 0 := by omega
    rw [hzero]
    omega

theorem healed_zero (h : health ≤ top) (hc : carry < 60) : healed top health carry 0 = health := by
  unfold healed
  omega

end Regeneration

/-! ## What a call does to the health -/

/-- What every run keeps. -/
structure Kept (k : HorseVitalityKernel) : Prop where
  health : k.health ≤ k.horseClass.maxHealth
  carry : k.regenUnits < M3_TICK_RATE_HZ
  full : k.health = k.horseClass.maxHealth → k.regenUnits = 0

/-- The ticks after the clock, up to `tick`, that lie six seconds or more after the last damage. -/
def eligible (k : HorseVitalityKernel) (tick : SimulationTick) : ℕ :=
  match k.lastDamageTick with
  | none => 0
  | some last =>
    if k.state = .available then
      tick.toNat + 1 - max ((k.currentTick.map fun previous => previous.toNat + 1).getD 0)
        (last.satAdd HORSE_REGEN_DELAY_TICKS).toNat
    else 0

theorem maxHealth_toNat_le (c : HorseVitalityClass) : c.maxHealth.toNat ≤ 320 := by
  cases c <;> decide

theorem toNat_u16OrElse (v : ℕ) : (u16OrElse v 0xffff).toNat = min v 65535 := by
  unfold u16OrElse
  split_ifs with h
  · rw [UInt16.toNat_ofNat', Nat.mod_eq_of_lt h, Nat.min_eq_left (by omega)]
  · have : (0xffff : UInt16).toNat = 65535 := by decide
    omega

theorem toNat_min_uInt16 (a b : UInt16) : (min a b).toNat = min a.toNat b.toNat := by
  change (if a ≤ b then a else b).toNat = _
  split_ifs with h <;> rw [UInt16.le_iff_toNat_le] at h <;> omega

/-- The boundary lies after tick 0, and so does the first eligible tick. -/
theorem toNat_eligibleStart {k : HorseVitalityKernel} {tick last : SimulationTick}
    (hnew : ∀ current ∈ k.currentTick, current < tick) :
    (k.eligibleStart (last.satAdd HORSE_REGEN_DELAY_TICKS)).toNat
        = max ((k.currentTick.map fun previous => previous.toNat + 1).getD 0)
          (last.satAdd HORSE_REGEN_DELAY_TICKS).toNat := by
  have hmax : ∀ a b : UInt64, (max a b).toNat = max a.toNat b.toNat := by
    intro a b
    change (if a ≤ b then b else a).toNat = _
    split_ifs with h <;> rw [UInt64.le_iff_toNat_le] at h <;> omega
  unfold eligibleStart
  rw [hmax]
  cases hclock : k.currentTick with
  | none => simp
  | some current =>
    have hlt := UInt64.lt_iff_toNat_lt.mp (hnew current hclock)
    have htick := tick.toNat_lt
    have hone : (1 : UInt64).toNat = 1 := rfl
    simp only [Option.map_some, Option.getD_some, UInt64.toNat_satAdd, hone]
    omega

/-- Dividing saturated units is dividing the units, up to the top. -/
theorem toNat_restored {health top : UInt16} (htop : top.toNat ≤ 320) {units : UInt64} {n : ℕ}
    (hunits : units.toNat = min n (2 ^ 64 - 1)) :
    (min (health.satAdd (u16OrElse (units / M3_TICK_RATE_HZ.toUInt64).toNat 0xffff)) top).toNat
      = min (health.toNat + n / 60) top.toNat := by
  have hrate : M3_TICK_RATE_HZ.toUInt64.toNat = 60 := rfl
  rw [toNat_min_uInt16, UInt16.toNat_satAdd, toNat_u16OrElse, UInt64.toNat_div, hrate, hunits]
  omega

/-- **One call regenerates by the eligible ticks**: saturation never shows, because it only happens
where the horse is full. -/
theorem Kept.regenerated {k : HorseVitalityKernel} (h : k.Kept) {tick : SimulationTick}
    (hnew : ∀ current ∈ k.currentTick, current < tick) :
    (k.regenerated tick).1.toNat = healed k.horseClass.maxHealth.toNat k.health.toNat
        k.regenUnits.toNat (k.eligible tick)
      ∧ (k.regenerated tick).2.toNat = carried k.horseClass.maxHealth.toNat k.health.toNat
        k.regenUnits.toNat (k.eligible tick) := by
  have hhealth := UInt16.le_iff_toNat_le.mp h.health
  have hcarry : k.regenUnits.toNat < 60 := UInt32.lt_iff_toNat_lt.mp h.carry
  have htop := maxHealth_toNat_le k.horseClass
  have hfull : k.health.toNat = k.horseClass.maxHealth.toNat → k.regenUnits.toNat = 0 := by
    intro heq
    rw [h.full (UInt16.toNat_inj.mp heq)]
    rfl
  -- no eligible tick leaves everything as it is
  have hidle : healed k.horseClass.maxHealth.toNat k.health.toNat k.regenUnits.toNat 0
      = k.health.toNat ∧ carried k.horseClass.maxHealth.toNat k.health.toNat k.regenUnits.toNat 0
      = k.regenUnits.toNat := by
    have hzero := healed_zero hhealth hcarry
    refine ⟨hzero, ?_⟩
    unfold carried
    rw [hzero]
    split_ifs with heq
    · exact (hfull heq).symm
    · omega
  unfold HorseVitalityKernel.regenerated eligible
  by_cases hregen : k.state = .available ∧ k.health < k.horseClass.maxHealth
  · rw [if_pos hregen]
    cases hlast : k.lastDamageTick with
    | none => exact ⟨hidle.1.symm, hidle.2.symm⟩
    | some last =>
      have hstart := @toNat_eligibleStart k tick last hnew
      have hboundary := UInt64.toNat_satAdd last HORSE_REGEN_DELAY_TICKS
      have hdelay : HORSE_REGEN_DELAY_TICKS.toNat = 360 := rfl
      simp only [Option.map_some, if_pos hregen.1]
      by_cases heligible : tick ≥ k.eligibleStart (last.satAdd HORSE_REGEN_DELAY_TICKS)
      · rw [if_pos heligible]
        rw [ge_iff_le, UInt64.le_iff_toNat_le] at heligible
        have htick := tick.toNat_lt
        have hticks : (tick - k.eligibleStart (last.satAdd HORSE_REGEN_DELAY_TICKS) + 1).toNat
            = tick.toNat + 1 - (k.eligibleStart (last.satAdd HORSE_REGEN_DELAY_TICKS)).toNat := by
          have hone : (1 : UInt64).toNat = 1 := rfl
          rw [UInt64.toNat_add, UInt64.toNat_sub_of_le _ _ (UInt64.le_iff_toNat_le.mpr heligible),
            hone]
          omega
        have hunits : (k.regenUnits.toUInt64.satAdd
            ((tick - k.eligibleStart (last.satAdd HORSE_REGEN_DELAY_TICKS) + 1).satMul
              HORSE_REGEN_HEALTH_PER_SECOND.toUInt64)).toNat
            = min (k.regenUnits.toNat + 10 * (tick.toNat + 1
              - (k.eligibleStart (last.satAdd HORSE_REGEN_DELAY_TICKS)).toNat)) (2 ^ 64 - 1) := by
          have hten : HORSE_REGEN_HEALTH_PER_SECOND.toUInt64.toNat = 10 := rfl
          rw [UInt64.toNat_satAdd, UInt64.toNat_satMul, hticks, hten, UInt32.toNat_toUInt64]
          omega
        rw [← hstart]
        have hrestored := @toNat_restored k.health k.horseClass.maxHealth htop _ _ hunits
        refine ⟨hrestored, ?_⟩
        unfold carried healed
        dsimp only
        rw [← hrestored]
        simp only [UInt16.toNat_inj]
        split_ifs with htopped
        · rfl
        · -- a horse that is not full has not gained enough to saturate
          have hless : ¬min (k.health.toNat + _ / 60) k.horseClass.maxHealth.toNat
              = k.horseClass.maxHealth.toNat :=
            fun heq => htopped (UInt16.toNat_inj.mp (hrestored.trans heq))
          have hrate : M3_TICK_RATE_HZ.toUInt64.toNat = 60 := rfl
          rw [UInt64.toNat_toUInt32, UInt64.toNat_mod, hrate, hunits]
          omega
      · rw [if_neg heligible]
        rw [ge_iff_le, UInt64.le_iff_toNat_le] at heligible
        rw [← hstart, Nat.sub_eq_zero_of_le (by omega)]
        exact ⟨hidle.1.symm, hidle.2.symm⟩
  · rw [if_neg hregen]
    cases hlast : k.lastDamageTick with
    | none => exact ⟨hidle.1.symm, hidle.2.symm⟩
    | some last =>
      dsimp only
      by_cases havailable : k.state = .available
      · -- a full horse gains nothing
        have htopped : k.health.toNat = k.horseClass.maxHealth.toNat := by
          have hnot : ¬k.health < k.horseClass.maxHealth := fun hlt => hregen ⟨havailable, hlt⟩
          rw [UInt16.lt_iff_toNat_lt] at hnot
          omega
        have hzero := hfull htopped
        have hstays : ∀ a top : ℕ, healed top top 0 a = top ∧ carried top top 0 a = 0 := by
          intro a top
          have hhealed : healed top top 0 a = top := by
            unfold healed
            omega
          refine ⟨hhealed, ?_⟩
          unfold carried
          rw [if_pos hhealed]
        rw [htopped, hzero]
        exact ⟨(hstays _ _).1.symm, (hstays _ _).2.symm⟩
      · rw [if_neg havailable]
        exact ⟨hidle.1.symm, hidle.2.symm⟩

/-! ## Calls -/

/-- Where a call at `tick` leaves the bolt. -/
def boltedState (k : HorseVitalityKernel) (tick : SimulationTick) : HorseVitalityState :=
  if k.state = .bolting ∧ k.boltStartedTick.any fun started =>
    (UInt64.checkedSub tick started).getD 0 ≥ HORSE_BOLT_TICKS then .despawned else k.state

/-- A call that is not refused moves the clock, the health and the bolt, and nothing else. -/
theorem advanceTick_snd {k : HorseVitalityKernel} {tick : SimulationTick}
    (hnew : ∀ current ∈ k.currentTick, current < tick) :
    (k.advanceTick tick).2 = { k with
      currentTick := some tick
      health := (k.regenerated tick).1
      regenUnits := (k.regenerated tick).2
      state := k.boltedState tick } := by
  have hfresh := not_any_le hnew
  unfold advanceTick boltedState
  rw [if_neg hfresh]
  dsimp only
  by_cases hbolting : k.state = .bolting
  · rw [if_neg (not_not.mpr hbolting)]
    cases hstarted : k.boltStartedTick with
    | none => simp
    | some started =>
      simp only [Option.any_some, decide_eq_true_eq, hbolting, true_and]
      by_cases hover : (UInt64.checkedSub tick started).getD 0 ≥ HORSE_BOLT_TICKS
      · rw [if_pos hover, if_pos hover]
      · rw [if_neg hover, if_neg hover]
  · rw [if_pos hbolting, if_neg fun hboth => hbolting hboth.1]

theorem boltedState_eq_available {k : HorseVitalityKernel} {tick : SimulationTick} :
    k.boltedState tick = .available ↔ k.state = .available := by
  unfold boltedState
  split_ifs with hover
  · rw [hover.1]
    decide
  · rfl

theorem Kept.advanceTick {k : HorseVitalityKernel} (h : k.Kept) {tick : SimulationTick}
    (hnew : ∀ current ∈ k.currentTick, current < tick) : (k.advanceTick tick).2.Kept := by
  obtain ⟨hhealth, hcarry⟩ := h.regenerated hnew
  rw [advanceTick_snd hnew]
  constructor
  · change (k.regenerated tick).1 ≤ k.horseClass.maxHealth
    rw [UInt16.le_iff_toNat_le, hhealth]
    exact min_le_right _ _
  · change (k.regenerated tick).2 < M3_TICK_RATE_HZ
    have hrate : M3_TICK_RATE_HZ.toNat = 60 := rfl
    rw [UInt32.lt_iff_toNat_lt, hcarry, hrate]
    unfold carried
    split_ifs <;> omega
  · change (k.regenerated tick).1 = k.horseClass.maxHealth → (k.regenerated tick).2 = 0
    intro hfull
    rw [← UInt16.toNat_inj, hhealth] at hfull
    rw [← UInt32.toNat_inj, hcarry]
    unfold carried
    rw [if_pos hfull]
    rfl

/-- The ticks of two calls in a row are those of the second alone. -/
theorem eligible_advanceTick {k : HorseVitalityKernel} {t₁ t₂ : SimulationTick}
    (hnew : ∀ current ∈ k.currentTick, current < t₁) (hlt : t₁ < t₂) :
    k.eligible t₁ + (k.advanceTick t₁).2.eligible t₂ = k.eligible t₂ := by
  rw [advanceTick_snd hnew]
  unfold eligible
  dsimp only
  simp only [boltedState_eq_available]
  cases k.lastDamageTick with
  | none => rfl
  | some last =>
    dsimp only
    split_ifs with havailable
    · rw [UInt64.lt_iff_toNat_lt] at hlt
      cases hclock : k.currentTick with
      | none =>
        simp only [Option.map_none, Option.map_some, Option.getD_none, Option.getD_some]
        omega
      | some current =>
        have hcurrent := UInt64.lt_iff_toNat_lt.mp (hnew current hclock)
        simp only [Option.map_some, Option.getD_some]
        omega
    · rfl

theorem boltedState_advanceTick {k : HorseVitalityKernel} {t₁ t₂ : SimulationTick}
    (hnew : ∀ current ∈ k.currentTick, current < t₁) (hlt : t₁ < t₂) :
    (k.advanceTick t₁).2.boltedState t₂ = k.boltedState t₂ := by
  rw [advanceTick_snd hnew]
  unfold boltedState
  dsimp only
  by_cases hover : k.state = .bolting ∧ k.boltStartedTick.any fun started =>
    (UInt64.checkedSub t₁ started).getD 0 ≥ HORSE_BOLT_TICKS
  · rw [if_pos hover]
    -- a bolt that is over at `t₁` is over at `t₂`
    obtain ⟨hbolting, hlong⟩ := hover
    have hlater : (k.boltStartedTick.any fun started =>
        (UInt64.checkedSub t₂ started).getD 0 ≥ HORSE_BOLT_TICKS) = true := by
      cases hstarted : k.boltStartedTick with
      | none => simp [hstarted] at hlong
      | some started =>
        rw [hstarted, Option.any_some, decide_eq_true_eq, ge_iff_le, UInt64.le_iff_toNat_le,
          UInt64.toNat_checkedSub_getD] at hlong
        rw [UInt64.lt_iff_toNat_lt] at hlt
        rw [Option.any_some, decide_eq_true_eq, ge_iff_le, UInt64.le_iff_toNat_le,
          UInt64.toNat_checkedSub_getD]
        omega
    rw [if_neg (fun hboth => nomatch hboth.1), if_pos ⟨hbolting, hlater⟩]
  · rw [if_neg hover]

/-- **Two calls in a row do what the second does alone.** -/
theorem Kept.advanceTick_advanceTick {k : HorseVitalityKernel} (h : k.Kept)
    {t₁ t₂ : SimulationTick} (hnew : ∀ current ∈ k.currentTick, current < t₁) (hlt : t₁ < t₂) :
    ((k.advanceTick t₁).2.advanceTick t₂).2 = (k.advanceTick t₂).2 := by
  have hnew₂ : ∀ current ∈ k.currentTick, current < t₂ :=
    fun current hcurrent => UInt64.lt_trans (hnew current hcurrent) hlt
  have hclock : ∀ current ∈ (k.advanceTick t₁).2.currentTick, current < t₂ := by
    rw [advanceTick_snd hnew]
    rintro current ⟨⟩
    exact hlt
  -- the health after both calls is the health for the ticks of both
  obtain ⟨hhealth, hcarry⟩ := h.regenerated hnew
  obtain ⟨hhealth₂, hcarry₂⟩ := h.regenerated hnew₂
  obtain ⟨hhealth', hcarry'⟩ := (h.advanceTick hnew).regenerated hclock
  have hticks := eligible_advanceTick hnew hlt
  have hsplit : (k.advanceTick t₁).2.regenerated t₂ = k.regenerated t₂ := by
    rw [advanceTick_snd hnew] at hhealth' hcarry' hticks ⊢
    rw [hhealth, hcarry, healed_healed, hticks] at hhealth'
    rw [hhealth, hcarry, carried_carried, hticks] at hcarry'
    exact Prod.ext (UInt16.toNat_inj.mp (hhealth'.trans hhealth₂.symm))
      (UInt32.toNat_inj.mp (hcarry'.trans hcarry₂.symm))
  rw [advanceTick_snd hclock, advanceTick_snd hnew₂, hsplit, boltedState_advanceTick hnew hlt,
    advanceTick_snd hnew]

/-! ## Runs -/

/-- What an accepted damage command does. -/
structure Damaged (k : HorseVitalityKernel) (command : HorseDamageCommand)
    (application : HorseDamageApplication) (k' : HorseVitalityKernel) : Prop where
  available : k.state = .available
  newer : ∀ last ∈ k.lastDamageId, last.precedes command.id
  dated : ∀ current ∈ k.currentTick, command.id.tick = current
  clock : k'.currentTick = k.currentTick
  horseClass : k'.horseClass = k.horseClass
  receipt : k'.lastDamageId = some command.id
  lastDamage : k'.lastDamageTick = some command.id.tick
  health : k'.health = application.healthAfter ∧ application.healthAfter = k.health.satSub command.amount
  carry : k'.regenUnits = 0
  spooked : application.spooked = decide (k.health > 0 ∧ application.healthAfter = 0)
  state : k'.state = if application.spooked then .bolting else .available
  started : k'.boltStartedTick
    = if application.spooked then some command.id.tick else k.boltStartedTick

theorem applyDamage_cases (k : HorseVitalityKernel) (command : HorseDamageCommand) :
    (k.RefusesDamage command.id ∧ k.applyDamage command = (none, k))
      ∨ ∃ application k', k.applyDamage command = (some application, k')
        ∧ Damaged k command application k' := by
  unfold applyDamage
  by_cases hrefused : k.RefusesDamage command.id
  · rw [if_pos hrefused]
    exact Or.inl ⟨hrefused, rfl⟩
  · rw [if_neg hrefused]
    refine Or.inr ⟨_, _, rfl, ?_⟩
    unfold RefusesDamage at hrefused
    push Not at hrefused
    obtain ⟨havailable, hnewer, hdated⟩ := hrefused
    refine ⟨havailable, fun last hlast => ?_, fun current hcurrent => ?_, rfl, rfl, rfl, rfl,
      ⟨rfl, rfl⟩, rfl, rfl, ?_, rfl⟩
    · rw [Option.mem_def] at hlast
      rw [hlast, Option.any_some, Ne, decide_eq_true_eq, not_not] at hnewer
      exact hnewer
    · rw [Option.mem_def] at hcurrent
      rw [hcurrent, Option.any_some, Ne, decide_eq_true_eq, not_not] at hdated
      exact hdated
    · rw [havailable]

theorem damaged_of_some {k : HorseVitalityKernel} {command : HorseDamageCommand}
    {application : HorseDamageApplication} (h : (k.applyDamage command).1 = some application) :
    Damaged k command application (k.applyDamage command).2 := by
  rcases k.applyDamage_cases command with ⟨-, heq⟩ | ⟨application', k', heq, hdamaged⟩
  · rw [heq] at h
    exact nomatch h
  · rw [heq] at h ⊢
    obtain rfl := Option.some.inj h
    exact hdamaged

theorem Kept.damaged {k k' : HorseVitalityKernel} (h : k.Kept) {command : HorseDamageCommand}
    {application : HorseDamageApplication} (hdamaged : Damaged k command application k') :
    k'.Kept := by
  have hhealth := UInt16.le_iff_toNat_le.mp h.health
  refine ⟨?_, ?_, fun _ => hdamaged.carry⟩
  · rw [hdamaged.horseClass, hdamaged.health.1, hdamaged.health.2, UInt16.le_iff_toNat_le,
      UInt16.toNat_satSub]
    omega
  · rw [hdamaged.carry]
    decide

theorem Kept.applyDamage {k : HorseVitalityKernel} (h : k.Kept) (command : HorseDamageCommand) :
    (k.applyDamage command).2.Kept := by
  rcases k.applyDamage_cases command with ⟨-, heq⟩ | ⟨application, k', heq, hdamaged⟩
  · rw [heq]
    exact h
  · rw [heq]
    exact h.damaged hdamaged

theorem Kept.restoreReturnedHorse {k : HorseVitalityKernel} (h : k.Kept) :
    k.restoreReturnedHorse.2.Kept := by
  have hcarry : (0 : UInt32) < M3_TICK_RATE_HZ := by decide
  unfold HorseVitalityKernel.restoreReturnedHorse
  split_ifs
  · exact h
  · exact ⟨UInt16.le_refl _, hcarry, fun _ => rfl⟩

/-- What the checkpoint validator accepts is kept. -/
theorem kept_of_stateIsValid {k : HorseVitalityKernel} (h : k.stateIsValid = true) : k.Kept := by
  unfold stateIsValid at h
  simp only [Bool.and_eq_true, decide_eq_true_eq] at h
  exact ⟨h.1.1.1.1.1.1, h.1.1.1.1.1.2, h.1.2⟩

theorem new_stateIsValid (horseClass : HorseVitalityClass) :
    (HorseVitalityKernel.new horseClass).stateIsValid = true := by
  cases horseClass <;> decide

end HorseVitalityKernel

inductive HorseCall
  | applyDamage (command : HorseDamageCommand)
  | advanceTick (tick : SimulationTick)
  | restoreReturnedHorse
deriving DecidableEq

inductive HorseAnswer
  | damaged (application : Option HorseDamageApplication)
  | ticked (despawned : Except M3Error (Option SimulationTick))
  | restored (done : Bool)

def HorseVitalityKernel.step (k : HorseVitalityKernel) : HorseCall → HorseAnswer × HorseVitalityKernel
  | .applyDamage command =>
    let (application, k') := k.applyDamage command
    (.damaged application, k')
  | .advanceTick tick =>
    let (despawned, k') := k.advanceTick tick
    (.ticked despawned, k')
  | .restoreReturnedHorse =>
    let (done, k') := k.restoreReturnedHorse
    (.restored done, k')


namespace HorseVitalityKernel

theorem Kept.step {k : HorseVitalityKernel} (h : k.Kept) (call : HorseCall) :
    (k.step call).2.Kept := by
  cases call with
  | applyDamage command => exact h.applyDamage command
  | advanceTick tick =>
    by_cases hstale : (k.currentTick.any fun current => tick ≤ current) = true
    · change (k.advanceTick tick).2.Kept
      unfold HorseVitalityKernel.advanceTick
      rw [if_pos hstale]
      exact h
    · exact h.advanceTick (lt_of_not_any_le hstale)
  | restoreReturnedHorse => exact h.restoreReturnedHorse

/-- A run of calls leads from a fresh or a restored kernel to `k`. -/
def Reached (k : HorseVitalityKernel) : Prop :=
  ∃ start calls, start.stateIsValid = true ∧ Runs.run step start calls = k

theorem Reached.kept {k : HorseVitalityKernel} (h : k.Reached) : k.Kept := by
  obtain ⟨start, calls, hvalid, rfl⟩ := h
  exact Runs.run_invariant (fun _ call hk => hk.step call) (kept_of_stateIsValid hvalid) calls

/-- Over a series of ticks only the last one counts. -/
theorem Kept.run_advanceTick {k : HorseVitalityKernel} (h : k.Kept) {ticks : List SimulationTick}
    {tick : SimulationTick} (hnew : ∀ t ∈ ticks ++ [tick], ∀ current ∈ k.currentTick, current < t)
    (hsorted : (ticks ++ [tick]).Pairwise (· < ·)) :
    Runs.run HorseVitalityKernel.advanceTick k (ticks ++ [tick]) = (k.advanceTick tick).2 := by
  refine Runs.run_absorbed (I := Kept) (C := fun k t => ∀ current ∈ k.currentTick, current < t)
    (fun _ _ hk hc => hk.advanceTick hc) (fun k t t' _ hc hlt => ?_)
    (fun _ _ _ hk hc hlt => hk.advanceTick_advanceTick hc hlt) h hnew hsorted
  rw [advanceTick_snd hc]
  rintro current ⟨⟩
  exact hlt

/-- The health that a horse has after damage and a series of ticks, the last of which is `tick`: ten a
second from six seconds after the damage, up to the full health. -/
theorem Kept.health_of_damage {k : HorseVitalityKernel} (h : k.Kept) {command : HorseDamageCommand}
    {application : HorseDamageApplication} {ticks : List SimulationTick} {tick : SimulationTick}
    (hdamage : (k.applyDamage command).1 = some application) (hsurvived : application.spooked = false)
    (hnew : ∀ t ∈ ticks ++ [tick], ∀ current ∈ k.currentTick, current < t)
    (hsorted : (ticks ++ [tick]).Pairwise (· < ·)) :
    (Runs.run HorseVitalityKernel.advanceTick (k.applyDamage command).2 (ticks ++ [tick])).health.toNat
      = min (application.healthAfter.toNat
          + 10 * (tick.toNat + 1 - (command.id.tick.toNat + 360)) / 60)
        k.horseClass.maxHealth.toNat := by
  have hkept := h.applyDamage command
  have hdamaged := damaged_of_some hdamage
  generalize (k.applyDamage command).2 = damaged at hkept hdamaged ⊢
  rw [← hdamaged.clock] at hnew
  have hcurrent := hnew tick (List.mem_append_right _ List.mem_cons_self)
  have hstate : damaged.state = .available := by
    rw [hdamaged.state, hsurvived]
    rfl
  rw [hkept.run_advanceTick hnew hsorted, advanceTick_snd hcurrent]
  refine (hkept.regenerated hcurrent).1.trans ?_
  unfold eligible healed
  have hdelay : HORSE_REGEN_DELAY_TICKS.toNat = 360 := rfl
  simp only [hdamaged.lastDamage, hstate, if_true, hdamaged.health.1, hdamaged.carry,
    hdamaged.horseClass, UInt64.toNat_satAdd, hdelay, UInt32.toNat_zero]
  have hboundary : max ((damaged.currentTick.map fun previous => previous.toNat + 1).getD 0)
      (min (command.id.tick.toNat + 360) (2 ^ 64 - 1))
      = min (command.id.tick.toNat + 360) (2 ^ 64 - 1) := by
    apply Nat.max_eq_right
    cases hclock : damaged.currentTick with
    | none => exact Nat.zero_le _
    | some current =>
      -- the damage is dated with the clock, so the boundary lies after the clock
      have hdated := hdamaged.dated current (hdamaged.clock.symm.trans hclock)
      have hlt := UInt64.lt_iff_toNat_lt.mp (hcurrent current hclock)
      have htick := tick.toNat_lt
      rw [hdated, Option.map_some, Option.getD_some]
      omega
  rw [hboundary, Nat.zero_add, restored_of_saturated tick.toNat_lt]

/-- The answer of a call to a bolting horse: the exact tick of the despawn, once it has come. -/
theorem advanceTick_fst_of_bolting {k : HorseVitalityKernel} {tick started : SimulationTick}
    (hnew : ∀ current ∈ k.currentTick, current < tick) (hstate : k.state = .bolting)
    (hstarted : k.boltStartedTick = some started) :
    (started.toNat + 180 ≤ tick.toNat ∧ ∃ despawned, despawned.toNat = started.toNat + 180
        ∧ (k.advanceTick tick).1 = .ok (some despawned)
        ∧ (k.advanceTick tick).2.state = .despawned)
      ∨ (tick.toNat < started.toNat + 180 ∧ (k.advanceTick tick).1 = .ok none
        ∧ (k.advanceTick tick).2.state = .bolting) := by
  have hfresh := not_any_le hnew
  unfold HorseVitalityKernel.advanceTick
  rw [if_neg hfresh]
  dsimp only
  rw [if_neg (not_not.mpr hstate), hstarted]
  dsimp only
  have hbolt : HORSE_BOLT_TICKS.toNat = 180 := rfl
  have htick := tick.toNat_lt
  by_cases hover : (UInt64.checkedSub tick started).getD 0 ≥ HORSE_BOLT_TICKS
  · rw [if_pos hover]
    rw [ge_iff_le, UInt64.le_iff_toNat_le, UInt64.toNat_checkedSub_getD, hbolt] at hover
    refine Or.inl ⟨by omega, _, ?_, rfl, rfl⟩
    rw [UInt64.toNat_satAdd, hbolt]
    omega
  · rw [if_neg hover]
    rw [ge_iff_le, UInt64.le_iff_toNat_le, UInt64.toNat_checkedSub_getD, hbolt] at hover
    exact Or.inr ⟨by omega, rfl, hstate⟩

/-- A tick that is not stale succeeds: the bolt stays as it is, or it ends. -/
theorem advanceTick_ok {k : HorseVitalityKernel} {tick : SimulationTick}
    (hnew : ∀ current ∈ k.currentTick, current < tick)
    (hbolting : k.state = .bolting → ∃ started, k.boltStartedTick = some started) :
    ((k.advanceTick tick).1 = .ok none ∧ (k.advanceTick tick).2.state = k.state)
      ∨ ∃ started despawned, k.state = .bolting ∧ k.boltStartedTick = some started
        ∧ (k.advanceTick tick).1 = .ok (some despawned)
        ∧ (k.advanceTick tick).2.state = .despawned
        ∧ started ≤ despawned ∧ despawned ≤ tick := by
  by_cases hstate : k.state = .bolting
  · obtain ⟨started, hstarted⟩ := hbolting hstate
    rcases advanceTick_fst_of_bolting hnew hstate hstarted with ⟨hlate, despawned, hexact, hanswer,
      hgone⟩ | ⟨-, hanswer, hbolts⟩
    · refine Or.inr ⟨started, despawned, hstate, hstarted, hanswer, hgone, ?_, ?_⟩
      · rw [UInt64.le_iff_toNat_le]
        omega
      · rw [UInt64.le_iff_toNat_le]
        omega
    · exact Or.inl ⟨hanswer, hbolts.trans hstate.symm⟩
  · refine Or.inl ⟨?_, ?_⟩
    · unfold HorseVitalityKernel.advanceTick
      rw [if_neg (not_any_le hnew)]
      dsimp only
      rw [if_pos hstate]
    · rw [advanceTick_snd hnew]
      change k.boltedState tick = _
      unfold boltedState
      rw [if_neg fun hboth => hstate hboth.1]

end HorseVitalityKernel

end Spurfire
