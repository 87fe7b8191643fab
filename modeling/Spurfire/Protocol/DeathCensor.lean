import Spurfire.Protocol.DiveEdits

/-!
# How a death is classified

`observe_death_internal`, `land_dive` and `resolve_elapsed_death_windows` each classify the death of
a dive, in the order in which death, landing and remount are reported.

* `Classified`: the classification that the ticks of a row call for;
* `Ordered`: the invariant of a record, kept by every edit that comes in time;
* `InOrder`: the calls that report nothing late: no landing after a death before it, no death
  before a landing that is there, no remount up to a death that is there;
* **`death_classified_along`**: along such calls every row is classified by its ticks;
* `death_not_classified`: a rider who dies in the air and then falls to the ground.
-/

namespace Spurfire

open Std (ExtTreeMap)

namespace SaddleDiveKernel

/-! ## Classifications -/

/-- The row was closed by the end of the match, a reset, or the end of the observation. -/
def Ended (row : DiveInstrumentationRow) : Prop :=
  row.censorReason = some .matchEnded ∨ row.censorReason = some .reset
    ∨ row.censorReason = some .notObserved

def Classified (window : UInt64) (row : DiveInstrumentationRow) : Prop :=
  ∀ death, row.deathTick = some death → ¬Ended row →
    (row.censorReason = some .diedAirborne
      ↔ ∀ landing, row.landingTick = some landing → death < landing)
    ∧ (row.censorReason = some .diedBeforeRemount
      ↔ (∃ landing, row.landingTick = some landing ∧ landing ≤ death)
        ∧ ∀ remount, row.remountTick = some remount → death < remount)
    ∧ (row.censorReason = none
      ↔ (∃ landing, row.landingTick = some landing ∧ landing ≤ death)
        ∧ ∃ remount, row.remountTick = some remount ∧ remount ≤ death)
    ∧ (row.deathWithin3s = some true
      ↔ ∃ landing, row.landingTick = some landing ∧ landing ≤ death
        ∧ death.toNat ≤ landing.toNat + window.toNat)

/-- The ticks of a record in the order in which they were reported. -/
structure Ordered (window : UInt64) (now : Option SimulationTick)
    (row : DiveInstrumentationRow) : Prop where
  landed : ∀ landing, row.landingTick = some landing → ∃ tick, now = some tick ∧ landing ≤ tick
  unlanded : row.landingTick = none → row.remountTick = none ∧ row.deathWithin3s = none
  alive : row.deathTick = none → row.censorReason = none ∨ Ended row
  airborne : ∀ death, row.deathTick = some death → row.landingTick = none →
    row.censorReason = some .diedAirborne ∨ Ended row
  within : ∀ death landing, row.deathTick = some death → row.landingTick = some landing →
    landing ≤ death ∧ row.deathWithin3s = some (decide (death ≤ landing.satAdd window))
  grounded : ∀ death landing, row.deathTick = some death → row.landingTick = some landing →
    row.censorReason
      = (if row.remountTick.any (· ≤ death) then none else some .diedBeforeRemount) ∨ Ended row

variable {k k' : SaddleDiveKernel} {window : UInt64} {now : Option SimulationTick}
  {row row' : DiveInstrumentationRow} {record record' : DiveRecord} {id : DiveId}

theorem le_satAdd_iff (a b c : UInt64) : a ≤ b.satAdd c ↔ a.toNat ≤ b.toNat + c.toNat := by
  have ha := a.toNat_lt
  rw [UInt64.le_iff_toNat_le, UInt64.toNat_satAdd]
  omega

theorem Ordered.classified (h : Ordered window now row) : Classified window row := by
  intro death hdeath hended
  cases hlanding : row.landingTick with
  | none =>
    have hcensor := (h.airborne death hdeath hlanding).resolve_right hended
    have hwithin := (h.unlanded hlanding).2
    rw [hcensor, hwithin]
    exact ⟨⟨fun _ _ => nofun, fun _ => rfl⟩, ⟨nofun, fun ⟨⟨_, hnone, _⟩, _⟩ => nomatch hnone⟩,
      ⟨nofun, fun ⟨⟨_, hnone, _⟩, _⟩ => nomatch hnone⟩,
      ⟨nofun, fun ⟨_, hnone, _⟩ => nomatch hnone⟩⟩
  | some landing =>
    obtain ⟨hle, hwithin⟩ := h.within death landing hdeath hlanding
    have hcensor := (h.grounded death landing hdeath hlanding).resolve_right hended
    have hlanded : ∃ l, some landing = some l ∧ l ≤ death := ⟨landing, rfl, hle⟩
    have hnot : ¬∀ l, some landing = some l → death < l := fun hlate =>
      absurd (hlate landing rfl) (UInt64.not_lt.mpr hle)
    have hsafe : row.deathWithin3s = some true ↔ ∃ l, some landing = some l ∧ l ≤ death
        ∧ death.toNat ≤ l.toNat + window.toNat := by
      rw [hwithin]
      refine ⟨fun htrue => ⟨landing, rfl, hle, ?_⟩, ?_⟩
      · exact (le_satAdd_iff _ _ _).mp (of_decide_eq_true (Option.some.inj htrue))
      · rintro ⟨_, hl, -, hbound⟩
        cases hl
        rw [decide_eq_true ((le_satAdd_iff _ _ _).mpr hbound)]
    split_ifs at hcensor with hremount
    · obtain ⟨remount, hremount, hbefore⟩ := (Option.any_eq_true _ _).mp hremount
      have hbefore := of_decide_eq_true hbefore
      rw [hcensor]
      refine ⟨⟨nofun, fun hlate => absurd hlate hnot⟩, ⟨nofun, fun ⟨_, hlate⟩ => ?_⟩,
        ⟨fun _ => ⟨hlanded, remount, hremount, hbefore⟩, fun _ => rfl⟩, hsafe⟩
      exact absurd (hlate remount hremount) (UInt64.not_lt.mpr hbefore)
    · have hlate : ∀ remount, row.remountTick = some remount → death < remount := by
        intro remount hsome
        rw [hsome] at hremount
        exact UInt64.not_le.mp fun hle => hremount (decide_eq_true hle)
      rw [hcensor]
      refine ⟨⟨nofun, fun hlate => absurd hlate hnot⟩, ⟨fun _ => ⟨hlanded, hlate⟩, fun _ => rfl⟩,
        ⟨nofun, fun ⟨_, remount, hsome, hbefore⟩ => ?_⟩, hsafe⟩
      exact absurd (hlate remount hsome) (UInt64.not_lt.mpr hbefore)

/-! ## Edits in time -/

/-- The row carries the same ticks and the same classification. -/
structure SameTicks (row row' : DiveInstrumentationRow) : Prop where
  landing : row'.landingTick = row.landingTick
  remount : row'.remountTick = row.remountTick
  death : row'.deathTick = row.deathTick
  within : row'.deathWithin3s = row.deathWithin3s
  censor : row'.censorReason = row.censorReason

theorem Ordered.same (h : Ordered window now row) (hsame : SameTicks row row') :
    Ordered window now row' := by
  obtain ⟨hlanding, hremount, hdeath, hwithin, hcensor⟩ := hsame
  have hended : Ended row' ↔ Ended row := by
    unfold Ended
    rw [hcensor]
  refine ⟨?_, ?_, ?_, ?_, ?_, ?_⟩
  · rw [hlanding]
    exact h.landed
  · rw [hlanding, hremount, hwithin]
    exact h.unlanded
  · rw [hdeath, hcensor, hended]
    exact h.alive
  · rw [hdeath, hlanding, hcensor, hended]
    exact h.airborne
  · rw [hdeath, hlanding, hwithin]
    exact h.within
  · rw [hdeath, hlanding, hcensor, hended, hremount]
    exact h.grounded

theorem sameTicks_withHit (result : ShotResult) (row : DiveInstrumentationRow) :
    SameTicks row (withHit result row) := by
  unfold withHit
  by_cases hhit : result.outcome = .hit
  · rw [if_pos hhit]
    exact ⟨rfl, rfl, rfl, rfl, rfl⟩
  · rw [if_neg hhit]
    exact ⟨rfl, rfl, rfl, rfl, rfl⟩

theorem Ordered.died (h : Ordered window now row) {tick : SimulationTick}
    (hnone : row.deathTick = none)
    (htime : ∀ landing, row.landingTick = some landing → landing ≤ tick) :
    Ordered window now (withDeath window tick row) := by
  have halive := h.alive hnone
  unfold withDeath
  cases hlanding : row.landingTick with
  | none =>
    exact ⟨nofun, fun _ => h.unlanded hlanding, nofun, fun _ _ _ => .inl rfl, nofun, nofun⟩
  | some landing =>
    refine ⟨fun l hl => h.landed l (hlanding.trans hl), nofun, nofun, nofun, ?_, ?_⟩
    · rintro death _ hdeath hsome
      cases hdeath
      cases hsome
      exact ⟨htime landing hlanding, rfl⟩
    · rintro death _ hdeath -
      cases hdeath
      dsimp only
      cases hremount : row.remountTick with
      | none => exact .inl rfl
      | some remount =>
        rw [Option.all_some, Option.any_some]
        by_cases hbefore : remount ≤ tick
        · rw [if_pos (decide_eq_true hbefore),
            if_neg (by rw [decide_eq_true_eq]; exact UInt64.not_lt.mpr hbefore)]
          exact halive
        · rw [if_pos (decide_eq_true (UInt64.not_le.mp hbefore)),
            if_neg (by rwa [decide_eq_true_eq])]
          exact .inl rfl

/-- A window that runs out. -/
theorem Ordered.elapsed (h : Ordered window now row) (hnone : row.deathWithin3s = none)
    (hlanded : row.landingTick.isSome = true) :
    Ordered window now { row with deathWithin3s := some false } := by
  refine ⟨h.landed, fun hnot => ?_, h.alive, h.airborne, fun death landing hdeath hlanding => ?_,
    h.grounded⟩
  · change row.landingTick = none at hnot
    rw [hnot] at hlanded
    cases hlanded
  · have hwithin := (h.within death landing hdeath hlanding).2
    rw [hnone] at hwithin
    cases hwithin

theorem Ordered.censored (h : Ordered window now row) {reason : DiveCensorReason}
    (hreason : Ended { row with censorReason := some reason }) :
    Ordered window now { row with censorReason := some reason } :=
  ⟨h.landed, h.unlanded, fun _ => .inr hreason, fun _ _ _ => .inr hreason, h.within,
    fun _ _ _ _ => .inr hreason⟩

theorem Ordered.grounds {observation : RiderMotionObservation}
    (h : Ordered window (some observation.tick) row)
    (hnone : row.landingTick = none)
    (htime : ∀ death, row.deathTick = some death → observation.tick ≤ death)
    (launchTick : SimulationTick) (slope : UInt32) (bad : Bool) :
    Ordered window (some observation.tick)
      (withLanding window launchTick observation slope bad row) := by
  have halive := h.alive
  have hremount := (h.unlanded hnone).1
  have hnow : ∀ landing, some observation.tick = some landing →
      ∃ tick, some observation.tick = some tick ∧ landing ≤ tick := by
    rintro landing hlanding
    cases hlanding
    exact ⟨_, rfl, UInt64.le_refl _⟩
  unfold withLanding
  rw [hnone, Option.isNone_none, if_pos rfl]
  cases hdeath : row.deathTick with
  | none =>
    exact ⟨hnow, nofun, fun _ => halive hdeath, fun _ _ => nofun, nofun, nofun⟩
  | some death =>
    refine ⟨hnow, nofun, nofun, fun _ _ => nofun, ?_, ?_⟩
    · rintro _ _ hother hlanding
      cases hother
      cases hlanding
      exact ⟨htime death hdeath, rfl⟩
    · dsimp only
      rw [hremount]
      exact fun _ _ _ _ => .inl rfl

theorem Ordered.remounted (h : Ordered window now row) (hnone : row.remountTick = none)
    (hlanded : row.landingTick.isSome = true) {tick : SimulationTick}
    (htime : ∀ death, row.deathTick = some death → death < tick) (time : Option UInt64) :
    Ordered window now { row with remountTick := some tick, timeToRemountTicks := time } := by
  refine ⟨h.landed, fun hnot => ?_, h.alive, h.airborne, h.within,
    fun death landing hdeath hlanding => ?_⟩
  · change row.landingTick = none at hnot
    rw [hnot] at hlanded
    cases hlanded
  · have hbefore := h.grounded death landing hdeath hlanding
    rw [hnone] at hbefore
    have hlate : ¬(Option.any (fun remount => decide (remount ≤ death)) (some tick)) = true := by
      rw [Option.any_some, decide_eq_true_eq]
      exact UInt64.not_le.mpr (htime death hdeath)
    dsimp only
    rw [if_neg hlate]
    exact hbefore

theorem Ordered.later (h : Ordered window now row) {now' : Option SimulationTick}
    (hlater : ∀ tick, now = some tick → ∃ tick', now' = some tick' ∧ tick ≤ tick') :
    Ordered window now' row := by
  refine ⟨fun landing hlanding => ?_, h.unlanded, h.alive, h.airborne, h.within, h.grounded⟩
  obtain ⟨tick, htick, hle⟩ := h.landed landing hlanding
  obtain ⟨tick', htick', hle'⟩ := hlater tick htick
  exact ⟨tick', htick', UInt64.le_trans hle hle'⟩

def InTime (now : Option SimulationTick) : RowEdit → DiveRecord → Prop
  | .died tick, record => ∀ landing, record.row.landingTick = some landing → landing ≤ tick
  | .landed _ observation _ _, record => now = some observation.tick
    ∧ ∀ death, record.row.deathTick = some death → observation.tick ≤ death
  | .remounted tick, record => record.row.landingTick.isSome = true
    ∧ ∀ death, record.row.deathTick = some death → death < tick
  | .censored reason, _ => reason = .matchEnded ∨ reason = .reset ∨ reason = .notObserved
  | _, _ => True

/-- **Edits in time keep the order.** -/
theorem Ordered.edit (h : Ordered window now record.row) {edit : RowEdit}
    (hguard : edit.Guard window record) (htime : InTime now edit record) :
    Ordered window now (edit.apply window record).row := by
  cases edit with
  | finalized => exact h
  | elapsed => exact h.elapsed hguard.2.1 hguard.2.2
  | died tick => exact h.died hguard.2.1 htime
  | censored reason =>
    refine h.censored ?_
    rcases htime with rfl | rfl | rfl
    · exact .inl rfl
    · exact .inr (.inl rfl)
    · exact .inr (.inr rfl)
  | damaged observation => exact h.same ⟨rfl, rfl, rfl, rfl, rfl⟩
  | landed launchTick observation slope bad =>
    obtain ⟨rfl, htime⟩ := htime
    exact h.grounds hguard htime launchTick slope bad
  | remounted tick =>
    obtain ⟨hopen, hnone⟩ := hguard
    have hremounts : (!record.finalized && record.row.remountTick.isNone) = true := by
      rw [hopen, hnone]
      rfl
    change Ordered window now (withRemount tick record).row
    unfold withRemount
    rw [if_pos hremounts]
    exact h.remounted hnone htime.1 htime.2 _
  | attempted tick => exact h.same ⟨rfl, rfl, rfl, rfl, rfl⟩
  | accepted shot => exact h.same ⟨rfl, rfl, rfl, rfl, rfl⟩
  | resolved shot result => exact h.same (sameTicks_withHit result record.row)

/-! ## Calls in order -/

/-- No open dive has landed after a death that is reported for it. -/
def DiesInOrder (k : SaddleDiveKernel) (tick : SimulationTick) : Prop :=
  ∀ (id : DiveId) (record : DiveRecord), k.rows[id]? = some record → record.finalized = false →
    record.row.deathTick = none → record.row.launchTick ≤ tick →
      ∀ landing ∈ record.row.landingTick, landing ≤ tick

/-- Nothing is reported late: no remount up to a death that is there, no landing after it, and no
death before a landing that is there. -/
def InOrder (k : SaddleDiveKernel) : SaddleDiveCall → Prop
  | .beginTick input => ∀ (id : DiveId) (record : DiveRecord), k.rows[id]? = some record →
    k.touched (.beginTick input) = some id → record.finalized = false →
      record.row.remountTick = none → ∀ death ∈ record.row.deathTick, death < input.tick
  | .resolveMotion observation => ∀ (id : DiveId) (record : DiveRecord),
    k.rows[id]? = some record → k.touched (.resolveMotion observation) = some id →
      record.row.landingTick = none → ∀ death ∈ record.row.deathTick, observation.tick ≤ death
  | .applyExternalDamage observation => k.Kills observation → k.DiesInOrder observation.id.tick
  | .observeDeath tick => k.DiesInOrder tick
  | _ => True

/-- A condition on a tick that may be missing is one on the tick, not on all numbers. -/
instance decidableForallTick (p : SimulationTick → Prop) [DecidablePred p] :
    ∀ tick? : Option SimulationTick, Decidable (∀ tick ∈ tick?, p tick)
  | none => .isTrue nofun
  | some tick =>
    decidable_of_iff (p tick) ⟨fun h _ heq => Option.some.inj heq ▸ h, fun h => h tick rfl⟩

/-- What is asked of every record can be checked record by record. -/
instance decidableForallRows (k : SaddleDiveKernel) (p : DiveId → DiveRecord → Prop)
    [∀ id record, Decidable (p id record)] :
    Decidable (∀ (id : DiveId) (record : DiveRecord), k.rows[id]? = some record → p id record) :=
  decidable_of_iff (∀ entry ∈ k.rows.toList, p entry.1 entry.2)
    ⟨fun h id record hrecord => h (id, record) (ExtTreeMap.mem_toList_iff_getElem?_eq_some.mpr
      hrecord), fun h entry hentry => h entry.1 entry.2
      (ExtTreeMap.mem_toList_iff_getElem?_eq_some.mp hentry)⟩

instance decidableKills (k : SaddleDiveKernel) (observation : DamageObservation) :
    Decidable (k.Kills observation) :=
  inferInstanceAs (Decidable (_ ∧ _ ∧ _))

instance decidableDiesInOrder (k : SaddleDiveKernel) (tick : SimulationTick) :
    Decidable (k.DiesInOrder tick) :=
  decidableForallRows k fun _ record => record.finalized = false →
    record.row.deathTick = none → record.row.launchTick ≤ tick →
      ∀ landing ∈ record.row.landingTick, landing ≤ tick

instance decidableInOrder (k : SaddleDiveKernel) : ∀ call, Decidable (k.InOrder call)
  | .beginTick input => decidableForallRows k fun id record =>
    k.touched (.beginTick input) = some id → record.finalized = false →
      record.row.remountTick = none → ∀ death ∈ record.row.deathTick, death < input.tick
  | .resolveMotion observation => decidableForallRows k fun id record =>
    k.touched (.resolveMotion observation) = some id → record.row.landingTick = none →
      ∀ death ∈ record.row.deathTick, observation.tick ≤ death
  | .applyExternalDamage observation =>
    inferInstanceAs (Decidable (k.Kills observation → k.DiesInOrder observation.id.tick))
  | .observeDeath tick => inferInstanceAs (Decidable (k.DiesInOrder tick))
  | .setAuthorityEpoch _ | .settleObservationsThrough _ | .recordShotAttempt _
  | .recordAcceptedShot _ | .recordAuthorityResult _ | .endMatch _ | .censorNotObserved
  | .reset _ => .isTrue trivial

/-- The dive of a rider on the ground has landed. -/
def Grounded (k : SaddleDiveKernel) : Prop :=
  k.state ≠ .mounted → k.state ≠ .saddleDiveAirborne → ∀ (id : DiveId) (record : DiveRecord),
    k.stateDiveId = some id → k.rows[id]? = some record → record.row.landingTick.isSome = true

/-- Every record is in order. -/
structure Sorted (k : SaddleDiveKernel) : Prop where
  aligned : k.Aligned
  grounded : k.Grounded
  ordered : ∀ (id : DiveId) (record : DiveRecord), k.rows[id]? = some record →
    Ordered k.windowTicks k.currentTick record.row

/-! ### Where the rider is -/

theorem landingTick_withDeath (window : UInt64) (tick : SimulationTick)
    (row : DiveInstrumentationRow) : (withDeath window tick row).landingTick = row.landingTick := by
  unfold withDeath
  cases hlanding : row.landingTick with
  | none => rfl
  | some landing => rfl

theorem deathTick_withDeath (window : UInt64) (tick : SimulationTick)
    (row : DiveInstrumentationRow) : (withDeath window tick row).deathTick = some tick := by
  unfold withDeath
  cases row.landingTick with
  | none => rfl
  | some landing => rfl

theorem landingTick_withLanding (window : UInt64) (launchTick : SimulationTick)
    (observation : RiderMotionObservation) (slope : UInt32) (bad : Bool)
    (row : DiveInstrumentationRow) :
    (withLanding window launchTick observation slope bad row).landingTick.isSome = true := by
  unfold withLanding
  by_cases hnone : row.landingTick.isNone = true
  · rw [if_pos hnone]
    dsimp only
    cases row.deathTick with
    | none => rfl
    | some death => rfl
  · rw [if_neg hnone]
    exact Option.isSome_iff_ne_none.mpr (by simpa using hnone)

/-- A landing stays. -/
theorem Edits.landing {A : RowEdit → Prop} (h : Edits window A record record')
    {landing : SimulationTick} (hlanding : record.row.landingTick = some landing) :
    record'.row.landingTick = some landing := by
  refine h.keeps (I := fun record => record.row.landingTick = some landing)
    (fun edit record _ hguard hlanding => ?_) hlanding
  cases edit with
  | died tick =>
    exact (landingTick_withDeath window tick record.row).trans hlanding
  | landed launchTick observation slope bad =>
    rw [show record.row.landingTick = none from hguard] at hlanding
    cases hlanding
  | remounted tick =>
    change (withRemount tick record).row.landingTick = some landing
    unfold withRemount
    split_ifs
    · exact hlanding
    · exact hlanding
  | resolved shot result =>
    exact (sameTicks_withHit result record.row).landing.trans hlanding
  | finalized => exact hlanding
  | elapsed => exact hlanding
  | censored reason => exact hlanding
  | damaged observation => exact hlanding
  | attempted tick => exact hlanding
  | accepted shot => exact hlanding

theorem Evolves.landing {A : DiveId → RowEdit → Prop} (h : Evolves window A k k')
    (hlanded : ∀ record, k.rows[id]? = some record → record.row.landingTick.isSome = true) :
    ∀ record, k'.rows[id]? = some record → record.row.landingTick.isSome = true := by
  intro record' hrecord'
  obtain ⟨-, hnone⟩ | ⟨record, other, hrecord, hother, hedits⟩ := h id
  · rw [hrecord'] at hnone
    cases hnone
  · cases hrecord'.symm.trans hother
    obtain ⟨landing, hlanding⟩ := Option.isSome_iff_exists.mp (hlanded record hrecord)
    rw [hedits.landing hlanding]
    rfl

theorem Grounded.same {A : DiveId → RowEdit → Prop} (h : k.Grounded) (hstate : k'.state = k.state)
    (hid : k'.stateDiveId = k.stateDiveId) (hrows : Evolves window A k k') : k'.Grounded := by
  intro hmounted hairborne id record hdive hrecord
  rw [hstate] at hmounted hairborne
  rw [hid] at hdive
  exact hrows.landing (fun record => h hmounted hairborne id record hdive) record hrecord

theorem Grounded.of_drive {A : DiveId → RowEdit → Prop} (h : k.Grounded)
    (hdrive : k'.drive = k.drive) (hrows : Evolves window A k k') : k'.Grounded :=
  h.same (congrArg (·.state) hdrive) (congrArg (·.stateDiveId) hdrive) hrows

theorem state_ne {state other : SaddleDiveState} (hstate : k.state = state) (h : state ≠ other) :
    k.state ≠ other := hstate ▸ h

/-- The timers of a landing leave the rider on the ground, with the same dive. -/
theorem grounded_recoveryBoundaries (tick : SimulationTick) (fuel : ℕ)
    {t : SaddleDiveKernel × SaddleDiveEffects} (haligned : t.1.Aligned)
    (h : t.1.Grounded) : (recoveryBoundaries tick fuel t).1.Grounded := by
  induction fuel generalizing t with
  | zero => exact h
  | succ fuel ih =>
    obtain ⟨k, e⟩ := t
    unfold recoveryBoundaries
    cases hlanding : k.landing with
    | none => exact h
    | some landing =>
      dsimp only at haligned h ⊢
      unfold Aligned at haligned
      cases hstate : k.state with
      | landingProne =>
        rw [hstate] at haligned
        obtain ⟨hairborne, own, hown, hid⟩ := haligned
        dsimp only
        generalize UInt64.satAdd landing.landingTick _ = boundary
        split_ifs
        · exact h
        · refine ih ⟨hairborne, own, hlanding.symm.trans hown, hid⟩ fun _ _ => h ?_ ?_
          · exact state_ne hstate (by decide)
          · exact state_ne hstate (by decide)
      | landingRecovery =>
        rw [hstate] at haligned
        obtain ⟨hairborne, own, hown, hid⟩ := haligned
        cases hlanding.symm.trans hown
        dsimp only
        split_ifs
        · exact h
        · refine ih trivial fun _ _ id record hdive => ?_
          cases hdive
          refine h ?_ ?_ landing.diveId record hid
          · exact state_ne hstate (by decide)
          · exact state_ne hstate (by decide)
      | mounted => exact h
      | saddleDiveAirborne => exact h
      | onFootReady => exact h

theorem grounded_enterTick (haligned : k.Aligned) (h : k.Grounded) (input : SaddleDiveTickInput) :
    (k.enterTick input).1.Grounded :=
  grounded_recoveryBoundaries input.tick 3 (t := ({ k with
    currentTick := some input.tick
    motionResolved := false
    riderPosition := input.riderPosition }, SaddleDiveEffects.empty)) haligned h

theorem landed_of_touched (haligned : k.Aligned) (h : k.Grounded) {input : SaddleDiveTickInput}
    (htouched : k.touched (.beginTick input) = some id) (hrecord : k.rows[id]? = some record) :
    record.row.landingTick.isSome = true := by
  unfold touched at htouched
  dsimp only at htouched
  split_ifs at htouched with hmounts
  obtain ⟨-, -, hfoot, -⟩ := hmounts
  refine grounded_enterTick haligned h input ?_ ?_ id record htouched ?_
  · exact state_ne hfoot (by decide)
  · exact state_ne hfoot (by decide)
  · rw [show (k.enterTick input).1.rows = k.rows from rows_recoveryBoundaries _ _ _]
    exact hrecord

theorem landing_touchDown {airborne : AirborneState} {observation : RiderMotionObservation}
    {slope : UInt32}
    (hrecord : (k.touchDown airborne observation slope).rows[airborne.diveId]? = some record) :
    record.row.landingTick.isSome = true := by
  unfold touchDown modifyRow at hrecord
  rw [getElem?_modifyRecord, if_pos rfl] at hrecord
  obtain ⟨before, -, rfl⟩ := Option.map_eq_some_iff.mp hrecord
  exact landingTick_withLanding _ _ _ _ _ before.row

/-- A tick leaves the rider in the saddle, in the air, or on the ground as before. -/
theorem grounded_beginTick (haligned : k.Aligned) (h : k.Grounded) (input : SaddleDiveTickInput) :
    (k.step (.beginTick input)).2.Grounded := by
  have hentered := grounded_enterTick haligned h input
  unfold step beginTick
  dsimp only
  cases k.validateIdentity input.actor input.authorityEpoch with
  | error error => exact h
  | ok _ =>
    dsimp only
    by_cases hreplay : k.currentTick.any (input.tick ≤ ·) = true
    · rw [if_pos hreplay]
      exact h
    · rw [if_neg hreplay]
      generalize k.enterTick input = entered at hentered ⊢
      unfold interact
      dsimp only
      cases hstate : entered.1.state with
      | mounted =>
        dsimp only
        split_ifs
        · unfold launchDive
          dsimp only
          cases entered.1.nextDiveId with
          | none => exact fun hmounted _ => absurd rfl hmounted
          | some diveId => exact fun _ hairborne => absurd rfl hairborne
        · exact fun _ _ _ _ => nofun
        · exact fun hmounted _ => absurd rfl hmounted
        · exact fun hmounted _ => absurd rfl hmounted
      | onFootReady =>
        dsimp only
        split_ifs
        · unfold completeRemount
          dsimp only
          have hmounted : ∀ (m : SaddleDiveKernel) (id : DiveId) (e : SaddleDiveEffects),
              m.state = .mounted → (m.maybeFinalize id e).1.state = .mounted := fun m id e hm =>
            (congrArg (·.state) (sameDrive_maybeFinalize m id e).drive).trans hm
          cases entered.1.stateDiveId with
          | none => exact fun hstate _ => absurd rfl hstate
          | some diveId => exact fun hstate _ => absurd (hmounted _ diveId _ rfl) hstate
        · exact fun _ _ => hentered (state_ne hstate (by decide)) (state_ne hstate (by decide))
      | saddleDiveAirborne => exact fun _ hairborne => absurd rfl hairborne
      | landingProne =>
        exact fun _ _ => hentered (state_ne hstate (by decide)) (state_ne hstate (by decide))
      | landingRecovery =>
        exact fun _ _ => hentered (state_ne hstate (by decide)) (state_ne hstate (by decide))

/-- A landing grounds the dive that it lands. -/
theorem grounded_resolveMotion (h : k.Grounded) (observation : RiderMotionObservation) :
    (k.step (.resolveMotion observation)).2.Grounded := by
  unfold step resolveMotion
  dsimp only
  by_cases htick : k.currentTick ≠ some observation.tick
  · rw [if_pos htick]
    exact h
  · rw [if_neg htick]
    by_cases hresolved : k.motionResolved = true
    · rw [if_pos hresolved]
      exact h
    · rw [if_neg hresolved]
      cases hairborne : k.airborne with
      | none => exact h
      | some airborne =>
        dsimp only
        by_cases hstate : k.state ≠ .saddleDiveAirborne
        · rw [if_pos hstate]
          exact h
        · rw [if_neg hstate]
          cases contactSlope observation with
          | none => exact h
          | some slope =>
            dsimp only
            generalize hnext : ({ k with
              motionResolved := true
              airborne := some airborne
              riderPosition := observation.riderPosition } : SaddleDiveKernel) = next
            have hdrive : (next.landDive airborne observation slope SaddleDiveEffects.empty).1.drive
                = (next.touchDown airborne observation slope).drive :=
              drive_landDive SaddleDiveEffects.empty
            intro _ _ id record hid hrecord
            cases (congrArg (·.stateDiveId) hdrive).symm.trans hid
            refine (evolves_landed (k := next) (A := fun _ _ => True) (fun _ => trivial)
              (fun _ => trivial) (fun _ _ _ _ => trivial) SaddleDiveEffects.empty).landing
              (fun landed hlanded => ?_) record hrecord
            exact landing_touchDown hlanded

/-- **The dive of a rider on the ground has landed.** -/
theorem grounded_step (haligned : k.Aligned) (h : k.Grounded) (call : SaddleDiveCall) :
    (k.step call).2.Grounded := by
  by_cases htick : ∃ input, call = .beginTick input
  · obtain ⟨input, rfl⟩ := htick
    exact grounded_beginTick haligned h input
  have hevolves := (evolves_step k call).resolve_right fun ⟨input, _, _, heq, _⟩ =>
    htick ⟨input, heq⟩
  by_cases hmotion : ∃ observation, call = .resolveMotion observation
  · obtain ⟨observation, rfl⟩ := hmotion
    exact grounded_resolveMotion h observation
  by_cases hreset : ∃ tick, call = .reset tick
  · obtain ⟨tick, rfl⟩ := hreset
    exact fun hmounted _ => absurd rfl hmounted
  by_cases hepoch : ∃ epoch, call = .setAuthorityEpoch epoch
  · obtain ⟨epoch, rfl⟩ := hepoch
    refine h.same ?_ ?_ hevolves
    · change (k.setAuthorityEpoch epoch).2.state = k.state
      unfold setAuthorityEpoch
      split_ifs
      · rfl
      · rfl
    · change (k.setAuthorityEpoch epoch).2.stateDiveId = k.stateDiveId
      unfold setAuthorityEpoch
      split_ifs
      · rfl
      · rfl
  exact h.of_drive (sameDrive_report k (fun epoch heq => hepoch ⟨epoch, heq⟩)
    (fun input heq => htick ⟨input, heq⟩) (fun observation heq => hmotion ⟨observation, heq⟩)
    fun tick heq => hreset ⟨tick, heq⟩).drive hevolves

/-! ### Runs -/

/-- What a record brings along for the edits that a call may make. -/
def Ready (k : SaddleDiveKernel) (id : DiveId) (record : DiveRecord) : SaddleDiveCall → Prop
  | .beginTick input => k.touched (.beginTick input) = some id →
    record.row.landingTick.isSome = true ∧ (record.finalized = false →
      record.row.remountTick = none → ∀ death, record.row.deathTick = some death →
        death < input.tick)
  | .resolveMotion observation => k.touched (.resolveMotion observation) = some id →
    record.row.landingTick = none →
      ∀ death, record.row.deathTick = some death → observation.tick ≤ death
  | .applyExternalDamage observation => k.Kills observation → record.finalized = false →
    record.row.deathTick = none → record.row.launchTick ≤ observation.id.tick →
      ∀ landing, record.row.landingTick = some landing → landing ≤ observation.id.tick
  | .observeDeath tick => record.finalized = false →
    record.row.deathTick = none → record.row.launchTick ≤ tick →
      ∀ landing, record.row.landingTick = some landing → landing ≤ tick
  | _ => True

theorem Sorted.ready (h : k.Sorted) {call : SaddleDiveCall} (hcall : k.InOrder call)
    (hrecord : k.rows[id]? = some record) : k.Ready id record call := by
  cases call with
  | beginTick input =>
    exact fun htouched => ⟨landed_of_touched h.aligned h.grounded htouched hrecord,
      hcall id record hrecord htouched⟩
  | resolveMotion observation => exact hcall id record hrecord
  | applyExternalDamage observation => exact fun hkills => hcall hkills id record hrecord
  | observeDeath tick => exact hcall id record hrecord
  | _ => trivial

/-- An edit that a call may make comes in time. -/
theorem inTime_of_allowed {call : SaddleDiveCall} {edit : RowEdit}
    (hkind : k.allowed call id edit) (hguard : edit.Guard k.windowTicks record)
    (hready : k.Ready id record call) (hordered : Ordered k.windowTicks k.currentTick record.row) :
    InTime k.currentTick edit record := by
  cases call with
  | setAuthorityEpoch epoch => exact hkind.elim
  | beginTick input =>
    obtain rfl | ⟨htouched, rfl⟩ := hkind
    · trivial
    · exact ⟨(hready htouched).1, (hready htouched).2 hguard.1 hguard.2⟩
  | settleObservationsThrough tick =>
    obtain rfl | rfl := hkind
    · trivial
    · trivial
  | resolveMotion observation =>
    obtain ⟨hcurrent, rfl | rfl | ⟨damage, amount, -, rfl⟩ | ⟨airborne, slope, htouched, rfl⟩⟩ :=
      hkind
    · trivial
    · intro landing hlanding
      obtain ⟨tick, htick, hle⟩ := hordered.landed landing hlanding
      cases hcurrent.symm.trans htick
      exact hle
    · trivial
    · exact ⟨hcurrent, hready htouched hguard⟩
  | recordShotAttempt tick =>
    cases hkind
    trivial
  | recordAcceptedShot shot =>
    cases hkind.2
    trivial
  | recordAuthorityResult attribution =>
    obtain rfl | ⟨shot, -, -, rfl⟩ := hkind
    · trivial
    · trivial
  | applyExternalDamage observation =>
    obtain rfl | rfl | ⟨hkills, rfl⟩ := hkind
    · trivial
    · trivial
    · exact hready hkills hguard.1 hguard.2.1 hguard.2.2
  | observeDeath tick =>
    obtain rfl | rfl := hkind
    · trivial
    · exact hready hguard.1 hguard.2.1 hguard.2.2
  | endMatch tick =>
    obtain rfl | rfl := hkind
    · trivial
    · exact .inl rfl
  | censorNotObserved =>
    obtain rfl | rfl := hkind
    · trivial
    · exact .inr (.inr rfl)
  | reset tick =>
    obtain rfl | rfl := hkind
    · trivial
    · exact .inr (.inl rfl)

/-- What a record brings along for a call stays with it until the edit that needs it. -/
theorem Ready.edit {call : SaddleDiveCall} {edit : RowEdit} (hkind : k.allowed call id edit)
    (hguard : edit.Guard k.windowTicks record) (hready : k.Ready id record call) :
    k.Ready id (edit.apply k.windowTicks record) call := by
  have hdead : ∀ tick, (RowEdit.apply k.windowTicks (.died tick) record).row.deathTick ≠ none :=
    fun tick hnone => Option.some_ne_none tick
      ((deathTick_withDeath k.windowTicks tick record.row).symm.trans hnone)
  cases call with
  | beginTick input =>
    obtain rfl | ⟨-, rfl⟩ := hkind
    · exact fun htouched => ⟨(hready htouched).1, nofun⟩
    · intro htouched
      change (withRemount input.tick record).row.landingTick.isSome = true
        ∧ ((withRemount input.tick record).finalized = false →
          (withRemount input.tick record).row.remountTick = none → _)
      unfold withRemount
      rw [if_pos (by rw [hguard.1, hguard.2]; rfl)]
      exact ⟨(hready htouched).1, fun _ => nofun⟩
  | resolveMotion observation =>
    obtain ⟨-, rfl | rfl | ⟨damage, amount, -, rfl⟩ | ⟨airborne, slope, -, rfl⟩⟩ := hkind
    · exact hready
    · intro _ _ death hdeath
      cases (deathTick_withDeath k.windowTicks observation.tick record.row).symm.trans hdeath
      exact UInt64.le_refl observation.tick
    · exact hready
    · intro _ hnone
      have hsome := landingTick_withLanding k.windowTicks airborne.launchTick observation slope
        (decide (slope > BAD_LANDING_THRESHOLD_MILLIDEGREES)) record.row
      rw [Option.isSome_iff_ne_none] at hsome
      exact absurd hnone hsome
  | applyExternalDamage observation =>
    obtain rfl | rfl | ⟨-, rfl⟩ := hkind
    · exact fun _ => nofun
    · exact hready
    · exact fun _ _ hnone => absurd hnone (hdead observation.id.tick)
  | observeDeath tick =>
    obtain rfl | rfl := hkind
    · exact nofun
    · exact fun _ hnone => absurd hnone (hdead tick)
  | _ => trivial

/-- A dive that has just been launched. -/
theorem Ordered.fresh (h : Fresh record) : Ordered window now record.row := by
  refine ⟨fun landing hlanding => ?_, fun _ => ⟨h.remount, h.within⟩, fun _ => .inl h.censor,
    fun death hdeath => ?_, fun death _ hdeath => ?_, fun death _ hdeath => ?_⟩
  · rw [h.landing] at hlanding
    cases hlanding
  all_goals
    rw [h.death] at hdeath
    cases hdeath

/-- **Calls in order keep the records in order.** -/
theorem sorted_step (k : SaddleDiveKernel) (call : SaddleDiveCall) (hcall : k.InOrder call)
    (h : k.Sorted) : (k.step call).2.Sorted := by
  have hadvances := advances_step k call
  have hwindow : (k.step call).2.windowTicks = k.windowTicks := by
    unfold windowTicks
    rw [hadvances.rate]
  refine ⟨aligned_step k call h.aligned, grounded_step h.aligned h.grounded call,
    fun id record' hrecord' => ?_⟩
  rw [hwindow]
  obtain hevolves | ⟨input, new, record, rfl, hlaunch⟩ := evolves_step k call
  · obtain ⟨-, hnone⟩ | ⟨record, other, hrecord, hother, hedits⟩ := hevolves id
    · rw [hrecord'] at hnone
      cases hnone
    · cases hrecord'.symm.trans hother
      refine Ordered.later ?_ hadvances.later
      have hkept := hedits.keeps (I := fun record =>
        Ordered k.windowTicks k.currentTick record.row ∧ k.Ready id record call)
        (fun edit record hkind hguard hI =>
          ⟨hI.1.edit hguard (inTime_of_allowed hkind hguard hI.2 hI.1),
            hI.2.edit hkind hguard⟩)
        ⟨h.ordered id record hrecord, h.ready hcall hrecord⟩
      exact hkept.1
  · rw [hlaunch.rows, ExtTreeMap.getElem?_insert] at hrecord'
    split_ifs at hrecord' with hsame
    · cases hrecord'
      exact .fresh hlaunch.fresh
    · exact (h.ordered id record' hrecord').later hadvances.later

theorem sorted_new {tickRate : UInt32} {actor : PlayerId} {authorityEpoch : UInt64}
    (h : new tickRate actor authorityEpoch = .ok k) : k.Sorted ∧ k.tickRate = tickRate := by
  refine ⟨⟨aligned_new h, ?_, ?_⟩, ?_⟩
  all_goals
    unfold new at h
    split_ifs at h
    cases h
  · exact fun hmounted _ => absurd rfl hmounted
  · intro id record hrecord
    rw [ExtTreeMap.getElem?_empty] at hrecord
    cases hrecord
  · rfl

/-- **How a death is classified.**  In a run that reports nothing late, every row is classified by
its ticks. -/
theorem death_classified_along (tickRate : UInt32) (actor : PlayerId) (authorityEpoch : UInt64)
    (kernel : SaddleDiveKernel) (hnew : new tickRate actor authorityEpoch = .ok kernel)
    (calls : List SaddleDiveCall) (hcalls : Runs.Along step InOrder kernel calls) (id : DiveId)
    (record : DiveRecord) (hrecord : (Runs.run step kernel calls).rows[id]? = some record) :
    Classified (durationTicksCeil tickRate 3000) record.row := by
  obtain ⟨hsorted, hrate⟩ := sorted_new hnew
  have hend : (Runs.run step kernel calls).Sorted
      ∧ (Runs.run step kernel calls).tickRate = tickRate :=
    Runs.run_invariant_along (C := InOrder) (P := fun k => k.Sorted ∧ k.tickRate = tickRate)
      (fun k call hcall h => ⟨sorted_step k call hcall h.1, (advances_step k call).rate.trans h.2⟩)
      ⟨hsorted, hrate⟩ hcalls
  have hordered := hend.1.ordered id record hrecord
  unfold windowTicks at hordered
  rw [hend.2] at hordered
  exact hordered.classified

/-- A death right after the landing. -/
theorem death_classified_grounded :
    ∃ kernel, new 60 (.ofTail 1) 7 = .ok kernel
      ∧ ∃ (id : DiveId) (record : DiveRecord),
        (Runs.run step kernel [.beginTick (divingInput 1), .beginTick (divingInput 2),
          .resolveMotion (fallingObservation 2), .observeDeath 3]).rows[id]? = some record
        ∧ record.row.deathTick = some 3 ∧ Classified (durationTicksCeil 60 3000) record.row := by
  have hdies : (new 60 (.ofTail 1) 7).toOption.any (fun kernel =>
      let calls := [.beginTick (divingInput 1), .beginTick (divingInput 2),
        .resolveMotion (fallingObservation 2), .observeDeath 3]
      decide (Runs.Along step InOrder kernel calls
        ∧ ∃ entry ∈ (Runs.run step kernel calls).rows.toList,
          entry.2.row.deathTick = some 3)) = true := by decide +kernel
  obtain ⟨kernel, hnew, hcalls, ⟨id, record⟩, hentry, hdeath⟩ := Fallible.exists_ok_of_any hdies
  have hrecord := ExtTreeMap.mem_toList_iff_getElem?_eq_some.mp hentry
  exact ⟨kernel, hnew, id, record, hrecord, hdeath,
    death_classified_along 60 _ 7 kernel hnew _ hcalls id record hrecord⟩

/-- **A rider who dies in the air and falls to the ground** is recorded as one who died after his
landing, within three seconds of it. -/
theorem death_not_classified :
    ∃ kernel, new 60 (.ofTail 1) 7 = .ok kernel
      ∧ ∃ (id : DiveId) (record : DiveRecord),
        (Runs.run step kernel [.beginTick (divingInput 1), .observeDeath 1,
          .beginTick (divingInput 2), .resolveMotion (fallingObservation 2)]).rows[id]?
            = some record
        ∧ ¬Classified (durationTicksCeil 60 3000) record.row := by
  have hfalls : (new 60 (.ofTail 1) 7).toOption.any (fun kernel =>
      decide (∃ entry ∈ (Runs.run step kernel [.beginTick (divingInput 1), .observeDeath 1,
          .beginTick (divingInput 2), .resolveMotion (fallingObservation 2)]).rows.toList,
        entry.2.row.deathTick = some 1 ∧ entry.2.row.landingTick = some 2
          ∧ entry.2.row.censorReason = some .diedBeforeRemount)) = true := by decide +kernel
  obtain ⟨kernel, hnew, ⟨id, record⟩, hentry, hdeath, hlanding, hcensor⟩ :=
    Fallible.exists_ok_of_any hfalls
  refine ⟨kernel, hnew, id, record, ExtTreeMap.mem_toList_iff_getElem?_eq_some.mp hentry,
    fun hclassified => ?_⟩
  have hended : ¬Ended record.row := by
    unfold Ended
    rw [hcensor]
    decide
  obtain ⟨⟨landing, hsome, hle⟩, -⟩ := ((hclassified 1 hdeath hended).2.1).mp hcensor
  cases hlanding.symm.trans hsome
  exact absurd hle (by decide)

end SaddleDiveKernel

end Spurfire
