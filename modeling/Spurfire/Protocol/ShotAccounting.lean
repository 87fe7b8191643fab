import Spurfire.Protocol.LandingDamage

/-!
# Shots of a dive, counted once

The ledger attributes the result of a shot once, and the rows of the kernel count accepted shots
and attributed results under their ticks.

* `Counter`, with `contributes`: the counters of a row and the calls that change them;
* `ShotAccounting`: the ledger, the kernel, and the attributions that have not been passed on;
* **`shots_counted_once`**: over every order of reports each shot counts once, no two events have
  the same identity, and the counters of a row are in order;
* `fired_in_two_rows`: one tick reported as a shot of two dives counts in both rows.
-/

namespace Spurfire

open Std (ExtTreeMap)

namespace SaddleDiveKernel

variable {k k' : SaddleDiveKernel} {window : UInt64} {record record' : DiveRecord}
  {id id' : DiveId} {call : SaddleDiveCall} {tick : SimulationTick}

/-! ## Counters -/

/-- The counters of a row that shots feed. -/
inductive Counter
  | fired
  | hit
  | headshots
  | reversalHits
deriving DecidableEq

def Counter.ofRow (row : DiveInstrumentationRow) : Counter → UInt16
  | fired => row.shotsFired
  | hit => row.shotsHit
  | headshots => row.headshots
  | reversalHits => row.reversalHits

/-- The counter of a dive; zero before the launch. -/
def count (k : SaddleDiveKernel) (c : Counter) (id : DiveId) : UInt16 :=
  (k.rows[id]?.map fun record => c.ofRow record.row).getD 0

def RowEdit.Feeds : RowEdit → Counter → Prop
  | .accepted _, .fired => True
  | .resolved _ _, .hit | .resolved _ _, .headshots | .resolved _ _, .reversalHits => True
  | _, _ => False

theorem ofRow_withHit_fired (result : ShotResult) (row : DiveInstrumentationRow) :
    (withHit result row).shotsFired = row.shotsFired := by
  unfold withHit
  by_cases hhit : result.outcome = .hit
  · rw [if_pos hhit]
  · rw [if_neg hhit]

theorem ofRow_withDeath (c : Counter) (window : UInt64) (tick : SimulationTick)
    (row : DiveInstrumentationRow) : c.ofRow (withDeath window tick row) = c.ofRow row := by
  unfold withDeath
  cases row.landingTick with
  | none => cases c <;> rfl
  | some landing => cases c <;> rfl

theorem ofRow_withLanding (c : Counter) (window : UInt64) (launchTick : SimulationTick)
    (motion : RiderMotionObservation) (slope : UInt32) (bad : Bool)
    (row : DiveInstrumentationRow) :
    c.ofRow (withLanding window launchTick motion slope bad row) = c.ofRow row := by
  unfold withLanding
  by_cases hnone : row.landingTick.isNone = true
  · rw [if_pos hnone]
    dsimp only
    cases row.deathTick with
    | none => cases c <;> rfl
    | some death => cases c <;> rfl
  · rw [if_neg hnone]

/-- **Other edits leave the counter.** -/
theorem ofRow_edit {c : Counter} {edit : RowEdit} (h : ¬edit.Feeds c) :
    c.ofRow (edit.apply window record).row = c.ofRow record.row := by
  cases edit with
  | finalized => rfl
  | elapsed => cases c <;> rfl
  | died tick => exact ofRow_withDeath c window tick record.row
  | censored reason => cases c <;> rfl
  | damaged observation => cases c <;> rfl
  | landed launchTick motion slope bad =>
    exact ofRow_withLanding c window launchTick motion slope bad record.row
  | remounted tick =>
    change c.ofRow (withRemount tick record).row = c.ofRow record.row
    unfold withRemount
    split_ifs
    · cases c <;> rfl
    · rfl
  | attempted tick => cases c <;> rfl
  | accepted shot =>
    cases c with
    | fired => exact absurd trivial h
    | hit => rfl
    | headshots => rfl
    | reversalHits => rfl
  | resolved shot result =>
    cases c with
    | fired => exact ofRow_withHit_fired result record.row
    | hit => exact absurd trivial h
    | headshots => exact absurd trivial h
    | reversalHits => exact absurd trivial h

theorem Counter.ofRow_fresh (h : Fresh record) (c : Counter) : c.ofRow record.row = 0 := by
  obtain ⟨hfired, hhit, hheadshots, hreversal⟩ := h.counts
  cases c with
  | fired => exact hfired
  | hit => exact hhit
  | headshots => exact hheadshots
  | reversalHits => exact hreversal

/-- The next dive has no record yet. -/
theorem row_of_next (hsound : k.Sound) (hnext : k.nextDiveId = some id) : k.rows[id]? = none :=
  ExtTreeMap.getElem?_eq_none fun hmem => lt_irrefl id (hsound.fresh id hnext id hmem)

/-- A counter that changes is fed by an edit that the call may make. -/
theorem fed_of_count_ne (hsound : k.Sound) {c : Counter}
    (h : (k.step call).2.count c id ≠ k.count c id) :
    ∃ record record', k.rows[id]? = some record ∧ (k.step call).2.rows[id]? = some record'
      ∧ Edits k.windowTicks (k.allowed call id) record record'
      ∧ c.ofRow record'.row ≠ c.ofRow record.row := by
  unfold count at h
  obtain hevolves | ⟨input, new, record, rfl, hlaunch⟩ := evolves_step k call
  · obtain ⟨hnone, hnone'⟩ | ⟨record, record', hrecord, hrecord', hedits⟩ := hevolves id
    · rw [hnone, hnone'] at h
      exact absurd rfl h
    · rw [hrecord, hrecord'] at h
      exact ⟨record, record', hrecord, hrecord', hedits, h⟩
  · rw [hlaunch.rows, ExtTreeMap.getElem?_insert] at h
    split_ifs at h with hsame
    · have hid := Std.LawfulEqCmp.eq_of_compare hsame
      subst hid
      rw [row_of_next hsound hlaunch.next] at h
      exact absurd (Counter.ofRow_fresh hlaunch.fresh c) h
    · exact absurd rfl h

/-- Only shots feed the counters. -/
theorem count_of_other (hsound : k.Sound) (haccepted : ∀ shot, call ≠ .recordAcceptedShot shot)
    (hresult : ∀ attribution, call ≠ .recordAuthorityResult attribution) (c : Counter)
    (id : DiveId) : (k.step call).2.count c id = k.count c id := by
  by_contra h
  obtain ⟨record, record', -, -, hedits, hne⟩ := fed_of_count_ne hsound h
  refine hne (hedits.keeps (I := fun r => c.ofRow r.row = c.ofRow record.row)
    (fun edit r hkind _ hI => (ofRow_edit fun hfeeds => ?_).trans hI) rfl)
  cases call with
  | setAuthorityEpoch epoch => exact hkind
  | beginTick input =>
    obtain rfl | ⟨-, rfl⟩ := hkind
    · exact hfeeds
    · exact hfeeds
  | settleObservationsThrough tick =>
    obtain rfl | rfl := hkind
    · exact hfeeds
    · exact hfeeds
  | resolveMotion motion =>
    obtain ⟨-, rfl | rfl | ⟨damage, amount, -, rfl⟩ | ⟨airborne, slope, -, rfl⟩⟩ := hkind
    · exact hfeeds
    · exact hfeeds
    · exact hfeeds
    · exact hfeeds
  | recordShotAttempt tick =>
    cases hkind
    exact hfeeds
  | recordAcceptedShot shot => exact haccepted shot rfl
  | recordAuthorityResult attribution => exact hresult attribution rfl
  | applyExternalDamage observation =>
    obtain rfl | rfl | ⟨-, rfl⟩ := hkind
    · exact hfeeds
    · exact hfeeds
    · exact hfeeds
  | observeDeath tick =>
    obtain rfl | rfl := hkind
    · exact hfeeds
    · exact hfeeds
  | endMatch tick =>
    obtain rfl | rfl := hkind
    · exact hfeeds
    · exact hfeeds
  | censorNotObserved =>
    obtain rfl | rfl := hkind
    · exact hfeeds
    · exact hfeeds
  | reset tick =>
    obtain rfl | rfl := hkind
    · exact hfeeds
    · exact hfeeds

def Accepted (k : SaddleDiveKernel) (id : DiveId) (tick : SimulationTick) : Prop :=
  ∃ record, k.rows[id]? = some record ∧ tick ∈ record.acceptedShots

/-- **An accepted shot** counts as fired once, in the row of its dive. -/
theorem count_recordAcceptedShot (hsound : k.Sound) {shot : AcceptedShotMetadata} {c : Counter}
    (h : (k.step (.recordAcceptedShot shot)).2.count c id ≠ k.count c id) :
    c = .fired ∧ shot.diveId = some id ∧ ¬k.Accepted id shot.tick
      ∧ (k.step (.recordAcceptedShot shot)).2.Accepted id shot.tick := by
  obtain ⟨record, record', hrecord, hrecord', hedits, hne⟩ := fed_of_count_ne hsound h
  have hfed : c = .fired ∧ shot.diveId = some id := by
    by_contra hnot
    refine hne (hedits.keeps (I := fun r => c.ofRow r.row = c.ofRow record.row)
      (fun edit r hkind _ hI => (ofRow_edit fun hfeeds => ?_).trans hI) rfl)
    obtain ⟨hdive, rfl⟩ := hkind
    cases c with
    | fired => exact hnot ⟨rfl, hdive⟩
    | hit => exact hfeeds
    | headshots => exact hfeeds
    | reversalHits => exact hfeeds
  refine ⟨hfed.1, hfed.2, ?_, record', hrecord', ?_⟩
  · rintro ⟨other, hother, hmem⟩
    cases hrecord.symm.trans hother
    refine hne (hedits.keeps (I := fun r => shot.tick ∈ r.acceptedShots
      ∧ c.ofRow r.row = c.ofRow record.row) (fun edit r hkind hguard hI => ?_) ⟨hmem, rfl⟩).2
    obtain ⟨-, rfl⟩ := hkind
    -- a shot under the same tick is refused
    change refusesShot r shot = false at hguard
    unfold refusesShot at hguard
    rw [Bool.or_eq_false_iff] at hguard
    exact absurd (ExtTreeMap.contains_iff_mem.mpr hI.1) (Bool.eq_false_iff.mp hguard.2)
  · have hkept := hedits.keeps (I := fun r => r = record ∨ shot.tick ∈ r.acceptedShots)
      (fun edit r hkind _ _ => ?_) (.inl rfl)
    · exact hkept.resolve_left fun heq => hne (by rw [heq])
    · obtain ⟨-, rfl⟩ := hkind
      right
      change shot.tick ∈ r.acceptedShots.insert shot.tick shot
      exact ExtTreeMap.mem_insert_self

/-- **An attributed result** counts in the row of the dive of its shot. -/
theorem count_recordAuthorityResult (hsound : k.Sound) {attribution : ShotResultAttribution}
    {c : Counter}
    (h : (k.step (.recordAuthorityResult attribution)).2.count c id ≠ k.count c id) :
    c ≠ .fired ∧ attribution.duplicate = false
      ∧ ∃ shot, attribution.acceptedShot = some shot ∧ shot.diveId = some id := by
  obtain ⟨record, record', hrecord, hrecord', hedits, hne⟩ := fed_of_count_ne hsound h
  refine ⟨?_, ?_, ?_⟩
  · rintro rfl
    refine hne (hedits.keeps
      (I := fun r => Counter.fired.ofRow r.row = Counter.fired.ofRow record.row)
      (fun edit r hkind _ hI => (ofRow_edit fun hfeeds => ?_).trans hI) rfl)
    obtain rfl | ⟨shot, -, -, rfl⟩ := hkind
    · exact hfeeds
    · exact hfeeds
  · by_contra hduplicate
    rw [Bool.not_eq_false] at hduplicate
    refine h ?_
    unfold step recordAuthorityResult
    dsimp only
    rw [if_pos (.inr hduplicate)]
  · by_contra hnot
    refine hne (hedits.keeps (I := fun r => c.ofRow r.row = c.ofRow record.row)
      (fun edit r hkind _ hI => (ofRow_edit fun hfeeds => ?_).trans hI) rfl)
    obtain rfl | ⟨shot, hshot, hdive, rfl⟩ := hkind
    · exact hfeeds
    · exact hnot ⟨shot, hshot, hdive⟩

/-- A dive that is launched stays among the rows. -/
theorem mem_rows_step (hsound : k.Sound) (hid : id ∈ k.rows) (call : SaddleDiveCall) :
    id ∈ (k.step call).2.rows := by
  rw [ExtTreeMap.mem_iff_isSome_getElem?, Option.isSome_iff_exists] at hid ⊢
  obtain ⟨record, hrecord⟩ := hid
  obtain hevolves | ⟨input, launched, record', rfl, hlaunch⟩ := evolves_step k call
  · obtain ⟨hnone, -⟩ | ⟨-, record', -, hafter, -⟩ := hevolves id
    · cases hrecord.symm.trans hnone
    · exact ⟨record', hafter⟩
  · have hne : ¬compare launched id = .eq := by
      intro hsame
      cases Std.LawfulEqCmp.eq_of_compare hsame
      rw [row_of_next hsound hlaunch.next] at hrecord
      cases hrecord
    exact ⟨record, by rw [hlaunch.rows, ExtTreeMap.getElem?_insert, if_neg hne, hrecord]⟩

theorem Accepted.stays (h : k.Accepted id tick) (hsound : k.Sound) (call : SaddleDiveCall) :
    (k.step call).2.Accepted id tick := by
  obtain ⟨record, hrecord, hmem⟩ := h
  obtain hevolves | ⟨input, launched, record', rfl, hlaunch⟩ := evolves_step k call
  · obtain ⟨hnone, -⟩ | ⟨record, record', hbefore, hafter, hedits⟩ := hevolves id
    · cases hrecord.symm.trans hnone
    · cases hrecord.symm.trans hbefore
      refine ⟨record', hafter, hedits.keeps (I := fun r => tick ∈ r.acceptedShots)
        (fun edit r _ _ hI => ?_) hmem⟩
      cases edit with
      | accepted shot =>
        change tick ∈ r.acceptedShots.insert shot.tick shot
        exact ExtTreeMap.mem_insert.mpr (.inr hI)
      | remounted at' =>
        change tick ∈ (withRemount at' r).acceptedShots
        unfold withRemount
        split_ifs
        · exact hI
        · exact hI
      | _ => exact hI
  · refine ⟨record, ?_, hmem⟩
    have hne : ¬compare launched id = .eq := by
      intro hsame
      cases Std.LawfulEqCmp.eq_of_compare hsame
      rw [row_of_next hsound hlaunch.next] at hrecord
      cases hrecord
    rw [hlaunch.rows, ExtTreeMap.getElem?_insert, if_neg hne, hrecord]

/-! ## Rows in order -/

/-- The counters of a record agree with the shots it has accepted and resolved. -/
structure InCount (record : DiveRecord) : Prop where
  resolved : ∀ tick ∈ record.resolvedShots, tick ∈ record.acceptedShots
  fired : record.row.shotsFired.toNat = min record.acceptedShots.size (2 ^ 16 - 1)
  hit : record.row.shotsHit.toNat ≤ min record.resolvedShots.card (2 ^ 16 - 1)
  headshots : record.row.headshots.toNat ≤ record.row.shotsHit.toNat
  reversalHits : record.row.reversalHits.toNat ≤ record.row.shotsHit.toNat

theorem InCount.fresh (h : Fresh record) : InCount record := by
  obtain ⟨hfired, hhit, hheadshots, hreversal⟩ := h.counts
  refine ⟨fun tick htick => ?_, ?_, ?_, ?_, ?_⟩
  · rw [h.resolved] at htick
    exact absurd htick (Finset.notMem_empty tick)
  · rw [hfired, h.accepted]
    rfl
  · rw [hhit]
    exact Nat.zero_le _
  · rw [hheadshots]
    exact Nat.zero_le _
  · rw [hreversal]
    exact Nat.zero_le _

theorem InCount.same (h : InCount record) (haccepted : record'.acceptedShots = record.acceptedShots)
    (hresolved : record'.resolvedShots = record.resolvedShots)
    (hcounters : ∀ c : Counter, c.ofRow record'.row = c.ofRow record.row) : InCount record' := by
  have hfired : record'.row.shotsFired = record.row.shotsFired := hcounters .fired
  have hhit : record'.row.shotsHit = record.row.shotsHit := hcounters .hit
  have hheadshots : record'.row.headshots = record.row.headshots := hcounters .headshots
  have hreversal : record'.row.reversalHits = record.row.reversalHits := hcounters .reversalHits
  refine ⟨?_, ?_, ?_, ?_, ?_⟩
  · rw [haccepted, hresolved]
    exact h.resolved
  · rw [haccepted, hfired]
    exact h.fired
  · rw [hresolved, hhit]
    exact h.hit
  · rw [hheadshots, hhit]
    exact h.headshots
  · rw [hreversal, hhit]
    exact h.reversalHits

/-- **Every edit keeps the counters in order.** -/
theorem InCount.edit {edit : RowEdit} (h : InCount record) (hguard : edit.Guard window record) :
    InCount (edit.apply window record) := by
  cases edit with
  | accepted shot =>
    change refusesShot record shot = false at hguard
    unfold refusesShot at hguard
    rw [Bool.or_eq_false_iff] at hguard
    refine ⟨fun tick htick => ExtTreeMap.mem_insert.mpr (.inr (h.resolved tick htick)), ?_, h.hit,
      h.headshots, h.reversalHits⟩
    change (record.row.shotsFired.satAdd 1).toNat
      = min (record.acceptedShots.insert shot.tick shot).size (2 ^ 16 - 1)
    rw [ExtTreeMap.size_insert, if_neg (Bool.eq_false_iff.mp hguard.2), UInt16.toNat_satAdd,
      h.fired]
    change min (_ + 1) _ = _
    omega
  | resolved shot result =>
    obtain ⟨-, haccepted, hnew⟩ := hguard
    have hmem : shot.tick ∈ record.acceptedShots := by
      rw [ExtTreeMap.mem_iff_isSome_getElem?, haccepted]
      rfl
    have hcard : (insert shot.tick record.resolvedShots).card = record.resolvedShots.card + 1 :=
      Finset.card_insert_of_notMem hnew
    have hhit := h.hit
    have hheadshots := h.headshots
    have hreversal := h.reversalHits
    have hresolved : ∀ tick ∈ insert shot.tick record.resolvedShots,
        tick ∈ record.acceptedShots := by
      intro tick htick
      obtain rfl | htick := Finset.mem_insert.mp htick
      · exact hmem
      · exact h.resolved tick htick
    change InCount { record with
      resolvedShots := insert shot.tick record.resolvedShots
      row := withHit result record.row }
    unfold withHit
    have hone : (1 : UInt16).toNat = 1 := rfl
    by_cases hresult : result.outcome = .hit
    · rw [if_pos hresult]
      refine ⟨hresolved, h.fired, ?_, ?_, ?_⟩
      · change (record.row.shotsHit.satAdd 1).toNat
          ≤ min (insert shot.tick record.resolvedShots).card _
        rw [hcard, UInt16.toNat_satAdd, hone]
        omega
      · dsimp only
        split_ifs
        · rw [UInt16.toNat_satAdd, UInt16.toNat_satAdd, hone]
          omega
        · rw [UInt16.toNat_satAdd, hone]
          omega
      · dsimp only
        split_ifs
        · rw [UInt16.toNat_satAdd, UInt16.toNat_satAdd, hone]
          omega
        · rw [UInt16.toNat_satAdd, hone]
          omega
    · rw [if_neg hresult]
      refine ⟨hresolved, h.fired, ?_, hheadshots, hreversal⟩
      change record.row.shotsHit.toNat ≤ min (insert shot.tick record.resolvedShots).card _
      rw [hcard]
      omega
  | remounted tick =>
    refine h.same ?_ ?_ fun c => ofRow_edit id
    · change (withRemount tick record).acceptedShots = record.acceptedShots
      unfold withRemount
      split_ifs
      · rfl
      · rfl
    · change (withRemount tick record).resolvedShots = record.resolvedShots
      unfold withRemount
      split_ifs
      · rfl
      · rfl
  | finalized => exact h.same rfl rfl fun _ => rfl
  | _ => exact h.same rfl rfl fun c => ofRow_edit id

/-- **The counters of a row are in order.** -/
theorem InCount.le (h : InCount record) : record.row.shotsHit ≤ record.row.shotsFired := by
  have hcard : record.resolvedShots.card ≤ record.acceptedShots.size := by
    rw [← ExtTreeMap.length_keys]
    refine le_trans (Finset.card_le_card fun tick htick => ?_) (List.toFinset_card_le _)
    exact List.mem_toFinset.mpr (ExtTreeMap.mem_keys.mpr (h.resolved tick htick))
  have hhit := h.hit
  rw [UInt16.le_iff_toNat_le, h.fired]
  omega

def AllInCount (k : SaddleDiveKernel) : Prop :=
  ∀ (id : DiveId) (record : DiveRecord), k.rows[id]? = some record → InCount record

theorem AllInCount.step (h : k.AllInCount) (call : SaddleDiveCall) :
    (k.step call).2.AllInCount := by
  intro id record' hrecord'
  obtain hevolves | ⟨input, launched, record, rfl, hlaunch⟩ := evolves_step k call
  · obtain ⟨-, hnone⟩ | ⟨record, other, hrecord, hother, hedits⟩ := hevolves id
    · cases hrecord'.symm.trans hnone
    · cases hrecord'.symm.trans hother
      exact hedits.keeps (I := InCount) (fun edit r _ hguard hI => hI.edit hguard)
        (h id record hrecord)
  · rw [hlaunch.rows, ExtTreeMap.getElem?_insert] at hrecord'
    split_ifs at hrecord' with hsame
    · cases hrecord'
      exact .fresh hlaunch.fresh
    · exact h id record' hrecord'

/-! ## Events -/

theorem events_pushUpdate (k : SaddleDiveKernel) (id : DiveId) (e : SaddleDiveEffects) :
    (k.pushUpdate id e).events = e.events := by
  unfold pushUpdate
  cases k.rows[id]? with
  | none => rfl
  | some record => rfl

theorem events_maybeFinalize (k : SaddleDiveKernel) (id : DiveId) (e : SaddleDiveEffects) :
    (k.maybeFinalize id e).2.events = e.events := by
  unfold maybeFinalize
  cases k.rows[id]?.filter k.shouldFinalize with
  | none => rfl
  | some record => rfl

theorem events_foldl {α : Type} {f : SaddleDiveKernel × SaddleDiveEffects → α →
    SaddleDiveKernel × SaddleDiveEffects} (hf : ∀ turn a, (f turn a).2.events = turn.2.events)
    (as : List α) (turn : SaddleDiveKernel × SaddleDiveEffects) :
    (as.foldl f turn).2.events = turn.2.events := by
  induction as generalizing turn with
  | nil => rfl
  | cons a as ih => exact (ih (f turn a)).trans (hf turn a)

theorem events_settleRow (f : DiveInstrumentationRow → DiveInstrumentationRow)
    (turn : SaddleDiveKernel × SaddleDiveEffects) (id : DiveId) :
    (settleRow f turn id).2.events = turn.2.events :=
  (events_maybeFinalize _ id _).trans (events_pushUpdate _ id _)

theorem events_attributeDamage (observation : DamageObservation)
    (turn : SaddleDiveKernel × SaddleDiveEffects) (id : DiveId) :
    (attributeDamage observation turn id).2.events = turn.2.events := by
  unfold attributeDamage
  split_ifs
  · rfl
  · exact events_pushUpdate _ id _

theorem events_attributeRetained (id : DiveId) (turn : SaddleDiveKernel × SaddleDiveEffects)
    (observation : DamageObservation) :
    (attributeRetained id turn observation).2.events = turn.2.events := by
  have hrecorded : (turn.1.recordDamageInWindows observation turn.2).2.events = turn.2.events :=
    events_foldl (events_attributeDamage observation) _ turn
  unfold attributeRetained
  dsimp only
  split_ifs
  · exact (events_pushUpdate _ id _).trans hrecorded
  · exact hrecorded

theorem events_observeDeathInternal (k : SaddleDiveKernel) (tick : SimulationTick)
    (e : SaddleDiveEffects) : (k.observeDeathInternal tick e).2.events = e.events :=
  events_foldl (events_settleRow _) _ (k, e)

theorem events_applyLandingDamage (k : SaddleDiveKernel) (id : DiveId) (tick : SimulationTick)
    (e : SaddleDiveEffects) : (k.applyLandingDamage id tick e).2.events = e.events := by
  unfold applyLandingDamage RiderHealthKernel.applyLandingCommand
  dsimp only
  split_ifs
  · rfl
  · dsimp only
    split_ifs
    · exact events_observeDeathInternal _ tick _
    · rfl

theorem events_landDive (k : SaddleDiveKernel) (airborne : AirborneState)
    (motion : RiderMotionObservation) (slope : UInt32) (e : SaddleDiveEffects) :
    (k.landDive airborne motion slope e).2.events = e.events := by
  have hattributed : ((k.touchDown airborne motion slope).attributeRetainedDamageForDive
      airborne.diveId (e.transition ⟨k.state, .landingProne, motion.tick, some airborne.diveId⟩)
      ).2.events = e.events :=
    events_foldl (events_attributeRetained airborne.diveId) _
      (k.touchDown airborne motion slope, _)
  refine (events_maybeFinalize _ airborne.diveId _).trans
    ((events_pushUpdate _ airborne.diveId _).trans ?_)
  split_ifs
  · exact (events_applyLandingDamage _ _ _ _).trans hattributed
  · exact hattributed

theorem events_enterTick (k : SaddleDiveKernel) (input : SaddleDiveTickInput) :
    (k.enterTick input).2.events = [] := by
  unfold enterTick
  rw [advanceRecoveryBoundaries_eq]
  rfl

def Announces (k k' : SaddleDiveKernel) (events : List GameplayEventRow) : Prop :=
  events = [] ∨ ∃ diveId row, k.nextDiveId = some diveId ∧ diveId ∈ k'.rows ∧ events = [row]
    ∧ row.id.kind = .flyingDismount ∧ row.id.sequence = diveId.value

theorem announces_launchDive (k : SaddleDiveKernel) (input : SaddleDiveTickInput)
    {e : SaddleDiveEffects} (hquiet : e.events = []) :
    k.Announces (k.launchDive input e).2 (emitted (k.launchDive input e).1).events := by
  unfold launchDive
  dsimp only
  cases hnext : k.nextDiveId with
  | none => exact .inl rfl
  | some diveId =>
    refine .inr ⟨diveId, k.flyingDismountEvent diveId input, hnext, ExtTreeMap.mem_insert_self,
      (events_pushUpdate _ diveId _).trans ?_, rfl, rfl⟩
    change e.events ++ [k.flyingDismountEvent diveId input] = _
    rw [hquiet]
    rfl

theorem events_completeRemount (k : SaddleDiveKernel) (tick : SimulationTick)
    (horsePosition : QuantizedOrigin) (e : SaddleDiveEffects) :
    (k.completeRemount tick horsePosition e).2.events = e.events := by
  unfold completeRemount
  cases k.stateDiveId with
  | none => rfl
  | some diveId =>
    exact (events_maybeFinalize _ diveId _).trans (events_pushUpdate _ diveId _)

theorem announces_interact (k : SaddleDiveKernel) (input : SaddleDiveTickInput) (edge : Bool)
    {e : SaddleDiveEffects} (hquiet : e.events = []) :
    k.Announces (k.interact input edge e).2
      (emitted ((k.interact input edge e).1.map (·.2))).events := by
  unfold interact
  cases hstate : k.state with
  | mounted =>
    dsimp only
    split_ifs
    · have hlaunched := announces_launchDive { k with
        state := .mounted
        mountedHorseGrounded := input.horseGrounded } input hquiet
      generalize ({ k with
        state := .mounted
        mountedHorseGrounded := input.horseGrounded } : SaddleDiveKernel).launchDive input e
        = launched at hlaunched ⊢
      obtain ⟨answer, launched⟩ := launched
      cases answer with
      | error error => exact hlaunched
      | ok e => exact hlaunched
    · exact .inl hquiet
    · exact .inl hquiet
    · exact .inl hquiet
  | onFootReady =>
    dsimp only
    split_ifs
    · exact .inl ((events_completeRemount _ _ _ _).trans hquiet)
    · exact .inl hquiet
  | saddleDiveAirborne => exact .inl hquiet
  | landingProne => exact .inl hquiet
  | landingRecovery => exact .inl hquiet

theorem announces_beginTick (k : SaddleDiveKernel) (input : SaddleDiveTickInput) :
    k.Announces (k.step (.beginTick input)).2 (k.step (.beginTick input)).1.events := by
  unfold step beginTick
  dsimp only
  cases k.validateIdentity input.actor input.authorityEpoch with
  | error error => exact .inl rfl
  | ok _ =>
    dsimp only
    by_cases hreplay : k.currentTick.any (input.tick ≤ ·) = true
    · rw [if_pos hreplay]
      exact .inl rfl
    · rw [if_neg hreplay]
      have hnext : (k.enterTick input).1.nextDiveId = k.nextDiveId :=
        (recoveryBoundaries_frame _ _ _).2.1
      have hinteract := announces_interact
        { (k.enterTick input).1 with previousInteractLevel := input.interactPressed } input
        (input.interactPressed && !(k.enterTick input).1.previousInteractLevel)
        (events_enterTick k input)
      generalize (({ (k.enterTick input).1 with
        previousInteractLevel := input.interactPressed } : SaddleDiveKernel).interact input
        (input.interactPressed && !(k.enterTick input).1.previousInteractLevel)
        (k.enterTick input).2) = interacted at hinteract ⊢
      obtain ⟨answer, interacted⟩ := interacted
      have hannounces : k.Announces interacted (emitted (answer.map (·.2))).events := by
        obtain hnone | ⟨diveId, row, hlaunched, hrest⟩ := hinteract
        · exact .inl hnone
        · exact .inr ⟨diveId, row, hnext.symm.trans hlaunched, hrest⟩
      cases answer with
      | error error => exact hannounces
      | ok answer => exact hannounces

/-- The events that an attributed result brings along. -/
theorem events_recordAuthorityResult (k : SaddleDiveKernel)
    (attribution : ShotResultAttribution) :
    (k.step (.recordAuthorityResult attribution)).1.events = []
      ∨ attribution.duplicate = false ∧ attribution.acceptedShot.isSome = true
        ∧ (k.step (.recordAuthorityResult attribution)).1.events = attribution.events := by
  unfold step recordAuthorityResult
  dsimp only
  split_ifs with hrefused
  · exact .inl rfl
  · rw [not_or, Bool.not_eq_true] at hrefused
    cases hshot : attribution.acceptedShot with
    | none => exact .inl rfl
    | some shot =>
      dsimp only
      cases shot.diveId with
      | none => exact .inr ⟨hrefused.2, rfl, rfl⟩
      | some diveId =>
        dsimp only
        cases k.rows[diveId]? with
        | none => exact .inl rfl
        | some record =>
          dsimp only
          split_ifs
          · exact .inl rfl
          · refine .inr ⟨hrefused.2, rfl, ?_⟩
            exact (events_maybeFinalize _ diveId _).trans (events_pushUpdate _ diveId _)

/-- The other calls report no event. -/
theorem announces_step (k : SaddleDiveKernel)
    (hresult : ∀ attribution, call ≠ .recordAuthorityResult attribution) :
    k.Announces (k.step call).2 (k.step call).1.events := by
  cases call with
  | setAuthorityEpoch epoch => exact .inl rfl
  | beginTick input => exact announces_beginTick k input
  | settleObservationsThrough tick =>
    left
    unfold step settleObservationsThrough
    dsimp only
    split_ifs
    · rfl
    · exact events_foldl (events_settleRow _) _ ({ k with observationWatermark := some tick }, _)
  | resolveMotion motion =>
    left
    unfold step resolveMotion
    dsimp only
    by_cases htick : k.currentTick ≠ some motion.tick
    · rw [if_pos htick]
      rfl
    · rw [if_neg htick]
      by_cases hresolved : k.motionResolved = true
      · rw [if_pos hresolved]
        rfl
      · rw [if_neg hresolved]
        cases k.airborne with
        | none => rfl
        | some airborne =>
          dsimp only
          by_cases hstate : k.state ≠ .saddleDiveAirborne
          · rw [if_pos hstate]
            rfl
          · rw [if_neg hstate]
            cases contactSlope motion with
            | none => rfl
            | some slope => exact events_landDive _ airborne motion slope _
  | recordShotAttempt tick =>
    left
    unfold step recordShotAttempt
    dsimp only
    split_ifs
    · rfl
    · cases k.stateDiveId with
      | none => rfl
      | some diveId =>
        dsimp only
        cases k.rows[diveId]? with
        | none => rfl
        | some record =>
          dsimp only
          split_ifs
          · rfl
          · exact events_pushUpdate _ diveId _
  | recordAcceptedShot shot =>
    left
    unfold step recordAcceptedShot
    dsimp only
    cases shot.diveId with
    | none => rfl
    | some diveId =>
      dsimp only
      split_ifs
      · rfl
      · cases k.rows[diveId]? with
        | none => rfl
        | some record =>
          dsimp only
          split_ifs
          · rfl
          · exact events_pushUpdate _ diveId _
  | recordAuthorityResult attribution => exact absurd rfl (hresult attribution)
  | applyExternalDamage observation =>
    left
    unfold step applyExternalDamage
    dsimp only
    split_ifs
    · rfl
    · generalize k.health.applyExternal observation = applied
      obtain ⟨answer, health⟩ := applied
      cases answer with
      | none => rfl
      | some application =>
        have hrecorded : ∀ (hurt : SaddleDiveKernel),
            (hurt.recordDamageInWindows observation SaddleDiveEffects.empty).2.events = [] :=
          fun hurt => events_foldl (events_attributeDamage observation) _ (hurt, _)
        dsimp only
        split_ifs
        · exact (events_observeDeathInternal _ _ _).trans (hrecorded _)
        · exact hrecorded _
  | observeDeath tick => exact .inl (events_observeDeathInternal _ tick _)
  | endMatch tick => exact .inl (events_foldl (events_settleRow _) _ (k, _))
  | censorNotObserved => exact .inl (events_foldl (events_settleRow _) _ (k, _))
  | reset tick =>
    left
    have hcensored : (k.censorOpenRows .reset).2.events = [] :=
      events_foldl (events_settleRow _) _ (k, _)
    change (if k.state = .mounted then (k.censorOpenRows .reset).2
      else (k.censorOpenRows .reset).2.transition _).events = []
    split_ifs
    · exact hcensored
    · exact hcensored

end SaddleDiveKernel

/-! ## The ledger -/

namespace ShotResultAttribution

def Live (a : ShotResultAttribution) : Prop := a.duplicate = false ∧ a.acceptedShot.isSome = true

instance decidableLive (a : ShotResultAttribution) : Decidable a.Live :=
  inferInstanceAs (Decidable (_ ∧ _))

def key (a : ShotResultAttribution) : PlayerId × SimulationTick :=
  (a.result.shooterPeerId, a.result.tick)

/-- Its shot is that of its result, and so are its events, each of its own kind. -/
structure Own (a : ShotResultAttribution) : Prop where
  shot : ∀ shot, a.acceptedShot = some shot → (shot.shooter, shot.tick) = a.key
  events : ∀ row ∈ a.events,
    row.id.kind ≠ .flyingDismount ∧ (row.id.actor, row.id.sourceTick) = a.key
  once : (a.events.map (·.id)).Nodup

end ShotResultAttribution

namespace ShotAttributionLedger

variable {l : ShotAttributionLedger} {authorityEpoch : UInt64} {result : ShotResult}
  {shot : AcceptedShotMetadata}

theorem acceptedShot_key {shooter : PlayerId} {tick : SimulationTick}
    (h : l.acceptedShot shooter tick = some shot) : shot.shooter = shooter ∧ shot.tick = tick := by
  have hfound := List.find?_some h
  exact of_decide_eq_true hfound

theorem resolved_recordAccepted (l : ShotAttributionLedger) (shot : AcceptedShotMetadata) :
    (l.recordAccepted shot).2.resolved = l.resolved := by
  unfold recordAccepted
  split_ifs
  · rfl
  · rfl
  · rfl

/-- The notifications of a hit have different kinds. -/
theorem nodup_hitEvents (authorityEpoch : UInt64) (shot : AcceptedShotMetadata)
    (result : ShotResult) : ((hitEvents authorityEpoch shot result).map (·.id)).Nodup := by
  unfold hitEvents
  rw [List.map_map]
  refine List.Nodup.map (fun a b h => congrArg (·.kind) h) ?_
  split_ifs <;> decide

theorem mem_hitEvents {row : GameplayEventRow}
    (h : row ∈ hitEvents authorityEpoch shot result) : row.id.kind ≠ .flyingDismount
      ∧ row.id.actor = shot.shooter ∧ row.id.sourceTick = shot.tick := by
  unfold hitEvents at h
  obtain ⟨kind, hkind, rfl⟩ := List.mem_map.mp h
  refine ⟨?_, rfl, rfl⟩
  change kind ≠ .flyingDismount
  rintro rfl
  split_ifs at hkind <;> exact absurd hkind (by decide)

/-- **An attribution of the ledger** is its own, and the first of its shot only once. -/
theorem own_observeResult (l : ShotAttributionLedger) (authorityEpoch : UInt64)
    (result : ShotResult) : (l.observeResult authorityEpoch result).1.Own := by
  unfold observeResult
  dsimp only
  generalize hfound : (l.acceptedShot result.shooterPeerId result.tick).filter (fun shot =>
    decide (shot.weaponId = result.weaponId ∧ result.outcome ≠ .reject)) = accepted
  cases accepted with
  | none =>
    exact ⟨fun _ hshot => absurd hshot.symm (Option.some_ne_none _),
      fun _ hrow => absurd hrow List.not_mem_nil, List.nodup_nil⟩
  | some shot =>
    obtain ⟨hshooter, htick⟩ := acceptedShot_key (Option.filter_eq_some_iff.mp hfound).1
    have hkey : (shot.shooter, shot.tick) = (result.shooterPeerId, result.tick) := by
      rw [hshooter, htick]
    refine ⟨fun other hother => ?_, fun row hrow => ?_, ?_⟩
    · cases hother
      exact hkey
    · dsimp only at hrow
      split_ifs at hrow
      · obtain ⟨hkind, hactor, hsource⟩ := mem_hitEvents hrow
        rw [hactor, hsource]
        exact ⟨hkind, hkey⟩
      · exact absurd hrow List.not_mem_nil
    · dsimp only
      split_ifs
      · exact nodup_hitEvents authorityEpoch shot result
      · exact List.nodup_nil

theorem resolved_observeResult (l : ShotAttributionLedger) (authorityEpoch : UInt64)
    (result : ShotResult) {key : PlayerId × SimulationTick} (h : key ∈ l.resolved) :
    key ∈ (l.observeResult authorityEpoch result).2.resolved := by
  unfold observeResult
  dsimp only
  split_ifs
  · exact Finset.mem_insert_of_mem h
  · exact h

theorem live_observeResult (h : (l.observeResult authorityEpoch result).1.Live) :
    (l.observeResult authorityEpoch result).1.key ∉ l.resolved
      ∧ (l.observeResult authorityEpoch result).1.key
        ∈ (l.observeResult authorityEpoch result).2.resolved := by
  obtain ⟨hfirst, hsome⟩ := h
  unfold observeResult at *
  dsimp only at *
  rw [hsome, Bool.true_and, decide_eq_false_iff_not] at hfirst
  refine ⟨hfirst, ?_⟩
  rw [if_pos hsome]
  exact Finset.mem_insert_self _ _

/-- An attribution with events is the first of its shot. -/
theorem live_of_events {row : GameplayEventRow}
    (h : row ∈ (l.observeResult authorityEpoch result).1.events) :
    (l.observeResult authorityEpoch result).1.Live := by
  unfold observeResult at *
  dsimp only at *
  generalize (l.acceptedShot result.shooterPeerId result.tick).filter (fun shot =>
    decide (shot.weaponId = result.weaponId ∧ result.outcome ≠ .reject)) = accepted at h ⊢
  cases accepted with
  | none => exact absurd h List.not_mem_nil
  | some shot =>
    dsimp only at h
    split_ifs at h with hfirst
    · refine ⟨?_, rfl⟩
      simpa using hfirst.1
    · exact absurd h List.not_mem_nil

end ShotAttributionLedger

/-! ## The accounting -/

/-- The ledger of the match, the kernel of one rider, and the attributions that have not been passed
from the one to the other. -/
structure ShotAccounting where
  ledger : ShotAttributionLedger
  kernel : SaddleDiveKernel
  pending : List ShotResultAttribution

/-- A report: to the ledger, to the kernel, or the passing of one pending attribution. -/
inductive ShotReport
  | recordAccepted (shot : AcceptedShotMetadata)
  | observeResult (authorityEpoch : UInt64) (result : ShotResult)
  | call (call : SaddleDiveCall)
    (hcall : ∀ attribution, call ≠ .recordAuthorityResult attribution)
  | pass (n : ℕ)

/-- One shot that feeds one counter of one dive. -/
structure Contribution where
  counter : SaddleDiveKernel.Counter
  shooter : PlayerId
  tick : SimulationTick
  diveId : DiveId
deriving DecidableEq

namespace Contribution

/-- The counter and the shot. -/
def key (c : Contribution) : SaddleDiveKernel.Counter × PlayerId × SimulationTick :=
  (c.counter, c.shooter, c.tick)

theorem key_diveId_injective {x y : Contribution} (hkey : x.key = y.key)
    (hdive : x.diveId = y.diveId) : x = y := by
  obtain ⟨c, shooter, tick, id⟩ := x
  cases hkey
  cases hdive
  rfl

end Contribution

namespace ShotAccounting

open SaddleDiveKernel (Counter)

/-- An attribution is handed to the kernel at most once: it is pending until then. -/
def step (s : ShotAccounting) : ShotReport → List GameplayEventRow × ShotAccounting
  | .recordAccepted shot => ([], { s with ledger := (s.ledger.recordAccepted shot).2 })
  | .observeResult authorityEpoch result =>
    let observed := s.ledger.observeResult authorityEpoch result
    ([], { s with ledger := observed.2, pending := s.pending ++ [observed.1] })
  | .call call _ =>
    let answer := s.kernel.step call
    (answer.1.events, { s with kernel := answer.2 })
  | .pass n =>
    match s.pending[n]? with
    | none => ([], s)
    | some attribution =>
      let answer := s.kernel.step (.recordAuthorityResult attribution)
      (answer.1.events, { s with kernel := answer.2, pending := s.pending.eraseIdx n })

def derived (s : ShotAccounting) : ShotReport → List GameplayEventRow
  | .observeResult authorityEpoch result => (s.ledger.observeResult authorityEpoch result).1.events
  | _ => []

/-- The events that the kernel hands out. -/
def emitted (s : ShotAccounting) (report : ShotReport) : List GameplayEventRow := (s.step report).1

def target (s : ShotAccounting) : ShotReport → Option (AcceptedShotMetadata × DiveId)
  | .call (.recordAcceptedShot shot) _ => shot.diveId.map (shot, ·)
  | .pass n => do
    let attribution ← s.pending[n]?
    let shot ← attribution.acceptedShot
    shot.diveId.map (shot, ·)
  | _ => none

def Changes (s : ShotAccounting) (report : ShotReport) (c : Counter) (id : DiveId) : Prop :=
  (s.step report).2.kernel.count c id ≠ s.kernel.count c id

instance decidableChanges (s : ShotAccounting) (report : ShotReport) (c : Counter) (id : DiveId) :
    Decidable (s.Changes report c id) :=
  inferInstanceAs (Decidable (_ ≠ _))

def contributions (s : ShotAccounting) (report : ShotReport) : List Contribution :=
  match s.target report with
  | none => []
  | some (shot, id) =>
    ([.fired, .hit, .headshots, .reversalHits].filter fun c => s.Changes report c id).map
      fun c => ⟨c, shot.shooter, shot.tick, id⟩

variable {s : ShotAccounting} {report : ShotReport}

/-! ### The invariant -/

/-- What holds of every state. -/
structure Orderly (s : ShotAccounting) : Prop where
  sound : s.kernel.Sound
  inCount : s.kernel.AllInCount
  own : ∀ a ∈ s.pending, a.Own
  quiet : ∀ a ∈ s.pending, a.events ≠ [] → a.Live
  resolved : ∀ a ∈ s.pending, a.Live → a.key ∈ s.ledger.resolved
  once : ((s.pending.filter (·.Live)).map (·.key)).Nodup

/-- The result of the shot has been passed on. -/
def Spent (s : ShotAccounting) (key : PlayerId × SimulationTick) : Prop :=
  key ∈ s.ledger.resolved ∧ ∀ a ∈ s.pending, a.Live → a.key ≠ key

theorem orderly_step (h : s.Orderly) (report : ShotReport) : (s.step report).2.Orderly := by
  cases report with
  | recordAccepted shot =>
    refine ⟨h.sound, h.inCount, h.own, h.quiet, ?_, h.once⟩
    intro a ha hlive
    change a.key ∈ (s.ledger.recordAccepted shot).2.resolved
    rw [ShotAttributionLedger.resolved_recordAccepted]
    exact h.resolved a ha hlive
  | observeResult authorityEpoch result =>
    refine ⟨h.sound, h.inCount, ?_, ?_, ?_, ?_⟩
    · intro a ha
      obtain hold | hnew := List.mem_append.mp ha
      · exact h.own a hold
      · cases List.mem_singleton.mp hnew
        exact s.ledger.own_observeResult authorityEpoch result
    · intro a ha hevents
      obtain hold | hnew := List.mem_append.mp ha
      · exact h.quiet a hold hevents
      · cases List.mem_singleton.mp hnew
        obtain ⟨row, hrow⟩ := List.exists_mem_of_ne_nil _ hevents
        exact ShotAttributionLedger.live_of_events hrow
    · intro a ha hlive
      obtain hold | hnew := List.mem_append.mp ha
      · exact ShotAttributionLedger.resolved_observeResult s.ledger authorityEpoch result
          (h.resolved a hold hlive)
      · cases List.mem_singleton.mp hnew
        exact (ShotAttributionLedger.live_observeResult hlive).2
    · change (((s.pending ++ [(s.ledger.observeResult authorityEpoch result).1]).filter
        fun a : ShotResultAttribution => decide a.Live).map (·.key)).Nodup
      rw [List.filter_append, List.map_append]
      refine List.nodup_append.mpr ⟨h.once, ?_, ?_⟩
      · exact ((List.nodup_singleton _).filter _).map_on fun a ha b hb _ =>
          (List.mem_singleton.mp (List.mem_of_mem_filter ha)).trans
            (List.mem_singleton.mp (List.mem_of_mem_filter hb)).symm
      · rintro key hold _ hnew rfl
        obtain ⟨a, ha, hkey⟩ := List.mem_map.mp hold
        obtain ⟨b, hb, rfl⟩ := List.mem_map.mp hnew
        obtain ⟨hb, hlive⟩ := List.mem_filter.mp hb
        cases List.mem_singleton.mp hb
        obtain ⟨ha, halive⟩ := List.mem_filter.mp ha
        refine (ShotAttributionLedger.live_observeResult (of_decide_eq_true hlive)).1 ?_
        rw [← hkey]
        exact h.resolved a ha (of_decide_eq_true halive)
  | call call hcall =>
    exact ⟨SaddleDiveKernel.sound_step call h.sound, h.inCount.step call, h.own, h.quiet,
      h.resolved, h.once⟩
  | pass n =>
    unfold step
    dsimp only
    cases hpending : s.pending[n]? with
    | none => exact h
    | some attribution =>
      refine ⟨SaddleDiveKernel.sound_step _ h.sound, h.inCount.step _,
        fun a ha => h.own a (List.mem_of_mem_eraseIdx ha),
        fun a ha => h.quiet a (List.mem_of_mem_eraseIdx ha),
        fun a ha => h.resolved a (List.mem_of_mem_eraseIdx ha), ?_⟩
      exact h.once.sublist (((List.eraseIdx_sublist _ n).filter _).map _)

theorem Spent.stays {key : PlayerId × SimulationTick} (h : s.Spent key) (report : ShotReport) :
    (s.step report).2.Spent key := by
  cases report with
  | recordAccepted shot =>
    refine ⟨?_, h.2⟩
    change key ∈ (s.ledger.recordAccepted shot).2.resolved
    rw [ShotAttributionLedger.resolved_recordAccepted]
    exact h.1
  | observeResult authorityEpoch result =>
    refine ⟨ShotAttributionLedger.resolved_observeResult s.ledger authorityEpoch result h.1,
      fun a ha hlive => ?_⟩
    obtain hold | hnew := List.mem_append.mp ha
    · exact h.2 a hold hlive
    · cases List.mem_singleton.mp hnew
      rintro rfl
      exact (ShotAttributionLedger.live_observeResult hlive).1 h.1
  | call call hcall => exact h
  | pass n =>
    unfold step
    dsimp only
    cases s.pending[n]? with
    | none => exact h
    | some attribution => exact ⟨h.1, fun a ha => h.2 a (List.mem_of_mem_eraseIdx ha)⟩

/-! ### One report -/

theorem filter_live_cons {a : ShotResultAttribution} (h : a.Live)
    (rest : List ShotResultAttribution) :
    (a :: rest).filter (fun a : ShotResultAttribution => decide a.Live)
      = a :: rest.filter fun a : ShotResultAttribution => decide a.Live :=
  List.filter_cons_of_pos (by exact decide_eq_true h)

/-- What is left of pending attributions with different keys has other keys. -/
theorem once_eraseIdx {pending : List ShotResultAttribution} {n : ℕ}
    {attribution a : ShotResultAttribution}
    (honce : ((pending.filter fun a : ShotResultAttribution => decide a.Live).map (·.key)).Nodup)
    (hpending : pending[n]? = some attribution) (hlive : attribution.Live)
    (ha : a ∈ pending.eraseIdx n) (halive : a.Live) : a.key ≠ attribution.key := by
  induction pending generalizing n with
  | nil => cases hpending
  | cons first rest ih =>
    cases n with
    | zero =>
      cases hpending
      rw [filter_live_cons hlive, List.map_cons, List.nodup_cons] at honce
      intro hsame
      exact honce.1 (List.mem_map.mpr ⟨a, List.mem_filter.mpr ⟨ha, decide_eq_true halive⟩, hsame⟩)
    | succ n =>
      have hmem : attribution ∈ rest := List.mem_of_getElem? hpending
      have hrest : ((rest.filter fun a : ShotResultAttribution => decide a.Live).map
          (·.key)).Nodup :=
        honce.sublist (((List.sublist_cons_self first rest).filter _).map _)
      obtain rfl | ha := List.mem_cons.mp ha
      · rw [filter_live_cons halive, List.map_cons, List.nodup_cons] at honce
        intro hsame
        exact honce.1 (List.mem_map.mpr
          ⟨attribution, List.mem_filter.mpr ⟨hmem, decide_eq_true hlive⟩, hsame.symm⟩)
      · exact ih hrest hpending ha

/-- **What one report contributes.**  An accepted shot feeds `fired`, once in each row; a result
that is passed on feeds the others, and is spent. -/
theorem fed_of_changes (h : s.Orderly) {c : Counter} {id : DiveId}
    (hchanges : s.Changes report c id) :
    ∃ shot, s.target report = some (shot, id)
      ∧ (c = .fired ∧ (∃ hcall, report = .call (.recordAcceptedShot shot) hcall)
          ∧ ¬s.kernel.Accepted id shot.tick ∧ (s.step report).2.kernel.Accepted id shot.tick
        ∨ c ≠ .fired ∧ ¬s.Spent (shot.shooter, shot.tick)
          ∧ (s.step report).2.Spent (shot.shooter, shot.tick)) := by
  cases report with
  | recordAccepted shot => exact absurd rfl hchanges
  | observeResult authorityEpoch result => exact absurd rfl hchanges
  | call call hcall =>
    by_cases haccepted : ∃ shot, call = .recordAcceptedShot shot
    · obtain ⟨shot, rfl⟩ := haccepted
      obtain ⟨hfired, hdive, hnew, hafter⟩ :=
        SaddleDiveKernel.count_recordAcceptedShot h.sound hchanges
      refine ⟨shot, ?_, .inl ⟨hfired, ⟨hcall, rfl⟩, hnew, hafter⟩⟩
      change shot.diveId.map (shot, ·) = _
      rw [hdive]
      rfl
    · exact absurd (SaddleDiveKernel.count_of_other h.sound
        (fun shot heq => haccepted ⟨shot, heq⟩) hcall c id) hchanges
  | pass n =>
    unfold Changes at hchanges
    unfold step target at *
    dsimp only at *
    cases hpending : s.pending[n]? with
    | none =>
      rw [hpending] at hchanges
      exact absurd rfl hchanges
    | some attribution =>
      rw [hpending] at hchanges
      obtain ⟨hnot, hfirst, shot, hshot, hdive⟩ :=
        SaddleDiveKernel.count_recordAuthorityResult h.sound hchanges
      have hmem := List.mem_of_getElem? hpending
      have hlive : attribution.Live := ⟨hfirst, by rw [hshot]; rfl⟩
      have hkey : (shot.shooter, shot.tick) = attribution.key := (h.own _ hmem).shot shot hshot
      refine ⟨shot, ?_, .inr ⟨hnot, fun hspent => ?_, ?_, fun a ha halive hsame => ?_⟩⟩
      · change attribution.acceptedShot.bind (fun shot => shot.diveId.map (shot, ·)) = _
        rw [hshot, Option.bind_some, hdive]
        rfl
      · exact hspent.2 attribution hmem hlive hkey.symm
      · rw [hkey]
        exact h.resolved attribution hmem hlive
      · exact once_eraseIdx h.once hpending hlive ha halive (hsame.trans hkey)

theorem mem_contributions {x : Contribution} (h : x ∈ s.contributions report) :
    ∃ shot, s.target report = some (shot, x.diveId) ∧ x.shooter = shot.shooter
      ∧ x.tick = shot.tick ∧ s.Changes report x.counter x.diveId := by
  unfold contributions at h
  cases htarget : s.target report with
  | none =>
    rw [htarget] at h
    exact absurd h List.not_mem_nil
  | some target =>
    rw [htarget] at h
    obtain ⟨c, hc, rfl⟩ := List.mem_map.mp h
    exact ⟨target.1, rfl, rfl, rfl, of_decide_eq_true (List.mem_filter.mp hc).2⟩

theorem key_nodup_contributions (s : ShotAccounting) (report : ShotReport) :
    ((s.contributions report).map (·.key)).Nodup := by
  unfold contributions
  cases s.target report with
  | none => exact List.nodup_nil
  | some target =>
    rw [List.map_map]
    refine List.Nodup.map (fun a b h => congrArg (·.1) h) (List.Nodup.filter _ ?_)
    decide

theorem contributed_of_changes (h : s.Orderly) {c : Counter} {id : DiveId}
    (hchanges : s.Changes report c id) :
    ∃ x ∈ s.contributions report, x.counter = c ∧ x.diveId = id := by
  obtain ⟨shot, htarget, -⟩ := fed_of_changes h hchanges
  refine ⟨⟨c, shot.shooter, shot.tick, id⟩, ?_, rfl, rfl⟩
  unfold contributions
  rw [htarget]
  refine List.mem_map.mpr ⟨c, List.mem_filter.mpr ⟨?_, decide_eq_true hchanges⟩, rfl⟩
  cases c <;> decide

/-! ### Whole runs -/

/-- What has been contributed so far is different, and cannot be contributed again. -/
structure Tallied (s : ShotAccounting) (xs : List Contribution) : Prop where
  orderly : s.Orderly
  spent : ∀ x ∈ xs, x.counter ≠ .fired → s.Spent (x.shooter, x.tick)
  accepted : ∀ x ∈ xs, x.counter = .fired → s.kernel.Accepted x.diveId x.tick
  once : ((xs.filter (·.counter ≠ .fired)).map (·.key)).Nodup
  different : xs.Nodup

theorem accepted_stays (h : s.Orderly) {id : DiveId} {tick : SimulationTick}
    (haccepted : s.kernel.Accepted id tick) (report : ShotReport) :
    (s.step report).2.kernel.Accepted id tick := by
  cases report with
  | recordAccepted shot => exact haccepted
  | observeResult authorityEpoch result => exact haccepted
  | call call hcall => exact haccepted.stays h.sound call
  | pass n =>
    unfold step
    dsimp only
    cases s.pending[n]? with
    | none => exact haccepted
    | some attribution => exact haccepted.stays h.sound _

theorem tallied_step {xs : List Contribution} (h : s.Tallied xs) (report : ShotReport) :
    (s.step report).2.Tallied (xs ++ s.contributions report) := by
  have hnext := orderly_step h.orderly report
  -- what the report contributes, with the two cases of `fed_of_changes`
  have hnew : ∀ x ∈ s.contributions report,
      (x.counter = .fired ∧ ¬s.kernel.Accepted x.diveId x.tick
          ∧ (s.step report).2.kernel.Accepted x.diveId x.tick)
        ∨ x.counter ≠ .fired ∧ ¬s.Spent (x.shooter, x.tick)
          ∧ (s.step report).2.Spent (x.shooter, x.tick) := by
    intro x hx
    obtain ⟨shot, htarget, hshooter, htick, hchanges⟩ := mem_contributions hx
    obtain ⟨other, hother, hcases⟩ := fed_of_changes h.orderly hchanges
    cases htarget.symm.trans hother
    rw [hshooter, htick]
    exact hcases.imp (fun h => ⟨h.1, h.2.2⟩) id
  refine ⟨hnext, fun x hx hcounter => ?_, fun x hx hcounter => ?_, ?_, ?_⟩
  · obtain hold | hx := List.mem_append.mp hx
    · exact (h.spent x hold hcounter).stays report
    · exact ((hnew x hx).resolve_left fun hfired => hcounter hfired.1).2.2
  · obtain hold | hx := List.mem_append.mp hx
    · exact accepted_stays h.orderly (h.accepted x hold hcounter) report
    · exact ((hnew x hx).resolve_right fun hother => hother.1 hcounter).2.2
  · rw [List.filter_append, List.map_append]
    refine List.nodup_append.mpr ⟨h.once, ?_, ?_⟩
    · exact (key_nodup_contributions s report).sublist ((List.filter_sublist).map _)
    · rintro key hold _ hx rfl
      obtain ⟨x, hmem, hkey⟩ := List.mem_map.mp hold
      obtain ⟨y, hy, rfl⟩ := List.mem_map.mp hx
      obtain ⟨hy, hcounter⟩ := List.mem_filter.mp hy
      obtain ⟨hmem, hold⟩ := List.mem_filter.mp hmem
      have hspent := h.spent x hmem (of_decide_eq_true hold)
      have hsame : (x.shooter, x.tick) = (y.shooter, y.tick) := congrArg (·.2) hkey
      rw [hsame] at hspent
      exact ((hnew y hy).resolve_left fun hfired =>
        (of_decide_eq_true hcounter : y.counter ≠ .fired) hfired.1).2.1 hspent
  · refine List.nodup_append.mpr ⟨h.different, (key_nodup_contributions s report).of_map _, ?_⟩
    rintro x hold _ hx rfl
    obtain ⟨hcounter, hfresh, -⟩ | ⟨hcounter, hfresh, -⟩ := hnew x hx
    · exact hfresh (h.accepted x hold hcounter)
    · exact hfresh (h.spent x hold hcounter)

/-! ### Events -/

/-- What the kernel has handed out so far is different, and cannot be handed out again. -/
structure Told (s : ShotAccounting) (rows : List GameplayEventRow) : Prop where
  orderly : s.Orderly
  spent : ∀ row ∈ rows, row.id.kind ≠ .flyingDismount → s.Spent (row.id.actor, row.id.sourceTick)
  launched : ∀ row ∈ rows, row.id.kind = .flyingDismount →
    ∃ id ∈ s.kernel.rows, row.id.sequence = id.value
  once : (rows.map (·.id)).Nodup

/-- A dive that is launched stays among the rows. -/
theorem mem_rows_step (h : s.Orderly) {id : DiveId} (hid : id ∈ s.kernel.rows)
    (report : ShotReport) : id ∈ (s.step report).2.kernel.rows := by
  cases report with
  | recordAccepted shot => exact hid
  | observeResult authorityEpoch result => exact hid
  | call call hcall => exact SaddleDiveKernel.mem_rows_step h.sound hid call
  | pass n =>
    unfold step
    dsimp only
    cases s.pending[n]? with
    | none => exact hid
    | some attribution => exact SaddleDiveKernel.mem_rows_step h.sound hid _

/-- **What one report tells**: nothing, one new dive, or the events of a result that it spends. -/
theorem emitted_cases (h : s.Orderly) (report : ShotReport) :
    s.emitted report = []
      ∨ (∃ diveId row, diveId ∉ s.kernel.rows ∧ diveId ∈ (s.step report).2.kernel.rows
        ∧ s.emitted report = [row] ∧ row.id.kind = .flyingDismount
        ∧ row.id.sequence = diveId.value)
      ∨ ∃ key, ¬s.Spent key ∧ (s.step report).2.Spent key
        ∧ ((s.emitted report).map (·.id)).Nodup
        ∧ ∀ row ∈ s.emitted report,
          row.id.kind ≠ .flyingDismount ∧ (row.id.actor, row.id.sourceTick) = key := by
  cases report with
  | recordAccepted shot => exact .inl rfl
  | observeResult authorityEpoch result => exact .inl rfl
  | call call hcall =>
    obtain hnone | ⟨diveId, row, hnext, hmem, hrow, hkind, hsequence⟩ :=
      s.kernel.announces_step hcall
    · exact .inl hnone
    · refine .inr (.inl ⟨diveId, row, fun hold => ?_, hmem, hrow, hkind, hsequence⟩)
      exact lt_irrefl diveId (h.sound.fresh diveId hnext diveId hold)
  | pass n =>
    unfold emitted step
    dsimp only
    cases hpending : s.pending[n]? with
    | none => exact .inl rfl
    | some attribution =>
      obtain hnone | ⟨hfirst, hsome, hevents⟩ := s.kernel.events_recordAuthorityResult attribution
      · exact .inl hnone
      · have hmem := List.mem_of_getElem? hpending
        have hlive : attribution.Live := ⟨hfirst, hsome⟩
        have hown := h.own attribution hmem
        refine .inr (.inr ⟨attribution.key, fun hspent => hspent.2 attribution hmem hlive rfl,
          ⟨h.resolved attribution hmem hlive, fun a ha halive =>
            once_eraseIdx h.once hpending hlive ha halive⟩, ?_, ?_⟩)
        · dsimp only
          rw [hevents]
          exact hown.once
        · dsimp only
          rw [hevents]
          exact hown.events

theorem told_step {rows : List GameplayEventRow} (h : s.Told rows) (report : ShotReport) :
    (s.step report).2.Told (rows ++ s.emitted report) := by
  have hnext := orderly_step h.orderly report
  have hspent : ∀ row ∈ rows, row.id.kind ≠ .flyingDismount →
      (s.step report).2.Spent (row.id.actor, row.id.sourceTick) :=
    fun row hrow hkind => (h.spent row hrow hkind).stays report
  have hlaunched : ∀ row ∈ rows, row.id.kind = .flyingDismount →
      ∃ id ∈ (s.step report).2.kernel.rows, row.id.sequence = id.value := by
    intro row hrow hkind
    obtain ⟨id, hid, hsequence⟩ := h.launched row hrow hkind
    exact ⟨id, mem_rows_step h.orderly hid report, hsequence⟩
  obtain hnone | ⟨diveId, row, hfresh, hmem, hrow, hkind, hsequence⟩
    | ⟨key, hfresh, hafter, honce, hrows⟩ := emitted_cases h.orderly report
  · rw [hnone, List.append_nil]
    exact ⟨hnext, hspent, hlaunched, h.once⟩
  · rw [hrow]
    refine ⟨hnext, fun other hother hne => ?_, fun other hother hdismount => ?_, ?_⟩
    · obtain hold | hother := List.mem_append.mp hother
      · exact hspent other hold hne
      · cases List.mem_singleton.mp hother
        exact absurd hkind hne
    · obtain hold | hother := List.mem_append.mp hother
      · exact hlaunched other hold hdismount
      · cases List.mem_singleton.mp hother
        exact ⟨diveId, hmem, hsequence⟩
    · rw [List.map_append]
      refine List.nodup_append.mpr ⟨h.once, List.nodup_singleton _, ?_⟩
      rintro id hold _ hnew rfl
      cases List.mem_singleton.mp hnew
      obtain ⟨other, hother, hsame⟩ := List.mem_map.mp hold
      obtain ⟨first, hfirst, hvalue⟩ :=
        h.launched other hother ((congrArg (·.kind) hsame).trans hkind)
      have hid : first = diveId := DiveId.value_injective
        (hvalue.symm.trans ((congrArg (·.sequence) hsame).trans hsequence))
      exact hfresh (hid ▸ hfirst)
  · refine ⟨hnext, fun other hother hne => ?_, fun other hother hdismount => ?_, ?_⟩
    · obtain hold | hother := List.mem_append.mp hother
      · exact hspent other hold hne
      · rw [(hrows other hother).2]
        exact hafter
    · obtain hold | hother := List.mem_append.mp hother
      · exact hlaunched other hold hdismount
      · exact absurd hdismount (hrows other hother).1
    · rw [List.map_append]
      refine List.nodup_append.mpr ⟨h.once, honce, ?_⟩
      rintro id hold _ hnew rfl
      obtain ⟨other, hother, hsame⟩ := List.mem_map.mp hold
      obtain ⟨row, hrow, rfl⟩ := List.mem_map.mp hnew
      obtain ⟨hkind, hkey⟩ := hrows row hrow
      have hspentKey := h.spent other hother fun hdismount =>
        hkind ((congrArg (·.kind) hsame).symm.trans hdismount)
      rw [hsame, hkey] at hspentKey
      exact hfresh hspentKey

/-- What the ledger has derived so far is different, and cannot be derived again. -/
structure Derived (s : ShotAccounting) (rows : List GameplayEventRow) : Prop where
  resolved : ∀ row ∈ rows, (row.id.actor, row.id.sourceTick) ∈ s.ledger.resolved
  once : (rows.map (·.id)).Nodup

theorem derived_step {rows : List GameplayEventRow} (h : s.Derived rows) (report : ShotReport) :
    (s.step report).2.Derived (rows ++ s.derived report) := by
  cases report with
  | recordAccepted shot =>
    rw [show s.derived (.recordAccepted shot) = [] from rfl, List.append_nil]
    refine ⟨fun row hrow => ?_, h.once⟩
    change _ ∈ (s.ledger.recordAccepted shot).2.resolved
    rw [ShotAttributionLedger.resolved_recordAccepted]
    exact h.resolved row hrow
  | observeResult authorityEpoch result =>
    change ShotAccounting.Derived _
      (rows ++ (s.ledger.observeResult authorityEpoch result).1.events)
    have hown := s.ledger.own_observeResult authorityEpoch result
    refine ⟨fun row hrow => ?_, ?_⟩
    · obtain hold | hnew := List.mem_append.mp hrow
      · exact ShotAttributionLedger.resolved_observeResult s.ledger authorityEpoch result
          (h.resolved row hold)
      · rw [(hown.events row hnew).2]
        exact (ShotAttributionLedger.live_observeResult
          (ShotAttributionLedger.live_of_events hnew)).2
    · rw [List.map_append]
      refine List.nodup_append.mpr ⟨h.once, hown.once, ?_⟩
      rintro id hold _ hnew rfl
      obtain ⟨other, hother, hsame⟩ := List.mem_map.mp hold
      obtain ⟨row, hrow, rfl⟩ := List.mem_map.mp hnew
      have hresolved := h.resolved other hother
      rw [hsame, (hown.events row hrow).2] at hresolved
      exact (ShotAttributionLedger.live_observeResult
        (ShotAttributionLedger.live_of_events hrow)).1 hresolved
  | call call hcall =>
    rw [show s.derived (.call call hcall) = [] from rfl, List.append_nil]
    exact ⟨h.resolved, h.once⟩
  | pass n =>
    rw [show s.derived (.pass n) = [] from rfl, List.append_nil]
    unfold step
    dsimp only
    cases s.pending[n]? with
    | none => exact h
    | some attribution => exact ⟨h.resolved, h.once⟩

/-! ### Every order of reports -/

/-- The accepted shots that are reported to the kernel under one shooter and tick name one dive. -/
def Consistent (reports : List ShotReport) : Prop :=
  ∀ shot hcall shot' hcall' id id', .call (.recordAcceptedShot shot) hcall ∈ reports →
    .call (.recordAcceptedShot shot') hcall' ∈ reports → shot.shooter = shot'.shooter →
      shot.tick = shot'.tick → shot.diveId = some id → shot'.diveId = some id' → id = id'

theorem reported_of_fired (h : s.Orderly) {reports : List ShotReport} {x : Contribution}
    (hx : x ∈ Runs.history step contributions s reports) (hcounter : x.counter = .fired) :
    ∃ shot hcall, .call (.recordAcceptedShot shot) hcall ∈ reports ∧ x.shooter = shot.shooter
      ∧ x.tick = shot.tick ∧ shot.diveId = some x.diveId := by
  induction reports generalizing s with
  | nil => exact absurd hx List.not_mem_nil
  | cons report reports ih =>
    rw [Runs.history_cons] at hx
    obtain hfirst | hrest := List.mem_append.mp hx
    · obtain ⟨shot, htarget, hshooter, htick, hchanges⟩ := mem_contributions hfirst
      obtain ⟨other, hother, ⟨-, ⟨hcall, rfl⟩, -⟩ | ⟨hnot, -⟩⟩ := fed_of_changes h hchanges
      · cases htarget.symm.trans hother
        refine ⟨shot, hcall, List.mem_cons_self, hshooter, htick, ?_⟩
        obtain ⟨id, hid, heq⟩ := Option.map_eq_some_iff.mp htarget
        cases heq
        exact hid
      · exact absurd hcounter hnot
    · obtain ⟨shot, hcall, hmem, hsame⟩ := ih (orderly_step h report) hrest
      exact ⟨shot, hcall, List.mem_cons_of_mem _ hmem, hsame⟩

/-- Where the reports name one dive for each shot, no shot counts for two. -/
theorem nodup_key {reports : List ShotReport} {xs : List Contribution} (h : s.Tallied xs)
    (hreported : ∀ x ∈ xs, x.counter = .fired → ∃ shot hcall,
      .call (.recordAcceptedShot shot) hcall ∈ reports ∧ x.shooter = shot.shooter
        ∧ x.tick = shot.tick ∧ shot.diveId = some x.diveId)
    (hconsistent : Consistent reports) : (xs.map (·.key)).Nodup := by
  refine h.different.map_on fun x hx y hy hkey => ?_
  by_cases hcounter : x.counter = .fired
  · -- both are fired, so both name the same dive
    have hcounter' : y.counter = .fired := (congrArg (·.1) hkey).symm.trans hcounter
    obtain ⟨shot, hcall, hmem, hshooter, htick, hdive⟩ := hreported x hx hcounter
    obtain ⟨shot', hcall', hmem', hshooter', htick', hdive'⟩ := hreported y hy hcounter'
    have hsame : x.diveId = y.diveId := hconsistent shot hcall shot' hcall' _ _ hmem hmem'
      (hshooter.symm.trans ((congrArg (·.2.1) hkey).trans hshooter'))
      (htick.symm.trans ((congrArg (·.2.2) hkey).trans htick')) hdive hdive'
    exact Contribution.key_diveId_injective hkey hsame
  · have hcounter' : y.counter ≠ .fired := fun hfired =>
      hcounter ((congrArg (·.1) hkey).trans hfired)
    exact List.inj_on_of_nodup_map h.once (List.mem_filter.mpr ⟨hx, decide_eq_true hcounter⟩)
      (List.mem_filter.mpr ⟨hy, decide_eq_true hcounter'⟩) hkey

theorem tallied_nil (h : s.Orderly) : s.Tallied [] :=
  ⟨h, fun _ hx => absurd hx List.not_mem_nil, fun _ hx => absurd hx List.not_mem_nil,
    List.nodup_nil, List.nodup_nil⟩

theorem told_nil (h : s.Orderly) : s.Told [] :=
  ⟨h, fun _ hx => absurd hx List.not_mem_nil, fun _ hx => absurd hx List.not_mem_nil,
    List.nodup_nil⟩

theorem derived_nil (s : ShotAccounting) : s.Derived [] :=
  ⟨fun _ hx => absurd hx List.not_mem_nil, List.nodup_nil⟩

def start (kernel : SaddleDiveKernel) : ShotAccounting := ⟨.empty, kernel, []⟩

theorem orderly_start {tickRate : UInt32} {actor : PlayerId} {authorityEpoch : UInt64}
    {kernel : SaddleDiveKernel}
    (hnew : SaddleDiveKernel.new tickRate actor authorityEpoch = .ok kernel) :
    (start kernel).Orderly := by
  refine ⟨SaddleDiveKernel.sound_new hnew, fun id record hrecord => ?_,
    fun _ ha => absurd ha List.not_mem_nil, fun _ ha => absurd ha List.not_mem_nil,
    fun _ ha => absurd ha List.not_mem_nil, List.nodup_nil⟩
  unfold SaddleDiveKernel.new at hnew
  split_ifs at hnew
  cases hnew
  change (∅ : ExtTreeMap DiveId DiveRecord)[id]? = some record at hrecord
  rw [ExtTreeMap.getElem?_empty] at hrecord
  cases hrecord

/-- **Shots count once.**  In every order of reports, with every repetition, a shot contributes at
most once to each counter of each row; as a hit, a headshot or a reversal of one row at most; and
as fired of one row at most where the accepted shots of one tick name one dive.  No two events have
the same identity, and the counters of every row are in order. -/
theorem shots_counted_once (tickRate : UInt32) (actor : PlayerId) (authorityEpoch : UInt64)
    (kernel : SaddleDiveKernel)
    (hnew : SaddleDiveKernel.new tickRate actor authorityEpoch = .ok kernel)
    (reports : List ShotReport) :
    (Runs.history step contributions (start kernel) reports).Nodup
      ∧ (((Runs.history step contributions (start kernel) reports).filter
        (·.counter ≠ .fired)).map (·.key)).Nodup
      ∧ (Consistent reports →
        ((Runs.history step contributions (start kernel) reports).map (·.key)).Nodup)
      ∧ (∀ before report c id,
        (Runs.run step (start kernel) before).Changes report c id →
          ∃ x ∈ (Runs.run step (start kernel) before).contributions report,
            x.counter = c ∧ x.diveId = id)
      ∧ ((Runs.history step derived (start kernel) reports).map (·.id)).Nodup
      ∧ ((Runs.history step emitted (start kernel) reports).map (·.id)).Nodup
      ∧ ∀ (id : DiveId) (record : DiveRecord),
        (Runs.run step (start kernel) reports).kernel.rows[id]? = some record →
          record.row.headshots ≤ record.row.shotsHit ∧ record.row.shotsHit ≤ record.row.shotsFired
            ∧ record.row.reversalHits ≤ record.row.shotsHit := by
  have hstart := orderly_start hnew
  have htallied := Runs.run_history (C := fun _ _ => True) (P := fun s xs => Tallied s xs)
    (fun s xs report _ h => tallied_step h report) (tallied_nil hstart) (Runs.along_true _ reports)
  have htold := Runs.run_history (C := fun _ _ => True) (P := fun s rows => Told s rows)
    (fun s rows report _ h => told_step h report) (told_nil hstart) (Runs.along_true _ reports)
  have hderived := Runs.run_history (C := fun _ _ => True) (P := fun s rows => Derived s rows)
    (fun s rows report _ h => derived_step h report) (derived_nil (start kernel))
    (Runs.along_true _ reports)
  rw [List.nil_append] at htallied htold hderived
  refine ⟨htallied.different, htallied.once, fun hconsistent => nodup_key htallied
    (fun x hx hcounter => reported_of_fired hstart hx hcounter) hconsistent,
    fun before report c id hchanges => ?_, hderived.once, htold.once, fun id record hrecord => ?_⟩
  · have hbefore : (Runs.run step (start kernel) before).Orderly :=
      Runs.run_invariant (P := fun s => Orderly s) (fun s report h => orderly_step h report) hstart
        before
    exact contributed_of_changes hbefore hchanges
  · have hrow := htallied.orderly.inCount id record hrecord
    exact ⟨UInt16.le_iff_toNat_le.mpr hrow.headshots, hrow.le,
      UInt16.le_iff_toNat_le.mpr hrow.reversalHits⟩

def divingShot (tick : SimulationTick) (dive : UInt64) : AcceptedShotMetadata where
  shooter := .ofTail 1
  tick
  acceptedShotIndex := 1
  weaponId := .dustwalker
  stance := .saddleDiveAirborne
  gait := .gallop
  diveId := DiveId.new dive
  prelaunchHorizontalVelocityMmps := Planar.new 0 (-8000)

/-- A hit on the head. -/
def headshot (tick : SimulationTick) : ShotResult where
  tick
  shooterPeerId := .ofTail 1
  weaponId := .dustwalker
  outcome := .hit
  rejectionReason := none
  resolvedDirection := none
  targetId := none
  hitZone := some .head
  damage := 40
  distanceMm := none
  eliminated := false

def tickReport (input : SaddleDiveTickInput) : ShotReport :=
  .call (.beginTick input) fun _ heq => SaddleDiveCall.noConfusion heq

def shotReport (shot : AcceptedShotMetadata) : ShotReport :=
  .call (.recordAcceptedShot shot) fun _ heq => SaddleDiveCall.noConfusion heq

def resetReport (tick : SimulationTick) : ShotReport :=
  .call (.reset tick) fun _ heq => SaddleDiveCall.noConfusion heq

def reportedTwice : List ShotReport :=
  [tickReport (SaddleDiveKernel.divingInput 1), .recordAccepted (divingShot 1 1),
    .recordAccepted (divingShot 1 1), shotReport (divingShot 1 1), shotReport (divingShot 1 1),
    .observeResult 7 (headshot 1), .observeResult 7 (headshot 1), .pass 0, .pass 0]

/-- It counts as fired, as a hit and as a headshot. -/
theorem shots_counted_once_headshot :
    ∃ kernel, SaddleDiveKernel.new 60 (.ofTail 1) 7 = .ok kernel
      ∧ (Runs.history step contributions (start kernel) reportedTwice).Nodup
      ∧ (Runs.history step contributions (start kernel) reportedTwice).length = 3 := by
  have hlength : (SaddleDiveKernel.new 60 (.ofTail 1) 7).toOption.any
      (fun kernel => decide ((Runs.history step contributions (start kernel)
        reportedTwice).length = 3)) = true := by decide +kernel
  obtain ⟨kernel, hnew, hlength⟩ := Fallible.exists_ok_of_any hlength
  exact ⟨kernel, hnew, (shots_counted_once 60 _ 7 kernel hnew reportedTwice).1,
    hlength⟩

/-- A shot that is reported ahead of its tick for one dive, and again for the next one. -/
def reportedForTwo : List ShotReport :=
  [tickReport (SaddleDiveKernel.divingInput 1), shotReport (divingShot 50 1), resetReport 2,
    tickReport (SaddleDiveKernel.divingInput 50), shotReport (divingShot 50 2)]

/-- **One tick reported for two dives** counts as fired in the rows of both. -/
theorem fired_in_two_rows :
    ∃ kernel, SaddleDiveKernel.new 60 (.ofTail 1) 7 = .ok kernel
      ∧ ¬((Runs.history step contributions (start kernel) reportedForTwo).map (·.key)).Nodup := by
  have htwice : (SaddleDiveKernel.new 60 (.ofTail 1) 7).toOption.any
      (fun kernel => decide (¬((Runs.history step contributions (start kernel)
        reportedForTwo).map (·.key)).Nodup)) = true := by decide +kernel
  obtain ⟨kernel, hnew, htwice⟩ := Fallible.exists_ok_of_any htwice
  exact ⟨kernel, hnew, htwice⟩

end ShotAccounting

end Spurfire
