import Spurfire.Lib.Fallible
import Spurfire.Protocol.SaddleDive

/-!
# Final telemetry rows

When a row of the saddle dive kernel is final, and what may still touch it.

* `Kept` is what the parts of an operation keep, relative to the kernel it started from; `touched`
  is the dive that an operation acts for without asking whether its row is final;
* **`kept_step`**: no other final row changes or is reported, and rows become final once;
* **`telemetry_final_along`**: along calls that act for open rows only, final rows stay as they
  are;
* `telemetry_not_always_final`: a shot attempt after the end of the match changes a final row.
-/

namespace Spurfire

open Std (ExtTreeMap)

namespace SaddleDiveKernel

variable {k k₀ : SaddleDiveKernel} {e : SaddleDiveEffects} {id other : DiveId}
  {turn : SaddleDiveKernel × SaddleDiveEffects} {touches : DiveId → Prop}

/-! ## Final rows -/

/-- The row of a dive has been finalised. -/
def Finalized (k : SaddleDiveKernel) (id : DiveId) : Prop :=
  ∃ record, k.rows[id]? = some record ∧ record.finalized = true

def IsFinal (k : SaddleDiveKernel) (id : DiveId) (row : DiveInstrumentationRow) : Prop :=
  ∃ record, k.rows[id]? = some record ∧ record.finalized = true ∧ record.row = row

theorem IsFinal.finalized {row : DiveInstrumentationRow} (h : k.IsFinal id row) :
    k.Finalized id := by
  obtain ⟨record, hrecord, hfinal, -⟩ := h
  exact ⟨record, hrecord, hfinal⟩

theorem Finalized.isFinal (h : k.Finalized id) : ∃ row, k.IsFinal id row := by
  obtain ⟨record, hrecord, hfinal⟩ := h
  exact ⟨record.row, record, hrecord, hfinal, rfl⟩

/-- Rows carry the dive they are stored under, and the next dive is a new one. -/
structure Sound (k : SaddleDiveKernel) : Prop where
  keyed : ∀ (id : DiveId) (record : DiveRecord), k.rows[id]? = some record → record.row.diveId = id
  fresh : ∀ next ∈ k.nextDiveId, ∀ id ∈ k.rows, id < next

/-- What the parts of an operation that started from `k₀` keep. -/
structure Kept (touches : DiveId → Prop) (k₀ : SaddleDiveKernel)
    (turn : SaddleDiveKernel × SaddleDiveEffects) : Prop where
  sound : turn.1.Sound
  stays : ∀ id, k₀.Finalized id → turn.1.Finalized id
  same : ∀ id row, ¬touches id → k₀.IsFinal id row → turn.1.IsFinal id row
  quiet : ∀ id, ¬touches id → k₀.Finalized id →
    ∀ row ∈ turn.2.telemetryUpdates, row.diveId ≠ id
  reported : ∀ row ∈ turn.2.telemetryFinalized,
    ¬k₀.Finalized row.diveId ∧ turn.1.IsFinal row.diveId row
  once : (turn.2.telemetryFinalized.map (·.diveId)).Nodup

theorem Kept.start (h : k.Sound) : Kept touches k (k, SaddleDiveEffects.empty) where
  sound := h
  stays _ hfinal := hfinal
  same _ _ _ hfinal := hfinal
  quiet _ _ _ _ hrow := absurd hrow List.not_mem_nil
  reported _ hrow := absurd hrow List.not_mem_nil
  once := List.nodup_nil

/-- Other fields and other effects do not matter. -/
theorem Kept.frame {m : SaddleDiveKernel} {d : SaddleDiveEffects} (h : Kept touches k₀ (k, e)) (hrows : m.rows = k.rows)
    (hnext : m.nextDiveId = k.nextDiveId) (hupdates : d.telemetryUpdates = e.telemetryUpdates)
    (hfinalized : d.telemetryFinalized = e.telemetryFinalized) :
    Kept touches k₀ (m, d) := by
  have hdone : ∀ id, m.Finalized id ↔ k.Finalized id := by
    intro id
    unfold Finalized
    rw [hrows]
  have hrow : ∀ id row, m.IsFinal id row ↔ k.IsFinal id row := by
    intro id row
    unfold IsFinal
    rw [hrows]
  refine ⟨⟨?_, ?_⟩, fun id hid => (hdone id).mpr (h.stays id hid),
    fun id row hid hfinal => (hrow id row).mpr (h.same id row hid hfinal), ?_, ?_, ?_⟩
  · rw [hrows]
    exact h.sound.keyed
  · rw [hnext, hrows]
    exact h.sound.fresh
  · rw [hupdates]
    exact h.quiet
  · intro row hmem
    rw [hfinalized] at hmem
    exact ⟨(h.reported row hmem).1, (hrow _ _).mpr (h.reported row hmem).2⟩
  · rw [hfinalized]
    exact h.once

theorem getElem?_modifyRecord (k : SaddleDiveKernel) (id other : DiveId)
    (f : DiveRecord → DiveRecord) : (k.modifyRecord id f).rows[other]?
      = if other = id then k.rows[id]?.map f else k.rows[other]? := by
  unfold modifyRecord
  dsimp only
  rw [ExtTreeMap.getElem?_modify]
  by_cases h : other = id
  · rw [if_pos h, if_pos (by rw [h]; exact Std.ReflCmp.compare_self)]
  · rw [if_neg h, if_neg fun heq => h (Std.LawfulEqCmp.eq_of_compare heq).symm]

theorem mem_modifyRecord {f : DiveRecord → DiveRecord} :
    other ∈ (k.modifyRecord id f).rows ↔ other ∈ k.rows :=
  ExtTreeMap.mem_modify

/-- A change to a record keeps the dive and does not reopen it. -/
def Keeps (f : DiveRecord → DiveRecord) : Prop :=
  ∀ record, (f record).row.diveId = record.row.diveId ∧ (f record).finalized = record.finalized

theorem Sound.modifyRecord {f : DiveRecord → DiveRecord} (h : k.Sound)
    (hf : ∀ record, (f record).row.diveId = record.row.diveId) : (k.modifyRecord id f).Sound := by
  refine ⟨fun other record hrecord => ?_, fun next hnext other hother => ?_⟩
  · rw [getElem?_modifyRecord] at hrecord
    split_ifs at hrecord with hsame
    · obtain ⟨old, hold, rfl⟩ := Option.map_eq_some_iff.mp hrecord
      rw [hf, hsame]
      exact h.keyed id old hold
    · exact h.keyed other record hrecord
  · exact h.fresh next hnext other (mem_modifyRecord.mp hother)

def Open (k : SaddleDiveKernel) (id : DiveId) : Prop := ¬k.Finalized id

namespace Kept

/-- A change that leaves final records alone. -/
theorem modify {f : DiveRecord → DiveRecord} (h : Kept touches k₀ (k, e)) (hf : Keeps f)
    (hfinal : ∀ record, k.rows[id]? = some record → record.finalized = true → f record = record) :
    Kept touches k₀ (k.modifyRecord id f, e) := by
  have hkeep : ∀ (other : DiveId) (record : DiveRecord), k.rows[other]? = some record →
      record.finalized = true →
      (k.modifyRecord id f).rows[other]? = some record := by
    intro other record hrecord hdone
    rw [getElem?_modifyRecord]
    split_ifs with hsame
    · subst hsame
      rw [hrecord, Option.map_some, hfinal record hrecord hdone]
    · exact hrecord
  have hstays : ∀ other row, k.IsFinal other row → (k.modifyRecord id f).IsFinal other row := by
    rintro other row ⟨record, hrecord, hdone, hrow⟩
    exact ⟨record, hkeep other record hrecord hdone, hdone, hrow⟩
  refine ⟨h.sound.modifyRecord fun record => (hf record).1, fun other hother => ?_,
    fun other row hother hrow => hstays other row (h.same other row hother hrow), h.quiet,
    fun row hrow => ⟨(h.reported row hrow).1, hstays _ _ (h.reported row hrow).2⟩, h.once⟩
  obtain ⟨row, hrow⟩ := (h.stays other hother).isFinal
  exact (hstays other row hrow).finalized

/-- A change to a touched record, before anything has become final. -/
theorem modify_touched {f : DiveRecord → DiveRecord} (h : Kept touches k₀ (k, e)) (hf : Keeps f)
    (htouched : touches id) (hnone : e.telemetryFinalized = []) :
    Kept touches k₀ (k.modifyRecord id f, e) := by
  refine ⟨h.sound.modifyRecord fun record => (hf record).1, fun other hother => ?_,
    fun other row hother hrow => ?_, h.quiet, ?_, h.once⟩
  · obtain ⟨record, hrecord, hdone⟩ := h.stays other hother
    by_cases hsame : other = id
    · subst hsame
      refine ⟨f record, ?_, (hf record).2.trans hdone⟩
      rw [getElem?_modifyRecord, if_pos rfl, hrecord]
      rfl
    · exact ⟨record, by rw [getElem?_modifyRecord, if_neg hsame]; exact hrecord, hdone⟩
  · obtain ⟨record, hrecord, hdone⟩ := h.same other row hother hrow
    have hne : other ≠ id := fun heq => hother (heq ▸ htouched)
    exact ⟨record, by rw [getElem?_modifyRecord, if_neg hne]; exact hrecord, hdone⟩
  · intro row hrow
    rw [hnone] at hrow
    exact nomatch hrow

/-- A reported row is the one of the dive, or was reported before. -/
theorem mem_pushUpdate {row : DiveInstrumentationRow}
    (h : row ∈ (k.pushUpdate id e).telemetryUpdates) :
    row ∈ e.telemetryUpdates ∨ ∃ record, k.rows[id]? = some record ∧ row = record.row := by
  unfold SaddleDiveKernel.pushUpdate at h
  cases hrecord : k.rows[id]? with
  | none =>
    rw [hrecord] at h
    exact .inl h
  | some record =>
    rw [hrecord] at h
    dsimp only at h
    split_ifs at h
    · obtain ⟨i, hi⟩ := List.mem_iff_getElem?.mp h
      rw [List.getElem?_modify] at hi
      obtain ⟨old, hold, hrow⟩ := Option.map_eq_some_iff.mp hi
      split_ifs at hrow
      · exact .inr ⟨record, rfl, hrow.symm⟩
      · exact .inl (List.mem_iff_getElem?.mpr ⟨i, hrow ▸ hold⟩)
    · obtain hold | hnew := List.mem_append.mp h
      · exact .inl hold
      · exact .inr ⟨record, rfl, List.mem_singleton.mp hnew⟩

theorem telemetryFinalized_pushUpdate (k : SaddleDiveKernel) (id : DiveId)
    (e : SaddleDiveEffects) : (k.pushUpdate id e).telemetryFinalized = e.telemetryFinalized := by
  unfold SaddleDiveKernel.pushUpdate
  cases k.rows[id]? <;> rfl

/-- A report of a touched dive, or of one whose row was open. -/
theorem pushUpdate (h : Kept touches k₀ (k, e)) (hid : touches id ∨ ¬k₀.Finalized id) :
    Kept touches k₀ (k, k.pushUpdate id e) := by
  refine ⟨h.sound, h.stays, h.same, fun other hother hdone row hrow => ?_, ?_, ?_⟩
  · obtain hold | ⟨record, hrecord, rfl⟩ := mem_pushUpdate hrow
    · exact h.quiet other hother hdone row hold
    · rw [h.sound.keyed id record hrecord]
      rintro rfl
      exact hid.elim hother fun hopen => hopen hdone
  · dsimp only
    rw [telemetryFinalized_pushUpdate]
    exact h.reported
  · dsimp only
    rw [telemetryFinalized_pushUpdate]
    exact h.once

theorem maybeFinalize (h : Kept touches k₀ (k, e)) (id : DiveId) :
    Kept touches k₀ (k.maybeFinalize id e) := by
  unfold SaddleDiveKernel.maybeFinalize
  cases hrecord : k.rows[id]?.filter k.shouldFinalize with
  | none => exact h
  | some record =>
    dsimp only
    obtain ⟨hrecord, hshould⟩ := Option.filter_eq_some_iff.mp hrecord
    have hopen : record.finalized = false := by
      unfold shouldFinalize at hshould
      simp only [Bool.and_eq_true, Bool.not_eq_true'] at hshould
      exact hshould.1
    have hnot : ¬k.Finalized id := by
      rintro ⟨other, hother, hdone⟩
      rw [hrecord] at hother
      cases hother
      rw [hopen] at hdone
      exact nomatch hdone
    have hkey := h.sound.keyed id record hrecord
    have hothers : ∀ other row, k.IsFinal other row →
        (k.modifyRecord id fun record => { record with finalized := true }).IsFinal other row := by
      rintro other row ⟨old, hold, hdone, hrow⟩
      have hne : other ≠ id := fun heq => hnot ⟨old, heq ▸ hold, hdone⟩
      exact ⟨old, by rw [getElem?_modifyRecord, if_neg hne]; exact hold, hdone, hrow⟩
    refine ⟨h.sound.modifyRecord fun _ => rfl, fun other hother => ?_,
      fun other row hother hrow => hothers other row (h.same other row hother hrow), h.quiet,
      fun row hrow => ?_, ?_⟩
    · obtain ⟨row, hrow⟩ := (h.stays other hother).isFinal
      exact (hothers other row hrow).finalized
    · obtain hold | hnew := List.mem_append.mp hrow
      · exact ⟨(h.reported row hold).1, hothers _ _ (h.reported row hold).2⟩
      · rw [List.mem_singleton.mp hnew, hkey]
        refine ⟨fun hfinal => hnot (h.stays id hfinal), { record with finalized := true }, ?_,
          rfl, rfl⟩
        rw [getElem?_modifyRecord, if_pos rfl, hrecord]
        rfl
    · dsimp only
      rw [List.map_append, List.nodup_append]
      refine ⟨h.once, List.nodup_singleton _, fun other hother last hlast => ?_⟩
      obtain ⟨row, hrow, rfl⟩ := List.mem_map.mp hother
      rw [List.map_singleton, List.mem_singleton] at hlast
      rw [hlast, hkey]
      exact fun heq => hnot (heq ▸ (h.reported row hrow).2.finalized)

end Kept

/-! ## Loops over dives -/

theorem nodup_diveIds (k : SaddleDiveKernel) (p : DiveRecord → Bool) : (k.diveIds p).Nodup := by
  unfold diveIds
  refine List.Pairwise.filterMap _ ?_ ExtTreeMap.distinct_keys_toList
  intro entry other hne id hid id' hid'
  split_ifs at hid hid'
  cases hid
  cases hid'
  exact fun heq => hne (by rw [heq]; exact Std.ReflCmp.compare_self)

theorem mem_diveIds {p : DiveRecord → Bool} (h : id ∈ k.diveIds p) :
    ∃ record, k.rows[id]? = some record ∧ p record = true := by
  unfold diveIds at h
  obtain ⟨⟨key, record⟩, hentry, hid⟩ := List.mem_filterMap.mp h
  split_ifs at hid with hp
  cases hid
  exact ⟨record, ExtTreeMap.mem_toList_iff_getElem?_eq_some.mp hentry, hp⟩

theorem open_of_record {record : DiveRecord} (hrecord : k.rows[id]? = some record)
    (hopen : record.finalized = false) : k.Open id := by
  rintro ⟨other, hother, hdone⟩
  rw [hrecord] at hother
  cases hother
  rw [hopen] at hdone
  exact nomatch hdone

/-- A turn of a loop over dives: it keeps what an operation keeps while the row of its dive is
open, and it leaves the other rows alone. -/
structure TurnKeeps (touches : DiveId → Prop) (k₀ : SaddleDiveKernel)
    (body : SaddleDiveKernel × SaddleDiveEffects → DiveId → SaddleDiveKernel × SaddleDiveEffects) :
    Prop where
  kept : ∀ turn id, Kept touches k₀ turn → turn.1.Open id → Kept touches k₀ (body turn id)
  others : ∀ turn id other, other ≠ id → (body turn id).1.rows[other]? = turn.1.rows[other]?

theorem Kept.foldl {ids : List DiveId}
    {body : SaddleDiveKernel × SaddleDiveEffects → DiveId → SaddleDiveKernel × SaddleDiveEffects}
    (hbody : TurnKeeps touches k₀ body) (hnodup : ids.Nodup) (h : Kept touches k₀ turn)
    (hopen : ∀ id ∈ ids, turn.1.Open id) : Kept touches k₀ (ids.foldl body turn) := by
  induction ids generalizing turn with
  | nil => exact h
  | cons id ids ih =>
    obtain ⟨hnew, hnodup⟩ := List.nodup_cons.mp hnodup
    refine ih hnodup (hbody.kept turn id h (hopen id List.mem_cons_self)) fun other hother => ?_
    rintro ⟨record, hrecord, hdone⟩
    have hne : other ≠ id := fun heq => hnew (heq ▸ hother)
    rw [hbody.others turn id other hne] at hrecord
    exact hopen other (List.mem_cons_of_mem _ hother) ⟨record, hrecord, hdone⟩

theorem others_maybeFinalize (k : SaddleDiveKernel) (id : DiveId) (e : SaddleDiveEffects)
    (hne : other ≠ id) : (k.maybeFinalize id e).1.rows[other]? = k.rows[other]? := by
  unfold maybeFinalize
  cases k.rows[id]?.filter k.shouldFinalize with
  | none => rfl
  | some record =>
    dsimp only
    rw [getElem?_modifyRecord, if_neg hne]

theorem others_settleRow (f : DiveInstrumentationRow → DiveInstrumentationRow)
    (turn : SaddleDiveKernel × SaddleDiveEffects) (hne : other ≠ id) :
    (settleRow f turn id).1.rows[other]? = turn.1.rows[other]? := by
  unfold settleRow
  dsimp only
  rw [others_maybeFinalize _ _ _ hne]
  unfold modifyRow
  rw [getElem?_modifyRecord, if_neg hne]

theorem others_attributeDamage (observation : DamageObservation)
    (turn : SaddleDiveKernel × SaddleDiveEffects) (hne : other ≠ id) :
    (attributeDamage observation turn id).1.rows[other]? = turn.1.rows[other]? := by
  unfold attributeDamage
  split_ifs
  · rfl
  · dsimp only
    rw [getElem?_modifyRecord, if_neg hne]

theorem settleRow_keeps {f : DiveInstrumentationRow → DiveInstrumentationRow}
    (hf : ∀ row, (f row).diveId = row.diveId) : TurnKeeps touches k₀ (settleRow f) where
  kept turn id h hopen := by
    have hmodified : Kept touches k₀ (turn.1.modifyRow id f, turn.2) :=
      Kept.modify (e := turn.2) h (fun record => ⟨hf record.row, rfl⟩)
        fun record hrecord hdone => absurd ⟨record, hrecord, hdone⟩ hopen
    have hnot : ¬k₀.Finalized id := fun hdone => hopen (h.stays id hdone)
    exact (hmodified.pushUpdate (.inr hnot)).maybeFinalize id
  others turn id other hne := others_settleRow f turn hne

theorem attributeDamage_keeps (observation : DamageObservation) :
    TurnKeeps touches k₀ (attributeDamage observation) where
  kept turn id h hopen := by
    unfold attributeDamage
    split_ifs
    · exact h
    · have hnot : ¬k₀.Finalized id := fun hdone => hopen (h.stays id hdone)
      refine Kept.pushUpdate (Kept.modify (e := turn.2) h (fun record => ⟨rfl, rfl⟩) ?_) (.inr hnot)
      exact fun record hrecord hdone => absurd ⟨record, hrecord, hdone⟩ hopen
  others turn id other hne := others_attributeDamage observation turn hne

theorem withDeath_diveId (window : UInt64) (tick : SimulationTick) (row : DiveInstrumentationRow) :
    (withDeath window tick row).diveId = row.diveId := by
  unfold withDeath
  cases row.landingTick <;> rfl

theorem open_of_mem_diveIds {p : DiveRecord → Bool}
    (hp : ∀ record, p record = true → record.finalized = false) :
    ∀ id ∈ k.diveIds p, k.Open id := by
  intro id hid
  obtain ⟨record, hrecord, hrow⟩ := mem_diveIds hid
  exact open_of_record hrecord (hp record hrow)

namespace Kept

theorem resolveElapsedDeathWindows (h : Kept touches k₀ (k, e)) (tick : SimulationTick) :
    Kept touches k₀ (k.resolveElapsedDeathWindows tick e) := by
  refine foldl (settleRow_keeps fun _ => rfl) (nodup_diveIds _ _) h (open_of_mem_diveIds ?_)
  intro record hrecord
  simp only [Bool.and_eq_true, Bool.not_eq_true', Bool.or_eq_false_iff] at hrecord
  exact hrecord.1.1

theorem observeDeathInternal (h : Kept touches k₀ (k, e)) (tick : SimulationTick) :
    Kept touches k₀ (k.observeDeathInternal tick e) := by
  refine foldl (settleRow_keeps (withDeath_diveId _ _)) (nodup_diveIds _ _) h
    (open_of_mem_diveIds ?_)
  intro record hrecord
  simp only [Bool.and_eq_true, Bool.not_eq_true'] at hrecord
  exact hrecord.1.1

theorem censorOpenRows (h : k.Sound) (reason : DiveCensorReason) :
    Kept touches k (k.censorOpenRows reason) := by
  refine foldl (settleRow_keeps fun _ => rfl) (nodup_diveIds _ _) (.start h)
    (open_of_mem_diveIds fun record hrecord => ?_)
  simpa using hrecord

theorem recordDamageInWindows (h : Kept touches k₀ (k, e)) (observation : DamageObservation) :
    Kept touches k₀ (k.recordDamageInWindows observation e) := by
  refine foldl (attributeDamage_keeps observation) (nodup_diveIds _ _) h (open_of_mem_diveIds ?_)
  intro record hrecord
  simp only [Bool.and_eq_true, Bool.not_eq_true', Bool.or_eq_false_iff] at hrecord
  exact hrecord.1.1

theorem attributeRetainedDamage (h : Kept touches k₀ (k, e))
    (hid : touches id ∨ ¬k₀.Finalized id) :
    Kept touches k₀ (k.attributeRetainedDamageForDive id e) := by
  unfold attributeRetainedDamageForDive
  generalize k.damageObservations.toList.map _ = observations
  generalize (k, e) = turn at h ⊢
  induction observations generalizing turn with
  | nil => exact h
  | cons observation rest ih =>
    refine ih _ ?_
    have hrecorded := recordDamageInWindows (e := turn.2) h observation
    unfold attributeRetained
    dsimp only
    split_ifs
    · exact pushUpdate (e := (turn.1.recordDamageInWindows observation turn.2).2) hrecorded hid
    · exact hrecorded

end Kept

/-! ## Launching, landing and mounting -/

theorem DiveId_next_lt {id next : DiveId}
    (h : next ∈ (id.value.checkedAdd 1).bind DiveId.new) : id < next := by
  obtain ⟨value, hvalue, hnext⟩ := Option.bind_eq_some_iff.mp h
  have hlt := UInt64.lt_of_checkedAdd_one hvalue
  unfold DiveId.new at hnext
  split_ifs at hnext
  cases hnext
  exact UInt64.lt_iff_toNat_lt.mp hlt

namespace Kept

theorem insert (h : Kept touches k₀ (k, e)) (record : DiveRecord) (hnext : k.nextDiveId = some id)
    (hkey : record.row.diveId = id) :
    ¬k₀.Finalized id ∧ Kept touches k₀ ({ k with
      nextDiveId := (id.value.checkedAdd 1).bind DiveId.new
      rows := k.rows.insert id record }, e) := by
  have hnew : id ∉ k.rows := fun hmem => lt_irrefl _ (h.sound.fresh id hnext id hmem)
  have hothers : ∀ other, k.Finalized other → other ≠ id := by
    rintro other ⟨old, hold, -⟩ rfl
    exact hnew (ExtTreeMap.mem_iff_isSome_getElem?.mpr (by rw [hold]; rfl))
  have hget : ∀ other, other ≠ id → (k.rows.insert id record)[other]? = k.rows[other]? := by
    intro other hne
    rw [ExtTreeMap.getElem?_insert, if_neg fun heq => hne (Std.LawfulEqCmp.eq_of_compare heq).symm]
  have hkeep : ∀ other row, k.IsFinal other row → IsFinal { k with
      nextDiveId := (id.value.checkedAdd 1).bind DiveId.new
      rows := k.rows.insert id record } other row := by
    intro other row hrow
    have hne := hothers other hrow.finalized
    obtain ⟨old, hold, hdone⟩ := hrow
    exact ⟨old, (hget other hne).trans hold, hdone⟩
  refine ⟨fun hdone => hothers id (h.stays id hdone) rfl, ⟨fun other old hold => ?_,
    fun next hnext' other hother => ?_⟩, fun other hother => ?_,
    fun other row hother hrow => hkeep other row (h.same other row hother hrow), h.quiet,
    fun row hrow => ⟨(h.reported row hrow).1, hkeep _ _ (h.reported row hrow).2⟩, h.once⟩
  · by_cases hsame : other = id
    · dsimp only at hold
      rw [hsame, ExtTreeMap.getElem?_insert_self] at hold
      cases hold
      exact hkey.trans hsame.symm
    · exact h.sound.keyed other old ((hget other hsame).symm.trans hold)
  · have hlater := DiveId_next_lt hnext'
    obtain heq | hold := ExtTreeMap.mem_insert.mp hother
    · exact Std.LawfulEqCmp.eq_of_compare heq ▸ hlater
    · exact lt_trans (h.sound.fresh id hnext other hold) hlater
  · obtain ⟨row, hrow⟩ := (h.stays other hother).isFinal
    exact (hkeep other row hrow).finalized

/-- Effects that are not handed out report nothing. -/
theorem drop (h : Kept touches k₀ (k, e)) : Kept touches k₀ (k, SaddleDiveEffects.empty) where
  sound := h.sound
  stays := h.stays
  same := h.same
  quiet _ _ _ _ hrow := absurd hrow List.not_mem_nil
  reported _ hrow := absurd hrow List.not_mem_nil
  once := List.nodup_nil

theorem launchDive (h : Kept touches k₀ (k, e)) (input : SaddleDiveTickInput) :
    Kept touches k₀ ((k.launchDive input e).2, emitted (k.launchDive input e).1) := by
  unfold SaddleDiveKernel.launchDive
  cases hnext : k.nextDiveId with
  | none => exact h.drop
  | some diveId =>
    dsimp only
    obtain ⟨hnot, hinserted⟩ := h.insert ⟨k.launchRow diveId input, ∅, ∅, ∅, ∅, false⟩ hnext rfl
    exact pushUpdate (hinserted.frame rfl rfl rfl rfl) (.inr hnot)

theorem completeRemount (h : Kept touches k₀ (k, e)) (tick : SimulationTick)
    (horsePosition : QuantizedOrigin) (hid : ∀ id ∈ k.stateDiveId, touches id) :
    Kept touches k₀ (k.completeRemount tick horsePosition e) := by
  unfold SaddleDiveKernel.completeRemount
  cases hdive : k.stateDiveId with
  | none => exact h.frame rfl rfl rfl rfl
  | some diveId =>
    dsimp only
    have hkeeps : Keeps (withRemount tick) := by
      intro record
      unfold withRemount
      split_ifs <;> exact ⟨rfl, rfl⟩
    have hmodified : Kept touches k₀ (modifyRecord _ diveId (withRemount tick), _) :=
      (h.frame (m := { k with
        state := .mounted
        stateEnterTick := tick
        stateDiveId := none
        airborne := none
        landing := none })
      (d := (e.transition ⟨k.state, .mounted, tick, some diveId⟩).command
        (.attachRider tick horsePosition)) rfl rfl rfl rfl).modify hkeeps
        fun record _ hdone => by
          unfold withRemount
          rw [hdone]
          rfl
    exact (hmodified.pushUpdate (.inl (hid diveId hdive))).maybeFinalize diveId

theorem applyLandingDamage (h : Kept touches k₀ (k, e)) (id : DiveId) (tick : SimulationTick) :
    Kept touches k₀ (k.applyLandingDamage id tick e) := by
  unfold SaddleDiveKernel.applyLandingDamage
  dsimp only
  generalize k.health.applyLandingCommand _ = applied
  obtain ⟨answer, health⟩ := applied
  cases answer with
  | none => exact h.frame rfl rfl rfl rfl
  | some application =>
    dsimp only
    split_ifs
    · refine observeDeathInternal ?_ tick
      exact h.frame rfl rfl rfl rfl
    · exact h.frame rfl rfl rfl rfl

theorem withLanding_keeps (window : UInt64) (launchTick : SimulationTick)
    (observation : RiderMotionObservation) (slope : UInt32) (bad : Bool) :
    Keeps fun record => { record with
      row := withLanding window launchTick observation slope bad record.row } := by
  intro record
  refine ⟨?_, rfl⟩
  unfold withLanding
  dsimp only
  split_ifs
  · cases record.row.deathTick <;> rfl
  · cases record.row.deathTick <;> rfl
  · rfl

theorem landDive (h : Kept touches k₀ (k, e)) (hnone : e.telemetryFinalized = [])
    (airborne : AirborneState) (observation : RiderMotionObservation) (slope : UInt32)
    (hid : touches airborne.diveId) :
    Kept touches k₀ (k.landDive airborne observation slope e) := by
  have hlanded := (h.frame (m := { k with
      state := .landingProne
      stateEnterTick := observation.tick
      stateDiveId := some airborne.diveId
      airborne := none
      landing := some ⟨airborne.diveId, observation.tick,
        decide (slope > BAD_LANDING_THRESHOLD_MILLIDEGREES)⟩ })
    (d := e.transition
      ⟨k.state, .landingProne, observation.tick, some airborne.diveId⟩)
    rfl rfl rfl rfl).modify_touched (withLanding_keeps k.windowTicks airborne.launchTick observation
      slope (decide (slope > BAD_LANDING_THRESHOLD_MILLIDEGREES))) hid hnone
  have hattributed := hlanded.attributeRetainedDamage (.inl hid)
  unfold SaddleDiveKernel.landDive
  dsimp only
  unfold modifyRow
  generalize attributeRetainedDamageForDive _ airborne.diveId _ = attributed at hattributed ⊢
  have hhurt : Kept touches k₀ (if decide (slope > BAD_LANDING_THRESHOLD_MILLIDEGREES) = true then
      attributed.1.applyLandingDamage airborne.diveId observation.tick attributed.2
      else attributed) := by
    split_ifs
    · exact applyLandingDamage (e := attributed.2) hattributed _ _
    · exact hattributed
  generalize (if decide (slope > BAD_LANDING_THRESHOLD_MILLIDEGREES) = true then
      attributed.1.applyLandingDamage airborne.diveId observation.tick attributed.2
      else attributed) = hurt at hhurt ⊢
  exact (pushUpdate (e := hurt.2) hhurt (.inl hid)).maybeFinalize _

end Kept

/-! ## Operations -/

/-- The timers change neither rows nor reports. -/
theorem recoveryBoundaries_frame (tick : SimulationTick) (fuel : ℕ)
    (turn : SaddleDiveKernel × SaddleDiveEffects) :
    (recoveryBoundaries tick fuel turn).1.rows = turn.1.rows
      ∧ (recoveryBoundaries tick fuel turn).1.nextDiveId = turn.1.nextDiveId
      ∧ (recoveryBoundaries tick fuel turn).2.telemetryUpdates = turn.2.telemetryUpdates
      ∧ (recoveryBoundaries tick fuel turn).2.telemetryFinalized = turn.2.telemetryFinalized := by
  induction fuel generalizing turn with
  | zero => exact ⟨rfl, rfl, rfl, rfl⟩
  | succ fuel ih =>
    obtain ⟨k, e⟩ := turn
    unfold recoveryBoundaries
    cases k.landing with
    | none => exact ⟨rfl, rfl, rfl, rfl⟩
    | some landing =>
      cases k.state with
      | landingProne =>
        dsimp only
        generalize UInt64.satAdd landing.landingTick _ = boundary
        split_ifs
        · exact ⟨rfl, rfl, rfl, rfl⟩
        · exact ih _
      | landingRecovery =>
        dsimp only
        split_ifs
        · exact ⟨rfl, rfl, rfl, rfl⟩
        · exact ih _
      | mounted => exact ⟨rfl, rfl, rfl, rfl⟩
      | saddleDiveAirborne => exact ⟨rfl, rfl, rfl, rfl⟩
      | onFootReady => exact ⟨rfl, rfl, rfl, rfl⟩

theorem recoveryBoundaries_previous (tick : SimulationTick) (fuel : ℕ)
    (turn : SaddleDiveKernel × SaddleDiveEffects) :
    (recoveryBoundaries tick fuel turn).1.previousInteractLevel
      = turn.1.previousInteractLevel := by
  induction fuel generalizing turn with
  | zero => rfl
  | succ fuel ih =>
    obtain ⟨k, e⟩ := turn
    unfold recoveryBoundaries
    cases k.landing with
    | none => rfl
    | some landing =>
      cases k.state with
      | landingProne =>
        dsimp only
        generalize UInt64.satAdd landing.landingTick _ = boundary
        split_ifs
        · rfl
        · exact ih _
      | landingRecovery =>
        dsimp only
        split_ifs
        · rfl
        · exact ih _
      | mounted => rfl
      | saddleDiveAirborne => rfl
      | onFootReady => rfl

theorem enterTick_previous (k : SaddleDiveKernel) (input : SaddleDiveTickInput) :
    (k.enterTick input).1.previousInteractLevel = k.previousInteractLevel :=
  recoveryBoundaries_previous _ _ _

/-- The dive that a call acts for whether or not its row is final: the one a rider mounts after,
the one that lands, the one of a shot attempt. -/
def touched (k : SaddleDiveKernel) : SaddleDiveCall → Option DiveId
  | .beginTick input =>
    let entered := (k.enterTick input).1
    if k.validateIdentity input.actor input.authorityEpoch = .ok ()
        ∧ !k.currentTick.any (input.tick ≤ ·) ∧ entered.state = .onFootReady
        ∧ input.interactPressed ∧ !k.previousInteractLevel ∧ inRemountRange input then
      entered.stateDiveId
    else none
  | .resolveMotion observation =>
    if k.currentTick = some observation.tick ∧ !k.motionResolved ∧ k.state = .saddleDiveAirborne
        ∧ (contactSlope observation).isSome then
      k.airborne.map (·.diveId)
    else none
  | .recordShotAttempt tick =>
    if k.currentTick = some tick ∧ k.state = .saddleDiveAirborne then
      k.stateDiveId.filter fun diveId => k.rows[diveId]?.any (tick ∉ ·.attemptTicks)
    else none
  | _ => none

theorem Kept.interact (h : Kept touches k₀ (k, e)) (input : SaddleDiveTickInput) (edge : Bool)
    (hid : k.state = .onFootReady → edge = true → inRemountRange input = true →
      ∀ id ∈ k.stateDiveId, touches id) :
    Kept touches k₀ ((k.interact input edge e).2,
      emitted ((k.interact input edge e).1.map (·.2))) := by
  unfold SaddleDiveKernel.interact
  cases hstate : k.state with
  | mounted =>
    dsimp only
    have hgrounded : Kept touches k₀ ({ k with mountedHorseGrounded := input.horseGrounded }, e) :=
      h.frame rfl rfl rfl rfl
    split_ifs
    · have hlaunched := hgrounded.launchDive input
      rw [hstate] at hlaunched
      generalize SaddleDiveKernel.launchDive _ input e = launched at hlaunched ⊢
      obtain ⟨answer, next⟩ := launched
      cases answer <;> exact hlaunched
    · exact hgrounded.frame rfl rfl rfl rfl
    · exact h.frame rfl rfl rfl rfl
    · exact h.frame rfl rfl rfl rfl
  | onFootReady =>
    dsimp only
    by_cases hmount : (edge && inRemountRange input) = true
    · rw [if_pos hmount]
      rw [Bool.and_eq_true] at hmount
      have hkept := h.completeRemount input.tick input.horsePosition
        (hid hstate hmount.1 hmount.2)
      generalize k.completeRemount input.tick input.horsePosition e = remounted at hkept ⊢
      exact Kept.frame (e := remounted.2) hkept rfl rfl rfl rfl
    · rw [if_neg hmount]
      exact h
  | saddleDiveAirborne => exact h
  | landingProne => exact h
  | landingRecovery => exact h

theorem kept_beginTick (h : k.Sound) (input : SaddleDiveTickInput) :
    Kept (· ∈ k.touched (.beginTick input)) k
      ((k.step (.beginTick input)).2, (k.step (.beginTick input)).1) := by
  have hstart : Kept (· ∈ k.touched (.beginTick input)) k
      (k, SaddleDiveEffects.empty) := .start h
  unfold step beginTick
  dsimp only
  cases hidentity : k.validateIdentity input.actor input.authorityEpoch with
  | error error => exact hstart
  | ok _ =>
    dsimp only
    by_cases hreplay : k.currentTick.any (input.tick ≤ ·) = true
    · rw [if_pos hreplay]
      exact hstart
    · rw [if_neg hreplay]
      have hentered : Kept (· ∈ k.touched (.beginTick input)) k (k.enterTick input) := by
        obtain ⟨hrows, hnext, hupdates, hfinalized⟩ := recoveryBoundaries_frame input.tick 3
          ({ k with
            currentTick := some input.tick
            motionResolved := false
            riderPosition := input.riderPosition }, SaddleDiveEffects.empty)
        exact hstart.frame hrows hnext hupdates hfinalized
      have hid : (k.enterTick input).1.state = .onFootReady →
          (input.interactPressed && !(k.enterTick input).1.previousInteractLevel) = true →
          inRemountRange input = true →
          ∀ id ∈ (k.enterTick input).1.stateDiveId, id ∈ k.touched (.beginTick input) := by
        intro hfoot hedge hrange id hmem
        rw [enterTick_previous, Bool.and_eq_true] at hedge
        unfold touched
        dsimp only
        rw [if_pos ⟨hidentity, by simpa using hreplay, hfoot, hedge.1, hedge.2, hrange⟩]
        exact hmem
      generalize k.enterTick input = entered at hentered hid ⊢
      have hinteract := Kept.interact (k := { entered.1 with
        previousInteractLevel := input.interactPressed }) (e := entered.2)
        (hentered.frame rfl rfl rfl rfl) input
        (input.interactPressed && !entered.1.previousInteractLevel) hid
      generalize SaddleDiveKernel.interact _ input _ entered.2 = interacted at hinteract ⊢
      obtain ⟨answer, next⟩ := interacted
      cases answer <;> exact hinteract

theorem kept_resolveMotion (h : k.Sound) (observation : RiderMotionObservation) :
    Kept (· ∈ k.touched (.resolveMotion observation)) k
      ((k.step (.resolveMotion observation)).2, (k.step (.resolveMotion observation)).1) := by
  have hstart : Kept (· ∈ k.touched (.resolveMotion observation)) k
      (k, SaddleDiveEffects.empty) := .start h
  unfold step resolveMotion
  dsimp only
  by_cases htick : k.currentTick ≠ some observation.tick
  · rw [if_pos htick]
    exact hstart
  · rw [if_neg htick]
    by_cases hresolved : k.motionResolved = true
    · rw [if_pos hresolved]
      exact hstart
    · rw [if_neg hresolved]
      cases hairborne : k.airborne with
      | none => exact hstart.frame rfl rfl rfl rfl
      | some airborne =>
        dsimp only
        by_cases hstate : k.state ≠ .saddleDiveAirborne
        · rw [if_pos hstate]
          exact hstart.frame rfl rfl rfl rfl
        · rw [if_neg hstate]
          cases hslope : contactSlope observation with
          | none => exact hstart.frame rfl rfl rfl rfl
          | some slope =>
            have hid : airborne.diveId ∈ k.touched (.resolveMotion observation) := by
              unfold touched
              dsimp only
              rw [if_pos ⟨not_not.mp htick, by simpa using hresolved, not_not.mp hstate,
                by rw [hslope]; rfl⟩, hairborne]
              rfl
            have hlanded := Kept.landDive (k := { k with
              motionResolved := true
              riderPosition := observation.riderPosition
              airborne := some airborne })
              (hstart.frame rfl rfl rfl rfl) rfl airborne observation slope hid
            exact hlanded

theorem kept_recordShotAttempt (h : k.Sound) (tick : SimulationTick) :
    Kept (· ∈ k.touched (.recordShotAttempt tick)) k
      ((k.step (.recordShotAttempt tick)).2, (k.step (.recordShotAttempt tick)).1) := by
  have hstart : Kept (· ∈ k.touched (.recordShotAttempt tick)) k
      (k, SaddleDiveEffects.empty) := .start h
  unfold step recordShotAttempt
  dsimp only
  by_cases hrefused : k.currentTick ≠ some tick ∨ k.state ≠ .saddleDiveAirborne
  · rw [if_pos hrefused]
    exact hstart
  · rw [if_neg hrefused]
    rw [not_or, not_not, not_not] at hrefused
    cases hdive : k.stateDiveId with
    | none => exact hstart
    | some diveId =>
      dsimp only
      cases hrecord : k.rows[diveId]? with
      | none => exact hstart
      | some record =>
        dsimp only
        by_cases hseen : tick ∈ record.attemptTicks
        · rw [if_pos hseen]
          exact hstart
        · rw [if_neg hseen]
          have hid : diveId ∈ k.touched (.recordShotAttempt tick) := by
            unfold touched
            dsimp only
            rw [if_pos hrefused, hdive, Option.filter_some, hrecord,
              if_pos (by simpa using hseen)]
            rfl
          refine Kept.pushUpdate (hstart.modify_touched ?_ hid rfl) (.inl hid)
          exact fun _ => ⟨rfl, rfl⟩

theorem withHit_keeps (result : ShotResult) (tick : SimulationTick) :
    Keeps fun record => { record with
      resolvedShots := insert tick record.resolvedShots
      row := withHit result record.row } := by
  intro record
  refine ⟨?_, rfl⟩
  unfold withHit
  dsimp only
  split_ifs <;> rfl

theorem kept_recordAcceptedShot (h : k.Sound) (shot : AcceptedShotMetadata) :
    Kept touches k ((k.step (.recordAcceptedShot shot)).2,
      (k.step (.recordAcceptedShot shot)).1) := by
  have hstart : Kept touches k (k, SaddleDiveEffects.empty) := .start h
  unfold step recordAcceptedShot
  dsimp only
  cases hdive : shot.diveId with
  | none => exact hstart
  | some diveId =>
    dsimp only
    split_ifs with hother
    · exact hstart
    · cases hrecord : k.rows[diveId]? with
      | none => exact hstart
      | some record =>
        dsimp only
        by_cases hrefuses : refusesShot record shot = true
        · rw [if_pos hrefuses]
          exact hstart
        · rw [if_neg hrefuses]
          have hopen : k.Open diveId := by
            refine open_of_record hrecord ?_
            unfold refusesShot at hrefuses
            simp only [Bool.or_eq_true, not_or, Bool.not_eq_true] at hrefuses
            exact hrefuses.1.1.1.1.1
          refine Kept.pushUpdate (hstart.modify ?_ fun record hrecord hdone =>
            absurd ⟨record, hrecord, hdone⟩ hopen) (.inr hopen)
          exact fun _ => ⟨rfl, rfl⟩

theorem kept_recordAuthorityResult (h : k.Sound) (attribution : ShotResultAttribution) :
    Kept touches k ((k.step (.recordAuthorityResult attribution)).2,
      (k.step (.recordAuthorityResult attribution)).1) := by
  have hstart : Kept touches k (k, SaddleDiveEffects.empty) := .start h
  unfold step recordAuthorityResult
  dsimp only
  split_ifs with hother
  · exact hstart
  · cases hshot : attribution.acceptedShot with
    | none => exact hstart
    | some shot =>
      dsimp only
      cases hdive : shot.diveId with
      | none => exact hstart.frame rfl rfl rfl rfl
      | some diveId =>
        dsimp only
        cases hrecord : k.rows[diveId]? with
        | none => exact hstart
        | some record =>
          dsimp only
          by_cases hrefused : (record.finalized || record.acceptedShots[shot.tick]? != some shot
              || decide (shot.tick ∈ record.resolvedShots)) = true
          · rw [if_pos hrefused]
            exact hstart
          · rw [if_neg hrefused]
            have hopen : k.Open diveId := by
              refine open_of_record hrecord ?_
              simp only [Bool.or_eq_true, not_or, Bool.not_eq_true] at hrefused
              exact hrefused.1.1
            have hcounted := Kept.modify (f := fun record => { record with
                resolvedShots := insert shot.tick record.resolvedShots
                row := withHit attribution.result record.row })
              (hstart.frame (m := k)
                (d := SaddleDiveEffects.empty.extendEvents attribution.events) rfl rfl rfl rfl)
              (withHit_keeps attribution.result shot.tick) fun record hrecord hdone =>
                absurd ⟨record, hrecord, hdone⟩ hopen
            exact (hcounted.pushUpdate (.inr hopen)).maybeFinalize diveId

theorem kept_applyExternalDamage (h : k.Sound) (observation : DamageObservation) :
    Kept touches k ((k.step (.applyExternalDamage observation)).2,
      (k.step (.applyExternalDamage observation)).1) := by
  have hstart : Kept touches k (k, SaddleDiveEffects.empty) := .start h
  unfold step applyExternalDamage
  dsimp only
  split_ifs with hother
  · exact hstart
  · generalize k.health.applyExternal observation = applied
    obtain ⟨answer, health⟩ := applied
    cases answer with
    | none => exact hstart.frame rfl rfl rfl rfl
    | some application =>
      have hrecorded := Kept.recordDamageInWindows (k := { k with
        health := health
        damageObservations := k.damageObservations.insert observation.id observation.amount })
        (hstart.frame rfl rfl rfl rfl) observation
      dsimp only
      generalize SaddleDiveKernel.recordDamageInWindows _ observation _ = recorded
        at hrecorded ⊢
      split_ifs
      · exact Kept.observeDeathInternal (e := recorded.2) hrecorded observation.id.tick
      · exact hrecorded

/-- **What one call keeps.**  Rows become final once; a final row changes or is reported again only
where the call acts for its dive. -/
theorem kept_step (h : k.Sound) (call : SaddleDiveCall) :
    Kept (· ∈ k.touched call) k ((k.step call).2, (k.step call).1) := by
  have hstart : Kept (· ∈ k.touched call) k (k, SaddleDiveEffects.empty) := .start h
  cases call with
  | setAuthorityEpoch authorityEpoch =>
    unfold step setAuthorityEpoch
    dsimp only
    split_ifs
    · exact hstart
    · exact hstart.frame rfl rfl rfl rfl
  | beginTick input => exact kept_beginTick h input
  | settleObservationsThrough tick =>
    unfold step settleObservationsThrough
    dsimp only
    split_ifs
    · exact hstart
    · exact Kept.resolveElapsedDeathWindows (k := { k with observationWatermark := some tick })
        (hstart.frame rfl rfl rfl rfl) tick
  | resolveMotion observation => exact kept_resolveMotion h observation
  | recordShotAttempt tick => exact kept_recordShotAttempt h tick
  | recordAcceptedShot shot => exact kept_recordAcceptedShot h shot
  | recordAuthorityResult attribution => exact kept_recordAuthorityResult h attribution
  | applyExternalDamage observation => exact kept_applyExternalDamage h observation
  | observeDeath tick =>
    exact Kept.observeDeathInternal (k := { k with health := k.health.observeDeath })
      (hstart.frame rfl rfl rfl rfl) tick
  | endMatch tick => exact Kept.censorOpenRows h .matchEnded
  | censorNotObserved => exact Kept.censorOpenRows h .notObserved
  | reset tick =>
    have hcensored : Kept (· ∈ k.touched (.reset tick)) k (k.censorOpenRows .reset) :=
      .censorOpenRows h .reset
    unfold step reset
    dsimp only
    generalize k.censorOpenRows .reset = censored at hcensored ⊢
    split_ifs <;> exact Kept.frame (e := censored.2) hcensored rfl rfl rfl rfl

/-! ## Runs -/

theorem sound_new {tickRate : UInt32} {actor : PlayerId} {authorityEpoch : UInt64}
    (h : new tickRate actor authorityEpoch = .ok k) : k.Sound := by
  unfold new at h
  split_ifs at h
  cases h
  exact ⟨fun id record hrecord => absurd hrecord (by simp), fun next _ id hid => absurd hid (by simp)⟩

/-- The dives whose rows a run finalises, in order. -/
def finalizedIds (k : SaddleDiveKernel) (calls : List SaddleDiveCall) : List DiveId :=
  Runs.history step (fun k call => (k.step call).1.telemetryFinalized.map (·.diveId)) k calls

/-- A call leaves a final row as it is and does not report it. -/
def LeavesAlone (row : DiveInstrumentationRow) (k : SaddleDiveKernel) (call : SaddleDiveCall) :
    Prop :=
  (k.step call).2.instrumentationRow row.diveId = some row
    ∧ row.diveId ∉ (k.step call).1.telemetryUpdates.map (·.diveId)

instance instDecidableLeavesAlone (row : DiveInstrumentationRow) (k : SaddleDiveKernel)
    (call : SaddleDiveCall) : Decidable (LeavesAlone row k call) :=
  inferInstanceAs (Decidable (_ ∧ _))

/-- Each row is finalised once, and from then on it neither changes nor is reported. -/
def TelemetryFinal (k : SaddleDiveKernel) (calls : List SaddleDiveCall) : Prop :=
  (k.finalizedIds calls).Nodup ∧
    ∀ before call after, calls = before ++ call :: after →
      ∀ row ∈ ((Runs.run step k before).step call).1.telemetryFinalized,
        ((Runs.run step k before).step call).2.instrumentationRow row.diveId = some row ∧
          Runs.Along step (LeavesAlone row) ((Runs.run step k before).step call).2 after

/-- A remount, a landing contact or a shot attempt acts for a dive whose row is not final. -/
def ActsForOpen (k : SaddleDiveKernel) (call : SaddleDiveCall) : Prop :=
  ((k.touched call).all fun id => !(k.rows[id]?.any (·.finalized))) = true

instance instDecidableActsForOpen (k : SaddleDiveKernel) (call : SaddleDiveCall) :
    Decidable (k.ActsForOpen call) :=
  inferInstanceAs (Decidable (_ = true))

theorem ActsForOpen.not_mem {call : SaddleDiveCall} (h : k.ActsForOpen call)
    (hfinal : k.Finalized id) : id ∉ k.touched call := by
  intro hid
  obtain ⟨record, hrecord, hdone⟩ := hfinal
  unfold ActsForOpen at h
  rw [Option.mem_def.mp hid, Option.all_some, hrecord, Option.any_some, hdone] at h
  exact nomatch h

theorem sound_step (call : SaddleDiveCall) (h : k.Sound) : (k.step call).2.Sound :=
  (kept_step h call).sound

theorem IsFinal.instrumentationRow {row : DiveInstrumentationRow} (h : k.IsFinal id row) :
    k.instrumentationRow id = some row := by
  obtain ⟨record, hrecord, -, rfl⟩ := h
  unfold SaddleDiveKernel.instrumentationRow
  rw [hrecord]
  rfl

/-- The dives finalised so far are distinct, and their rows are final. -/
def FinalizedAre (k : SaddleDiveKernel) (ids : List DiveId) : Prop :=
  k.Sound ∧ ids.Nodup ∧ ∀ id ∈ ids, k.Finalized id

theorem finalizedAre_step {ids : List DiveId} (h : FinalizedAre k ids) (call : SaddleDiveCall) :
    FinalizedAre (k.step call).2 (ids ++ (k.step call).1.telemetryFinalized.map (·.diveId)) := by
  obtain ⟨hsound, hnodup, hfinal⟩ := h
  have hkept := kept_step hsound call
  refine ⟨hkept.sound, ?_, fun id hid => ?_⟩
  · refine List.nodup_append.mpr ⟨hnodup, hkept.once, fun id hid other hother => ?_⟩
    obtain ⟨row, hrow, rfl⟩ := List.mem_map.mp hother
    exact fun heq => (hkept.reported row hrow).1 (heq ▸ hfinal id hid)
  · obtain hold | hnew := List.mem_append.mp hid
    · exact hkept.stays id (hfinal id hold)
    · obtain ⟨row, hrow, rfl⟩ := List.mem_map.mp hnew
      exact (hkept.reported row hrow).2.finalized

/-- Rows become final once, whatever is called. -/
theorem finalizedIds_nodup (h : k.Sound) (calls : List SaddleDiveCall) :
    (k.finalizedIds calls).Nodup := by
  have hnone : FinalizedAre k [] := ⟨h, List.nodup_nil, fun _ hid => absurd hid List.not_mem_nil⟩
  have hrun : FinalizedAre (Runs.run step k calls) ([] ++ k.finalizedIds calls) :=
    Runs.run_history (P := FinalizedAre) (fun k ids call _ h => finalizedAre_step h call) hnone
      (Runs.along_true k calls)
  exact hrun.2.1

theorem IsFinal.step {row : DiveInstrumentationRow} {call : SaddleDiveCall} (hsound : k.Sound)
    (hopen : k.ActsForOpen call) (h : k.IsFinal row.diveId row) :
    (k.step call).2.IsFinal row.diveId row ∧ LeavesAlone row k call := by
  have hkept := kept_step hsound call
  have hnot := hopen.not_mem h.finalized
  have hfinal := hkept.same row.diveId row hnot h
  refine ⟨hfinal, hfinal.instrumentationRow, fun hreported => ?_⟩
  obtain ⟨update, hupdate, heq⟩ := List.mem_map.mp hreported
  exact hkept.quiet row.diveId hnot h.finalized update hupdate heq

/-- **Final rows stay as they are** along calls that act for open rows only. -/
theorem telemetry_final_along (tickRate : UInt32) (actor : PlayerId) (authorityEpoch : UInt64)
    (k : SaddleDiveKernel) (hk : new tickRate actor authorityEpoch = .ok k)
    (calls : List SaddleDiveCall) (hopen : Runs.Along step ActsForOpen k calls) :
    TelemetryFinal k calls := by
  have hsound := sound_new hk
  refine ⟨finalizedIds_nodup hsound calls, ?_⟩
  rintro before call after rfl row hrow
  have hbefore : (Runs.run step k before).Sound :=
    Runs.run_invariant (P := Sound) (fun k call h => sound_step call h) hsound before
  have hkept := kept_step hbefore call
  have hfinal := (hkept.reported row hrow).2
  obtain ⟨-, -, hafter⟩ := Runs.Along.append.mp hopen
  refine ⟨hfinal.instrumentationRow, hafter.of_invariant
    (P := fun k => k.Sound ∧ k.IsFinal row.diveId row) (fun k call hcall h => ?_)
    (fun k call hcall h => ?_) ⟨hkept.sound, hfinal⟩⟩
  · exact ⟨sound_step call h.1, (h.2.step h.1 hcall).1⟩
  · exact (h.2.step h.1 hcall).2

/-- E pressed at a gallop. -/
def divingInput (tick : SimulationTick) : SaddleDiveTickInput where
  tick
  interactPressed := true
  chosenDirection := none
  horseGrounded := true
  horsePosition := ⟨0, 0, 0⟩
  horseVelocityMmps := .new 0 0 (-8000)
  horseGait := .gallop
  equippedWeapon := .dustwalker
  riderPosition := ⟨0, 0, 0⟩
  horseRetrievable := true
  authorityEpoch := 7
  actor := .ofTail 1

/-- The rider falls to level ground. -/
def fallingObservation (tick : SimulationTick) : RiderMotionObservation where
  tick
  riderPosition := ⟨0, 0, 0⟩
  riderVelocityMmps := .new 0 (-1000) (-8000)
  descending := true
  landingNormal := some ⟨0, 1000000, 0⟩
  landingTerrain := .flat

def divingCalls : List SaddleDiveCall :=
  [.beginTick (divingInput 1), .recordShotAttempt 1, .endMatch 1, .reset 2]

/-- A run whose last attempt comes before the end of the match. -/
theorem telemetry_final_divingCalls :
    ∃ k, new 60 (.ofTail 1) 7 = .ok k ∧ TelemetryFinal k divingCalls := by
  have hopen : (new 60 (.ofTail 1) 7).toOption.any (fun k =>
      decide (Runs.Along step ActsForOpen k divingCalls)) = true := by decide +kernel
  obtain ⟨k, hnew, hopen⟩ := Fallible.exists_ok_of_any hopen
  exact ⟨k, hnew, telemetry_final_along 60 _ 7 k hnew divingCalls hopen⟩

/-- **A shot attempt after the end of the match** changes the final row of the dive and reports
it again. -/
theorem telemetry_not_always_final :
    ∃ k, new 60 (.ofTail 1) 7 = .ok k
      ∧ ¬TelemetryFinal k [.beginTick (divingInput 1), .endMatch 1, .recordShotAttempt 1] := by
  have hlate : (new 60 (.ofTail 1) 7).toOption.any (fun k =>
      let flying := Runs.run step k [.beginTick (divingInput 1)]
      decide (∃ row ∈ (flying.step (.endMatch 1)).1.telemetryFinalized,
        ¬Runs.Along step (LeavesAlone row) (flying.step (.endMatch 1)).2
          [.recordShotAttempt 1])) = true := by decide +kernel
  obtain ⟨k, hnew, row, hrow, hchanged⟩ := Fallible.exists_ok_of_any hlate
  refine ⟨k, hnew, fun hfinal => hchanged ?_⟩
  exact (hfinal.2 [.beginTick (divingInput 1)] (.endMatch 1) [.recordShotAttempt 1] rfl row
    hrow).2

end SaddleDiveKernel

end Spurfire
