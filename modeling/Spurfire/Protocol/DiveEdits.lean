import Spurfire.Protocol.DiveLifecycle
import Spurfire.Protocol.DiveTelemetry

/-!
# The edits of telemetry records

Every operation of the saddle dive kernel changes its records by a few edits, each under a guard.

* `RowEdit`, with `apply` and `Guard`: the edits, and what the code has checked before each;
* `Edits`: a record after some edits of a kind; `Evolves`: the records of a kernel so;
* **`evolves_step`**: the edits that each call may make (`allowed`), and the one new record of a
  launch.
-/

namespace Spurfire

open Std (ExtTreeMap)

namespace SaddleDiveKernel

/-- A change to one record. -/
inductive RowEdit
  | finalized
  | elapsed
  | died (tick : SimulationTick)
  | censored (reason : DiveCensorReason)
  | damaged (observation : DamageObservation)
  | landed (launchTick : SimulationTick) (observation : RiderMotionObservation) (slope : UInt32)
    (bad : Bool)
  | remounted (tick : SimulationTick)
  | attempted (tick : SimulationTick)
  | accepted (shot : AcceptedShotMetadata)
  | resolved (shot : AcceptedShotMetadata) (result : ShotResult)

namespace RowEdit

/-- The row that an edit of the row alone leaves. -/
def onRow (record : DiveRecord) (f : DiveInstrumentationRow → DiveInstrumentationRow) :
    DiveRecord :=
  { record with row := f record.row }

def apply (window : UInt64) : RowEdit → DiveRecord → DiveRecord
  | finalized, record => { record with finalized := true }
  | elapsed, record => onRow record fun row => { row with deathWithin3s := some false }
  | died tick, record => onRow record (withDeath window tick)
  | censored reason, record => onRow record fun row => { row with censorReason := some reason }
  | damaged observation, record => { record with
      attributedDamageObservations := insert observation.id record.attributedDamageObservations
      row := { record.row with
        damageTakenLandingThrough3s :=
          record.row.damageTakenLandingThrough3s.satAdd observation.amount.toUInt32 } }
  | landed launchTick observation slope bad, record =>
    onRow record (withLanding window launchTick observation slope bad)
  | remounted tick, record => withRemount tick record
  | attempted tick, record => { record with
      attemptTicks := insert tick record.attemptTicks
      row := { record.row with shotAttempts := record.row.shotAttempts.satAdd 1 } }
  | accepted shot, record => { record with
      acceptedShots := record.acceptedShots.insert shot.tick shot
      row := { record.row with shotsFired := record.row.shotsFired.satAdd 1 } }
  | resolved shot result, record => { record with
      resolvedShots := insert shot.tick record.resolvedShots
      row := withHit result record.row }

/-- What has been checked before an edit. -/
def Guard (window : UInt64) : RowEdit → DiveRecord → Prop
  | finalized, record => record.finalized = false
  | elapsed, record => record.finalized = false ∧ record.row.deathWithin3s = none
    ∧ record.row.landingTick.isSome = true
  | died tick, record => record.finalized = false ∧ record.row.deathTick = none
    ∧ record.row.launchTick ≤ tick
  | censored _, record => record.finalized = false
  | damaged observation, record => record.finalized = false
    ∧ observation.id ∉ record.attributedDamageObservations
    ∧ ∃ landing, record.row.landingTick = some landing ∧ landing ≤ observation.id.tick
      ∧ observation.id.tick ≤ landing.satAdd window
  | landed _ _ _ _, record => record.row.landingTick = none
  | remounted _, record => record.finalized = false ∧ record.row.remountTick = none
  | attempted tick, record => tick ∉ record.attemptTicks
  | accepted shot, record => refusesShot record shot = false
  | resolved shot _, record => record.finalized = false
    ∧ record.acceptedShots[shot.tick]? = some shot ∧ shot.tick ∉ record.resolvedShots

end RowEdit

/-- A record after some edits of a kind, each under its guard. -/
inductive Edits (window : UInt64) (A : RowEdit → Prop) : DiveRecord → DiveRecord → Prop
  | refl (record : DiveRecord) : Edits window A record record
  | edit {record record' : DiveRecord} (edit : RowEdit) (hkind : A edit)
    (hguard : edit.Guard window record)
    (hrest : Edits window A (edit.apply window record) record') : Edits window A record record'

namespace Edits

variable {window : UInt64} {A B : RowEdit → Prop} {record record' record'' : DiveRecord}

theorem single {edit : RowEdit} (hkind : A edit) (hguard : edit.Guard window record) :
    Edits window A record (edit.apply window record) := .edit edit hkind hguard (.refl _)

theorem trans (h : Edits window A record record') (h' : Edits window A record' record'') :
    Edits window A record record'' := by
  induction h with
  | refl => exact h'
  | edit edit hkind hguard _ ih => exact .edit edit hkind hguard (ih h')

theorem keeps {I : DiveRecord → Prop} (h : Edits window A record record')
    (hkeep : ∀ edit record, A edit → edit.Guard window record → I record →
      I (edit.apply window record)) (hI : I record) : I record' := by
  induction h with
  | refl => exact hI
  | edit edit hkind hguard _ ih => exact ih (hkeep edit _ hkind hguard hI)

end Edits

/-! ## Kernels -/

variable {k k' k'' : SaddleDiveKernel} {e : SaddleDiveEffects} {id other : DiveId}
  {turn : SaddleDiveKernel × SaddleDiveEffects} {window : UInt64}

theorem windowTicks_of_drive (h : k'.drive = k.drive) : k'.windowTicks = k.windowTicks := by
  change k'.drive.windowTicks = k.drive.windowTicks
  rw [h]

/-- An edit without effect. -/
theorem rows_modifyRecord_same {f : DiveRecord → DiveRecord}
    (h : ∀ record, k.rows[id]? = some record → f record = record) :
    (k.modifyRecord id f).rows = k.rows := by
  refine ExtTreeMap.ext_getElem? fun other => ?_
  rw [getElem?_modifyRecord]
  split_ifs with hsame
  · rw [hsame]
    cases hrecord : k.rows[id]? with
    | none => rfl
    | some record => rw [Option.map_some, h record hrecord]
  · rfl

/-- The same dives, and each record after edits of its kinds. -/
def Evolves (window : UInt64) (A : DiveId → RowEdit → Prop) (k k' : SaddleDiveKernel) : Prop :=
  ∀ id, (k.rows[id]? = none ∧ k'.rows[id]? = none)
    ∨ ∃ record record', k.rows[id]? = some record ∧ k'.rows[id]? = some record'
      ∧ Edits window (A id) record record'

namespace Evolves

variable {A B : DiveId → RowEdit → Prop}

theorem of_rows (h : k'.rows = k.rows) : Evolves window A k k' := by
  intro id
  rw [h]
  cases hrecord : k.rows[id]? with
  | none => exact .inl ⟨rfl, rfl⟩
  | some record => exact .inr ⟨record, record, rfl, rfl, .refl record⟩

theorem trans (h : Evolves window A k k') (h' : Evolves window A k' k'') :
    Evolves window A k k'' := by
  intro id
  obtain ⟨hnone, hnone'⟩ | ⟨record, record', hrecord, hrecord', hedits⟩ := h id
  · obtain ⟨-, hnone''⟩ | ⟨record, -, hrecord, -⟩ := h' id
    · exact .inl ⟨hnone, hnone''⟩
    · rw [hnone'] at hrecord
      cases hrecord
  · obtain ⟨hnone, -⟩ | ⟨middle, record'', hmiddle, hrecord'', hedits'⟩ := h' id
    · rw [hrecord'] at hnone
      cases hnone
    · rw [hrecord'] at hmiddle
      cases hmiddle
      exact .inr ⟨record, record'', hrecord, hrecord'', hedits.trans hedits'⟩

theorem modify {record : DiveRecord} {d : RowEdit} (hrecord : k.rows[id]? = some record)
    (hkind : A id d) (hguard : d.Guard window record) :
    Evolves window A k (k.modifyRecord id (d.apply window)) := by
  intro other
  rw [getElem?_modifyRecord]
  split_ifs with hsame
  · subst hsame
    rw [hrecord]
    exact .inr ⟨record, _, rfl, rfl, .single hkind hguard⟩
  · exact of_rows rfl other

theorem maybeFinalize (hkind : ∀ id, A id .finalized) (k : SaddleDiveKernel) (id : DiveId)
    (e : SaddleDiveEffects) : Evolves window A k (k.maybeFinalize id e).1 := by
  unfold SaddleDiveKernel.maybeFinalize
  cases hfinal : k.rows[id]?.filter k.shouldFinalize with
  | none => exact of_rows rfl
  | some record =>
    obtain ⟨hrecord, hshould⟩ := Option.filter_eq_some_iff.mp hfinal
    unfold shouldFinalize at hshould
    simp only [Bool.and_eq_true, Bool.not_eq_true'] at hshould
    exact modify hrecord (hkind id) hshould.1

/-- A loop over different dives, each turn of which edits the record of its own dive. -/
theorem foldl {t : SaddleDiveKernel × SaddleDiveEffects} {p : DiveRecord → Prop} {ids : List DiveId}
    {body : SaddleDiveKernel × SaddleDiveEffects → DiveId → SaddleDiveKernel × SaddleDiveEffects}
    (hbody : ∀ turn id record, turn.1.rows[id]? = some record → p record →
      Evolves window A turn.1 (body turn id).1)
    (hothers : ∀ turn id other, other ≠ id → (body turn id).1.rows[other]? = turn.1.rows[other]?)
    (hnodup : ids.Nodup) (hids : ∀ id ∈ ids, ∃ record, t.1.rows[id]? = some record ∧ p record) :
    Evolves window A t.1 (ids.foldl body t).1 := by
  induction ids generalizing t with
  | nil => exact of_rows rfl
  | cons id ids ih =>
    obtain ⟨hnew, hnodup⟩ := List.nodup_cons.mp hnodup
    obtain ⟨record, hrecord, hp⟩ := hids id List.mem_cons_self
    refine (hbody t id record hrecord hp).trans (ih hnodup fun other hother => ?_)
    rw [hothers t id other fun heq => hnew (heq ▸ hother)]
    exact hids other (List.mem_cons_of_mem _ hother)

theorem settleRow {d : RowEdit} {f : DiveInstrumentationRow → DiveInstrumentationRow}
    (hf : d.apply window = fun record => RowEdit.onRow record f) (hkind : ∀ id, A id d)
    (hfinal : ∀ id, A id .finalized) {p : DiveRecord → Bool}
    (hp : ∀ record, p record = true → d.Guard window record) (k : SaddleDiveKernel)
    (e : SaddleDiveEffects) :
    Evolves window A k ((k.diveIds p).foldl (SaddleDiveKernel.settleRow f) (k, e)).1 := by
  refine foldl (t := (k, e)) (p := fun record => p record = true)
    (fun turn id record hrecord hrow => ?_) (fun turn id other hne => others_settleRow f turn hne)
    (nodup_diveIds k p) fun id hid => mem_diveIds hid
  refine trans ?_ (maybeFinalize hfinal _ id _)
  have hmodified := modify (A := A) hrecord (hkind id) (hp record hrow)
  rw [hf] at hmodified
  exact hmodified

theorem resolveElapsedDeathWindows (hkind : ∀ id, A id .elapsed) (hfinal : ∀ id, A id .finalized)
    (k : SaddleDiveKernel) (tick : SimulationTick) (e : SaddleDiveEffects) :
    Evolves window A k (k.resolveElapsedDeathWindows tick e).1 := by
  refine settleRow (d := .elapsed) rfl hkind hfinal (fun record hp => ?_) k e
  simp only [Bool.and_eq_true, Bool.not_eq_true', Bool.or_eq_false_iff] at hp
  obtain ⟨⟨hopen, hnone⟩, hlanded⟩ := hp
  exact ⟨hopen, Option.isSome_eq_false_iff.mp hnone |> Option.isNone_iff_eq_none.mp,
    Option.isSome_of_any hlanded⟩

theorem observeDeathInternal {tick : SimulationTick} (hkind : ∀ id, A id (.died tick))
    (hfinal : ∀ id, A id .finalized) (hwindow : k.windowTicks = window) (e : SaddleDiveEffects) :
    Evolves window A k (k.observeDeathInternal tick e).1 := by
  refine settleRow (d := .died tick) (by rw [← hwindow]; rfl) hkind hfinal
    (fun record hp => ?_) k e
  simp only [Bool.and_eq_true, Bool.not_eq_true', decide_eq_true_eq,
    Option.isNone_iff_eq_none] at hp
  exact ⟨hp.1.1, hp.1.2, hp.2⟩

theorem censorOpenRows {reason : DiveCensorReason} (hkind : ∀ id, A id (.censored reason))
    (hfinal : ∀ id, A id .finalized) (k : SaddleDiveKernel) :
    Evolves window A k (k.censorOpenRows reason).1 := by
  refine settleRow (d := .censored reason) rfl hkind hfinal (fun record hp => ?_) k _
  change record.finalized = false
  simpa using hp

theorem recordDamageInWindows {observation : DamageObservation}
    (hkind : ∀ id, A id (.damaged observation)) (hwindow : k.windowTicks = window)
    (e : SaddleDiveEffects) : Evolves window A k (k.recordDamageInWindows observation e).1 := by
  refine foldl (t := (k, e)) (p := RowEdit.Guard window (.damaged observation))
    (fun turn id record hrecord hguard => ?_)
    (fun turn id other hne => others_attributeDamage observation turn hne)
    (nodup_diveIds k _) fun id hid => ?_
  · unfold attributeDamage
    rw [hrecord, Option.any_some, if_neg (by simpa using hguard.2.1)]
    exact modify hrecord (hkind id) hguard
  · obtain ⟨record, hrecord, hp⟩ := mem_diveIds hid
    simp only [Bool.and_eq_true, Bool.not_eq_true', Bool.or_eq_false_iff, decide_eq_false_iff_not,
      hwindow] at hp
    obtain ⟨⟨hopen, hnew⟩, hlanded⟩ := hp
    obtain ⟨landing, hlanding, hbounds⟩ := (Option.any_eq_true _ _).mp hlanded
    simp only [Bool.and_eq_true, decide_eq_true_eq] at hbounds
    exact ⟨record, hrecord, hopen, hnew, landing, hlanding, hbounds⟩

theorem attributeRetainedDamage {t : SaddleDiveKernel × SaddleDiveEffects}
    {observations : List DamageObservation}
    (hkind : ∀ id, ∀ observation ∈ observations, A id (.damaged observation))
    (hwindow : t.1.windowTicks = window) (id : DiveId) :
    Evolves window A t.1 (observations.foldl (attributeRetained id) t).1 := by
  induction observations generalizing t with
  | nil => exact of_rows rfl
  | cons observation rest ih =>
    have hrate := (windowTicks_of_drive
      (sameDrive_attributeRetained id t observation).drive).trans hwindow
    have hrecorded := recordDamageInWindows (k := t.1) (A := A)
      (fun id => hkind id observation List.mem_cons_self) hwindow t.2
    refine trans ?_ (ih (fun id o ho => hkind id o (List.mem_cons_of_mem _ ho)) hrate)
    unfold attributeRetained
    dsimp only
    split_ifs
    · exact hrecorded
    · exact hrecorded

end Evolves

/-! ## The calls -/

/-- The rider dies of an observation that is delivered. -/
def Kills (k : SaddleDiveKernel) (observation : DamageObservation) : Prop :=
  observation.id.actor = k.actor ∧ observation.id.authorityEpoch = k.authorityEpoch
    ∧ (k.health.applyExternal observation).1.any (·.died) = true

/-- The edits that a call may make to the record of a dive. -/
def allowed (k : SaddleDiveKernel) : SaddleDiveCall → DiveId → RowEdit → Prop
  | .beginTick input, id, edit => edit = .finalized
    ∨ k.touched (.beginTick input) = some id ∧ edit = .remounted input.tick
  | .settleObservationsThrough _, _, edit => edit = .finalized ∨ edit = .elapsed
  | .resolveMotion observation, id, edit => k.currentTick = some observation.tick
    ∧ (edit = .finalized ∨ edit = .died observation.tick
      ∨ (∃ damage amount, k.damageObservations[damage]? = some amount
        ∧ edit = .damaged ⟨damage, amount⟩)
      ∨ ∃ (airborne : AirborneState) (slope : UInt32),
        k.touched (.resolveMotion observation) = some id
        ∧ edit = .landed airborne.launchTick observation slope
          (decide (slope > BAD_LANDING_THRESHOLD_MILLIDEGREES)))
  | .recordShotAttempt tick, _, edit => edit = .attempted tick
  | .recordAcceptedShot shot, id, edit => shot.diveId = some id ∧ edit = .accepted shot
  | .recordAuthorityResult attribution, id, edit => edit = .finalized
    ∨ ∃ shot, attribution.acceptedShot = some shot ∧ shot.diveId = some id
      ∧ edit = .resolved shot attribution.result
  | .applyExternalDamage observation, _, edit => edit = .finalized
    ∨ edit = .damaged observation ∨ k.Kills observation ∧ edit = .died observation.id.tick
  | .observeDeath tick, _, edit => edit = .finalized ∨ edit = .died tick
  | .endMatch _, _, edit => edit = .finalized ∨ edit = .censored .matchEnded
  | .censorNotObserved, _, edit => edit = .finalized ∨ edit = .censored .notObserved
  | .reset _, _, edit => edit = .finalized ∨ edit = .censored .reset
  | .setAuthorityEpoch _, _, _ => False

theorem evolves_completeRemount {A : DiveId → RowEdit → Prop} (k : SaddleDiveKernel)
    (tick : SimulationTick) (horsePosition : QuantizedOrigin) (e : SaddleDiveEffects)
    (hkind : ∀ id ∈ k.stateDiveId, A id (.remounted tick)) (hfinal : ∀ id, A id .finalized) :
    Evolves window A k (k.completeRemount tick horsePosition e).1 := by
  unfold completeRemount
  cases hdive : k.stateDiveId with
  | none => exact .of_rows rfl
  | some diveId =>
    dsimp only
    refine Evolves.trans ?_ (.maybeFinalize hfinal _ diveId _)
    by_cases hopen : ∃ record, k.rows[diveId]? = some record ∧ record.finalized = false
        ∧ record.row.remountTick = none
    · obtain ⟨record, hrecord, hguard⟩ := hopen
      exact .modify (k := { k with
        state := .mounted
        stateEnterTick := tick
        stateDiveId := none
        airborne := none
        landing := none }) (d := .remounted tick) hrecord (hkind diveId hdive) hguard
    · -- a final record and a second remount change nothing
      refine .of_rows (rows_modifyRecord_same fun record hrecord => ?_)
      unfold withRemount
      refine if_neg fun hguard => hopen ⟨record, hrecord, ?_⟩
      simpa using hguard

theorem evolves_applyLandingDamage {A : DiveId → RowEdit → Prop} {tick : SimulationTick}
    (hkind : ∀ id, A id (.died tick)) (hfinal : ∀ id, A id .finalized)
    (hwindow : k.windowTicks = window) (id : DiveId) (e : SaddleDiveEffects) :
    Evolves window A k (k.applyLandingDamage id tick e).1 := by
  unfold applyLandingDamage
  dsimp only
  generalize k.health.applyLandingCommand _ = applied
  obtain ⟨answer, health⟩ := applied
  cases answer with
  | none => exact .of_rows rfl
  | some application =>
    dsimp only
    split_ifs
    · exact Evolves.observeDeathInternal (k := { k with health }) hkind hfinal hwindow _
    · exact .of_rows rfl

/-- The kernel when the rider touches the ground. -/
def touchDown (k : SaddleDiveKernel) (airborne : AirborneState)
    (observation : RiderMotionObservation) (slope : UInt32) : SaddleDiveKernel :=
  let bad := decide (slope > BAD_LANDING_THRESHOLD_MILLIDEGREES)
  { k with
    state := .landingProne
    stateEnterTick := observation.tick
    stateDiveId := some airborne.diveId
    airborne := none
    landing := some ⟨airborne.diveId, observation.tick, bad⟩ }.modifyRow airborne.diveId
    (withLanding k.windowTicks airborne.launchTick observation slope bad)

section landing

variable {A : DiveId → RowEdit → Prop} {airborne : AirborneState}
  {observation : RiderMotionObservation} {slope : UInt32}

theorem evolves_touchDown
    (hlanded : A airborne.diveId (.landed airborne.launchTick observation slope
      (decide (slope > BAD_LANDING_THRESHOLD_MILLIDEGREES)))) :
    Evolves k.windowTicks A k (k.touchDown airborne observation slope) := by
  by_cases hopen : ∃ record, k.rows[airborne.diveId]? = some record
      ∧ record.row.landingTick = none
  · obtain ⟨record, hrecord, hnone⟩ := hopen
    exact .modify (k := { k with
      state := .landingProne
      stateEnterTick := observation.tick
      stateDiveId := some airborne.diveId
      airborne := none
      landing := some ⟨airborne.diveId, observation.tick,
        decide (slope > BAD_LANDING_THRESHOLD_MILLIDEGREES)⟩ })
      (d := .landed airborne.launchTick observation slope _) hrecord hlanded hnone
  · refine .of_rows (rows_modifyRecord_same fun record hrecord => ?_)
    have hsome : ¬record.row.landingTick.isNone = true := fun hnone =>
      hopen ⟨record, hrecord, Option.isNone_iff_eq_none.mp hnone⟩
    unfold withLanding
    rw [if_neg hsome]

/-- What a landing does once the retained damage has been counted. -/
theorem evolves_hurt (hfinal : ∀ id, A id .finalized)
    (hdied : ∀ id, A id (.died observation.tick)) (e : SaddleDiveEffects) :
    Evolves k.windowTicks A ((k.touchDown airborne observation
      slope).attributeRetainedDamageForDive airborne.diveId
        (e.transition ⟨k.state, .landingProne, observation.tick, some airborne.diveId⟩)).1
      (k.landDive airborne observation slope e).1 := by
  refine Evolves.trans ?_ (.maybeFinalize hfinal _ airborne.diveId _)
  split_ifs
  · exact evolves_applyLandingDamage hdied hfinal (windowTicks_of_drive
      (sameDrive_attributeRetainedDamage _ airborne.diveId _).drive) _ _
  · exact .of_rows rfl

/-- What follows the landing itself. -/
theorem evolves_landed (hfinal : ∀ id, A id .finalized)
    (hdied : ∀ id, A id (.died observation.tick))
    (hdamaged : ∀ id damage amount, k.damageObservations[damage]? = some amount →
      A id (.damaged ⟨damage, amount⟩)) (e : SaddleDiveEffects) :
    Evolves k.windowTicks A (k.touchDown airborne observation slope)
      (k.landDive airborne observation slope e).1 := by
  refine Evolves.trans ?_ (evolves_hurt hfinal hdied e)
  refine Evolves.attributeRetainedDamage (t := (k.touchDown airborne observation slope, _))
    (fun id damage hdamage => ?_) rfl _
  obtain ⟨⟨damageId, amount⟩, hentry, rfl⟩ := List.mem_map.mp hdamage
  exact hdamaged id damageId amount (ExtTreeMap.mem_toList_iff_getElem?_eq_some.mp hentry)

theorem drive_landDive (e : SaddleDiveEffects) :
    (k.landDive airborne observation slope e).1.drive
      = (k.touchDown airborne observation slope).drive := by
  have hattributed := sameDrive_attributeRetainedDamage (k.touchDown airborne observation slope)
    airborne.diveId
    (e.transition ⟨k.state, .landingProne, observation.tick, some airborne.diveId⟩)
  refine (sameDrive_maybeFinalize _ airborne.diveId _).drive.trans ?_
  split_ifs
  · exact (sameDrive_applyLandingDamage _ _ _ _).drive.trans hattributed.drive
  · exact hattributed.drive

end landing

/-! ## Launches -/

/-- The record of a dive before anything has happened to it. -/
structure Fresh (record : DiveRecord) : Prop where
  finalized : record.finalized = false
  accepted : record.acceptedShots = ∅
  resolved : record.resolvedShots = ∅
  attributed : record.attributedDamageObservations = ∅
  landing : record.row.landingTick = none
  landingDamage : record.row.landingDamage = 0
  taken : record.row.damageTakenLandingThrough3s = 0
  death : record.row.deathTick = none
  within : record.row.deathWithin3s = none
  remount : record.row.remountTick = none
  censor : record.row.censorReason = none
  counts : record.row.shotsFired = 0 ∧ record.row.shotsHit = 0 ∧ record.row.headshots = 0
    ∧ record.row.reversalHits = 0

theorem Fresh.launched (k : SaddleDiveKernel) (id : DiveId) (input : SaddleDiveTickInput) :
    Fresh ⟨k.launchRow id input, ∅, ∅, ∅, ∅, false⟩ :=
  ⟨rfl, rfl, rfl, rfl, rfl, rfl, rfl, rfl, rfl, rfl, rfl, rfl, rfl, rfl, rfl⟩

/-- A new record and no other change. -/
structure Launches (k k' : SaddleDiveKernel) (tick : SimulationTick) (id : DiveId)
    (record : DiveRecord) : Prop where
  next : k.nextDiveId = some id
  fresh : Fresh record
  tick : record.row.launchTick = tick
  rows : k'.rows = k.rows.insert id record

theorem rows_recoveryBoundaries (tick : SimulationTick) (fuel : ℕ)
    (turn : SaddleDiveKernel × SaddleDiveEffects) :
    (recoveryBoundaries tick fuel turn).1.rows = turn.1.rows :=
  (recoveryBoundaries_frame tick fuel turn).1

theorem launches_launchDive (k : SaddleDiveKernel) (input : SaddleDiveTickInput)
    (e : SaddleDiveEffects) : (k.launchDive input e).2.rows = k.rows
      ∨ ∃ id record, Launches k (k.launchDive input e).2 input.tick id record := by
  unfold launchDive
  cases hnext : k.nextDiveId with
  | none => exact .inl rfl
  | some diveId => exact .inr ⟨diveId, _, hnext, .launched k diveId input, rfl, rfl⟩

theorem evolves_beginTick (k : SaddleDiveKernel) (input : SaddleDiveTickInput) :
    Evolves k.windowTicks (k.allowed (.beginTick input)) k (k.step (.beginTick input)).2
      ∨ ∃ id record, Launches k (k.step (.beginTick input)).2 input.tick id record := by
  unfold step beginTick
  dsimp only
  cases hidentity : k.validateIdentity input.actor input.authorityEpoch with
  | error error => exact .inl (.of_rows rfl)
  | ok _ =>
    dsimp only
    by_cases hreplay : k.currentTick.any (input.tick ≤ ·) = true
    · rw [if_pos hreplay]
      exact .inl (.of_rows rfl)
    · rw [if_neg hreplay]
      have hrows : (k.enterTick input).1.rows = k.rows := rows_recoveryBoundaries _ _ _
      have hnext : (k.enterTick input).1.nextDiveId = k.nextDiveId :=
        (recoveryBoundaries_frame _ _ _).2.1
      have htouched : (k.enterTick input).1.state = .onFootReady →
          ((input.interactPressed && !(k.enterTick input).1.previousInteractLevel)
            && inRemountRange input) = true →
          k.touched (.beginTick input) = (k.enterTick input).1.stateDiveId := by
        intro hfoot hedge
        rw [enterTick_previous, Bool.and_eq_true, Bool.and_eq_true] at hedge
        exact if_pos ⟨hidentity, by simpa using hreplay, hfoot, hedge.1.1, hedge.1.2, hedge.2⟩
      generalize k.enterTick input = entered at hrows hnext htouched ⊢
      unfold interact
      dsimp only
      cases hstate : entered.1.state with
      | mounted =>
        dsimp only
        split_ifs
        · obtain hsame | ⟨id, record, hlaunch⟩ := launches_launchDive { entered.1 with
            state := .mounted
            previousInteractLevel := input.interactPressed
            mountedHorseGrounded := input.horseGrounded } input entered.2
          · exact .inl (.of_rows (hsame.trans hrows))
          · refine .inr ⟨id, record, hnext.symm.trans hlaunch.next, hlaunch.fresh, hlaunch.tick, ?_⟩
            rw [← hrows]
            exact hlaunch.rows
        · exact .inl (.of_rows hrows)
        · exact .inl (.of_rows hrows)
        · exact .inl (.of_rows hrows)
      | onFootReady =>
        dsimp only
        split_ifs with hmount
        · left
          have hremounted := @evolves_completeRemount k.windowTicks (k.allowed (.beginTick input))
            { entered.1 with
              state := .onFootReady
              previousInteractLevel := input.interactPressed } input.tick
            input.horsePosition entered.2
            (fun id hid => .inr ⟨(htouched hstate hmount).trans hid, rfl⟩) fun _ => .inl rfl
          exact Evolves.trans (.of_rows hrows) hremounted
        · exact .inl (.of_rows hrows)
      | saddleDiveAirborne => exact .inl (.of_rows hrows)
      | landingProne => exact .inl (.of_rows hrows)
      | landingRecovery => exact .inl (.of_rows hrows)

theorem evolves_resolveMotion (k : SaddleDiveKernel) (observation : RiderMotionObservation) :
    Evolves k.windowTicks (k.allowed (.resolveMotion observation)) k
      (k.step (.resolveMotion observation)).2 := by
  unfold step resolveMotion
  dsimp only
  by_cases htick : k.currentTick ≠ some observation.tick
  · rw [if_pos htick]
    exact .of_rows rfl
  · rw [if_neg htick]
    by_cases hresolved : k.motionResolved = true
    · rw [if_pos hresolved]
      exact .of_rows rfl
    · rw [if_neg hresolved]
      cases hairborne : k.airborne with
      | none => exact .of_rows rfl
      | some airborne =>
        dsimp only
        by_cases hstate : k.state ≠ .saddleDiveAirborne
        · rw [if_pos hstate]
          exact .of_rows rfl
        · rw [if_neg hstate]
          rw [not_not] at htick hstate
          cases hslope : contactSlope observation with
          | none => exact .of_rows rfl
          | some slope =>
            have htouched : k.touched (.resolveMotion observation) = some airborne.diveId := by
              unfold touched
              dsimp only
              rw [if_pos ⟨htick, by simpa using hresolved, hstate, by rw [hslope]; rfl⟩, hairborne]
              rfl
            refine Evolves.trans (.of_rows rfl) (Evolves.trans (evolves_touchDown (k := { k with
              motionResolved := true
              airborne := some airborne
              riderPosition := observation.riderPosition }) ?_) (evolves_landed ?_ ?_ ?_ _))
            · exact ⟨htick, .inr (.inr (.inr ⟨airborne, slope, htouched, rfl⟩))⟩
            · exact fun _ => ⟨htick, .inl rfl⟩
            · exact fun _ => ⟨htick, .inr (.inl rfl)⟩
            · exact fun _ damage amount hdamage =>
                ⟨htick, .inr (.inr (.inl ⟨damage, amount, hdamage, rfl⟩))⟩

theorem evolves_recordShotAttempt (k : SaddleDiveKernel) (tick : SimulationTick) :
    Evolves k.windowTicks (k.allowed (.recordShotAttempt tick)) k
      (k.step (.recordShotAttempt tick)).2 := by
  unfold step recordShotAttempt
  dsimp only
  split_ifs
  · exact .of_rows rfl
  · cases k.stateDiveId with
    | none => exact .of_rows rfl
    | some diveId =>
      dsimp only
      cases hrecord : k.rows[diveId]? with
      | none => exact .of_rows rfl
      | some record =>
        dsimp only
        split_ifs with hseen
        · exact .of_rows rfl
        · exact .modify (d := .attempted tick) hrecord rfl hseen

theorem evolves_recordAcceptedShot (k : SaddleDiveKernel) (shot : AcceptedShotMetadata) :
    Evolves k.windowTicks (k.allowed (.recordAcceptedShot shot)) k
      (k.step (.recordAcceptedShot shot)).2 := by
  unfold step recordAcceptedShot
  dsimp only
  cases hdive : shot.diveId with
  | none => exact .of_rows rfl
  | some diveId =>
    dsimp only
    split_ifs
    · exact .of_rows rfl
    · cases hrecord : k.rows[diveId]? with
      | none => exact .of_rows rfl
      | some record =>
        dsimp only
        split_ifs with hrefused
        · exact .of_rows rfl
        · exact .modify (d := .accepted shot) hrecord ⟨hdive, rfl⟩
            (Bool.eq_false_of_not_eq_true hrefused)

theorem evolves_recordAuthorityResult (k : SaddleDiveKernel)
    (attribution : ShotResultAttribution) :
    Evolves k.windowTicks (k.allowed (.recordAuthorityResult attribution)) k
      (k.step (.recordAuthorityResult attribution)).2 := by
  unfold step recordAuthorityResult
  dsimp only
  split_ifs
  · exact .of_rows rfl
  · cases hshot : attribution.acceptedShot with
    | none => exact .of_rows rfl
    | some shot =>
      dsimp only
      cases hdive : shot.diveId with
      | none => exact .of_rows rfl
      | some diveId =>
        dsimp only
        cases hrecord : k.rows[diveId]? with
        | none => exact .of_rows rfl
        | some record =>
          dsimp only
          split_ifs with hrefused
          · exact .of_rows rfl
          · simp only [Bool.or_eq_true, not_or, Bool.not_eq_true, bne_iff_ne, ne_eq, not_not,
              decide_eq_true_eq] at hrefused
            obtain ⟨⟨hopen, haccepted⟩, hnew⟩ := hrefused
            refine Evolves.trans (.modify (d := .resolved shot attribution.result) hrecord
              (.inr ⟨shot, hshot, hdive, rfl⟩) ⟨hopen, haccepted, hnew⟩) ?_
            exact .maybeFinalize (fun _ => .inl rfl) _ diveId _

theorem evolves_applyExternalDamage (k : SaddleDiveKernel) (observation : DamageObservation) :
    Evolves k.windowTicks (k.allowed (.applyExternalDamage observation)) k
      (k.step (.applyExternalDamage observation)).2 := by
  unfold step applyExternalDamage
  dsimp only
  split_ifs with hother
  · exact .of_rows rfl
  · rw [not_or, not_not, not_not] at hother
    have hkills : ∀ application, (k.health.applyExternal observation).1 = some application →
        application.died = true → k.Kills observation := fun application happlied hdied =>
      ⟨hother.1, hother.2, by rw [happlied]; exact hdied⟩
    generalize k.health.applyExternal observation = applied at hkills ⊢
    obtain ⟨answer, health⟩ := applied
    cases answer with
    | none => exact .of_rows rfl
    | some application =>
      dsimp only
      have hrecorded : Evolves k.windowTicks (k.allowed (.applyExternalDamage observation)) k _ :=
        Evolves.recordDamageInWindows (k := { k with
          health
          damageObservations := k.damageObservations.insert observation.id observation.amount })
          (fun _ => .inr (.inl rfl)) rfl SaddleDiveEffects.empty
      split_ifs with hdied
      · refine hrecorded.trans (.observeDeathInternal
          (fun _ => .inr (.inr ⟨hkills application rfl hdied, rfl⟩)) (fun _ => .inl rfl) ?_ _)
        exact windowTicks_of_drive (sameDrive_recordDamageInWindows _ observation _).drive
      · exact hrecorded

/-- **The edits of a call.** -/
theorem evolves_step (k : SaddleDiveKernel) (call : SaddleDiveCall) :
    Evolves k.windowTicks (k.allowed call) k (k.step call).2
      ∨ ∃ input id record, call = .beginTick input
        ∧ Launches k (k.step call).2 input.tick id record := by
  cases call with
  | setAuthorityEpoch epoch =>
    left
    refine .of_rows ?_
    change (k.setAuthorityEpoch epoch).2.rows = k.rows
    unfold setAuthorityEpoch
    split_ifs <;> rfl
  | beginTick input =>
    exact (evolves_beginTick k input).imp id fun ⟨id, record, hlaunch⟩ =>
      ⟨input, id, record, rfl, hlaunch⟩
  | settleObservationsThrough tick =>
    left
    unfold step settleObservationsThrough
    dsimp only
    split_ifs
    · exact .of_rows rfl
    · exact Evolves.resolveElapsedDeathWindows (k := { k with observationWatermark := some tick })
        (fun _ => .inr rfl) (fun _ => .inl rfl) tick _
  | resolveMotion observation => exact .inl (evolves_resolveMotion k observation)
  | recordShotAttempt tick => exact .inl (evolves_recordShotAttempt k tick)
  | recordAcceptedShot shot => exact .inl (evolves_recordAcceptedShot k shot)
  | recordAuthorityResult attribution =>
    exact .inl (evolves_recordAuthorityResult k attribution)
  | applyExternalDamage observation => exact .inl (evolves_applyExternalDamage k observation)
  | observeDeath tick =>
    exact .inl (Evolves.observeDeathInternal (k := { k with health := k.health.observeDeath })
      (fun _ => .inr rfl) (fun _ => .inl rfl) rfl _)
  | endMatch tick => exact .inl (.censorOpenRows (fun _ => .inr rfl) (fun _ => .inl rfl) k)
  | censorNotObserved => exact .inl (.censorOpenRows (fun _ => .inr rfl) (fun _ => .inl rfl) k)
  | reset tick => exact .inl (.censorOpenRows (fun _ => .inr rfl) (fun _ => .inl rfl) k)

/-! ## What a call leaves alone -/

/-- The calls that only report keep the rider where he is. -/
theorem sameDrive_report (k : SaddleDiveKernel) {call : SaddleDiveCall}
    (hepoch : ∀ epoch, call ≠ .setAuthorityEpoch epoch) (htick : ∀ input, call ≠ .beginTick input)
    (hmotion : ∀ observation, call ≠ .resolveMotion observation)
    (hreset : ∀ tick, call ≠ .reset tick) :
    SameDrive (k, SaddleDiveEffects.empty) (k.step call).swap := by
  cases call with
  | setAuthorityEpoch epoch => exact absurd rfl (hepoch epoch)
  | beginTick input => exact absurd rfl (htick input)
  | resolveMotion observation => exact absurd rfl (hmotion observation)
  | reset tick => exact absurd rfl (hreset tick)
  | settleObservationsThrough tick =>
    unfold step settleObservationsThrough
    dsimp only
    split_ifs
    · exact ⟨rfl, rfl⟩
    · refine SameDrive.trans ?_ (sameDrive_resolveElapsedDeathWindows _ tick _)
      exact ⟨rfl, rfl⟩
  | recordShotAttempt tick => exact sameDrive_recordShotAttempt k tick
  | recordAcceptedShot shot => exact sameDrive_recordAcceptedShot k shot
  | recordAuthorityResult attribution => exact sameDrive_recordAuthorityResult k attribution
  | applyExternalDamage observation => exact sameDrive_applyExternalDamage k observation
  | observeDeath tick =>
    refine SameDrive.trans ?_ (sameDrive_observeDeathInternal _ tick _)
    exact ⟨rfl, rfl⟩
  | endMatch tick => exact sameDrive_censorOpenRows k .matchEnded
  | censorNotObserved => exact sameDrive_censorOpenRows k .notObserved

def clock (k : SaddleDiveKernel) : UInt32 × PlayerId × UInt64 × Option SimulationTick :=
  (k.tickRate, k.actor, k.authorityEpoch, k.currentTick)

theorem clock_of_drive (h : k'.drive = k.drive) : k'.clock = k.clock := by
  change k'.drive.clock = k.drive.clock
  rw [h]

theorem clock_enterTick (k : SaddleDiveKernel) (input : SaddleDiveTickInput) :
    (k.enterTick input).1.clock = (k.tickRate, k.actor, k.authorityEpoch, some input.tick) := by
  unfold enterTick
  rw [advanceRecoveryBoundaries_eq]
  rfl

theorem clock_completeRemount (k : SaddleDiveKernel) (tick : SimulationTick)
    (horsePosition : QuantizedOrigin) (e : SaddleDiveEffects) :
    (k.completeRemount tick horsePosition e).1.clock = k.clock := by
  unfold completeRemount
  cases k.stateDiveId with
  | none => rfl
  | some diveId => exact (clock_of_drive (sameDrive_maybeFinalize _ diveId _).drive).trans rfl

theorem clock_interact (k : SaddleDiveKernel) (input : SaddleDiveTickInput) (edge : Bool)
    (e : SaddleDiveEffects) : (k.interact input edge e).2.clock = k.clock := by
  unfold interact
  cases k.state with
  | mounted =>
    dsimp only
    split_ifs
    · unfold launchDive
      dsimp only
      cases k.nextDiveId with
      | none => rfl
      | some diveId => rfl
    · rfl
    · rfl
    · rfl
  | onFootReady =>
    dsimp only
    split_ifs
    · exact clock_completeRemount k input.tick input.horsePosition e
    · rfl
  | saddleDiveAirborne => rfl
  | landingProne => rfl
  | landingRecovery => rfl

theorem clock_resolveMotion (k : SaddleDiveKernel) (observation : RiderMotionObservation) :
    (k.step (.resolveMotion observation)).2.clock = k.clock := by
  unfold step resolveMotion
  dsimp only
  by_cases htick : k.currentTick ≠ some observation.tick
  · rw [if_pos htick]
  · rw [if_neg htick]
    by_cases hresolved : k.motionResolved = true
    · rw [if_pos hresolved]
    · rw [if_neg hresolved]
      cases k.airborne with
      | none => rfl
      | some airborne =>
        dsimp only
        by_cases hstate : k.state ≠ .saddleDiveAirborne
        · rw [if_pos hstate]
          rfl
        · rw [if_neg hstate]
          cases contactSlope observation with
          | none => rfl
          | some slope =>
            exact (clock_of_drive (drive_landDive SaddleDiveEffects.empty)).trans rfl

/-- The epoch after a call: an earlier one is refused. -/
def epochAfter (k : SaddleDiveKernel) : SaddleDiveCall → UInt64
  | .setAuthorityEpoch epoch => if epoch < k.authorityEpoch then k.authorityEpoch else epoch
  | _ => k.authorityEpoch

/-- Time does not run back, and only the epoch of the authority changes hands. -/
structure Advances (k : SaddleDiveKernel) (call : SaddleDiveCall) (k' : SaddleDiveKernel) :
    Prop where
  rate : k'.tickRate = k.tickRate
  actor : k'.actor = k.actor
  epoch : k'.authorityEpoch = k.epochAfter call
  later : ∀ tick, k.currentTick = some tick → ∃ tick', k'.currentTick = some tick' ∧ tick ≤ tick'

theorem Advances.of_clock {call : SaddleDiveCall} (h : k'.clock = k.clock)
    (hepoch : ∀ epoch, call ≠ .setAuthorityEpoch epoch) : k.Advances call k' := by
  refine ⟨congrArg (·.1) h, congrArg (·.2.1) h, ?_, fun tick htick =>
    ⟨tick, (congrArg (·.2.2.2) h).trans htick, UInt64.le_refl tick⟩⟩
  have hsame : k'.authorityEpoch = k.authorityEpoch := congrArg (·.2.2.1) h
  cases call with
  | setAuthorityEpoch epoch => exact absurd rfl (hepoch epoch)
  | _ => exact hsame

theorem advances_step (k : SaddleDiveKernel) (call : SaddleDiveCall) :
    k.Advances call (k.step call).2 := by
  by_cases htick : ∃ input, call = .beginTick input
  · obtain ⟨input, rfl⟩ := htick
    unfold step beginTick
    dsimp only
    cases k.validateIdentity input.actor input.authorityEpoch with
    | error error => exact .of_clock rfl nofun
    | ok _ =>
      dsimp only
      by_cases hreplay : k.currentTick.any (input.tick ≤ ·) = true
      · rw [if_pos hreplay]
        exact .of_clock rfl nofun
      · rw [if_neg hreplay]
        have hentered := clock_enterTick k input
        have hclock := clock_interact
          { (k.enterTick input).1 with previousInteractLevel := input.interactPressed } input
          (input.interactPressed && !(k.enterTick input).1.previousInteractLevel)
          (k.enterTick input).2
        have hafter := hclock.trans hentered
        refine ⟨congrArg (·.1) hafter, congrArg (·.2.1) hafter, congrArg (·.2.2.1) hafter,
          fun tick hcurrent => ⟨input.tick, congrArg (·.2.2.2) hafter, ?_⟩⟩
        rw [hcurrent] at hreplay
        exact UInt64.le_of_lt (UInt64.not_le.mp fun hle => hreplay (decide_eq_true hle))
  by_cases hmotion : ∃ observation, call = .resolveMotion observation
  · obtain ⟨observation, rfl⟩ := hmotion
    exact .of_clock (clock_resolveMotion k observation) nofun
  by_cases hreset : ∃ tick, call = .reset tick
  · obtain ⟨tick, rfl⟩ := hreset
    have hdrive := clock_of_drive (sameDrive_censorOpenRows k .reset).drive
    refine ⟨congrArg (·.1) hdrive, congrArg (·.2.1) hdrive, congrArg (·.2.2.1) hdrive,
      fun current hcurrent => ?_⟩
    change ∃ tick', (if k.currentTick.all (tick > ·) then some tick else k.currentTick)
      = some tick' ∧ current ≤ tick'
    rw [hcurrent]
    split_ifs with hlater
    · exact ⟨tick, rfl, UInt64.le_of_lt (of_decide_eq_true hlater)⟩
    · exact ⟨current, rfl, UInt64.le_refl current⟩
  by_cases hepoch : ∃ epoch, call = .setAuthorityEpoch epoch
  · obtain ⟨epoch, rfl⟩ := hepoch
    change k.Advances _ (k.setAuthorityEpoch epoch).2
    unfold setAuthorityEpoch
    by_cases hearlier : epoch < k.authorityEpoch
    · rw [if_pos hearlier]
      exact ⟨rfl, rfl, (if_pos hearlier).symm, fun tick htick => ⟨tick, htick, UInt64.le_refl tick⟩⟩
    · rw [if_neg hearlier]
      exact ⟨rfl, rfl, (if_neg hearlier).symm, fun tick htick => ⟨tick, htick, UInt64.le_refl tick⟩⟩
  exact .of_clock (clock_of_drive (sameDrive_report k (fun epoch heq => hepoch ⟨epoch, heq⟩)
    (fun input heq => htick ⟨input, heq⟩) (fun observation heq => hmotion ⟨observation, heq⟩)
    fun tick heq => hreset ⟨tick, heq⟩).drive) fun epoch heq => hepoch ⟨epoch, heq⟩

end SaddleDiveKernel

end Spurfire
