import Mathlib.Algebra.BigOperators.Group.Finset.Basic
import Spurfire.Protocol.DeathCensor

/-!
# Damage after a landing

The damage that a row counts from the landing through three seconds is the sum of the distinct
observations of that time, in whatever order landing and observations arrive.

* `Counted`: the invariant of an open record, over the observations delivered so far;
* `attributedTo`: what one observation does to one record, once or not at all;
* `rows_recordDamageInWindows`, `rows_attributeRetained`: the two loops, record by record;
* **`landing_damage_along`**: the sum, for every run at one authority epoch.
-/

namespace Spurfire

open Std (ExtTreeMap)

namespace SaddleDiveKernel

variable {k k' : SaddleDiveKernel} {window : UInt64} {record record' : DiveRecord} {id : DiveId}
  {observation : DamageObservation} {turn turn' : SaddleDiveKernel × SaddleDiveEffects}

/-! ## Records -/

/-- The amounts delivered so far, each under its first delivery. -/
abbrev Amounts := DamageObservationId → Option UInt16

/-- The tick lies in the time from the landing through the window. -/
def InWindow (window : UInt64) (landing tick : SimulationTick) : Prop :=
  landing.toNat ≤ tick.toNat ∧ tick.toNat ≤ landing.toNat + window.toNat

instance decidableInWindow (window : UInt64) (landing tick : SimulationTick) :
    Decidable (InWindow window landing tick) :=
  inferInstanceAs (Decidable (_ ∧ _))

/-- An open record before its landing has counted nothing; after it, what lies in its window. -/
structure Counted (window : UInt64) (amounts : Amounts) (record : DiveRecord) : Prop where
  buffered : record.finalized = false → record.row.landingTick = none →
    record.attributedDamageObservations = ∅ ∧ record.row.damageTakenLandingThrough3s = 0
      ∧ record.row.landingDamage = 0
  known : record.finalized = false → ∀ landing, record.row.landingTick = some landing →
    ∀ d, d ∈ record.attributedDamageObservations
      ↔ (amounts d).isSome = true ∧ InWindow window landing d.tick
  taken : record.finalized = false → ∀ landing, record.row.landingTick = some landing →
    record.row.damageTakenLandingThrough3s.toNat = min (record.row.landingDamage.toNat
      + ∑ d ∈ record.attributedDamageObservations, ((amounts d).map UInt16.toNat).getD 0)
      (2 ^ 32 - 1)

def Takes (window : UInt64) (observation : DamageObservation) (record : DiveRecord) : Prop :=
  record.finalized = false ∧ observation.id ∉ record.attributedDamageObservations
    ∧ ∃ landing ∈ record.row.landingTick, InWindow window landing observation.id.tick

instance decidableTakes (window : UInt64) (observation : DamageObservation)
    (record : DiveRecord) : Decidable (Takes window observation record) :=
  decidable_of_iff (record.finalized = false
    ∧ observation.id ∉ record.attributedDamageObservations ∧ record.row.landingTick.any
      (fun landing => decide (InWindow window landing observation.id.tick)) = true) <| by
    unfold Takes
    simp only [Option.any_eq_true, decide_eq_true_eq, Option.mem_def]

def attributedTo (window : UInt64) (observation : DamageObservation)
    (record : DiveRecord) : DiveRecord :=
  if Takes window observation record then RowEdit.apply window (.damaged observation) record
  else record

theorem Counted.final (h : record.finalized = true) {amounts : Amounts} :
    Counted window amounts record := by
  refine ⟨fun hopen => ?_, fun hopen => ?_, fun hopen => ?_⟩
  all_goals
    rw [h] at hopen
    cases hopen

theorem Counted.launched (h : Fresh record) {amounts : Amounts} :
    Counted window amounts record := by
  refine ⟨fun _ _ => ⟨h.attributed, h.taken, h.landingDamage⟩, fun _ landing hlanding => ?_,
    fun _ landing hlanding => ?_⟩
  all_goals
    rw [h.landing] at hlanding
    cases hlanding

/-- The record carries the same count. -/
structure SameCount (record record' : DiveRecord) : Prop where
  finalized : record'.finalized = record.finalized
  attributed : record'.attributedDamageObservations = record.attributedDamageObservations
  landing : record'.row.landingTick = record.row.landingTick
  damage : record'.row.landingDamage = record.row.landingDamage
  taken : record'.row.damageTakenLandingThrough3s = record.row.damageTakenLandingThrough3s

theorem Counted.same {amounts : Amounts} (h : Counted window amounts record)
    (hsame : SameCount record record') : Counted window amounts record' := by
  obtain ⟨hfinalized, hattributed, hlanding, hdamage, htaken⟩ := hsame
  refine ⟨?_, ?_, ?_⟩
  · rw [hfinalized, hattributed, hlanding, hdamage, htaken]
    exact h.buffered
  · rw [hfinalized, hattributed, hlanding]
    exact h.known
  · rw [hfinalized, hattributed, hlanding, hdamage, htaken]
    exact h.taken

/-- A new observation is counted where its window is. -/
theorem Counted.attributed {amounts : Amounts} (h : Counted window amounts record)
    (hnew : amounts observation.id = none) :
    Counted window (Function.update amounts observation.id (some observation.amount))
      (attributedTo window observation record) := by
  have hnot : record.finalized = false →
      observation.id ∉ record.attributedDamageObservations := by
    intro hopen hmem
    cases hlanding : record.row.landingTick with
    | none =>
      rw [(h.buffered hopen hlanding).1] at hmem
      exact absurd hmem (Finset.notMem_empty _)
    | some landing =>
      have hsome := ((h.known hopen landing hlanding observation.id).mp hmem).1
      rw [hnew] at hsome
      cases hsome
  -- the amounts of what is counted already stay as they are
  have hsum : record.finalized = false → ∑ d ∈ record.attributedDamageObservations,
      ((Function.update amounts observation.id (some observation.amount) d).map
        UInt16.toNat).getD 0
      = ∑ d ∈ record.attributedDamageObservations, ((amounts d).map UInt16.toNat).getD 0 := by
    intro hopen
    refine Finset.sum_congr rfl fun d hd => ?_
    have hne : d ≠ observation.id := fun heq => hnot hopen (heq ▸ hd)
    rw [Function.update_of_ne hne]
  unfold attributedTo
  split_ifs with htakes
  · obtain ⟨hopen, -, landing, hlanding, hwindow⟩ := htakes
    refine ⟨fun _ hnone => ?_, fun _ other hother d => ?_, fun _ other hother => ?_⟩
    · cases hlanding.symm.trans hnone
    · cases hlanding.symm.trans hother
      change d ∈ insert observation.id record.attributedDamageObservations ↔ _
      rw [Finset.mem_insert, h.known hopen landing hlanding d]
      by_cases hsame : d = observation.id
      · subst hsame
        rw [Function.update_self]
        exact ⟨fun _ => ⟨rfl, hwindow⟩, fun _ => .inl rfl⟩
      · rw [Function.update_of_ne hsame]
        exact ⟨fun hd => hd.resolve_left hsame, .inr⟩
    · cases hlanding.symm.trans hother
      change (record.row.damageTakenLandingThrough3s.satAdd observation.amount.toUInt32).toNat
        = min (record.row.landingDamage.toNat
          + ∑ d ∈ insert observation.id record.attributedDamageObservations, _) _
      rw [Finset.sum_insert (hnot hopen), hsum hopen, Function.update_self, UInt32.toNat_satAdd,
        h.taken hopen landing hlanding, UInt16.toNat_toUInt32, Option.map_some, Option.getD_some]
      omega
  · refine ⟨h.buffered, fun hopen landing hlanding d => ?_, fun hopen landing hlanding => ?_⟩
    · rw [h.known hopen landing hlanding d]
      by_cases hsame : d = observation.id
      · subst hsame
        rw [hnew, Function.update_self]
        exact ⟨fun hnone => absurd hnone.1 Bool.false_ne_true,
          fun hwindow => absurd ⟨hopen, hnot hopen, landing, hlanding, hwindow.2⟩ htakes⟩
      · rw [Function.update_of_ne hsame]
    · rw [hsum hopen]
      exact h.taken hopen landing hlanding

theorem Counted.again {amounts : Amounts} (h : Counted window amounts record)
    (hknown : (amounts observation.id).isSome = true) :
    attributedTo window observation record = record := by
  refine if_neg fun ⟨hopen, hnew, landing, hlanding, hwindow⟩ => hnew ?_
  exact (h.known hopen landing hlanding observation.id).mpr ⟨hknown, hwindow⟩

/-! ## Loops -/

theorem inWindow_iff (landing tick : SimulationTick) :
    (landing ≤ tick ∧ tick ≤ landing.satAdd window) ↔ InWindow window landing tick := by
  have htick := tick.toNat_lt
  unfold InWindow
  rw [UInt64.le_iff_toNat_le, UInt64.le_iff_toNat_le, UInt64.toNat_satAdd]
  omega

theorem rows_attributeDamage (window : UInt64) (turn : SaddleDiveKernel × SaddleDiveEffects)
    (id other : DiveId) :
    (attributeDamage observation turn id).1.rows[other]? = if other = id then
        turn.1.rows[other]?.map fun record =>
          if observation.id ∈ record.attributedDamageObservations then record
          else RowEdit.apply window (.damaged observation) record
      else turn.1.rows[other]? := by
  split_ifs with hsame
  · subst hsame
    unfold attributeDamage
    cases hrecord : turn.1.rows[other]? with
    | none =>
      rw [Option.any_none, if_neg Bool.false_ne_true]
      dsimp only
      rw [getElem?_modifyRecord, if_pos rfl, hrecord]
      rfl
    | some record =>
      rw [Option.any_some, Option.map_some]
      split_ifs with hknown hmem hmem
      · exact hrecord
      · exact absurd (of_decide_eq_true hknown) hmem
      · exact absurd (decide_eq_true hmem) hknown
      · dsimp only
        rw [getElem?_modifyRecord, if_pos rfl, hrecord]
        rfl
  · exact others_attributeDamage observation turn hsame

/-- The loop over different dives. -/
theorem rows_attributeDamage_foldl (window : UInt64) {ids : List DiveId} (hnodup : ids.Nodup)
    (turn : SaddleDiveKernel × SaddleDiveEffects) (other : DiveId) :
    (ids.foldl (attributeDamage observation) turn).1.rows[other]? = if other ∈ ids then
        turn.1.rows[other]?.map fun record =>
          if observation.id ∈ record.attributedDamageObservations then record
          else RowEdit.apply window (.damaged observation) record
      else turn.1.rows[other]? := by
  induction ids generalizing turn with
  | nil => rfl
  | cons id ids ih =>
    obtain ⟨hnew, hnodup⟩ := List.nodup_cons.mp hnodup
    rw [List.foldl_cons, ih hnodup, rows_attributeDamage window]
    by_cases hsame : other = id
    · subst hsame
      rw [if_neg hnew, if_pos rfl, if_pos List.mem_cons_self]
    · rw [if_neg hsame]
      by_cases hmem : other ∈ ids
      · rw [if_pos hmem, if_pos (List.mem_cons_of_mem id hmem)]
      · rw [if_neg hmem, if_neg fun h => (List.mem_cons.mp h).elim hsame hmem]

theorem mem_diveIds_of {p : DiveRecord → Bool} (hrecord : k.rows[id]? = some record)
    (hp : p record = true) : id ∈ k.diveIds p := by
  unfold diveIds
  refine List.mem_filterMap.mpr
    ⟨(id, record), ExtTreeMap.mem_toList_iff_getElem?_eq_some.mpr hrecord, ?_⟩
  rw [if_pos hp]

/-- **The damage loop, record by record.** -/
theorem rows_recordDamageInWindows (k : SaddleDiveKernel) (observation : DamageObservation)
    (e : SaddleDiveEffects) (other : DiveId) :
    (k.recordDamageInWindows observation e).1.rows[other]?
      = k.rows[other]?.map (attributedTo k.windowTicks observation) := by
  unfold recordDamageInWindows
  dsimp only
  rw [rows_attributeDamage_foldl k.windowTicks (nodup_diveIds k _)]
  have htakes : ∀ record : DiveRecord,
      (!(record.finalized || decide (observation.id ∈ record.attributedDamageObservations))
        && record.row.landingTick.any fun landing =>
          decide (observation.id.tick ≥ landing)
            && decide (observation.id.tick ≤ landing.satAdd k.windowTicks)) = true
        ↔ Takes k.windowTicks observation record := by
    intro record
    unfold Takes
    simp only [Bool.and_eq_true, Bool.not_eq_true', Bool.or_eq_false_iff, decide_eq_false_iff_not,
      Option.any_eq_true, decide_eq_true_eq, ge_iff_le, inWindow_iff, and_assoc, Option.mem_def]
  cases hrecord : k.rows[other]? with
  | none => exact ite_self none
  | some record =>
    rw [Option.map_some, Option.map_some]
    unfold attributedTo
    split_ifs with hmem hknown htake htake htake
    · exact absurd hknown htake.2.1
    · rfl
    · rfl
    · obtain ⟨record', hrecord', hp⟩ := mem_diveIds hmem
      cases hrecord.symm.trans hrecord'
      exact absurd ((htakes record).mp hp) htake
    · exact absurd (mem_diveIds_of hrecord ((htakes record).mpr htake)) hmem
    · rfl

theorem windowTicks_recordDamageInWindows (k : SaddleDiveKernel) (observation : DamageObservation)
    (e : SaddleDiveEffects) :
    (k.recordDamageInWindows observation e).1.windowTicks = k.windowTicks :=
  windowTicks_of_drive (sameDrive_recordDamageInWindows k observation e).drive

theorem attributeRetained_fst (id : DiveId) (turn : SaddleDiveKernel × SaddleDiveEffects)
    (observation : DamageObservation) :
    (attributeRetained id turn observation).1
      = (turn.1.recordDamageInWindows observation turn.2).1 := by
  unfold attributeRetained
  dsimp only
  split_ifs
  · rfl
  · rfl

theorem rows_attributeRetained (id : DiveId) (observations : List DamageObservation)
    (turn : SaddleDiveKernel × SaddleDiveEffects) (other : DiveId) :
    (observations.foldl (attributeRetained id) turn).1.rows[other]?
      = turn.1.rows[other]?.map fun record => observations.foldl
        (fun record observation => attributedTo turn.1.windowTicks observation record) record := by
  induction observations generalizing turn with
  | nil => exact (Option.map_id').symm
  | cons observation rest ih =>
    rw [List.foldl_cons, ih, attributeRetained_fst, rows_recordDamageInWindows,
      windowTicks_recordDamageInWindows, Option.map_map]
    rfl

/-! ### The retained observations -/

/-- The observations in order, each new one under its first amount. -/
def collect (amounts : Amounts) (observations : List DamageObservation) : Amounts :=
  observations.foldl (fun amounts observation =>
    Function.update amounts observation.id (some observation.amount)) amounts

theorem Counted.collected {amounts : Amounts} {observations : List DamageObservation}
    (h : Counted window amounts record) (hnew : ∀ o ∈ observations, amounts o.id = none)
    (hnodup : (observations.map (·.id)).Nodup) :
    Counted window (collect amounts observations) (observations.foldl
      (fun record observation => attributedTo window observation record) record) := by
  induction observations generalizing amounts record with
  | nil => exact h
  | cons observation rest ih =>
    obtain ⟨hnot, hnodup⟩ := List.nodup_cons.mp hnodup
    refine ih (h.attributed (hnew observation List.mem_cons_self)) (fun o ho => ?_) hnodup
    have hne : o.id ≠ observation.id := fun heq => hnot (List.mem_map.mpr ⟨o, ho, heq⟩)
    exact (Function.update_of_ne hne _ _).trans (hnew o (List.mem_cons_of_mem _ ho))

theorem Counted.unchanged {amounts : Amounts} {observations : List DamageObservation}
    (h : Counted window amounts record)
    (hknown : ∀ o ∈ observations, (amounts o.id).isSome = true) :
    observations.foldl (fun record observation => attributedTo window observation record) record
      = record := by
  induction observations with
  | nil => rfl
  | cons observation rest ih =>
    rw [List.foldl_cons, h.again (hknown observation List.mem_cons_self)]
    exact ih fun o ho => hknown o (List.mem_cons_of_mem _ ho)

theorem collect_of_not_mem {amounts : Amounts} {observations : List DamageObservation}
    {d : DamageObservationId} (h : d ∉ observations.map (·.id)) :
    collect amounts observations d = amounts d := by
  induction observations generalizing amounts with
  | nil => rfl
  | cons observation rest ih =>
    rw [List.map_cons, List.mem_cons, not_or] at h
    exact (ih h.2).trans (Function.update_of_ne h.1 _ _)

theorem collect_of_mem {amounts : Amounts} {observations : List DamageObservation}
    (hnodup : (observations.map (·.id)).Nodup) (h : observation ∈ observations) :
    collect amounts observations observation.id = some observation.amount := by
  induction observations generalizing amounts with
  | nil => exact absurd h List.not_mem_nil
  | cons first rest ih =>
    obtain ⟨hnot, hnodup⟩ := List.nodup_cons.mp hnodup
    obtain rfl | hrest := List.mem_cons.mp h
    · exact (collect_of_not_mem hnot).trans (Function.update_self _ _ _)
    · exact ih hnodup hrest

/-- The observations that the kernel retains, as the loop goes over them. -/
def retained (k : SaddleDiveKernel) : List DamageObservation :=
  k.damageObservations.toList.map fun entry => ⟨entry.1, entry.2⟩

def amounts (k : SaddleDiveKernel) : Amounts := fun d => k.damageObservations[d]?

theorem nodup_retained (k : SaddleDiveKernel) : (k.retained.map (·.id)).Nodup := by
  unfold retained
  rw [List.map_map]
  refine List.pairwise_map.mpr (ExtTreeMap.distinct_keys_toList.imp fun {a b} hne heq => hne ?_)
  rw [show a.1 = b.1 from heq]
  exact Std.ReflCmp.compare_self

theorem mem_retained : observation ∈ k.retained
    ↔ k.damageObservations[observation.id]? = some observation.amount := by
  unfold retained
  rw [← ExtTreeMap.mem_toList_iff_getElem?_eq_some, List.mem_map]
  constructor
  · rintro ⟨entry, hentry, rfl⟩
    exact hentry
  · exact fun hentry => ⟨_, hentry, rfl⟩

theorem collect_retained (k : SaddleDiveKernel) :
    collect (fun _ => none) k.retained = k.amounts := by
  funext d
  unfold amounts
  cases hamount : k.damageObservations[d]? with
  | none =>
    refine collect_of_not_mem fun hmem => ?_
    obtain ⟨o, ho, rfl⟩ := List.mem_map.mp hmem
    cases hamount.symm.trans (mem_retained.mp ho)
  | some amount =>
    have hmem : (⟨d, amount⟩ : DamageObservation) ∈ k.retained := mem_retained.mpr hamount
    exact collect_of_mem k.nodup_retained hmem

/-! ## What a landing counts -/

/-- The record of a dive right after its landing has counted the landing itself. -/
theorem Counted.landed {amounts : Amounts} (h : Counted window amounts record)
    (launchTick : SimulationTick) (motion : RiderMotionObservation) (slope : UInt32) (bad : Bool)
    (hnone : record.row.landingTick = none) :
    Counted window (fun _ => none)
      (RowEdit.apply window (.landed launchTick motion slope bad) record) := by
  have hfirst : record.row.landingTick.isNone = true := by
    rw [hnone]
    rfl
  have hcount : (RowEdit.apply window (.landed launchTick motion slope bad) record).row.landingTick
        = some motion.tick
      ∧ (RowEdit.apply window (.landed launchTick motion slope bad) record).row.landingDamage
        = (if bad then BAD_LANDING_DAMAGE else record.row.landingDamage)
      ∧ (RowEdit.apply window (.landed launchTick motion slope bad)
          record).row.damageTakenLandingThrough3s
        = if bad then record.row.damageTakenLandingThrough3s.satAdd BAD_LANDING_DAMAGE.toUInt32
          else record.row.damageTakenLandingThrough3s := by
    change (withLanding window launchTick motion slope bad record.row).landingTick = _
      ∧ (withLanding window launchTick motion slope bad record.row).landingDamage = _
      ∧ (withLanding window launchTick motion slope bad
          record.row).damageTakenLandingThrough3s = _
    unfold withLanding
    rw [if_pos hfirst]
    dsimp only
    cases record.row.deathTick with
    | none => exact ⟨rfl, rfl, rfl⟩
    | some death => exact ⟨rfl, rfl, rfl⟩
  obtain ⟨hlanding, hdamage, htaken⟩ := hcount
  refine ⟨fun _ hopen => ?_, fun hopen landing _ d => ?_, fun hopen landing _ => ?_⟩
  · cases hlanding.symm.trans hopen
  · change d ∈ record.attributedDamageObservations ↔ _
    rw [(h.buffered hopen hnone).1]
    exact ⟨fun hmem => absurd hmem (Finset.notMem_empty d), fun hd => absurd hd.1
      Bool.false_ne_true⟩
  · obtain ⟨hattributed, hzero, hunhurt⟩ := h.buffered hopen hnone
    rw [hdamage, htaken, hzero, hunhurt]
    change _ = min (_ + ∑ d ∈ record.attributedDamageObservations, _) _
    rw [hattributed, Finset.sum_empty]
    cases bad with
    | true => rfl
    | false => rfl

/-- A second landing changes nothing. -/
theorem landed_of_landed (h : record.row.landingTick ≠ none) (launchTick : SimulationTick)
    (motion : RiderMotionObservation) (slope : UInt32) (bad : Bool) :
    RowEdit.apply window (.landed launchTick motion slope bad) record = record := by
  have hsecond : ¬record.row.landingTick.isNone = true := by simpa using h
  change RowEdit.onRow record (withLanding window launchTick motion slope bad) = record
  unfold RowEdit.onRow withLanding
  rw [if_neg hsecond]

/-- After the landing and the loop over what is retained, every record has counted everything. -/
theorem Counted.touchedDown {airborne : AirborneState} {motion : RiderMotionObservation}
    {slope : UInt32} (h : ∀ (id : DiveId) (record : DiveRecord), k.rows[id]? = some record →
      Counted k.windowTicks k.amounts record) (e : SaddleDiveEffects)
    (hrecord : ((k.touchDown airborne motion slope).attributeRetainedDamageForDive
      airborne.diveId e).1.rows[id]? = some record) :
    Counted k.windowTicks k.amounts record := by
  have hretained : ∀ o ∈ k.retained, (k.amounts o.id).isSome = true := fun o ho => by
    unfold amounts
    rw [mem_retained.mp ho]
    rfl
  have hrows := rows_attributeRetained airborne.diveId k.retained
    (k.touchDown airborne motion slope, e) id
  rw [show (k.retained.foldl (attributeRetained airborne.diveId)
    (k.touchDown airborne motion slope, e)).1.rows[id]? = some record from hrecord] at hrows
  obtain ⟨before, hbefore, rfl⟩ := Option.map_eq_some_iff.mp hrows.symm
  change Counted k.windowTicks k.amounts (k.retained.foldl
    (fun record observation => attributedTo k.windowTicks observation record) before)
  change (k.touchDown airborne motion slope).rows[id]? = some before at hbefore
  unfold touchDown modifyRow at hbefore
  rw [getElem?_modifyRecord] at hbefore
  split_ifs at hbefore with hsame
  · obtain ⟨first, hfirst, rfl⟩ := Option.map_eq_some_iff.mp hbefore
    have hcounted := h airborne.diveId first hfirst
    by_cases hnone : first.row.landingTick = none
    · have hlanded := hcounted.landed airborne.launchTick motion slope
        (decide (slope > BAD_LANDING_THRESHOLD_MILLIDEGREES)) hnone
      have hcollected := hlanded.collected (fun _ _ => rfl) k.nodup_retained
      rw [collect_retained] at hcollected
      exact hcollected
    · have hstill : RowEdit.apply k.windowTicks (.landed airborne.launchTick motion slope
          (decide (slope > BAD_LANDING_THRESHOLD_MILLIDEGREES))) first = first :=
        landed_of_landed hnone _ _ _ _
      change Counted _ _ (List.foldl _ (RowEdit.apply k.windowTicks (.landed airborne.launchTick
        motion slope (decide (slope > BAD_LANDING_THRESHOLD_MILLIDEGREES))) first) k.retained)
      rw [hstill, hcounted.unchanged hretained]
      exact hcounted
  · have hcounted := h id before hbefore
    rw [hcounted.unchanged hretained]
    exact hcounted

/-! ## Other edits -/

def RowEdit.CountsNothing : RowEdit → Prop
  | .damaged _ | .landed _ _ _ _ => False
  | _ => True

theorem Counted.edit {amounts : Amounts} {edit : RowEdit} (h : Counted window amounts record)
    (hnothing : edit.CountsNothing) : Counted window amounts (edit.apply window record) := by
  cases edit with
  | finalized => exact .final rfl
  | elapsed => exact h.same ⟨rfl, rfl, rfl, rfl, rfl⟩
  | died tick =>
    change Counted window amounts (RowEdit.onRow record (withDeath window tick))
    unfold RowEdit.onRow withDeath
    cases hlanding : record.row.landingTick with
    | none => exact h.same ⟨rfl, rfl, hlanding.symm, rfl, rfl⟩
    | some landing => exact h.same ⟨rfl, rfl, hlanding.symm, rfl, rfl⟩
  | censored reason => exact h.same ⟨rfl, rfl, rfl, rfl, rfl⟩
  | damaged observation => exact hnothing.elim
  | landed launchTick motion slope bad => exact hnothing.elim
  | remounted tick =>
    change Counted window amounts (withRemount tick record)
    unfold withRemount
    split_ifs
    · exact h.same ⟨rfl, rfl, rfl, rfl, rfl⟩
    · exact h
  | attempted tick => exact h.same ⟨rfl, rfl, rfl, rfl, rfl⟩
  | accepted shot => exact h.same ⟨rfl, rfl, rfl, rfl, rfl⟩
  | resolved shot result =>
    change Counted window amounts { record with
      resolvedShots := insert shot.tick record.resolvedShots
      row := withHit result record.row }
    unfold withHit
    by_cases hhit : result.outcome = .hit
    · rw [if_pos hhit]
      exact h.same ⟨rfl, rfl, rfl, rfl, rfl⟩
    · rw [if_neg hhit]
      exact h.same ⟨rfl, rfl, rfl, rfl, rfl⟩

def AllCounted (window : UInt64) (amounts : Amounts) (k : SaddleDiveKernel) : Prop :=
  ∀ (id : DiveId) (record : DiveRecord), k.rows[id]? = some record → Counted window amounts record

theorem AllCounted.evolves {amounts : Amounts} {A : DiveId → RowEdit → Prop}
    (h : AllCounted window amounts k) (hevolves : Evolves window A k k')
    (hnothing : ∀ id edit, A id edit → edit.CountsNothing) : AllCounted window amounts k' := by
  intro id record' hrecord'
  obtain ⟨-, hnone⟩ | ⟨record, other, hrecord, hother, hedits⟩ := hevolves id
  · cases hrecord'.symm.trans hnone
  · cases hrecord'.symm.trans hother
    exact hedits.keeps (I := Counted window amounts)
      (fun edit record hkind _ hI => hI.edit (hnothing id edit hkind)) (h id record hrecord)

theorem countsNothing_died {tick : SimulationTick} :
    ∀ (_ : DiveId) (edit : RowEdit), edit = .finalized ∨ edit = .died tick →
      edit.CountsNothing := by
  rintro _ _ (rfl | rfl)
  · trivial
  · trivial

/-! ## What the kernel retains -/

/-- The observations that the kernel retains, and the keys that its health has seen. -/
def tally (k : SaddleDiveKernel) :
    ExtTreeMap DamageObservationId UInt16 × Finset DamageObservationId :=
  (k.damageObservations, k.health.externalObservations)

theorem tally_maybeFinalize (k : SaddleDiveKernel) (id : DiveId) (e : SaddleDiveEffects) :
    (k.maybeFinalize id e).1.tally = k.tally := by
  unfold maybeFinalize
  cases k.rows[id]?.filter k.shouldFinalize with
  | none => rfl
  | some record => rfl

theorem tally_foldl {α : Type} {f : SaddleDiveKernel × SaddleDiveEffects → α →
    SaddleDiveKernel × SaddleDiveEffects} (hf : ∀ turn a, (f turn a).1.tally = turn.1.tally)
    (as : List α) (turn : SaddleDiveKernel × SaddleDiveEffects) :
    (as.foldl f turn).1.tally = turn.1.tally := by
  induction as generalizing turn with
  | nil => rfl
  | cons a as ih => exact (ih (f turn a)).trans (hf turn a)

theorem tally_settleRow (f : DiveInstrumentationRow → DiveInstrumentationRow)
    (turn : SaddleDiveKernel × SaddleDiveEffects) (id : DiveId) :
    (settleRow f turn id).1.tally = turn.1.tally := tally_maybeFinalize _ id _

theorem tally_recordDamageInWindows (k : SaddleDiveKernel) (observation : DamageObservation)
    (e : SaddleDiveEffects) : (k.recordDamageInWindows observation e).1.tally = k.tally := by
  refine tally_foldl (fun turn id => ?_) _ (k, e)
  unfold attributeDamage
  split_ifs
  · rfl
  · rfl

theorem tally_observeDeathInternal (k : SaddleDiveKernel) (tick : SimulationTick)
    (e : SaddleDiveEffects) : (k.observeDeathInternal tick e).1.tally = k.tally :=
  tally_foldl (tally_settleRow _) _ (k, e)

theorem tally_censorOpenRows (k : SaddleDiveKernel) (reason : DiveCensorReason) :
    (k.censorOpenRows reason).1.tally = k.tally := tally_foldl (tally_settleRow _) _ (k, _)

theorem tally_applyLandingDamage (k : SaddleDiveKernel) (id : DiveId) (tick : SimulationTick)
    (e : SaddleDiveEffects) : (k.applyLandingDamage id tick e).1.tally = k.tally := by
  unfold applyLandingDamage RiderHealthKernel.applyLandingCommand
  dsimp only
  split_ifs
  · rfl
  · dsimp only
    split_ifs
    · exact tally_observeDeathInternal _ tick _
    · rfl

theorem tally_landDive (k : SaddleDiveKernel) (airborne : AirborneState)
    (motion : RiderMotionObservation) (slope : UInt32) (e : SaddleDiveEffects) :
    (k.landDive airborne motion slope e).1.tally = k.tally := by
  have hattributed : ((k.touchDown airborne motion slope).attributeRetainedDamageForDive
      airborne.diveId (e.transition ⟨k.state, .landingProne, motion.tick, some airborne.diveId⟩)
      ).1.tally = k.tally := by
    refine tally_foldl (fun turn observation => ?_) _ (k.touchDown airborne motion slope, _)
    rw [attributeRetained_fst]
    exact tally_recordDamageInWindows _ _ _
  refine (tally_maybeFinalize _ airborne.diveId _).trans ?_
  split_ifs
  · exact (tally_applyLandingDamage _ _ _ _).trans hattributed
  · exact hattributed

theorem tally_beginTick (k : SaddleDiveKernel) (input : SaddleDiveTickInput) :
    (k.step (.beginTick input)).2.tally = k.tally := by
  have hentered : (k.enterTick input).1.tally = k.tally := by
    unfold enterTick
    rw [advanceRecoveryBoundaries_eq]
    rfl
  unfold step beginTick
  dsimp only
  cases k.validateIdentity input.actor input.authorityEpoch with
  | error error => rfl
  | ok _ =>
    dsimp only
    by_cases hreplay : k.currentTick.any (input.tick ≤ ·) = true
    · rw [if_pos hreplay]
    · rw [if_neg hreplay]
      refine Eq.trans ?_ hentered
      generalize k.enterTick input = entered
      unfold interact
      cases hstate : entered.1.state with
      | mounted =>
        dsimp only
        split_ifs
        · unfold launchDive
          dsimp only
          cases entered.1.nextDiveId with
          | none => rfl
          | some diveId => rfl
        · rfl
        · rfl
        · rfl
      | onFootReady =>
        dsimp only
        split_ifs
        · unfold completeRemount
          cases hdive : entered.1.stateDiveId with
          | none => rfl
          | some diveId => exact tally_maybeFinalize _ diveId _
        · rfl
      | saddleDiveAirborne => rfl
      | landingProne => rfl
      | landingRecovery => rfl

theorem tally_resolveMotion (k : SaddleDiveKernel) (motion : RiderMotionObservation) :
    (k.step (.resolveMotion motion)).2.tally = k.tally := by
  unfold step resolveMotion
  dsimp only
  by_cases htick : k.currentTick ≠ some motion.tick
  · rw [if_pos htick]
  · rw [if_neg htick]
    by_cases hresolved : k.motionResolved = true
    · rw [if_pos hresolved]
    · rw [if_neg hresolved]
      cases k.airborne with
      | none => rfl
      | some airborne =>
        dsimp only
        by_cases hstate : k.state ≠ .saddleDiveAirborne
        · rw [if_pos hstate]
          rfl
        · rw [if_neg hstate]
          cases contactSlope motion with
          | none => rfl
          | some slope => exact tally_landDive _ airborne motion slope _

/-- Only external damage is retained. -/
theorem tally_step (k : SaddleDiveKernel) {call : SaddleDiveCall}
    (hcall : ∀ observation, call ≠ .applyExternalDamage observation) :
    (k.step call).2.tally = k.tally := by
  cases call with
  | setAuthorityEpoch epoch =>
    change (k.setAuthorityEpoch epoch).2.tally = k.tally
    unfold setAuthorityEpoch
    split_ifs
    · rfl
    · rfl
  | beginTick input => exact tally_beginTick k input
  | settleObservationsThrough tick =>
    unfold step settleObservationsThrough
    dsimp only
    split_ifs
    · rfl
    · exact tally_foldl (tally_settleRow _) _ ({ k with observationWatermark := some tick }, _)
  | resolveMotion motion => exact tally_resolveMotion k motion
  | recordShotAttempt tick =>
    unfold step recordShotAttempt
    dsimp only
    split_ifs
    · rfl
    · cases k.stateDiveId with
      | none => rfl
      | some diveId =>
        dsimp only
        cases k.rows[diveId]? with
        | none => rfl
        | some record =>
          dsimp only
          split_ifs
          · rfl
          · rfl
  | recordAcceptedShot shot =>
    unfold step recordAcceptedShot
    dsimp only
    cases shot.diveId with
    | none => rfl
    | some diveId =>
      dsimp only
      split_ifs
      · rfl
      · cases k.rows[diveId]? with
        | none => rfl
        | some record =>
          dsimp only
          split_ifs
          · rfl
          · rfl
  | recordAuthorityResult attribution =>
    unfold step recordAuthorityResult
    dsimp only
    split_ifs
    · rfl
    · cases attribution.acceptedShot with
      | none => rfl
      | some shot =>
        dsimp only
        cases shot.diveId with
        | none => rfl
        | some diveId =>
          dsimp only
          cases k.rows[diveId]? with
          | none => rfl
          | some record =>
            dsimp only
            split_ifs
            · rfl
            · exact tally_maybeFinalize _ diveId _
  | applyExternalDamage observation => exact absurd rfl (hcall observation)
  | observeDeath tick => exact tally_observeDeathInternal _ tick _
  | endMatch tick => exact tally_censorOpenRows k .matchEnded
  | censorNotObserved => exact tally_censorOpenRows k .notObserved
  | reset tick => exact tally_censorOpenRows k .reset

/-! ## Calls -/

/-- Everything retained is counted, and every key that the health has seen is retained. -/
structure Tallied (k : SaddleDiveKernel) : Prop where
  seen : ∀ d, d ∈ k.health.externalObservations ↔ (k.amounts d).isSome = true
  counted : AllCounted k.windowTicks k.amounts k

theorem amounts_of_tally (h : k'.tally = k.tally) : k'.amounts = k.amounts := by
  have hobservations : k'.damageObservations = k.damageObservations := congrArg (·.1) h
  unfold amounts
  rw [hobservations]

theorem allCounted_resolveMotion (h : AllCounted k.windowTicks k.amounts k)
    (motion : RiderMotionObservation) :
    AllCounted k.windowTicks k.amounts (k.step (.resolveMotion motion)).2 := by
  unfold step resolveMotion
  dsimp only
  by_cases htick : k.currentTick ≠ some motion.tick
  · rw [if_pos htick]
    exact h
  · rw [if_neg htick]
    by_cases hresolved : k.motionResolved = true
    · rw [if_pos hresolved]
      exact h
    · rw [if_neg hresolved]
      cases k.airborne with
      | none => exact h
      | some airborne =>
        dsimp only
        by_cases hstate : k.state ≠ .saddleDiveAirborne
        · rw [if_pos hstate]
          exact h
        · rw [if_neg hstate]
          cases contactSlope motion with
          | none => exact h
          | some slope =>
            generalize hnext : ({ k with
              motionResolved := true
              airborne := some airborne
              riderPosition := motion.riderPosition } : SaddleDiveKernel) = next
            have hall : AllCounted next.windowTicks next.amounts next := by
              rw [← hnext]
              exact h
            have hwindow : next.windowTicks = k.windowTicks := by
              rw [← hnext]
              rfl
            have hamounts : next.amounts = k.amounts := by
              rw [← hnext]
              rfl
            rw [← hwindow, ← hamounts]
            refine AllCounted.evolves (A := fun _ edit => edit = .finalized
                ∨ edit = .died motion.tick) (fun id record hrecord =>
                  Counted.touchedDown hall _ hrecord)
              (evolves_hurt (fun _ => .inl rfl) (fun _ => .inr rfl) SaddleDiveEffects.empty)
              countsNothing_died

/-- The kernel takes the observation as one of its own. -/
def Matches (k : SaddleDiveKernel) (observation : DamageObservation) : Prop :=
  observation.id.actor = k.actor ∧ observation.id.authorityEpoch = k.authorityEpoch

instance decidableMatches (k : SaddleDiveKernel) (observation : DamageObservation) :
    Decidable (k.Matches observation) :=
  inferInstanceAs (Decidable (_ ∧ _))

/-- What external damage adds to the amounts: the first delivery of an own observation. -/
def delivered (k : SaddleDiveKernel) (observation : DamageObservation) : Amounts :=
  if k.Matches observation ∧ k.amounts observation.id = none then
    Function.update k.amounts observation.id (some observation.amount)
  else k.amounts

theorem amounts_insert (k : SaddleDiveKernel) (observation : DamageObservation) :
    (fun d => (k.damageObservations.insert observation.id observation.amount)[d]?)
      = Function.update k.amounts observation.id (some observation.amount) := by
  funext d
  rw [ExtTreeMap.getElem?_insert, Function.update_apply]
  by_cases hsame : d = observation.id
  · rw [if_pos hsame, if_pos]
    rw [hsame]
    exact Std.ReflCmp.compare_self
  · rw [if_neg hsame, if_neg fun heq => hsame (Std.LawfulEqCmp.eq_of_compare heq).symm]
    rfl

theorem tallied_recorded (h : k.Tallied) (hnone : k.amounts observation.id = none)
    {health : RiderHealthKernel}
    (hkeys : health.externalObservations
      = insert observation.id k.health.externalObservations) :
    let hurt := { k with
      health
      damageObservations := k.damageObservations.insert observation.id observation.amount }
    (hurt.recordDamageInWindows observation SaddleDiveEffects.empty).1.Tallied
      ∧ (hurt.recordDamageInWindows observation SaddleDiveEffects.empty).1.amounts
        = Function.update k.amounts observation.id (some observation.amount) := by
  intro hurt
  have htally := tally_recordDamageInWindows hurt observation SaddleDiveEffects.empty
  have hamounts : (hurt.recordDamageInWindows observation SaddleDiveEffects.empty).1.amounts
      = Function.update k.amounts observation.id (some observation.amount) :=
    (amounts_of_tally htally).trans (amounts_insert k observation)
  refine ⟨⟨fun d => ?_, fun id record' hrecord' => ?_⟩, hamounts⟩
  · have hseen : (hurt.recordDamageInWindows observation
        SaddleDiveEffects.empty).1.health.externalObservations
        = insert observation.id k.health.externalObservations :=
      (congrArg (·.2) htally).trans hkeys
    rw [hseen, hamounts, Finset.mem_insert, Function.update_apply]
    by_cases hsame : d = observation.id
    · rw [if_pos hsame]
      exact ⟨fun _ => rfl, fun _ => .inl hsame⟩
    · rw [if_neg hsame, ← h.seen d]
      exact ⟨fun hd => hd.resolve_left hsame, .inr⟩
  · rw [hamounts, windowTicks_recordDamageInWindows]
    rw [rows_recordDamageInWindows] at hrecord'
    obtain ⟨record, hrecord, rfl⟩ := Option.map_eq_some_iff.mp hrecord'
    exact (h.counted id record hrecord).attributed hnone

/-- A death after the damage. -/
theorem Tallied.died (h : k.Tallied) (tick : SimulationTick) (e : SaddleDiveEffects) :
    (k.observeDeathInternal tick e).1.Tallied
      ∧ (k.observeDeathInternal tick e).1.amounts = k.amounts := by
  have htally := tally_observeDeathInternal k tick e
  have hamounts := amounts_of_tally htally
  refine ⟨⟨fun d => ?_, ?_⟩, hamounts⟩
  · rw [hamounts, ← h.seen d]
    exact iff_of_eq (congrArg (d ∈ ·.2) htally)
  · rw [hamounts, windowTicks_of_drive (sameDrive_observeDeathInternal k tick e).drive]
    exact h.counted.evolves (Evolves.observeDeathInternal
      (A := fun _ edit => edit = .finalized ∨ edit = .died tick) (fun _ => .inr rfl)
      (fun _ => .inl rfl) rfl e) countsNothing_died

/-- **External damage.** -/
theorem tallied_applyExternalDamage (h : k.Tallied) (observation : DamageObservation) :
    (k.step (.applyExternalDamage observation)).2.Tallied
      ∧ (k.step (.applyExternalDamage observation)).2.amounts = k.delivered observation := by
  unfold step applyExternalDamage delivered
  dsimp only
  by_cases hother : observation.id.actor ≠ k.actor
      ∨ observation.id.authorityEpoch ≠ k.authorityEpoch
  · rw [if_pos hother, if_neg fun hmatch => hother.elim (· hmatch.1.1) (· hmatch.1.2)]
    exact ⟨h, rfl⟩
  · rw [if_neg hother]
    rw [not_or, not_not, not_not] at hother
    unfold RiderHealthKernel.applyExternal
    by_cases hseen : observation.id ∈ k.health.externalObservations
    · have hsome := (h.seen observation.id).mp hseen
      rw [if_pos hseen, if_neg fun hnew => by rw [hnew.2] at hsome; cases hsome]
      exact ⟨h, rfl⟩
    · have hnone : k.amounts observation.id = none := by
        rw [← Option.not_isSome_iff_eq_none]
        exact fun hsome => hseen ((h.seen observation.id).mpr hsome)
      rw [if_neg hseen, if_pos ⟨hother, hnone⟩]
      dsimp only
      have hkeys : (RiderHealthKernel.applyAmount { k.health with
            externalObservations := insert observation.id k.health.externalObservations }
          observation.amount).2.externalObservations
          = insert observation.id k.health.externalObservations := rfl
      generalize RiderHealthKernel.applyAmount { k.health with
            externalObservations := insert observation.id k.health.externalObservations }
          observation.amount = applied at hkeys ⊢
      obtain ⟨htallied, hamounts⟩ := tallied_recorded h hnone hkeys
      split_ifs
      · exact ⟨(htallied.died observation.id.tick _).1,
          (htallied.died observation.id.tick _).2.trans hamounts⟩
      · exact ⟨htallied, hamounts⟩

def amountsAfter (k : SaddleDiveKernel) : SaddleDiveCall → Amounts
  | .applyExternalDamage observation => k.delivered observation
  | _ => k.amounts

theorem allowed_countsNothing {call : SaddleDiveCall}
    (hdamage : ∀ observation, call ≠ .applyExternalDamage observation)
    (hmotion : ∀ motion, call ≠ .resolveMotion motion) {edit : RowEdit}
    (hkind : k.allowed call id edit) : edit.CountsNothing := by
  cases call with
  | setAuthorityEpoch epoch => exact hkind.elim
  | beginTick input =>
    obtain rfl | ⟨-, rfl⟩ := hkind
    · trivial
    · trivial
  | resolveMotion motion => exact absurd rfl (hmotion motion)
  | recordShotAttempt tick =>
    cases hkind
    trivial
  | recordAcceptedShot shot =>
    cases hkind.2
    trivial
  | recordAuthorityResult attribution =>
    obtain rfl | ⟨shot, -, -, rfl⟩ := hkind
    · trivial
    · trivial
  | applyExternalDamage observation => exact absurd rfl (hdamage observation)
  | settleObservationsThrough tick =>
    obtain rfl | rfl := hkind
    · trivial
    · trivial
  | observeDeath tick => exact countsNothing_died id edit hkind
  | endMatch tick =>
    obtain rfl | rfl := hkind
    · trivial
    · trivial
  | censorNotObserved =>
    obtain rfl | rfl := hkind
    · trivial
    · trivial
  | reset tick =>
    obtain rfl | rfl := hkind
    · trivial
    · trivial

/-- **Every call keeps the count.** -/
theorem tallied_step (h : k.Tallied) (call : SaddleDiveCall) :
    (k.step call).2.Tallied ∧ (k.step call).2.amounts = k.amountsAfter call := by
  by_cases hdamage : ∃ observation, call = .applyExternalDamage observation
  · obtain ⟨observation, rfl⟩ := hdamage
    exact tallied_applyExternalDamage h observation
  have hdamage : ∀ observation, call ≠ .applyExternalDamage observation :=
    fun observation heq => hdamage ⟨observation, heq⟩
  have htally := tally_step k hdamage
  have hamounts := amounts_of_tally htally
  have hwindow : (k.step call).2.windowTicks = k.windowTicks := by
    unfold windowTicks
    rw [(advances_step k call).rate]
  refine ⟨⟨fun d => ?_, ?_⟩, hamounts.trans ?_⟩
  · rw [hamounts, ← h.seen d]
    exact iff_of_eq (congrArg (d ∈ ·.2) htally)
  · rw [hamounts, hwindow]
    by_cases hmotion : ∃ motion, call = .resolveMotion motion
    · obtain ⟨motion, rfl⟩ := hmotion
      exact allCounted_resolveMotion h.counted motion
    obtain hevolves | ⟨input, new, record, rfl, hlaunch⟩ := evolves_step k call
    · exact h.counted.evolves hevolves fun id edit hkind =>
        allowed_countsNothing hdamage (fun motion heq => hmotion ⟨motion, heq⟩) hkind
    · intro id record' hrecord'
      rw [hlaunch.rows, ExtTreeMap.getElem?_insert] at hrecord'
      split_ifs at hrecord' with hsame
      · cases hrecord'
        exact .launched hlaunch.fresh
      · exact h.counted id record' hrecord'
  · cases call with
    | applyExternalDamage observation => exact absurd rfl (hdamage observation)
    | _ => rfl

theorem tallied_new {tickRate : UInt32} {actor : PlayerId} {authorityEpoch : UInt64}
    (h : new tickRate actor authorityEpoch = .ok k) : k.Tallied ∧ k.amounts = fun _ => none := by
  unfold new at h
  split_ifs at h
  cases h
  refine ⟨⟨fun d => ?_, fun id record hrecord => ?_⟩, funext fun d => ExtTreeMap.getElem?_empty⟩
  · change d ∈ (∅ : Finset DamageObservationId) ↔
      ((∅ : ExtTreeMap DamageObservationId UInt16)[d]?).isSome = true
    rw [ExtTreeMap.getElem?_empty]
    exact ⟨fun hmem => absurd hmem (Finset.notMem_empty d), nofun⟩
  · rw [ExtTreeMap.getElem?_empty] at hrecord
    cases hrecord

/-! ## Runs -/

def deliveredBy (actor : PlayerId) (authorityEpoch : UInt64) :
    SaddleDiveCall → Option DamageObservation
  | .applyExternalDamage observation =>
    if observation.id.actor = actor ∧ observation.id.authorityEpoch = authorityEpoch then
      some observation
    else none
  | _ => none

/-- The observations delivered to the actor in the epoch, in order and with their repeats. -/
def deliveries (actor : PlayerId) (authorityEpoch : UInt64) (calls : List SaddleDiveCall) :
    List DamageObservation :=
  calls.filterMap (deliveredBy actor authorityEpoch)

theorem deliveries_append_some {actor : PlayerId} {authorityEpoch : UInt64}
    {calls : List SaddleDiveCall} {call : SaddleDiveCall}
    (h : deliveredBy actor authorityEpoch call = some observation) :
    deliveries actor authorityEpoch (calls ++ [call])
      = deliveries actor authorityEpoch calls ++ [observation] := by
  unfold deliveries
  rw [List.filterMap_append, List.filterMap_cons_some h, List.filterMap_nil]

theorem deliveries_append_none {actor : PlayerId} {authorityEpoch : UInt64}
    {calls : List SaddleDiveCall} {call : SaddleDiveCall}
    (h : deliveredBy actor authorityEpoch call = none) :
    deliveries actor authorityEpoch (calls ++ [call]) = deliveries actor authorityEpoch calls := by
  unfold deliveries
  rw [List.filterMap_append, List.filterMap_cons_none h, List.filterMap_nil, List.append_nil]

def firstAmount (observations : List DamageObservation) : Amounts := fun d =>
  (observations.find? (·.id = d)).map (·.amount)

theorem isSome_firstAmount {observations : List DamageObservation} {d : DamageObservationId} :
    (firstAmount observations d).isSome = true ↔ d ∈ observations.map (·.id) := by
  unfold firstAmount
  rw [Option.isSome_map, List.find?_isSome, List.mem_map]
  simp only [decide_eq_true_eq]

/-- One more delivery. -/
theorem firstAmount_append (observations : List DamageObservation)
    (observation : DamageObservation) :
    firstAmount (observations ++ [observation])
      = if firstAmount observations observation.id = none then
          Function.update (firstAmount observations) observation.id (some observation.amount)
        else firstAmount observations := by
  funext d
  have happend : firstAmount (observations ++ [observation]) d
      = (firstAmount observations d).or (firstAmount [observation] d) := by
    unfold firstAmount
    rw [List.find?_append, Option.map_or]
  rw [happend]
  by_cases hsame : d = observation.id
  · subst hsame
    have hlast : firstAmount [observation] observation.id = some observation.amount := by
      unfold firstAmount
      rw [List.find?_singleton, if_pos (decide_eq_true rfl)]
      rfl
    rw [hlast]
    cases hfirst : firstAmount observations observation.id with
    | none => rw [if_pos rfl, Function.update_self, Option.none_or]
    | some amount => rw [if_neg (Option.some_ne_none amount), hfirst, Option.some_or]
  · have hlast : firstAmount [observation] d = none := by
      unfold firstAmount
      rw [List.find?_singleton, if_neg fun heq => hsame (of_decide_eq_true heq).symm]
      rfl
    rw [hlast, Option.or_none]
    split_ifs
    · rw [Function.update_of_ne hsame]
    · rfl

/-- **What has been delivered.**  The kernel retains the first amount of every observation. -/
theorem tallied_run {actor : PlayerId} {authorityEpoch : UInt64} {tickRate : UInt32}
    (hnew : new tickRate actor authorityEpoch = .ok k) (calls : List SaddleDiveCall)
    (hepoch : ∀ epoch, .setAuthorityEpoch epoch ∈ calls → epoch ≤ authorityEpoch) :
    (Runs.run step k calls).Tallied
      ∧ (Runs.run step k calls).amounts = firstAmount (deliveries actor authorityEpoch calls)
      ∧ (Runs.run step k calls).actor = actor
      ∧ (Runs.run step k calls).authorityEpoch = authorityEpoch
      ∧ (Runs.run step k calls).tickRate = tickRate := by
  induction calls using List.reverseRecOn with
  | nil =>
    obtain ⟨htallied, hamounts⟩ := tallied_new hnew
    refine ⟨htallied, hamounts, ?_⟩
    unfold new at hnew
    split_ifs at hnew
    cases hnew
    exact ⟨rfl, rfl, rfl⟩
  | append_singleton calls call ih =>
    obtain ⟨htallied, hamounts, hactor, hsame, hrate⟩ := ih fun epoch hmem =>
      hepoch epoch (List.mem_append_left _ hmem)
    rw [Runs.run_append, Runs.run_cons, Runs.run_nil]
    generalize Runs.run step k calls = last at *
    obtain ⟨hnext, hafter⟩ := tallied_step htallied call
    have hadvances := advances_step last call
    refine ⟨hnext, hafter.trans ?_, hadvances.actor.trans hactor, hadvances.epoch.trans ?_,
      hadvances.rate.trans hrate⟩
    · cases call with
      | applyExternalDamage observation =>
        have hmatches : last.Matches observation ↔ observation.id.actor = actor
            ∧ observation.id.authorityEpoch = authorityEpoch := by
          unfold Matches
          rw [hactor, hsame]
        change last.delivered observation = _
        unfold delivered
        by_cases hmatch : observation.id.actor = actor
            ∧ observation.id.authorityEpoch = authorityEpoch
        · have hown : deliveredBy actor authorityEpoch (.applyExternalDamage observation)
              = some observation := if_pos hmatch
          rw [deliveries_append_some hown, firstAmount_append, ← hamounts]
          by_cases hnone : last.amounts observation.id = none
          · rw [if_pos hnone, if_pos ⟨hmatches.mpr hmatch, hnone⟩]
          · rw [if_neg hnone, if_neg fun h => hnone h.2]
        · have hother : deliveredBy actor authorityEpoch (.applyExternalDamage observation)
              = none := if_neg hmatch
          rw [if_neg fun h => hmatch (hmatches.mp h.1), deliveries_append_none hother]
          exact hamounts
      | _ => exact hamounts.trans (by rw [deliveries_append_none rfl])
    · cases call with
      | setAuthorityEpoch epoch =>
        have hle := hepoch epoch (List.mem_append_right _ List.mem_cons_self)
        change (if epoch < last.authorityEpoch then last.authorityEpoch else epoch) = authorityEpoch
        rw [hsame]
        split_ifs with hearlier
        · rfl
        · exact UInt64.le_antisymm hle (UInt64.not_lt.mp hearlier)
      | _ => exact hsame

/-- **Damage after a landing.**  In every run at one authority epoch, the row of a landed dive that
is still open counts the damage of its landing and the first amount of every distinct observation
delivered so far whose tick lies within three seconds of the landing, up to the largest number. -/
theorem landing_damage_along (tickRate : UInt32) (actor : PlayerId) (authorityEpoch : UInt64)
    (kernel : SaddleDiveKernel) (hnew : new tickRate actor authorityEpoch = .ok kernel)
    (calls : List SaddleDiveCall)
    (hepoch : ∀ epoch, .setAuthorityEpoch epoch ∈ calls → epoch ≤ authorityEpoch)
    (id : DiveId) (record : DiveRecord) (landing : SimulationTick)
    (hrecord : (Runs.run step kernel calls).rows[id]? = some record)
    (hopen : record.finalized = false) (hlanding : record.row.landingTick = some landing) :
    let observations := deliveries actor authorityEpoch calls
    record.row.damageTakenLandingThrough3s.toNat = min (record.row.landingDamage.toNat
      + ∑ d ∈ (observations.map (·.id)).toFinset with
          InWindow (durationTicksCeil tickRate 3000) landing d.tick,
        ((firstAmount observations d).map UInt16.toNat).getD 0) (2 ^ 32 - 1) := by
  intro observations
  obtain ⟨htallied, hamounts, -, -, hrate⟩ := tallied_run hnew calls hepoch
  have hcounted := htallied.counted id record hrecord
  rw [hamounts] at hcounted
  have hwindow : (Runs.run step kernel calls).windowTicks = durationTicksCeil tickRate 3000 := by
    unfold windowTicks
    rw [hrate]
  rw [hwindow] at hcounted
  have hattributed : record.attributedDamageObservations
      = (observations.map (·.id)).toFinset.filter fun d =>
        InWindow (durationTicksCeil tickRate 3000) landing d.tick := by
    ext d
    rw [hcounted.known hopen landing hlanding d, isSome_firstAmount, Finset.mem_filter,
      List.mem_toFinset]
  rw [hcounted.taken hopen landing hlanding, hattributed]

/-- Damage of a tick right after the landing of a dive, reported before it. -/
def earlyDamage : DamageObservation where
  id := ⟨7, .ofTail 1, 3, 1⟩
  amount := 5

/-- Damage reported twice, before and after the landing, counts once. -/
theorem landing_damage_once :
    ∃ kernel, new 60 (.ofTail 1) 7 = .ok kernel
      ∧ ∃ (id : DiveId) (record : DiveRecord),
        (Runs.run step kernel [.beginTick (divingInput 1), .applyExternalDamage earlyDamage,
          .beginTick (divingInput 2), .resolveMotion (fallingObservation 2),
          .applyExternalDamage earlyDamage]).rows[id]? = some record
        ∧ record.row.damageTakenLandingThrough3s.toNat = 5 := by
  have hfalls : (new 60 (.ofTail 1) 7).toOption.any (fun kernel =>
      decide (∃ entry ∈ (Runs.run step kernel [.beginTick (divingInput 1),
          .applyExternalDamage earlyDamage, .beginTick (divingInput 2),
          .resolveMotion (fallingObservation 2), .applyExternalDamage earlyDamage]).rows.toList,
        entry.2.finalized = false ∧ entry.2.row.landingTick = some 2
          ∧ entry.2.row.landingDamage = 0)) = true := by decide +kernel
  obtain ⟨kernel, hnew, ⟨id, record⟩, hentry, hopen, hlanding, hunhurt⟩ :=
    Fallible.exists_ok_of_any hfalls
  have hrecord := ExtTreeMap.mem_toList_iff_getElem?_eq_some.mp hentry
  have hcount := landing_damage_along 60 _ 7 kernel hnew _ (fun epoch hmem => by simp at hmem)
    id record 2 hrecord hopen hlanding
  refine ⟨kernel, hnew, id, record, hrecord, hcount.trans ?_⟩
  rw [hunhurt]
  decide +kernel

end SaddleDiveKernel

end Spurfire
