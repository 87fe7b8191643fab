import Mathlib.Data.List.MinMax
import Mathlib.Data.Prod.Lex
import Spurfire.Lib.Fallible
import Spurfire.Lib.Runs
import Spurfire.Lib.Timeline
import Spurfire.Lib.TreeMap
import Spurfire.Protocol.Targets

/-!
# Rewinding the targets of a shot

A shot is resolved against the geometry that its targets had at the tick of the command.  The
registry keeps a quarter of a second of it per target.

* `RegistryCall`, `step`, `recorded`: the registry as a machine, and what it has recorded;
* `rewound`: a target at a tick, from all that was ever recorded of it;
* `Rewinds`: what the kept histories are of what was recorded;
* `foldl_eq_argmin`: the loop over the targets finds the least hit;
* **`nearestHit_along`**: a shot hits the nearest of the targets as they were at its tick.
-/

namespace Spurfire

open Std (ExtTreeMap)
open Timeline

/-! ## Calls -/

inductive RegistryCall
  | restore (definition : TargetDefinition) (health : UInt16)
  | register (definition : TargetDefinition)
  | recordPose (pose : TargetPoseSnapshot)
  | recordHorsePose (pose : HorseTargetPoseSnapshot)
  | synchronizeHealth (entityId : EntityId) (health : UInt16)
  | respawn (entityId : EntityId)
  | applyDamage (targetId : EntityId) (damage : UInt16)

namespace TargetRegistry

/-- An operation that leaves the registry where it fails. -/
def orSame (t : TargetRegistry) (result : Except TargetRegistryError TargetRegistry) :
    Option TargetRegistryError × TargetRegistry :=
  match result with
  | .error error => (some error, t)
  | .ok t => (none, t)

def step (t : TargetRegistry) : RegistryCall → Option TargetRegistryError × TargetRegistry
  | .restore definition health => t.orSame (t.restore definition health)
  | .register definition => t.orSame (t.register definition)
  | .recordPose pose => t.orSame (t.recordPose pose)
  | .recordHorsePose pose => t.orSame (t.recordHorsePose pose)
  | .synchronizeHealth entityId health => t.orSame (t.synchronizeHealth entityId health)
  | .respawn entityId => t.orSame (t.respawn entityId)
  | .applyDamage targetId damage => (none, (t.applyDamage targetId damage).2)

def recorded (t : TargetRegistry) : RegistryCall → List (EntityId × TargetGeometrySnapshot)
  | .recordPose pose => if (t.recordPose pose).isOk then [(pose.entityId, .rider pose)] else []
  | .recordHorsePose pose =>
    if (t.recordHorsePose pose).isOk then [(pose.entityId, .horse pose)] else []
  | _ => []

/-! ## Rewinding -/

/-- All that was recorded of one target. -/
def logOf (log : List (EntityId × TargetGeometrySnapshot)) (entityId : EntityId) :
    List TargetGeometrySnapshot :=
  (log.filter (·.1 = entityId)).map (·.2)

def clock (geometry : TargetGeometrySnapshot) : ℕ := geometry.tick.toNat

/-- Where the rewind window of a target begins. -/
def oldest (historyTicks : UInt64) (log : List TargetGeometrySnapshot) : ℕ :=
  (log.getLast?.map fun newest => clock newest - historyTicks.toNat).getD 0

/-- A target at a tick: the newest geometry that was recorded no later, unless it has left the
rewind window of the newest of all. -/
def rewound (historyTicks : UInt64) (log : List TargetGeometrySnapshot) (tick : SimulationTick) :
    Option TargetGeometrySnapshot :=
  (asOf clock log tick.toNat).filter fun geometry => oldest historyTicks log ≤ clock geometry

/-- What a registry keeps of a log. -/
structure Rewinds (t : TargetRegistry) (log : List (EntityId × TargetGeometrySnapshot)) : Prop where
  entityId : ∀ (entity : EntityId) (record : TargetRecord), t.targets[entity]? = some record →
    record.definition.entityId = entity
  ascends : ∀ (entity : EntityId), Ascends clock (logOf log entity)
  history : ∀ (entity : EntityId) (record : TargetRecord), t.targets[entity]? = some record →
    record.history = prune clock (oldest t.historyTicks (logOf log entity)) (logOf log entity)
  kind : ∀ (entity : EntityId) (record : TargetRecord), t.targets[entity]? = some record →
    ∀ geometry ∈ logOf log entity, record.geometryKind = some geometry.kind
  unknown : ∀ entity, entity ∉ t.targets → logOf log entity = []

variable {t t' : TargetRegistry} {log : List (EntityId × TargetGeometrySnapshot)}
  {entity : EntityId} {record : TargetRecord}

theorem geometryAt_eq_asOf (record : TargetRecord) (tick : SimulationTick) :
    record.geometryAt tick = asOf clock record.history tick.toNat := by
  unfold TargetRecord.geometryAt asOf clock
  simp only [UInt64.le_iff_toNat_le]

/-- The kept history answers for the whole log. -/
theorem Rewinds.geometryAt (h : t.Rewinds log) (hknown : t.targets[entity]? = some record)
    (tick : SimulationTick) :
    record.geometryAt tick = rewound t.historyTicks (logOf log entity) tick := by
  rw [geometryAt_eq_asOf, h.history entity record hknown, asOf_prune (h.ascends entity)]
  rfl

/-! ### Changes of one record -/

theorem mem_of_known (hknown : t.targets[entity]? = some record) : entity ∈ t.targets :=
  ExtTreeMap.mem_iff_isSome_getElem?.mpr (by rw [hknown]; rfl)

/-- Another health leaves the geometry. -/
theorem Rewinds.insert (h : t.Rewinds log) (hknown : t.targets[entity]? = some record)
    (health : UInt16) :
    Rewinds { t with targets := t.targets.insert entity { record with health } } log := by
  have hcases : ∀ (other : EntityId) (found : TargetRecord),
      (t.targets.insert entity { record with health })[other]? = some found →
      ∃ old, t.targets[other]? = some old ∧ found.definition = old.definition
        ∧ found.history = old.history ∧ found.geometryKind = old.geometryKind := by
    intro other found hfound
    rw [ExtTreeMap.getElem?_insert_eq_ite] at hfound
    split_ifs at hfound with heq
    · obtain rfl := Option.some.inj hfound
      exact ⟨record, heq ▸ hknown, rfl, rfl, rfl⟩
    · exact ⟨found, hfound, rfl, rfl, rfl⟩
  refine ⟨fun other found hfound => ?_, h.ascends, fun other found hfound => ?_,
    fun other found hfound => ?_, fun other hunknown => h.unknown other fun hmem => hunknown ?_⟩
  · obtain ⟨old, hold, hdefinition, -⟩ := hcases other found hfound
    rw [hdefinition]
    exact h.entityId other old hold
  · obtain ⟨old, hold, -, hhistory, -⟩ := hcases other found hfound
    rw [hhistory]
    exact h.history other old hold
  · obtain ⟨old, hold, -, -, hkind⟩ := hcases other found hfound
    rw [hkind]
    exact h.kind other old hold
  · exact (ExtTreeMap.mem_insert_iff_of_mem (mem_of_known hknown)).mpr hmem

/-- A new target has no history. -/
theorem Rewinds.restore {definition : TargetDefinition} {health : UInt16} (h : t.Rewinds log)
    (hok : t.restore definition health = .ok t') : t'.Rewinds log := by
  unfold TargetRegistry.restore at hok
  split_ifs at hok with hinvalid hduplicate
  obtain rfl := Except.ok.inj hok
  have hempty := h.unknown definition.entityId hduplicate
  refine ⟨fun other found hfound => ?_, h.ascends, fun other found hfound => ?_,
    fun other found hfound => ?_, fun other hunknown => h.unknown other fun hmem => hunknown ?_⟩
  · rw [ExtTreeMap.getElem?_insert_eq_ite] at hfound
    split_ifs at hfound with heq
    · obtain rfl := Option.some.inj hfound
      exact heq.symm
    · exact h.entityId other found hfound
  · rw [ExtTreeMap.getElem?_insert_eq_ite] at hfound
    split_ifs at hfound with heq
    · obtain rfl := Option.some.inj hfound
      rw [heq, hempty]
      rfl
    · exact h.history other found hfound
  · rw [ExtTreeMap.getElem?_insert_eq_ite] at hfound
    split_ifs at hfound with heq
    · rw [heq, hempty]
      exact nofun
    · exact h.kind other found hfound
  · exact ExtTreeMap.mem_insert_iff_eq.mpr (.inr hmem)

/-! ### Recording -/

theorem logOf_append_singleton (log : List (EntityId × TargetGeometrySnapshot))
    (entity other : EntityId) (geometry : TargetGeometrySnapshot) :
    logOf (log ++ [(entity, geometry)]) other
      = if other = entity then logOf log other ++ [geometry] else logOf log other := by
  unfold logOf
  rw [List.filter_append, List.map_append]
  by_cases heq : other = entity
  · simp [heq]
  · simp [heq, Ne.symm heq]

/-- The newest entry of a timeline survives its own window. -/
theorem getLast?_prune (historyTicks : UInt64) (log : List TargetGeometrySnapshot) :
    (prune clock (oldest historyTicks log) log).getLast? = log.getLast? := by
  induction log using List.reverseRecOn with
  | nil => rfl
  | append_singleton log newest _ =>
    have hwindow : oldest historyTicks (log ++ [newest]) ≤ clock newest := by
      unfold oldest
      rw [List.getLast?_concat]
      exact Nat.sub_le _ _
    rw [prune_append_singleton log hwindow, List.getLast?_concat, List.getLast?_concat]

/-- The window never moves back. -/
theorem oldest_append_singleton {historyTicks : UInt64} {log : List TargetGeometrySnapshot}
    {geometry : TargetGeometrySnapshot}
    (hlast : ∀ previous ∈ log.getLast?, clock previous < clock geometry) :
    oldest historyTicks log ≤ oldest historyTicks (log ++ [geometry]) := by
  unfold oldest
  rw [List.getLast?_concat]
  cases hprevious : log.getLast? with
  | none => exact Nat.zero_le _
  | some previous => exact Nat.sub_le_sub_right (hlast previous hprevious).le _

theorem Rewinds.pushGeometry {geometry : TargetGeometrySnapshot} (h : t.Rewinds log)
    (hok : t.pushGeometry entity geometry = .ok t') : t'.Rewinds (log ++ [(entity, geometry)]) := by
  unfold TargetRegistry.pushGeometry at hok
  split at hok
  · cases hok
  rename_i record hknown
  obtain ⟨pushed, hpushed, rfl⟩ := Fallible.map_eq_ok hok
  have hhistory := h.history entity record hknown
  unfold TargetRecord.pushGeometry at hpushed
  split_ifs at hpushed with hkind hreplay
  obtain rfl := Except.ok.inj hpushed
  have hlast : ∀ previous ∈ (logOf log entity).getLast?, clock previous < clock geometry := by
    intro previous hprevious
    rw [Bool.not_eq_true, hhistory, getLast?_prune, hprevious, Option.any_some,
      decide_eq_false_iff_not, UInt64.not_le] at hreplay
    exact UInt64.lt_iff_toNat_lt.mp hreplay
  have hascends : Ascends clock (logOf log entity ++ [geometry]) :=
    (h.ascends entity).append_singleton hlast
  have hmem := mem_of_known hknown
  refine ⟨fun other found hfound => ?_, fun other => ?_, fun other found hfound => ?_,
    fun other found hfound => ?_, fun other hunknown => ?_⟩
  · rw [ExtTreeMap.getElem?_insert_eq_ite] at hfound
    split_ifs at hfound with heq
    · obtain rfl := Option.some.inj hfound
      exact (h.entityId entity record hknown).trans heq.symm
    · exact h.entityId other found hfound
  · rw [logOf_append_singleton]
    split_ifs with heq
    · rwa [heq]
    · exact h.ascends other
  · rw [logOf_append_singleton]
    rw [ExtTreeMap.getElem?_insert_eq_ite] at hfound
    split_ifs at hfound ⊢ with heq
    · obtain rfl := Option.some.inj hfound
      rw [heq]
      dsimp only
      rw [hhistory]
      have hbound : oldest t.historyTicks (logOf log entity ++ [geometry])
          = (geometry.tick.satSub t.historyTicks).toNat := by
        unfold oldest clock
        rw [List.getLast?_concat, UInt64.toNat_satSub]
        rfl
      rw [← prune_append_prune (oldest_append_singleton hlast), hbound]
      unfold prune clock
      simp only [UInt64.lt_iff_toNat_lt]
    · exact h.history other found hfound
  · rw [logOf_append_singleton]
    rw [ExtTreeMap.getElem?_insert_eq_ite] at hfound
    split_ifs at hfound ⊢ with heq
    · obtain rfl := Option.some.inj hfound
      intro old hold
      rcases List.mem_append.mp hold with hold | hnew
      · have hbefore := h.kind entity record hknown old (heq ▸ hold)
        rw [Bool.not_eq_true, hbefore, Option.any_some, decide_eq_false_iff_not, not_not] at hkind
        rw [hkind]
      · rw [List.mem_singleton.mp hnew]
    · exact h.kind other found hfound
  · rw [ExtTreeMap.mem_insert_iff_eq, not_or] at hunknown
    rw [logOf_append_singleton, if_neg hunknown.1]
    exact h.unknown other hunknown.2

theorem Rewinds.recordPose {pose : TargetPoseSnapshot} (h : t.Rewinds log)
    (hok : t.recordPose pose = .ok t') : t'.Rewinds (log ++ [(pose.entityId, .rider pose)]) := by
  unfold TargetRegistry.recordPose at hok
  split_ifs at hok
  exact h.pushGeometry hok

theorem Rewinds.recordHorsePose {pose : HorseTargetPoseSnapshot} (h : t.Rewinds log)
    (hok : t.recordHorsePose pose = .ok t') :
    t'.Rewinds (log ++ [(pose.entityId, .horse pose)]) := by
  unfold TargetRegistry.recordHorsePose at hok
  split_ifs at hok
  exact h.pushGeometry hok

theorem rewinds_orSame {result : Except TargetRegistryError TargetRegistry} (h : t.Rewinds log)
    (hok : ∀ t', result = .ok t' → t'.Rewinds log) : (t.orSame result).2.Rewinds log := by
  unfold orSame
  cases result with
  | error e => exact h
  | ok t' => exact hok t' rfl

theorem rewinds_quiet {call : RegistryCall} (hquiet : t.recorded call = [])
    (h : (t.step call).2.Rewinds log) : (t.step call).2.Rewinds (log ++ t.recorded call) := by
  rwa [hquiet, List.append_nil]

theorem rewinds_step (h : t.Rewinds log) (call : RegistryCall) :
    (t.step call).2.Rewinds (log ++ t.recorded call) := by
  cases call with
  | restore definition health =>
    exact rewinds_quiet rfl (rewinds_orSame h fun t' => h.restore)
  | register definition => exact rewinds_quiet rfl (rewinds_orSame h fun t' => h.restore)
  | recordPose pose =>
    unfold step orSame recorded
    dsimp only
    cases hok : t.recordPose pose with
    | error e => exact (List.append_nil log).symm ▸ h
    | ok t' => exact h.recordPose hok
  | recordHorsePose pose =>
    unfold step orSame recorded
    dsimp only
    cases hok : t.recordHorsePose pose with
    | error e => exact (List.append_nil log).symm ▸ h
    | ok t' => exact h.recordHorsePose hok
  | synchronizeHealth entity health =>
    refine rewinds_quiet rfl (rewinds_orSame h fun t' hok => ?_)
    unfold TargetRegistry.synchronizeHealth at hok
    split at hok
    · cases hok
    · rename_i record hknown
      split_ifs at hok
      obtain rfl := Except.ok.inj hok
      exact h.insert hknown health
  | respawn entity =>
    refine rewinds_quiet rfl (rewinds_orSame h fun t' hok => ?_)
    unfold TargetRegistry.respawn at hok
    split at hok
    · cases hok
    · rename_i record hknown
      obtain rfl := Except.ok.inj hok
      exact h.insert hknown record.definition.maxHealth
  | applyDamage entity damage =>
    refine rewinds_quiet rfl ?_
    unfold step TargetRegistry.applyDamage
    dsimp only
    cases hknown : t.targets[entity]? with
    | none => exact h
    | some record => exact h.insert hknown (record.health.satSub damage)

/-! ## The nearest hit -/

def zoneOrder : HitZone → ℕ
  | .head => 0
  | .body => 1

def sortKey (hit : ResolvedTargetHit) : ℕ ×ₗ ℕ ×ₗ ℕ :=
  toLex (hit.distanceMm.toNat, toLex (hit.targetId.toNat, zoneOrder hit.hitZone))

theorem precedes_iff (a b : ResolvedTargetHit) : a.precedes b = true ↔ sortKey a < sortKey b := by
  have hzone : (a.hitZone = .head ∧ b.hitZone = .body)
      ↔ zoneOrder a.hitZone < zoneOrder b.hitZone := by
    cases a.hitZone <;> cases b.hitZone <;> decide
  unfold ResolvedTargetHit.precedes sortKey
  rw [Prod.Lex.toLex_lt_toLex, Prod.Lex.toLex_lt_toLex]
  simp only [Bool.or_eq_true, Bool.and_eq_true, decide_eq_true_eq, UInt32.lt_iff_toNat_lt,
    UInt64.lt_iff_toNat_lt, UInt32.toNat_inj, UInt64.toNat_inj, hzone]

theorem sortKey_injective : Function.Injective sortKey := by
  intro a b h
  obtain ⟨hdistance, hrest⟩ := Prod.mk.inj (toLex.injective h)
  obtain ⟨htarget, hzone⟩ := Prod.mk.inj (toLex.injective hrest)
  have hzone' : a.hitZone = b.hitZone := by
    revert hzone
    cases a.hitZone <;> cases b.hitZone <;> decide
  obtain ⟨target, zone, distance⟩ := a
  obtain ⟨target', zone', distance'⟩ := b
  obtain rfl := UInt32.toNat_inj.mp hdistance
  obtain rfl := UInt64.toNat_inj.mp htarget
  obtain rfl := hzone'
  rfl

/-- The loop over the targets finds the least hit. -/
theorem foldl_eq_argmin (hits : List ResolvedTargetHit) :
    hits.foldl (fun nearest hit => if nearest.all hit.precedes then some hit else nearest) none
      = hits.argmin sortKey := by
  unfold List.argmin
  refine congrArg (fun f => List.foldl f none hits) ?_
  funext nearest hit
  cases nearest with
  | none => rfl
  | some best =>
    unfold List.argAux
    rw [Option.all_some]
    by_cases h : hit.precedes best = true
    · rw [if_pos h]
      exact (if_pos ((precedes_iff hit best).mp h)).symm
    · rw [if_neg h]
      exact (if_neg fun hlt => h ((precedes_iff hit best).mpr hlt)).symm

section Sight

variable (G : RayGeometry) (tick : SimulationTick) (origin : QuantizedOrigin)
  (direction : QuantizedDirection) (maximumDistanceMm : UInt32) (shooter : PlayerId) (team : TeamId)

/-- The ray meets a zone of a living, hostile target as it was at the tick. -/
def InSight (t : TargetRegistry) (log : List (EntityId × TargetGeometrySnapshot))
    (hit : ResolvedTargetHit) : Prop :=
  ∃ record geometry, t.targets[hit.targetId]? = some record ∧ record.health ≠ 0
    ∧ record.definition.ownerPeerId ≠ some shooter ∧ record.definition.teamId ≠ team
    ∧ rewound t.historyTicks (logOf log hit.targetId) tick = some geometry ∧ geometry.active = true
    ∧ G.distanceMm geometry hit.hitZone origin direction maximumDistanceMm = some hit.distanceMm

/-- The hits that the loop looks at are those in sight. -/
theorem Rewinds.mem_hits_iff (h : t.Rewinds log) (hit : ResolvedTargetHit) :
    hit ∈ t.targets.values.flatMap
      (candidates G tick origin direction maximumDistanceMm shooter team)
      ↔ InSight G tick origin direction maximumDistanceMm shooter team t log hit := by
  have hzones : ∀ zone : HitZone, zone ∈ [HitZone.head, .body] := by
    intro zone
    cases zone <;> decide
  rw [List.mem_flatMap]
  constructor
  · rintro ⟨record, hrecord, hhit⟩
    obtain ⟨entity, hknown⟩ := ExtTreeMap.mem_values.mp hrecord
    unfold candidates at hhit
    split_ifs at hhit with hspared
    · cases hhit
    simp only [not_or] at hspared
    split at hhit
    · cases hhit
    rename_i geometry hgeometry
    split_ifs at hhit with hactive
    · cases hhit
    obtain ⟨zone, -, hzone⟩ := List.mem_filterMap.mp hhit
    obtain ⟨distance, hdistance, rfl⟩ := Option.map_eq_some_iff.mp hzone
    have hentity := h.entityId entity record hknown
    rw [h.geometryAt hknown] at hgeometry
    refine ⟨record, geometry, ?_, hspared.1, hspared.2.1, hspared.2.2, ?_, ?_, hdistance⟩
    · rwa [hentity]
    · rwa [hentity]
    · rwa [Bool.not_eq_true', Bool.not_eq_false] at hactive
  · rintro ⟨record, geometry, hknown, hliving, howner, hteam, hrewound, hactive, hdistance⟩
    refine ⟨record, ExtTreeMap.mem_values.mpr ⟨hit.targetId, hknown⟩, ?_⟩
    unfold candidates
    rw [if_neg (not_or.mpr ⟨hliving, not_or.mpr ⟨howner, hteam⟩⟩), h.geometryAt hknown, hrewound]
    dsimp only
    rw [hactive, if_neg (by decide)]
    refine List.mem_filterMap.mpr ⟨hit.hitZone, hzones _, ?_⟩
    rw [hdistance, Option.map_some, h.entityId _ record hknown]

theorem Rewinds.nearestHit_iff (h : t.Rewinds log) (hit : ResolvedTargetHit) :
    t.nearestHit G tick origin direction maximumDistanceMm shooter team = some hit
      ↔ InSight G tick origin direction maximumDistanceMm shooter team t log hit
        ∧ ∀ other, InSight G tick origin direction maximumDistanceMm shooter team t log other →
          other = hit ∨ hit.precedes other = true := by
  unfold nearestHit
  rw [foldl_eq_argmin]
  constructor
  · intro hleast
    refine ⟨(h.mem_hits_iff ..).mp (List.argmin_mem hleast), fun other hother => ?_⟩
    have hle := List.le_of_mem_argmin ((h.mem_hits_iff ..).mpr hother) hleast
    rcases hle.lt_or_eq with hlt | heq
    · exact .inr ((precedes_iff hit other).mpr hlt)
    · exact .inl (sortKey_injective heq).symm
  · rintro ⟨hsight, hfirst⟩
    have hmem := (h.mem_hits_iff ..).mpr hsight
    cases hleast : List.argmin sortKey (t.targets.values.flatMap
        (candidates G tick origin direction maximumDistanceMm shooter team)) with
    | none =>
      rw [List.argmin_eq_none.mp hleast] at hmem
      cases hmem
    | some least =>
      have hle := List.le_of_mem_argmin hmem hleast
      rcases hfirst least ((h.mem_hits_iff ..).mp (List.argmin_mem hleast)) with heq | hprecedes
      · rw [heq]
      · exact absurd ((precedes_iff hit least).mp hprecedes) (not_lt.mpr hle)

/-- **A shot hits the nearest of the targets as they were at its tick.**  In every state that calls
reach from a new registry, the hit of a ray is the first, by distance, target and zone, of those on
a living target of another player and another team, each at the newest geometry that was ever
recorded of it no later than the tick, unless that has left the rewind window of its newest. -/
theorem nearestHit_along {tickRate : UInt32} {start : TargetRegistry}
    (hnew : TargetRegistry.new tickRate = .ok start) (calls : List RegistryCall)
    (hit : ResolvedTargetHit) :
    (Runs.run step start calls).nearestHit G tick origin direction maximumDistanceMm shooter team
        = some hit
      ↔ InSight G tick origin direction maximumDistanceMm shooter team (Runs.run step start calls)
          (Runs.history step recorded start calls) hit
        ∧ ∀ other, InSight G tick origin direction maximumDistanceMm shooter team
            (Runs.run step start calls) (Runs.history step recorded start calls) other →
          other = hit ∨ hit.precedes other = true := by
  have hstart : start.Rewinds [] := by
    unfold TargetRegistry.new at hnew
    split_ifs at hnew
    obtain rfl := Except.ok.inj hnew
    have hnone : ∀ (entity : EntityId) (record : TargetRecord),
        (∅ : ExtTreeMap EntityId TargetRecord)[entity]? = some record → False := by
      intro entity record hknown
      rw [ExtTreeMap.getElem?_empty] at hknown
      cases hknown
    exact ⟨fun entity record hknown => (hnone entity record hknown).elim,
      fun _ => List.Pairwise.nil, fun entity record hknown => (hnone entity record hknown).elim,
      fun entity record hknown => (hnone entity record hknown).elim, fun _ _ => rfl⟩
  have hend := Runs.run_history (C := fun _ _ => True) (P := Rewinds)
    (fun t log call _ h => rewinds_step h call) hstart (Runs.along_true start calls)
  rw [List.nil_append] at hend
  exact hend.nearestHit_iff G tick origin direction maximumDistanceMm shooter team hit

end Sight

/-- A ray straight along `-z` meets the body of a rider whose capsule is centered on it. -/
def centered : RayGeometry := ⟨fun geometry zone origin direction maximumDistanceMm =>
  match geometry, zone with
  | .rider pose, .body =>
    let distance := (origin.z - pose.bodyCenter.z).toUInt32 - pose.bodyRadiusMm.toUInt32
    if direction = ⟨0, 0, -1000000⟩ ∧ pose.bodyCenter.x = origin.x ∧ pose.bodyCenter.y = origin.y
        ∧ distance ≤ maximumDistanceMm then some distance
    else none
  | _, _ => none⟩

def standingAt (tick : SimulationTick) (x z : Int32) : TargetPoseSnapshot where
  tick
  entityId := 7
  stance := .mounted
  bodyCenter := ⟨x, 1000, z⟩
  bodyHalfHeightMm := 600
  bodyRadiusMm := 400
  headCenter := ⟨x, 2000, z⟩
  headRadiusMm := 200
  active := true

/-- A target that steps out of the line of fire at tick 20. -/
def sidestep : List RegistryCall :=
  [.register ⟨7, none, 2, 100⟩, .recordPose (standingAt 10 0 (-10000)),
    .recordPose (standingAt 20 5000 (-10000))]

def shooterInLine : PlayerId := .ofTail 1

theorem nearestHit_along_sidestep :
    InSight centered 12 ⟨0, 1000, 0⟩ ⟨0, 0, -1000000⟩ 50000 shooterInLine 1
      (Runs.run step ⟨15, ∅⟩ sidestep) (Runs.history step recorded ⟨15, ∅⟩ sidestep)
      ⟨7, .body, 9600⟩ := by
  have hhit : (Runs.run step ⟨15, ∅⟩ sidestep).nearestHit centered 12 ⟨0, 1000, 0⟩
      ⟨0, 0, -1000000⟩ 50000 shooterInLine 1 = some ⟨7, .body, 9600⟩ := by decide +kernel
  exact ((nearestHit_along centered 12 _ _ _ _ _
    (rfl : TargetRegistry.new 60 = .ok ⟨15, ∅⟩) sidestep _).mp hhit).1

end TargetRegistry

end Spurfire
