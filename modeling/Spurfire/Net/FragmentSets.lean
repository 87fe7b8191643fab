import Mathlib.Data.List.Nodup
import Spurfire.Lib.Chunks
import Spurfire.Lib.TreeMap
import Spurfire.Net.KeyframeWire

/-!
# What a complete set of fragments says

Which lists of payloads a reassembly accepts, and how the fragments cut from one document are among
them.

* `Gathered` is what the collection loop holds, `reassembleBytes_eq_ok` the spec of the
  reassembly: a complete set of coherent fragments whose bytes have the hash that they name;
* `Cut` describes the fragments of one document, `TamperEvident` what a reassembly makes of lists
  that resemble them;
* **`fragments_tamper_evident`**: fragments of match states and of migration checkpoints give the
  value back in any order, and no list with a fragment missing, repeated or replaced is accepted;
* `lone_fragment_replaced`: a document of one fragment gives way to another such document.
-/

namespace Spurfire

open Std (ExtTreeMap)

/-! ## Collecting -/

section Collect

variable {κ : Type} {view : FragmentView κ} {payload : M3PeerPayloadV2}
  {before payloads fragments : List M3PeerPayloadV2} {shared : κ}
  {ordered : ExtTreeMap UInt16 (List UInt8)}

def fragmentIndex (view : FragmentView κ) (payload : M3PeerPayloadV2) : Option UInt16 :=
  (view payload).map (·.2.1)

/-- Valid fragments of one document, with different indices. -/
structure Coherent (view : FragmentView κ) (payloads : List M3PeerPayloadV2) (shared : κ) :
    Prop where
  valid : ∀ payload ∈ payloads, validatePayload payload = .ok ()
  agree : ∀ payload ∈ payloads, ∃ index bytes, view payload = some (shared, index, bytes)
  distinct : (payloads.map (fragmentIndex view)).Nodup

/-- The map that holds the bytes of coherent fragments by index. -/
structure Gathered (view : FragmentView κ) (payloads : List M3PeerPayloadV2) (shared : κ)
    (ordered : ExtTreeMap UInt16 (List UInt8)) : Prop extends Coherent view payloads shared where
  entries : ∀ index bytes, ordered[index]? = some bytes ↔
    ∃ payload ∈ payloads, view payload = some (shared, index, bytes)

theorem Coherent.perm (h : Coherent view payloads shared) (hperm : fragments.Perm payloads) :
    Coherent view fragments shared where
  valid payload hmem := h.valid payload (hperm.mem_iff.mp hmem)
  agree payload hmem := h.agree payload (hperm.mem_iff.mp hmem)
  distinct := (hperm.map _).nodup_iff.mpr h.distinct

theorem Gathered.perm (h : Gathered view payloads shared ordered)
    (hperm : fragments.Perm payloads) : Gathered view fragments shared ordered where
  toCoherent := h.toCoherent.perm hperm
  entries index bytes := by
    rw [h.entries]
    simp only [hperm.mem_iff]

theorem Gathered.nil (shared : κ) : Gathered view [] shared ∅ where
  valid _ hmem := absurd hmem List.not_mem_nil
  agree _ hmem := absurd hmem List.not_mem_nil
  distinct := List.nodup_nil
  entries index bytes := by simp

/-- The fragment of an index is in the map exactly when one of the payloads claims the index. -/
theorem Gathered.mem_iff (h : Gathered view payloads shared ordered) (index : UInt16) :
    index ∈ ordered ↔ some index ∈ payloads.map (fragmentIndex view) := by
  rw [ExtTreeMap.mem_iff_isSome_getElem?, Option.isSome_iff_exists, List.mem_map]
  constructor
  · rintro ⟨bytes, hbytes⟩
    obtain ⟨payload, hmem, hview⟩ := (h.entries index bytes).mp hbytes
    refine ⟨payload, hmem, ?_⟩
    unfold fragmentIndex
    rw [hview]
    rfl
  · rintro ⟨payload, hmem, hindex⟩
    obtain ⟨other, bytes, hview⟩ := h.agree payload hmem
    unfold fragmentIndex at hindex
    rw [hview, Option.map_some, Option.some_inj] at hindex
    subst hindex
    exact ⟨bytes, (h.entries _ _).mpr ⟨payload, hmem, hview⟩⟩

/-- One more fragment. -/
theorem Gathered.snoc {index : UInt16} {bytes : List UInt8}
    (h : Gathered view before shared ordered) (hvalid : validatePayload payload = .ok ())
    (hview : view payload = some (shared, index, bytes)) (hnew : index ∉ ordered) :
    Gathered view (before ++ [payload]) shared (ordered.insert index bytes) := by
  have hindex : fragmentIndex view payload = some index := by
    unfold fragmentIndex
    rw [hview]
    rfl
  refine ⟨⟨fun other hother => ?_, fun other hother => ?_, ?_⟩, fun other value => ?_⟩
  · obtain hold | hlast := List.mem_append.mp hother
    · exact h.valid other hold
    · rwa [List.mem_singleton.mp hlast]
  · obtain hold | hlast := List.mem_append.mp hother
    · exact h.agree other hold
    · exact ⟨index, bytes, by rw [List.mem_singleton.mp hlast, hview]⟩
  · rw [List.map_append, List.map_singleton, List.nodup_append]
    refine ⟨h.distinct, List.nodup_singleton _, fun claimed hclaimed last hlast heq => hnew ?_⟩
    rw [List.mem_singleton] at hlast
    rw [h.mem_iff, ← hindex, ← hlast, ← heq]
    exact hclaimed
  · rw [ExtTreeMap.getElem?_insert]
    by_cases hsame : index = other
    · subst hsame
      rw [if_pos Std.ReflCmp.compare_self, Option.some_inj]
      constructor
      · rintro rfl
        exact ⟨payload, by simp, hview⟩
      · rintro ⟨old, hold, hclaims⟩
        obtain hold | hlast := List.mem_append.mp hold
        · have hmem : index ∈ ordered := ExtTreeMap.mem_iff_isSome_getElem?.mpr
            (by rw [(h.entries index value).mpr ⟨old, hold, hclaims⟩]; rfl)
          exact absurd hmem hnew
        · rw [List.mem_singleton.mp hlast, hview] at hclaims
          cases hclaims
          rfl
    · rw [if_neg fun heq => hsame (Std.LawfulEqCmp.eq_of_compare heq), h.entries]
      constructor
      · rintro ⟨old, hold, hclaims⟩
        exact ⟨old, List.mem_append_left _ hold, hclaims⟩
      · rintro ⟨old, hold, hclaims⟩
        obtain hold | hlast := List.mem_append.mp hold
        · exact ⟨old, hold, hclaims⟩
        · rw [List.mem_singleton.mp hlast, hview] at hclaims
          cases hclaims
          exact absurd rfl hsame

variable [DecidableEq κ]

theorem collectFragment_eq_ok {seen next : Option κ × ExtTreeMap UInt16 (List UInt8)} :
    collectFragment view payload seen = .ok next ↔ validatePayload payload = .ok () ∧
      ∃ shared index bytes, view payload = some (shared, index, bytes)
        ∧ (∀ old ∈ seen.1, old = shared) ∧ index ∉ seen.2
        ∧ next = (some shared, seen.2.insert index bytes) := by
  unfold collectFragment
  cases hvalid : validatePayload payload with
  | error error => simp
  | ok _ =>
    cases hview : view payload with
    | none => simp
    | some claimed =>
      obtain ⟨shared, index, bytes⟩ := claimed
      dsimp only
      split_ifs with hrefused
      · refine iff_of_false nofun ?_
        rintro ⟨-, _, _, _, heq, hsame, hnew, -⟩
        cases heq
        obtain hother | hold := hrefused
        · obtain ⟨old, hold, hne⟩ := (Option.any_eq_true _ _).mp hother
          exact absurd (hsame old hold) (by simpa using hne)
        · exact hnew (ExtTreeMap.contains_iff_mem.mp hold)
      · rw [not_or] at hrefused
        constructor
        · intro heq
          cases heq
          refine ⟨rfl, shared, index, bytes, rfl, fun old hold => ?_, fun hmem => ?_, rfl⟩
          · by_contra hne
            exact hrefused.1 ((Option.any_eq_true _ _).mpr ⟨old, hold, by simpa using hne⟩)
          · exact hrefused.2 (ExtTreeMap.contains_iff_mem.mpr hmem)
        · rintro ⟨-, _, _, _, heq, -, -, rfl⟩
          cases heq
          rfl

/-- The loop adds its payloads to what has been collected. -/
theorem collected_of_collectFragments {seen : Option κ × ExtTreeMap UInt16 (List UInt8)}
    (h : Gathered view before shared ordered)
    (hok : collectFragments view payloads (some shared, ordered) = .ok seen) :
    seen.1 = some shared ∧ Gathered view (before ++ payloads) shared seen.2 := by
  induction payloads generalizing before ordered with
  | nil =>
    cases hok
    exact ⟨rfl, by rwa [List.append_nil]⟩
  | cons payload payloads ih =>
    unfold collectFragments at hok
    cases hone : collectFragment view payload (some shared, ordered) with
    | error error =>
      rw [hone] at hok
      exact nomatch hok
    | ok next =>
      rw [hone] at hok
      obtain ⟨hvalid, claimed, index, bytes, hview, hsame, hnew, rfl⟩ :=
        collectFragment_eq_ok.mp hone
      obtain rfl := hsame shared rfl
      have hnext := ih (h.snoc hvalid hview hnew) hok
      rwa [List.append_assoc, List.singleton_append] at hnext

theorem collectFragments_of_coherent (h : Gathered view before shared ordered)
    (hall : Coherent view (before ++ payloads) shared) :
    ∃ next, collectFragments view payloads (some shared, ordered) = .ok (some shared, next) := by
  induction payloads generalizing before ordered with
  | nil => exact ⟨ordered, rfl⟩
  | cons payload payloads ih =>
    have hmem : payload ∈ before ++ payload :: payloads := by simp
    have hvalid := hall.valid payload hmem
    obtain ⟨index, bytes, hview⟩ := hall.agree payload hmem
    have hindex : fragmentIndex view payload = some index := by
      unfold fragmentIndex
      rw [hview]
      rfl
    have hnew : index ∉ ordered := by
      intro hold
      rw [h.mem_iff, ← hindex] at hold
      have hdistinct := hall.distinct
      rw [List.map_append, List.map_cons, List.nodup_append] at hdistinct
      exact hdistinct.2.2 _ hold _ List.mem_cons_self rfl
    have hone : collectFragment view payload (some shared, ordered)
        = .ok (some shared, ordered.insert index bytes) :=
      collectFragment_eq_ok.mpr ⟨hvalid, shared, index, bytes, hview,
        fun old hold => (Option.some_inj.mp hold).symm, hnew, rfl⟩
    unfold collectFragments
    rw [hone]
    refine ih (h.snoc hvalid hview hnew) ?_
    rwa [List.append_assoc, List.singleton_append]

/-- **The collection loop** accepts coherent fragments, and gathers their bytes. -/
theorem collectFragments_eq_ok (hne : payloads ≠ []) :
    collectFragments view payloads (none, ∅) = .ok (some shared, ordered)
      ↔ Gathered view payloads shared ordered := by
  obtain ⟨payload, rest, rfl⟩ := List.exists_cons_of_ne_nil hne
  constructor
  · intro hok
    unfold collectFragments at hok
    cases hone : collectFragment view payload (none, ∅) with
    | error error =>
      rw [hone] at hok
      exact nomatch hok
    | ok next =>
      rw [hone] at hok
      obtain ⟨hvalid, claimed, index, bytes, hview, -, hnew, rfl⟩ :=
        collectFragment_eq_ok.mp hone
      have hfirst : Gathered view [payload] claimed (ExtTreeMap.insert ∅ index bytes) :=
        (Gathered.nil claimed).snoc hvalid hview hnew
      obtain ⟨hshared, hall⟩ := collected_of_collectFragments hfirst hok
      cases hshared
      exact hall
  · intro h
    have hvalid := h.valid payload List.mem_cons_self
    obtain ⟨index, bytes, hview⟩ := h.agree payload List.mem_cons_self
    have hnew : index ∉ (∅ : ExtTreeMap UInt16 (List UInt8)) := ExtTreeMap.not_mem_empty
    have hone : collectFragment view payload (none, ∅)
        = .ok (some shared, ExtTreeMap.insert ∅ index bytes) :=
      collectFragment_eq_ok.mpr ⟨hvalid, shared, index, bytes, hview, nofun, hnew, rfl⟩
    have hfirst : Gathered view [payload] shared (ExtTreeMap.insert ∅ index bytes) :=
      (Gathered.nil shared).snoc hvalid hview hnew
    obtain ⟨next, hnext⟩ := collectFragments_of_coherent hfirst h.toCoherent
    have hall := (collected_of_collectFragments hfirst hnext).2
    have hsame : next = ordered := ExtTreeMap.ext_getElem? fun index =>
      Option.ext fun bytes => (hall.entries index bytes).trans (h.entries index bytes).symm
    unfold collectFragments
    rw [hone]
    dsimp only
    rw [hnext, hsame]

end Collect

/-! ## Fragments of one document -/

/-- The indices of a complete set, in order. -/
def indices (n : ℕ) : List UInt16 := (List.range n).map UInt16.ofNat

theorem ofNat_lt_ofNat {a b : ℕ} (hab : a < b) (hb : b < 2 ^ 16) :
    UInt16.ofNat a < UInt16.ofNat b := by
  rw [UInt16.lt_iff_toNat_lt, UInt16.toNat_ofNat', UInt16.toNat_ofNat']
  omega

theorem indices_pairwise {n : ℕ} (hn : n ≤ 2 ^ 16) :
    (indices n).Pairwise fun a b => compare a b = .lt := by
  unfold indices
  rw [List.pairwise_map]
  refine List.Pairwise.imp_of_mem (fun {a b} _ hb hab => ?_) List.pairwise_lt_range
  rw [List.mem_range] at hb
  show compareOfLessAndEq _ _ = .lt
  rw [compareOfLessAndEq, if_pos (ofNat_lt_ofNat hab (by omega))]

theorem indices_nodup {n : ℕ} (hn : n ≤ 2 ^ 16) : (indices n).Nodup := by
  refine (indices_pairwise hn).imp fun {a b} hlt heq => ?_
  subst heq
  exact nomatch hlt.symm.trans Std.ReflCmp.compare_self

/-- Equal joins of lists that agree everywhere but in one place agree there too. -/
theorem eq_of_flatMap_eq {α β : Type*} {keys : List α} {f g : α → List β} {k : α}
    (hnodup : keys.Nodup) (hk : k ∈ keys) (hagree : ∀ other ∈ keys, other ≠ k → f other = g other)
    (hjoin : keys.flatMap f = keys.flatMap g) : f k = g k := by
  obtain ⟨before, after, rfl⟩ := List.append_of_mem hk
  obtain ⟨-, hafter, hsplit⟩ := List.nodup_append.mp hnodup
  have hleft : before.flatMap f = before.flatMap g := List.flatMap_congr fun other hother =>
    hagree other (List.mem_append_left _ hother) (hsplit other hother k List.mem_cons_self)
  have hright : after.flatMap f = after.flatMap g := List.flatMap_congr fun other hother =>
    hagree other (List.mem_append_right _ (List.mem_cons_of_mem _ hother)) fun heq =>
      (List.nodup_cons.mp hafter).1 (heq ▸ hother)
  rw [List.flatMap_append, List.flatMap_append, List.flatMap_cons, List.flatMap_cons, hleft,
    hright] at hjoin
  exact List.append_cancel_right (List.append_cancel_left hjoin)

section Reassembly

variable {κ : Type} {X : Externals} {view : FragmentView κ} {maxFragments : ℕ}
  {countOf : κ → UInt16} {hashOf : κ → Vector UInt8 32} {doc bytes : List UInt8}
  {shared claimed : κ} {fragments payloads rest : List M3PeerPayloadV2}
  {fragment payload : M3PeerPayloadV2}

/-- The fragments of a document: valid, numbered, all with its hash and their count. -/
structure Cut (X : Externals) (view : FragmentView κ) (maxFragments : ℕ) (countOf : κ → UInt16)
    (hashOf : κ → Vector UInt8 32) (doc : List UInt8) (shared : κ)
    (fragments : List M3PeerPayloadV2) : Prop where
  nonempty : fragments ≠ []
  length_le : fragments.length ≤ maxFragments
  small : maxFragments ≤ 2 ^ 16
  count : (countOf shared).toNat = fragments.length
  hash : hashOf shared = X.sha256 doc
  valid : ∀ payload ∈ fragments, validatePayload payload = .ok ()
  pieces : ∃ chunks : List (List UInt8), chunks.flatten = doc ∧ fragments.map view
    = chunks.zipIdx.map fun piece => some (shared, UInt16.ofNat piece.2, piece.1)

namespace Cut

theorem view_eq (h : Cut X view maxFragments countOf hashOf doc shared fragments)
    (hmem : payload ∈ fragments) : ∃ index bytes, view payload = some (shared, index, bytes) := by
  obtain ⟨chunks, -, hpieces⟩ := h.pieces
  have hview := List.mem_map_of_mem (f := view) hmem
  rw [hpieces] at hview
  obtain ⟨piece, -, hpiece⟩ := List.mem_map.mp hview
  exact ⟨_, _, hpiece.symm⟩

theorem map_fragmentIndex (h : Cut X view maxFragments countOf hashOf doc shared fragments) :
    fragments.map (fragmentIndex view) = (indices fragments.length).map some := by
  obtain ⟨chunks, -, hpieces⟩ := h.pieces
  have hlength : fragments.length = chunks.length := by
    have := congrArg List.length hpieces
    simpa using this
  have hsplit : fragments.map (fragmentIndex view)
      = (fragments.map view).map fun claimed => claimed.map (·.2.1) := by
    rw [List.map_map]
    rfl
  have hnumbers : (chunks.zipIdx.map Prod.snd) = List.range chunks.length := by
    rw [List.zipIdx_map_snd, List.range_eq_range']
  unfold indices
  rw [hsplit, hpieces, hlength, ← hnumbers, List.map_map, List.map_map, List.map_map]
  rfl

theorem coherent (h : Cut X view maxFragments countOf hashOf doc shared fragments) :
    Coherent view fragments shared where
  valid := h.valid
  agree _ hmem := h.view_eq hmem
  distinct := by
    rw [h.map_fragmentIndex]
    exact (indices_nodup (h.length_le.trans h.small)).map (Option.some_injective _)

theorem keys_eq {ordered : ExtTreeMap UInt16 (List UInt8)}
    (h : Cut X view maxFragments countOf hashOf doc shared fragments)
    (hcollected : Gathered view fragments shared ordered) :
    ordered.keys = indices fragments.length := by
  refine ExtTreeMap.keys_eq_of_pairwise (indices_pairwise (h.length_le.trans h.small)) fun k => ?_
  rw [hcollected.mem_iff, h.map_fragmentIndex, List.mem_map_of_injective (Option.some_injective _)]

theorem join_eq {ordered : ExtTreeMap UInt16 (List UInt8)}
    (h : Cut X view maxFragments countOf hashOf doc shared fragments)
    (hcollected : Gathered view fragments shared ordered) :
    ordered.toList.flatMap (·.2) = doc := by
  have hkeys := h.keys_eq hcollected
  obtain ⟨chunks, hflatten, hpieces⟩ := h.pieces
  have hlength : fragments.length = chunks.length := by
    have := congrArg List.length hpieces
    simpa using this
  have hnumbers : indices fragments.length = chunks.zipIdx.map fun piece => UInt16.ofNat piece.2 := by
    unfold indices
    rw [hlength, List.range_eq_range', ← List.zipIdx_map_snd, List.map_map]
    rfl
  have hget : ∀ piece ∈ chunks.zipIdx, ordered[UInt16.ofNat piece.2]? = some piece.1 := by
    intro piece hpiece
    have hmem : some (shared, UInt16.ofNat piece.2, piece.1) ∈ fragments.map view := by
      rw [hpieces]
      exact List.mem_map.mpr ⟨piece, hpiece, rfl⟩
    obtain ⟨payload, hpayload, hview⟩ := List.mem_map.mp hmem
    exact (hcollected.entries _ _).mpr ⟨payload, hpayload, hview⟩
  calc ordered.toList.flatMap (·.2)
      = chunks.zipIdx.flatMap fun piece => (ordered[UInt16.ofNat piece.2]?).getD [] := by
        rw [ExtTreeMap.flatMap_toList, hkeys, hnumbers, List.flatMap_map]
    _ = chunks.zipIdx.flatMap Prod.fst := List.flatMap_congr fun piece hpiece => by
        rw [hget piece hpiece]
        rfl
    _ = (chunks.zipIdx.map Prod.fst).flatten := List.flatMap_def ..
    _ = doc := by rw [List.zipIdx_map_fst, hflatten]

end Cut

/-! ## Reassembly -/

variable [DecidableEq κ]

/-- The bytes that a reassembly hashes: those of the collected fragments, in the order of their
indices. -/
def hashedBytes (view : FragmentView κ) (payloads : List M3PeerPayloadV2) : List UInt8 :=
  match collectFragments view payloads (none, ∅) with
  | .ok (_, ordered) => ordered.toList.flatMap (·.2)
  | .error _ => []

/-- **The spec of a reassembly**: a complete set of coherent fragments whose bytes have the hash
that the fragments name. -/
theorem reassembleBytes_eq_ok :
    reassembleBytes X view maxFragments countOf hashOf payloads = .ok (shared, bytes) ↔
      payloads ≠ [] ∧ payloads.length ≤ maxFragments ∧ ∃ ordered,
        Gathered view payloads shared ordered ∧ (countOf shared).toNat = payloads.length
          ∧ ordered.keys = indices payloads.length ∧ ordered.toList.flatMap (·.2) = bytes
          ∧ hashedBytes view payloads = bytes ∧ X.sha256 bytes = hashOf shared := by
  unfold reassembleBytes
  by_cases hbounds : payloads.isEmpty ∨ payloads.length > maxFragments
  · rw [if_pos hbounds]
    refine iff_of_false nofun ?_
    rintro ⟨hne, hle, -⟩
    obtain hempty | hlong := hbounds
    · exact hne (List.isEmpty_iff.mp hempty)
    · omega
  · rw [if_neg hbounds]
    rw [not_or, List.isEmpty_iff, not_lt] at hbounds
    obtain ⟨hne, hle⟩ := hbounds
    unfold hashedBytes
    cases hcollect : collectFragments view payloads (none, ∅) with
    | error error =>
      refine iff_of_false nofun ?_
      rintro ⟨-, -, ordered, hcollected, -⟩
      rw [(collectFragments_eq_ok hne).mpr hcollected] at hcollect
      exact nomatch hcollect
    | ok seen =>
      obtain ⟨first, ordered⟩ := seen
      cases first with
      | none =>
        refine iff_of_false nofun ?_
        rintro ⟨-, -, ordered, hcollected, -⟩
        rw [(collectFragments_eq_ok hne).mpr hcollected] at hcollect
        exact nomatch hcollect
      | some first =>
        have hcollected := (collectFragments_eq_ok hne).mp hcollect
        have huse : ∀ {k : κ} {m : ExtTreeMap UInt16 (List UInt8)}, Gathered view payloads k m →
            first = k ∧ ordered = m := by
          intro k m hk
          have hsame := ((collectFragments_eq_ok hne).mpr hk).symm.trans hcollect
          simp only [Except.ok.injEq, Prod.mk.injEq, Option.some_inj] at hsame
          exact ⟨hsame.1.symm, hsame.2.symm⟩
        dsimp only
        split_ifs with hset hhash
        · refine iff_of_false nofun ?_
          rintro ⟨-, -, other, hother, hcount, hkeys, -⟩
          obtain ⟨rfl, rfl⟩ := huse hother
          obtain hset | hset := hset
          · exact hset hcount
          · rw [hcount] at hset
            exact hset hkeys
        · refine iff_of_false nofun ?_
          rintro ⟨-, -, other, hother, -, -, hjoin, -, hsame⟩
          obtain ⟨rfl, rfl⟩ := huse hother
          rw [hjoin] at hhash
          exact hhash hsame
        · rw [not_or, not_not, not_not] at hset
          rw [not_not] at hhash
          constructor
          · intro heq
            cases heq
            have hkeys : ordered.keys = indices payloads.length := by
              rw [← hset.1]
              exact hset.2
            exact ⟨hne, hle, ordered, hcollected, hset.1, hkeys, rfl, rfl, hhash⟩
          · rintro ⟨-, -, other, hother, -, -, rfl, -, -⟩
            obtain ⟨rfl, rfl⟩ := huse hother
            rfl

/-- A reassembly depends on the set of its payloads alone. -/
theorem reassembleBytes_perm (hperm : fragments.Perm payloads)
    (hok : reassembleBytes X view maxFragments countOf hashOf payloads = .ok (shared, bytes)) :
    reassembleBytes X view maxFragments countOf hashOf fragments = .ok (shared, bytes) := by
  obtain ⟨hne, hle, ordered, hcollected, hcount, hkeys, hjoin, -, hhash⟩ :=
    reassembleBytes_eq_ok.mp hok
  have hne' : fragments ≠ [] := fun hnil => hne (List.nil_perm.mp (hnil ▸ hperm))
  have hcollected' := hcollected.perm hperm
  rw [← hperm.length_eq] at hle hcount hkeys
  refine reassembleBytes_eq_ok.mpr ⟨hne', hle, ordered, hcollected', hcount, hkeys, hjoin, ?_,
    hhash⟩
  unfold hashedBytes
  rw [(collectFragments_eq_ok hne').mpr hcollected']
  exact hjoin

namespace Cut

/-- The fragments of a document give it back, in any order. -/
theorem reassembles (h : Cut X view maxFragments countOf hashOf doc shared fragments)
    (hperm : payloads.Perm fragments) :
    reassembleBytes X view maxFragments countOf hashOf payloads = .ok (shared, doc) := by
  refine reassembleBytes_perm hperm ?_
  obtain ⟨next, hnext⟩ := collectFragments_of_coherent (Gathered.nil shared)
    (show Coherent view ([] ++ fragments) shared from h.coherent)
  have hcollected : Gathered view fragments shared next :=
    (collected_of_collectFragments (Gathered.nil shared) hnext).2
  have hjoin := h.join_eq hcollected
  refine reassembleBytes_eq_ok.mpr ⟨h.nonempty, h.length_le, next, hcollected, h.count,
    h.keys_eq hcollected, hjoin, ?_, h.hash.symm⟩
  unfold hashedBytes
  rw [(collectFragments_eq_ok h.nonempty).mpr hcollected]
  exact hjoin

/-- A list that holds a fragment of the document claims what the fragments of the document
claim. -/
theorem shared_eq (h : Cut X view maxFragments countOf hashOf doc shared fragments)
    (hok : reassembleBytes X view maxFragments countOf hashOf payloads = .ok (claimed, bytes))
    (hmem : fragment ∈ fragments) (hin : fragment ∈ payloads) : claimed = shared := by
  obtain ⟨-, -, ordered, hcollected, -⟩ := reassembleBytes_eq_ok.mp hok
  obtain ⟨index, value, hview⟩ := h.view_eq hmem
  obtain ⟨other, also, hview'⟩ := hcollected.agree fragment hin
  rw [hview] at hview'
  cases hview'
  rfl

/-- What reassembles with a fragment of the document among it is the document. -/
theorem bytes_eq (h : Cut X view maxFragments countOf hashOf doc shared fragments)
    (hok : reassembleBytes X view maxFragments countOf hashOf payloads = .ok (claimed, bytes))
    (hmem : fragment ∈ fragments) (hin : fragment ∈ payloads)
    (hsha : X.sha256 (hashedBytes view payloads) = X.sha256 doc → hashedBytes view payloads = doc) :
    bytes = doc := by
  obtain rfl := h.shared_eq hok hmem hin
  obtain ⟨-, -, ordered, -, -, -, -, hhashed, hhash⟩ := reassembleBytes_eq_ok.mp hok
  rw [hhashed, hhash, h.hash] at hsha
  exact hsha rfl

/-- An accepted set has no fragment twice. -/
theorem nodup_of_ok
    (hok : reassembleBytes X view maxFragments countOf hashOf payloads = .ok (claimed, bytes)) :
    payloads.Nodup := by
  obtain ⟨-, -, ordered, hcollected, -⟩ := reassembleBytes_eq_ok.mp hok
  exact hcollected.distinct.of_map _

/-- An accepted set of fragments of the document has all of them. -/
theorem mem_of_ok (h : Cut X view maxFragments countOf hashOf doc shared fragments)
    (hok : reassembleBytes X view maxFragments countOf hashOf payloads = .ok (claimed, bytes))
    (hsub : payloads ⊆ fragments) (hmem : fragment ∈ fragments) : fragment ∈ payloads := by
  obtain ⟨hne, -, ordered, -, hcount, -⟩ := reassembleBytes_eq_ok.mp hok
  obtain ⟨first, hfirst⟩ := List.exists_mem_of_ne_nil _ hne
  obtain rfl := h.shared_eq hok (hsub hfirst) hfirst
  have hlength : fragments.length ≤ payloads.length := by
    rw [← h.count, hcount]
  have hperm : payloads.Perm fragments :=
    (List.subperm_of_subset (nodup_of_ok hok) hsub).perm_of_length_le hlength
  exact hperm.mem_iff.mpr hmem

/-- Where one fragment has been replaced, the replacement claims the same index and bytes. -/
theorem view_eq_of_replaced (h : Cut X view maxFragments countOf hashOf doc shared fragments)
    (hsplit : fragments.Perm (fragment :: rest)) (hrest : rest ≠ [])
    (hreplaced : payloads.Perm (payload :: rest))
    (hok : reassembleBytes X view maxFragments countOf hashOf payloads = .ok (claimed, bytes))
    (hsha : X.sha256 (hashedBytes view payloads) = X.sha256 doc →
      hashedBytes view payloads = doc) :
    ∃ kept, view fragment = some kept ∧ view payload = some kept := by
  obtain ⟨first, hfirst⟩ := List.exists_mem_of_ne_nil _ hrest
  have hkept : first ∈ fragments := hsplit.mem_iff.mpr (List.mem_cons_of_mem _ hfirst)
  have hthere : first ∈ payloads := hreplaced.mem_iff.mpr (List.mem_cons_of_mem _ hfirst)
  obtain rfl := h.shared_eq hok hkept hthere
  have hbytes := h.bytes_eq hok hkept hthere hsha
  obtain ⟨-, -, ordered, hcollected, hcount, hkeys, hjoin, -, -⟩ := reassembleBytes_eq_ok.mp hok
  obtain ⟨-, -, whole, horiginal, -, hkeys', hjoin', -, -⟩ :=
    reassembleBytes_eq_ok.mp (h.reassembles (List.Perm.refl fragments))
  have hsame : ordered.keys = whole.keys := by
    rw [hkeys, hkeys', ← hcount, h.count]
  obtain ⟨index, value, hview⟩ := h.view_eq (hsplit.mem_iff.mpr List.mem_cons_self)
  obtain ⟨other, replaced, hview'⟩ :=
    hcollected.agree payload (hreplaced.mem_iff.mpr List.mem_cons_self)
  have hfragment : fragmentIndex view fragment = some index := by
    unfold fragmentIndex
    rw [hview]
    rfl
  have hpayload : fragmentIndex view payload = some other := by
    unfold fragmentIndex
    rw [hview']
    rfl
  have horiginal' := horiginal.perm hsplit.symm
  have hcollected' := hcollected.perm hreplaced.symm
  have hold := List.nodup_cons.mp horiginal'.distinct
  have hnew := List.nodup_cons.mp hcollected'.distinct
  -- the index that the fragment leaves open is the only one left for the payload
  have hindex : other = index := by
    have hin : index ∈ ordered := by
      rw [← ExtTreeMap.mem_keys, hsame, ExtTreeMap.mem_keys, horiginal'.mem_iff, ← hfragment]
      exact List.mem_cons_self
    rw [hcollected'.mem_iff, List.map_cons, List.mem_cons, hpayload] at hin
    obtain heq | hmem := hin
    · exact (Option.some_inj.mp heq).symm
    · exact absurd (hfragment ▸ hmem) hold.1
  subst hindex
  have hagree : ∀ k ∈ whole.keys, k ≠ other → (ordered[k]?).getD [] = (whole[k]?).getD [] := by
    intro k _ hk
    congr 1
    refine Option.ext fun held => ?_
    rw [hcollected'.entries, horiginal'.entries]
    simp only [List.mem_cons, exists_eq_or_imp, hview, hview', Option.some_inj, Prod.mk.injEq,
      true_and]
    constructor
    · rintro (⟨rfl, -⟩ | hrest)
      · exact absurd rfl hk
      · exact .inr hrest
    · rintro (⟨rfl, -⟩ | hrest)
      · exact absurd rfl hk
      · exact .inr hrest
  have hmem : other ∈ whole.keys := by
    rw [ExtTreeMap.mem_keys, horiginal'.mem_iff, ← hfragment]
    exact List.mem_cons_self
  have hjoined : whole.keys.flatMap (fun k => (ordered[k]?).getD [])
      = whole.keys.flatMap fun k => (whole[k]?).getD [] := by
    rw [← ExtTreeMap.flatMap_toList, ← hsame, ← ExtTreeMap.flatMap_toList, hjoin, hjoin', hbytes]
  have hat := eq_of_flatMap_eq ExtTreeMap.nodup_keys hmem hagree hjoined
  have hreplaced' : ordered[other]? = some replaced :=
    (hcollected'.entries _ _).mpr ⟨payload, List.mem_cons_self, hview'⟩
  have hvalue : whole[other]? = some value :=
    (horiginal'.entries _ _).mpr ⟨fragment, List.mem_cons_self, hview⟩
  rw [hreplaced', hvalue, Option.getD_some, Option.getD_some] at hat
  exact ⟨_, hview, by rw [hview', hat]⟩

end Cut

/-! ## Tamper evidence -/

/-- SHA-256 does not take the bytes of a list of payloads for a document that they are not. -/
def NoCollision (X : Externals) (view : FragmentView κ) (doc : List UInt8)
    (payloads : List M3PeerPayloadV2) : Prop :=
  X.sha256 (hashedBytes view payloads) = X.sha256 doc → hashedBytes view payloads = doc

/-- What a reassembly makes of lists that resemble the fragments of a value. -/
structure TamperEvident {α : Type} (X : Externals) (view : FragmentView κ) (doc : List UInt8)
    (reassemble : List M3PeerPayloadV2 → Except CodecError α) (value : α)
    (fragments : List M3PeerPayloadV2) : Prop where
  /-- Every fragment is a valid payload. -/
  valid : ∀ fragment ∈ fragments, validatePayload fragment = .ok ()
  /-- In any order the fragments give the value back. -/
  lossless : ∀ payloads, payloads.Perm fragments → reassemble payloads = .ok value
  /-- Fragments of which one is missing are refused. -/
  missing : ∀ payloads, payloads ⊆ fragments → (∃ fragment ∈ fragments, fragment ∉ payloads) →
    ∀ result, reassemble payloads ≠ .ok result
  /-- A list with a payload twice is refused. -/
  repeated : ∀ payloads, ¬payloads.Nodup → ∀ result, reassemble payloads ≠ .ok result
  /-- Fragments of which one, but not the only one, is replaced are refused. -/
  replaced : ∀ fragment rest payload payloads, fragments.Perm (fragment :: rest) → rest ≠ [] →
    payload ≠ fragment → payloads.Perm (payload :: rest) → NoCollision X view doc payloads →
    ∀ result, reassemble payloads ≠ .ok result
  /-- Whatever is accepted with one of the fragments in it is the value. -/
  bound : ∀ payloads, (∃ fragment ∈ fragments, fragment ∈ payloads) →
    NoCollision X view doc payloads → ∀ result, reassemble payloads = .ok result → result = value

/-- The fragments of a document are tamper evident for a reassembly that reads the document and
whose view of a fragment leaves nothing out. -/
theorem Cut.tamperEvident {α : Type} {value : α}
    {reassemble : List M3PeerPayloadV2 → Except CodecError α}
    (h : Cut X view maxFragments countOf hashOf doc shared fragments)
    (hview : ∀ payload other kept, view payload = some kept → view other = some kept →
      payload = other)
    (hok : ∀ payloads, reassembleBytes X view maxFragments countOf hashOf payloads
      = .ok (shared, doc) → reassemble payloads = .ok value)
    (hback : ∀ payloads result, reassemble payloads = .ok result → ∃ claimed bytes,
      reassembleBytes X view maxFragments countOf hashOf payloads = .ok (claimed, bytes)) :
    TamperEvident X view doc reassemble value fragments where
  valid := h.valid
  lossless payloads hperm := hok payloads (h.reassembles hperm)
  missing := by
    rintro payloads hsub ⟨fragment, hmem, hout⟩ result haccepted
    obtain ⟨claimed, bytes, hbytes⟩ := hback payloads result haccepted
    exact hout (h.mem_of_ok hbytes hsub hmem)
  repeated := by
    intro payloads htwice result haccepted
    obtain ⟨claimed, bytes, hbytes⟩ := hback payloads result haccepted
    exact htwice (Cut.nodup_of_ok hbytes)
  replaced := by
    intro fragment rest payload payloads hsplit hrest hne hreplaced hsha result haccepted
    obtain ⟨claimed, bytes, hbytes⟩ := hback payloads result haccepted
    obtain ⟨kept, hfragment, hpayload⟩ :=
      h.view_eq_of_replaced hsplit hrest hreplaced hbytes hsha
    exact hne (hview payload fragment kept hpayload hfragment)
  bound := by
    rintro payloads ⟨fragment, hmem, hin⟩ hsha result haccepted
    obtain ⟨claimed, bytes, hbytes⟩ := hback payloads result haccepted
    obtain rfl := h.shared_eq hbytes hmem hin
    obtain rfl := h.bytes_eq hbytes hmem hin hsha
    exact Except.ok.inj (haccepted.symm.trans (hok payloads hbytes))

theorem validatePayload_eq_ok {payload : M3PeerPayloadV2} (h : payload.isValid = true) :
    validatePayload payload = .ok () := by
  unfold validatePayload
  rw [if_pos h]

omit [DecidableEq κ] in
theorem cut_of_fragmentBytes {size : ℕ}
    {make : Vector UInt8 32 → UInt16 → UInt16 → List UInt8 → M3PeerPayloadV2}
    (hok : fragmentBytes X maxFragments size doc make = .ok fragments) (sharedOf : UInt16 → κ)
    (hsize : 0 < size) (hsmall : maxFragments < 2 ^ 16)
    (hview : ∀ index count piece,
      view (make (X.sha256 doc) index count piece) = some (sharedOf count, index, piece))
    (hcount : ∀ count, countOf (sharedOf count) = count)
    (hhash : ∀ count, hashOf (sharedOf count) = X.sha256 doc)
    (hvalid : ∀ index count piece, fragmentIsValid maxFragments size index count piece = true →
      (make (X.sha256 doc) index count piece).isValid = true) :
    Cut X view maxFragments countOf hashOf doc (sharedOf (UInt16.ofNat fragments.length))
      fragments := by
  unfold fragmentBytes at hok
  dsimp only at hok
  have hlength : (doc.toChunks size).length = (doc.length + size - 1) / size :=
    List.length_toChunks hsize doc
  rw [← hlength] at hok
  split_ifs at hok with hbounds
  rw [not_or, not_lt] at hbounds
  obtain ⟨hpos, hle⟩ := hbounds
  cases hok
  have hpieces : ((doc.toChunks size).zipIdx.map fun piece =>
      make (X.sha256 doc) (UInt16.ofNat piece.2) (UInt16.ofNat (doc.toChunks size).length)
        piece.1).length = (doc.toChunks size).length := by
    rw [List.length_map, List.length_zipIdx]
  have htoNat : (UInt16.ofNat (doc.toChunks size).length).toNat = (doc.toChunks size).length := by
    rw [UInt16.toNat_ofNat']
    omega
  rw [hpieces]
  refine ⟨?_, hpieces.trans_le hle, hsmall.le, ?_, hhash _, fun payload hmem => ?_,
    doc.toChunks size, List.flatten_toChunks size doc, ?_⟩
  · rw [← List.length_pos_iff, hpieces]
    omega
  · rw [hcount, htoNat, hpieces]
  · obtain ⟨⟨piece, index⟩, hpiece, rfl⟩ := List.mem_map.mp hmem
    have hin : piece ∈ doc.toChunks size := List.fst_mem_of_mem_zipIdx hpiece
    have hindex : index < (doc.toChunks size).length := by
      have := List.snd_lt_of_mem_zipIdx hpiece
      omega
    obtain ⟨hnonempty, hshort⟩ := List.length_of_mem_toChunks hsize hin
    refine validatePayload_eq_ok (hvalid _ _ _ ?_)
    have hcountPos : UInt16.ofNat (doc.toChunks size).length > 0 := by
      rw [gt_iff_lt, UInt16.lt_iff_toNat_lt, htoNat]
      exact Nat.pos_of_ne_zero hpos
    have hless := ofNat_lt_ofNat hindex (by omega)
    unfold fragmentIsValid
    rw [htoNat]
    simp [hle, hcountPos, hless, hshort, List.ne_nil_of_length_pos hnonempty]
  · rw [List.map_map]
    refine List.map_congr_left fun piece _ => ?_
    exact hview _ _ _

omit [DecidableEq κ] in
/-- A document that is neither empty nor too long is cut. -/
theorem exists_fragmentBytes {size : ℕ} (hsize : 0 < size)
    (make : Vector UInt8 32 → UInt16 → UInt16 → List UInt8 → M3PeerPayloadV2)
    (hpos : 0 < (doc.length + size - 1) / size)
    (hle : (doc.length + size - 1) / size ≤ maxFragments) :
    ∃ fragments, fragmentBytes X maxFragments size doc make = .ok fragments
      ∧ fragments.length = (doc.length + size - 1) / size := by
  unfold fragmentBytes
  dsimp only
  rw [if_neg (by omega)]
  exact ⟨_, rfl, by rw [List.length_map, List.length_zipIdx, List.length_toChunks hsize]⟩

end Reassembly

theorem exists_fragmentM5MatchState (X : Externals) {state : M5MatchStateV2} {n : ℕ}
    (hcanonical : state.isCanonical = true)
    (hn : ((X.matchStateToVec state).length + M5_MATCH_STATE_FRAGMENT_BYTES - 1)
      / M5_MATCH_STATE_FRAGMENT_BYTES = n)
    (hpos : 0 < n) (hle : n ≤ MAX_M5_MATCH_STATE_FRAGMENTS) :
    ∃ fragments, fragmentM5MatchState X state = .ok fragments ∧ fragments.length = n := by
  subst hn
  unfold fragmentM5MatchState
  rw [hcanonical]
  exact exists_fragmentBytes (by decide) _ hpos hle

theorem matchStateView_eq {payload : M3PeerPayloadV2} {hash : Vector UInt8 32}
    {index count : UInt16} {bytes : List UInt8} :
    matchStateView payload = some ((hash, count), index, bytes)
      ↔ payload = .matchStateFragment hash index count bytes := by
  cases payload with
  | matchStateFragment => simp [matchStateView]; tauto
  | _ => simp [matchStateView]

theorem migrationView_eq {payload : M3PeerPayloadV2} {shared : MigrationShared} {index : UInt16}
    {bytes : List UInt8} :
    migrationView payload = some (shared, index, bytes)
      ↔ payload = .migrationFragment shared.authority shared.epoch shared.stateHash index
        shared.fragmentCount bytes := by
  cases payload with
  | migrationFragment =>
    obtain ⟨authority, epoch, hash, count⟩ := shared
    simp [migrationView]
    tauto
  | _ => simp [migrationView]

theorem matchState_tamperEvident {X : Externals} {state : M5MatchStateV2}
    {fragments : List M3PeerPayloadV2} (hcut : fragmentM5MatchState X state = .ok fragments)
    (hjson : X.matchStateFromSlice (X.matchStateToVec state) = .ok state) :
    TamperEvident X matchStateView (X.matchStateToVec state) (reassembleM5MatchState X) state
      fragments := by
  unfold fragmentM5MatchState at hcut
  split_ifs at hcut with hrefused
  have hcanonical : state.isCanonical = true := by simpa using hrefused
  have h : Cut X matchStateView MAX_M5_MATCH_STATE_FRAGMENTS (·.2) (·.1)
      (X.matchStateToVec state)
      (X.sha256 (X.matchStateToVec state), UInt16.ofNat fragments.length) fragments :=
    cut_of_fragmentBytes hcut (fun count => (X.sha256 (X.matchStateToVec state), count))
      (by decide) (by decide) (fun _ _ _ => rfl) (fun _ => rfl) (fun _ => rfl) fun _ _ _ => id
  refine h.tamperEvident ?_ (fun payloads hbytes => ?_) fun payloads result haccepted => ?_
  · rintro payload other ⟨⟨hash, count⟩, index, bytes⟩ hpayload hother
    rw [matchStateView_eq.mp hpayload, matchStateView_eq.mp hother]
  · unfold reassembleM5MatchState
    rw [hbytes]
    dsimp only
    rw [hjson]
    dsimp only
    rw [if_neg hrefused]
  · unfold reassembleM5MatchState at haccepted
    cases hbytes : reassembleBytes X matchStateView MAX_M5_MATCH_STATE_FRAGMENTS (·.2) (·.1)
        payloads with
    | error error =>
      rw [hbytes] at haccepted
      exact nomatch haccepted
    | ok answer => exact ⟨answer.1, answer.2, rfl⟩

theorem checkpoint_tamperEvident {X : Externals} {authority : PlayerId} {epoch : UInt64}
    {checkpoint : M3MatchCheckpointV2} {fragments : List M3PeerPayloadV2}
    (hcut : fragmentM3Checkpoint X authority epoch checkpoint = .ok fragments)
    (hjson : X.checkpointFromSlice (X.checkpointToVec checkpoint) = .ok checkpoint) :
    TamperEvident X migrationView (X.checkpointToVec checkpoint) (reassembleM3Checkpoint X)
      (authority, epoch, checkpoint) fragments := by
  unfold fragmentM3Checkpoint at hcut
  split_ifs at hcut with hrefused
  have hfits : checkpointFits authority epoch checkpoint = true := by simpa using hrefused
  have h : Cut X migrationView MAX_M3_CHECKPOINT_FRAGMENTS (·.fragmentCount) (·.stateHash)
      (X.checkpointToVec checkpoint)
      ⟨authority, epoch, X.sha256 (X.checkpointToVec checkpoint),
        UInt16.ofNat fragments.length⟩ fragments :=
    cut_of_fragmentBytes hcut
      (MigrationShared.mk authority epoch (X.sha256 (X.checkpointToVec checkpoint))) (by decide)
      (by decide) (fun _ _ _ => rfl) (fun _ => rfl) (fun _ => rfl) fun _ _ _ => id
  refine h.tamperEvident ?_ (fun payloads hbytes => ?_) fun payloads result haccepted => ?_
  · rintro payload other ⟨shared, index, bytes⟩ hpayload hother
    rw [migrationView_eq.mp hpayload, migrationView_eq.mp hother]
  · unfold reassembleM3Checkpoint
    rw [hbytes]
    dsimp only
    rw [hjson]
    dsimp only
    rw [if_neg]
    rintro (hhash | hunfit)
    · exact hhash rfl
    · exact hrefused hunfit
  · unfold reassembleM3Checkpoint at haccepted
    cases hbytes : reassembleBytes X migrationView MAX_M3_CHECKPOINT_FRAGMENTS (·.fragmentCount)
        (·.stateHash) payloads with
    | error error =>
      rw [hbytes] at haccepted
      exact nomatch haccepted
    | ok answer => exact ⟨answer.1, answer.2, rfl⟩

/-- **Fragments are lossless and tamper evident**, for match states and for migration
checkpoints. -/
theorem fragments_tamper_evident (X : Externals) :
    (∀ state fragments, fragmentM5MatchState X state = .ok fragments →
      X.matchStateFromSlice (X.matchStateToVec state) = .ok state →
      TamperEvident X matchStateView (X.matchStateToVec state) (reassembleM5MatchState X) state
        fragments)
    ∧ ∀ authority epoch checkpoint fragments,
      fragmentM3Checkpoint X authority epoch checkpoint = .ok fragments →
      X.checkpointFromSlice (X.checkpointToVec checkpoint) = .ok checkpoint →
      TamperEvident X migrationView (X.checkpointToVec checkpoint) (reassembleM3Checkpoint X)
        (authority, epoch, checkpoint) fragments :=
  ⟨fun _ _ => matchState_tamperEvident, fun _ _ _ _ => checkpoint_tamperEvident⟩

/-! ### Concrete documents -/

/-- A running match in which nothing has happened. -/
def quietState (lobbySeed : UInt64) (players : List PlayerId) : M5MatchStateV2 where
  authorityEpoch := 3
  lobbySeed
  currentTick := 0
  endTick := 54000
  players := players.map fun player => ⟨player, 0, 0, 0, 0, true, none, none, none, none⟩
  activeReveal := none
  activeObjective := none
  finished := false
  winner := none

def quietCheckpoint : M3MatchCheckpointV2 :=
  .twoRiders [⟨M3MatchCheckpointV2.firstRider, some 10, false, none⟩,
      ⟨M3MatchCheckpointV2.secondRider, some 10, false, none⟩]
    [M3MatchCheckpointV2.firstRider, M3MatchCheckpointV2.secondRider]

/-- Reads the documents of the given match states. -/
def readDocument (states : List M5MatchStateV2) (bytes : List UInt8) :
    Except String M5MatchStateV2 :=
  match states.find? fun state => state.document == bytes with
  | some state => .ok state
  | none => .error "expected value at line 1 column 1"

def vectorDocument (v : Vector Int32 3) : List UInt8 :=
  Json.array (v.toList.map fun n => Json.integer n.toInt)

def RiderCheckpoint.document (rider : RiderCheckpoint) : List UInt8 :=
  Json.object [(['p'], rider.riderPlayerId.document), (['x'], vectorDocument rider.positionMm),
    (['v'], vectorDocument rider.velocityMmps), (['y'], Json.integer rider.yawMillidegrees.toInt),
    (['s'], Json.number rider.stance.asU8.toNat), (['h'], Json.number rider.health.toNat),
    (['w'], Json.number rider.weaponId.toNat), (['m'], Json.number rider.ammoMagazine.toNat),
    (['r'], Json.number rider.ammoReserve.toNat), (['i'], tickDocument rider.lastInputTick),
    (['f'], Json.nullable tickDocument rider.lastShotTick),
    (['c'], Json.nullable tickDocument rider.lastCommandTick), (['n'], tickDocument rider.shotIndex)]

def MatchCheckpoint.document (combat : MatchCheckpoint) : List UInt8 :=
  Json.object [(['e'], tickDocument combat.sourceEpoch), (['t'], tickDocument combat.tick),
    (['r'], Json.array (combat.riders.map (·.document))),
    (['d'], Json.array (combat.resolvedShots.map fun shot =>
      Json.array [shot.1.document, tickDocument shot.2]))]

def clockDocument (clock : M3ReloadCheckpointV2) : List UInt8 :=
  Json.object ([(['p'], clock.riderPlayerId.document)]
    ++ (clock.currentTick.map fun tick => (['t'], tickDocument tick)).toList
    ++ [(['h'], Json.bool clock.reloadHeld)])

/-- A checkpoint without its horses and its bounty match. -/
def combatDocument (checkpoint : M3MatchCheckpointV2) : List UInt8 :=
  Json.object [(['v'], Json.text ['2', '.', '0']), (['c'], checkpoint.combat.document),
    (['r'], Json.array (checkpoint.reloads.map clockDocument)),
    (['n'], tickDocument checkpoint.nextHorseDamageSequence)]

def readCombat (checkpoint : M3MatchCheckpointV2) (bytes : List UInt8) :
    Except String M3MatchCheckpointV2 :=
  if bytes = combatDocument checkpoint then .ok checkpoint
  else .error "expected value at line 1 column 1"

theorem readCombat_document (checkpoint : M3MatchCheckpointV2) :
    readCombat checkpoint (combatDocument checkpoint) = .ok checkpoint := if_pos rfl

/-- Externals that write match states as JSON and read the documents of the given ones back, and the
combat plane of checkpoints. -/
def documentExternals (states : List M5MatchStateV2) : Externals :=
  { M3SecureSession.referenceExternals with
    matchStateToVec := M5MatchStateV2.document
    matchStateFromSlice := readDocument states
    checkpointToVec := combatDocument
    checkpointFromSlice := readCombat quietCheckpoint }

theorem documentExternals_readsCombat (states : List M5MatchStateV2) :
    (documentExternals states).checkpointFromSlice
      ((documentExternals states).checkpointToVec quietCheckpoint) = .ok quietCheckpoint := by
  dsimp only [documentExternals]
  exact readCombat_document quietCheckpoint

theorem documentExternals_reads {states : List M5MatchStateV2} {state : M5MatchStateV2}
    (h : states.find? (fun other => other.document == state.document) = some state) :
    (documentExternals states).matchStateFromSlice
      ((documentExternals states).matchStateToVec state) = .ok state := by
  show readDocument states state.document = _
  unfold readDocument
  rw [h]

def fiveRiders : List PlayerId := [1, 2, 3, 4, 5].map M3SecureSession.referencePlayer

/-- A match state and a checkpoint of two fragments each. -/
theorem fragments_tamper_evident_two :
    (∃ fragments, fragmentM5MatchState (documentExternals [quietState 7 fiveRiders])
        (quietState 7 fiveRiders) = .ok fragments ∧ fragments.length = 2
      ∧ TamperEvident (documentExternals [quietState 7 fiveRiders]) matchStateView
        (quietState 7 fiveRiders).document
        (reassembleM5MatchState (documentExternals [quietState 7 fiveRiders]))
        (quietState 7 fiveRiders) fragments)
    ∧ ∃ fragments, fragmentM3Checkpoint (documentExternals [quietState 7 fiveRiders])
        M3MatchCheckpointV2.firstRider 4 quietCheckpoint = .ok fragments ∧ fragments.length = 2
      ∧ TamperEvident (documentExternals [quietState 7 fiveRiders]) migrationView
        (combatDocument quietCheckpoint)
        (reassembleM3Checkpoint (documentExternals [quietState 7 fiveRiders]))
        (M3MatchCheckpointV2.firstRider, 4, quietCheckpoint) fragments := by
  obtain ⟨hmatch, hmigration⟩ := fragments_tamper_evident
    (documentExternals [quietState 7 fiveRiders])
  constructor
  · obtain ⟨fragments, hcut, hlength⟩ :=
      exists_fragmentM5MatchState (documentExternals [quietState 7 fiveRiders])
        (n := 2) (show (quietState 7 fiveRiders).isCanonical = true by decide +kernel)
        (by decide +kernel) (by decide) (by decide)
    exact ⟨fragments, hcut, hlength, hmatch _ _ hcut
      (documentExternals_reads (by decide +kernel))⟩
  · have hcheckpoint : (fragmentM3Checkpoint (documentExternals [quietState 7 fiveRiders])
        M3MatchCheckpointV2.firstRider 4 quietCheckpoint).toOption.any
          (fun fragments => decide (fragments.length = 2)) = true := by decide +kernel
    obtain ⟨fragments, hcut, hlength⟩ := Fallible.exists_ok_of_any hcheckpoint
    exact ⟨fragments, hcut, hlength, hmigration _ _ _ _ hcut (documentExternals_readsCombat _)⟩

/-- **A document of one fragment** gives way to the one fragment of another document. -/
theorem lone_fragment_replaced :
    let X := documentExternals [quietState 7 [M3SecureSession.referencePlayer 1],
      quietState 8 [M3SecureSession.referencePlayer 1]]
    let state := quietState 7 [M3SecureSession.referencePlayer 1]
    let other := quietState 8 [M3SecureSession.referencePlayer 1]
    X.sha256 (X.matchStateToVec other) ≠ X.sha256 (X.matchStateToVec state)
      ∧ X.matchStateFromSlice (X.matchStateToVec state) = .ok state
      ∧ X.matchStateFromSlice (X.matchStateToVec other) = .ok other
      ∧ ∃ fragment replacement, fragmentM5MatchState X state = .ok [fragment]
        ∧ fragmentM5MatchState X other = .ok [replacement]
        ∧ reassembleM5MatchState X [replacement] = .ok other := by
  intro X state other
  have hstate : X.matchStateFromSlice (X.matchStateToVec state) = .ok state :=
    documentExternals_reads (by decide +kernel)
  have hother : X.matchStateFromSlice (X.matchStateToVec other) = .ok other :=
    documentExternals_reads (by decide +kernel)
  refine ⟨by decide +kernel, hstate, hother, ?_⟩
  have hlone : ∀ {played : M5MatchStateV2}, played.isCanonical = true →
      ((X.matchStateToVec played).length + M5_MATCH_STATE_FRAGMENT_BYTES - 1)
        / M5_MATCH_STATE_FRAGMENT_BYTES = 1 →
      ∃ fragment, fragmentM5MatchState X played = .ok [fragment] := by
    intro played hcanonical hshort
    obtain ⟨fragments, hcut, hlength⟩ :=
      exists_fragmentM5MatchState X hcanonical hshort (by decide) (by decide)
    obtain ⟨fragment, rfl⟩ := List.length_eq_one_iff.mp hlength
    exact ⟨fragment, hcut⟩
  obtain ⟨fragment, hfragment⟩ :=
    hlone (show state.isCanonical = true by decide +kernel) (by decide +kernel)
  obtain ⟨replacement, hreplacement⟩ :=
    hlone (show other.isCanonical = true by decide +kernel) (by decide +kernel)
  exact ⟨fragment, replacement, hfragment, hreplacement,
    (matchState_tamperEvident hreplacement hother).lossless _ (List.Perm.refl _)⟩

end Spurfire
