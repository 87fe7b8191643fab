import Std.Data.ExtTreeMap
import Mathlib.Order.Defs.LinearOrder
import Mathlib.Data.List.Basic
import Mathlib.Data.List.Perm.Subperm

/-!
# Searching ordered maps

An ordered map is walked in key order both through its keys and through its rows.  The lemma here
relates the two walks, so that a search written over rows and one written over keys can be
compared.  The size of a map is compared through its keys, a map that is tabulated from distinct
keys holds just their values, and mapping the rows commutes with an insertion.  An insertion is
looked up by the equality of keys, and the values are those that some key looks up.
-/

namespace Std.ExtTreeMap

variable {α β : Type*} [LinearOrder α] [LawfulEqCmp (compare : α → α → Ordering)]

/-- The first row with a property, found over rows, is the first key whose row has it. -/
theorem findSome?_toList_eq_find?_keys (m : ExtTreeMap α β) (p : β → Bool) :
    m.toList.findSome? (fun row => if p row.2 then some row.1 else none)
      = m.keys.find? fun k => (m[k]?).any p := by
  rw [← m.map_fst_toList_eq_keys, List.find?_map]
  have hrows : ∀ row ∈ m.toList, (m[row.1]?).any p = p row.2 := by
    intro row hrow
    rw [mem_toList_iff_getElem?_eq_some.mp hrow, Option.any_some]
  generalize m.toList = rows at hrows ⊢
  induction rows with
  | nil => rfl
  | cons row rows ih =>
    have hrow := hrows row (by simp)
    have ih := ih fun r hr => hrows r (by simp [hr])
    by_cases hp : p row.2
    · simp [hrow, hp]
    · simp only [List.findSome?_cons, hp, Bool.false_eq_true, if_false, List.find?_cons,
        Function.comp_apply, hrow, ih]

/-- A map whose keys are all keys of another is no larger. -/
theorem size_le_of_mem {γ : Type*} {m : ExtTreeMap α β} {m' : ExtTreeMap α γ}
    (h : ∀ k, k ∈ m → k ∈ m') : m.size ≤ m'.size := by
  rw [← length_keys, ← length_keys]
  exact (List.Nodup.subperm nodup_keys fun k hk => mem_keys.mpr (h k (mem_keys.mp hk))).length_le

/-- A map whose keys are all keys of another that is no larger has all of its keys. -/
theorem mem_of_size_le {γ : Type*} {m : ExtTreeMap α β} {m' : ExtTreeMap α γ}
    (h : ∀ k, k ∈ m → k ∈ m') (hsize : m'.size ≤ m.size) {k : α} (hk : k ∈ m') : k ∈ m := by
  have hsub := List.Nodup.subperm nodup_keys fun k hk => mem_keys.mpr (h k (mem_keys.mp hk))
  have hperm := hsub.perm_of_length_le (by rw [length_keys, length_keys]; exact hsize)
  exact mem_keys.mp (hperm.mem_iff.mpr (mem_keys.mpr hk))

/-- Mapping the rows after an insertion is inserting the mapped row. -/
theorem map_insert {γ : Type*} (m : ExtTreeMap α β) (f : α → β → γ) (k : α) (v : β) :
    (m.insert k v).map f = (m.map f).insert k (f k v) := by
  refine ext_getElem? fun a => ?_
  rw [getElem?_map, getElem?_insert, getElem?_insert, getElem?_map]
  by_cases h : compare k a = .eq
  · rw [if_pos h, if_pos h, ← LawfulEqCmp.eq_of_compare h]
    rfl
  · rw [if_neg h, if_neg h]

/-! ## Walks -/

section Walk

variable {κ γ : Type*} {cmp : κ → κ → Ordering} [TransCmp cmp]

theorem keys_eq_of_pairwise [LawfulEqCmp cmp] {m : ExtTreeMap κ β cmp} {l : List κ}
    (hl : l.Pairwise fun a b => cmp a b = .lt) (hmem : ∀ k, k ∈ l ↔ k ∈ m) : m.keys = l := by
  have hnodup : l.Nodup := hl.imp fun {a b} hlt heq => by
    subst heq
    exact nomatch hlt.symm.trans ReflCmp.compare_self
  have hperm : m.keys.Perm l :=
    (List.perm_ext_iff_of_nodup nodup_keys hnodup).mpr fun k => mem_keys.trans (hmem k).symm
  refine hperm.eq_of_pairwise (fun a b _ _ hab hba => ?_) ordered_keys hl
  have hswap : cmp a b = (cmp b a).swap := OrientedCmp.eq_swap
  rw [hba, hab] at hswap
  exact nomatch hswap

/-- Lists kept in a map are joined along its keys. -/
theorem flatMap_toList [LawfulEqCmp cmp] (m : ExtTreeMap κ (List γ) cmp) :
    m.toList.flatMap (·.2) = m.keys.flatMap fun k => (m[k]?).getD [] := by
  rw [← m.map_fst_toList_eq_keys, List.flatMap_map]
  refine List.flatMap_congr fun row hrow => ?_
  rw [mem_toList_iff_getElem?_eq_some.mp hrow]
  rfl

end Walk

/-! ## Tabulated maps -/

theorem pairwise_tabulate {l : List α} (h : l.Nodup) (f : α → β) :
    (l.map fun a => (a, f a)).Pairwise fun x y => ¬compare x.1 y.1 = .eq :=
  List.pairwise_map.mpr (h.imp fun hne heq => hne (LawfulEqCmp.eq_of_compare heq))

theorem size_ofList_tabulate {l : List α} (h : l.Nodup) (f : α → β) :
    (ofList (l.map fun a => (a, f a)) compare).size = l.length := by
  rw [size_ofList (pairwise_tabulate h f), List.length_map]

theorem getElem?_ofList_tabulate {l : List α} (h : l.Nodup) (f : α → β) (k : α) :
    (ofList (l.map fun a => (a, f a)) compare)[k]? = if k ∈ l then some (f k) else none := by
  split_ifs with hk
  · exact getElem?_ofList_of_mem (compare_self (a := k)) (pairwise_tabulate h f)
      (List.mem_map.mpr ⟨k, hk, rfl⟩)
  · refine getElem?_ofList_of_contains_eq_false ?_
    simpa using hk

/-! ## Insertions and values by the equality of keys -/

section Lookup

variable {α β : Type*} {cmp : α → α → Ordering} [TransCmp cmp] [LawfulEqCmp cmp]
  {m : ExtTreeMap α β cmp} {k k' : α} {v : β}

theorem getElem?_insert_eq_ite [DecidableEq α] (m : ExtTreeMap α β cmp) (k k' : α) (v : β) :
    (m.insert k v)[k']? = if k' = k then some v else m[k']? := by
  rw [getElem?_insert]
  by_cases heq : k' = k
  · rw [heq, if_pos ReflCmp.compare_self, if_pos rfl]
  · rw [if_neg heq, if_neg fun hcompare => heq (LawfulEqCmp.eq_of_compare hcompare).symm]

theorem mem_insert_iff_eq : k' ∈ m.insert k v ↔ k' = k ∨ k' ∈ m := by
  rw [mem_insert]
  refine or_congr_left ⟨fun h => (LawfulEqCmp.eq_of_compare h).symm, ?_⟩
  rintro rfl
  exact ReflCmp.compare_self

/-- A key that is known keeps its place. -/
theorem mem_insert_iff_of_mem (h : k ∈ m) : k' ∈ m.insert k v ↔ k' ∈ m := by
  rw [mem_insert_iff_eq]
  refine ⟨fun hmem => hmem.elim ?_ id, .inr⟩
  rintro rfl
  exact h

theorem values_eq_foldr {α β : Type*} {cmp : α → α → Ordering} [TransCmp cmp]
    (m : ExtTreeMap α β cmp) : m.values = m.foldr (fun _ v l => v :: l) [] := by
  obtain ⟨inner⟩ := m
  obtain ⟨t⟩ := inner
  induction t using Quotient.ind
  rfl

theorem mem_values : v ∈ m.values ↔ ∃ k : α, m[k]? = some v := by
  have hlist : ∀ l : List (α × β), l.foldr (fun entry l => entry.2 :: l) [] = l.map Prod.snd := by
    intro l
    induction l with
    | nil => rfl
    | cons entry l ih => rw [List.foldr_cons, ih, List.map_cons]
  rw [values_eq_foldr, foldr_eq_foldr_toList, hlist, List.mem_map]
  constructor
  · rintro ⟨⟨k, v⟩, hmem, rfl⟩
    exact ⟨k, mem_toList_iff_getElem?_eq_some.mp hmem⟩
  · rintro ⟨k, hk⟩
    exact ⟨(k, v), mem_toList_iff_getElem?_eq_some.mpr hk, rfl⟩

end Lookup

end Std.ExtTreeMap
