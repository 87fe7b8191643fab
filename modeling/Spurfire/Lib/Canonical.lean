import Mathlib.Data.List.Sort
import Mathlib.Data.Finset.Dedup

/-!
# Lists as sets

`canonical l` is `l` sorted and without repetitions.  The repetitions are removed next to each
other, which only works on what is sorted already.

* `pairwise_canonical`: it is strictly ascending, so it is determined by its elements;
* `canonical_eq_iff`: two lists have one canonical form exactly when they have the same elements.
-/

namespace Canonical

variable {α : Type*} [LinearOrder α]

/-- Removes repetitions that stand next to each other. -/
def dedupRuns : List α → List α
  | [] => []
  | [a] => [a]
  | a :: b :: l => if a = b then dedupRuns (b :: l) else a :: dedupRuns (b :: l)

theorem mem_dedupRuns {l : List α} {x : α} : x ∈ dedupRuns l ↔ x ∈ l := by
  induction l using dedupRuns.induct with
  | case1 => rfl
  | case2 a => rfl
  | case3 a l ih =>
    rw [dedupRuns, if_pos rfl, ih]
    simp
  | case4 a b l hne ih => rw [dedupRuns, if_neg hne, List.mem_cons, ih, ← List.mem_cons]

/-- On an ascending list, what is left is strictly ascending. -/
theorem pairwise_dedupRuns {l : List α} (h : l.Pairwise (· ≤ ·)) :
    (dedupRuns l).Pairwise (· < ·) := by
  induction l using dedupRuns.induct with
  | case1 => exact List.Pairwise.nil
  | case2 a => exact List.pairwise_singleton _ a
  | case3 a l ih =>
    rw [dedupRuns, if_pos rfl]
    exact ih h.of_cons
  | case4 a b l hne ih =>
    rw [dedupRuns, if_neg hne, List.pairwise_cons]
    refine ⟨fun x hx => ?_, ih h.of_cons⟩
    have hab : a < b := lt_of_le_of_ne (List.rel_of_pairwise_cons h List.mem_cons_self) hne
    rcases List.mem_cons.mp (mem_dedupRuns.mp hx) with rfl | hx
    · exact hab
    · exact lt_of_lt_of_le hab (List.rel_of_pairwise_cons h.of_cons hx)

def canonical (l : List α) : List α := dedupRuns (l.insertionSort (· ≤ ·))

@[simp] theorem mem_canonical {l : List α} {x : α} : x ∈ canonical l ↔ x ∈ l := by
  rw [canonical, mem_dedupRuns, List.mem_insertionSort]

theorem pairwise_canonical (l : List α) : (canonical l).Pairwise (· < ·) :=
  pairwise_dedupRuns (List.pairwise_insertionSort _ l)

/-- A strictly ascending list is determined by its elements. -/
theorem eq_of_pairwise {l l' : List α} (h : l.Pairwise (· < ·)) (h' : l'.Pairwise (· < ·))
    (hmem : ∀ x, x ∈ l ↔ x ∈ l') : l = l' := by
  have hperm : l.Perm l' := (List.perm_ext_iff_of_nodup (h.imp ne_of_lt) (h'.imp ne_of_lt)).mpr hmem
  exact hperm.eq_of_pairwise (fun a b _ _ hab hba => absurd (hab.trans hba) (lt_irrefl a)) h h'

/-- **One form for one set.** -/
theorem canonical_eq_iff {l l' : List α} : canonical l = canonical l' ↔ l.toFinset = l'.toFinset := by
  rw [Finset.ext_iff]
  simp only [List.mem_toFinset]
  constructor
  · intro h x
    rw [← mem_canonical, h, mem_canonical]
  · intro h
    refine eq_of_pairwise (pairwise_canonical l) (pairwise_canonical l') fun x => ?_
    rw [mem_canonical, mem_canonical, h x]

theorem toFinset_canonical (l : List α) : (canonical l).toFinset = l.toFinset := by
  ext x
  rw [List.mem_toFinset, List.mem_toFinset, mem_canonical]

theorem canonical_canonical (l : List α) : canonical (canonical l) = canonical l :=
  canonical_eq_iff.mpr (toFinset_canonical l)

omit [LinearOrder α] in
theorem toFinset_eq_iff [DecidableEq α] {l l' : List α} :
    l.toFinset = l'.toFinset ↔ (∀ x ∈ l, x ∈ l') ∧ ∀ x ∈ l', x ∈ l := by
  simp only [Finset.Subset.antisymm_iff, Finset.subset_iff, List.mem_toFinset]

/-- Two ways to name the elements of a list tell the same lists apart where they tell the same
elements apart. -/
theorem toFinset_map_eq_iff {ι β γ : Type*} [DecidableEq β] [DecidableEq γ] {f : ι → β} {h : ι → γ}
    (hfh : ∀ i j, f i = f j ↔ h i = h j) {l l' : List ι} :
    (l.map f).toFinset = (l'.map f).toFinset ↔ (l.map h).toFinset = (l'.map h).toFinset := by
  have hsub : ∀ {l l' : List ι}, (∀ x ∈ l.map f, x ∈ l'.map f) ↔ ∀ x ∈ l.map h, x ∈ l'.map h := by
    intro l l'
    rw [List.forall_mem_map, List.forall_mem_map]
    simp only [List.mem_map]
    refine forall₂_congr fun i _ => exists_congr fun j => and_congr_right fun _ => ?_
    exact hfh j i
  rw [toFinset_eq_iff, toFinset_eq_iff, hsub, hsub]

end Canonical
