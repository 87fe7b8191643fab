import Mathlib.Data.List.Sort
import Mathlib.Data.List.Dedup

/-!
# Ordered sets as lists

`orderedSet l` is the ascending list of the distinct elements of `l`, the contents of an ordered
set that was filled from `l`.  A search through a list in some order finds an element that comes
before every other match.  A sort by a key that tells the elements apart depends on the elements
only (`insertionSort_key_perm`).
-/

section OrderedSet

variable {α : Type*} [LinearOrder α]

def orderedSet (l : List α) : List α := l.dedup.insertionSort (· ≤ ·)

@[simp] theorem mem_orderedSet {l : List α} {a : α} : a ∈ orderedSet l ↔ a ∈ l := by
  rw [orderedSet, List.mem_insertionSort, List.mem_dedup]

theorem nodup_orderedSet (l : List α) : (orderedSet l).Nodup :=
  (List.perm_insertionSort _ _).nodup_iff.mpr l.nodup_dedup

/-- A list is as long as its ordered set exactly when it has no duplicates. -/
theorem length_orderedSet_eq_iff {l : List α} : (orderedSet l).length = l.length ↔ l.Nodup := by
  rw [orderedSet, List.length_insertionSort]
  constructor
  · intro h
    rw [← l.dedup_sublist.eq_of_length h]
    exact l.nodup_dedup
  · intro h
    rw [h.dedup]

end OrderedSet

/-- The first match of a list in order is before every other match. -/
theorem List.find?_pairwise {α : Type*} {R : α → α → Prop} {l : List α} (h : l.Pairwise R)
    {p : α → Bool} {x y : α} (hx : l.find? p = some x) (hy : y ∈ l) (hpy : p y) :
    y = x ∨ R x y := by
  induction l with
  | nil => cases hy
  | cons a l ih =>
    obtain ⟨hfirst, hrest⟩ := List.pairwise_cons.mp h
    rw [List.find?_cons] at hx
    split at hx
    · cases hx
      exact (List.mem_cons.mp hy).imp_right (hfirst y)
    · next hpa =>
      rcases List.mem_cons.mp hy with rfl | hy
      · exact absurd hpy (by simp [hpa])
      · exact ih hrest hx hy

/-- In a list in strict order no element is at or above the one after it. -/
theorem List.any_zip_tail_eq_false {α κ : Type*} [LinearOrder κ] {key : α → κ} {l : List α}
    (h : l.Pairwise fun a b => key a < key b) :
    ((l.zip l.tail).any fun rows => key rows.1 ≥ key rows.2) = false := by
  induction l with
  | nil => rfl
  | cons a l ih =>
    cases l with
    | nil => rfl
    | cons b l =>
      obtain ⟨hfirst, hrest⟩ := List.pairwise_cons.mp h
      have hlt : ¬key a ≥ key b := not_le.mpr (hfirst b List.mem_cons_self)
      rw [List.tail_cons, List.zip_cons_cons, List.any_cons, decide_eq_false hlt, Bool.false_or]
      exact ih hrest

/-! ## Sorting by a key -/

section SortByKey

variable {α κ : Type*} [LinearOrder κ] {key : α → κ} {l l' : List α}

variable (key) in
/-- Sorting by a key puts the keys in ascending order. -/
theorem List.pairwise_insertionSort_key (l : List α) :
    (l.insertionSort fun a b => key a ≤ key b).Pairwise fun a b => key a ≤ key b := by
  have : Std.Total fun a b : α => key a ≤ key b := ⟨fun a b => le_total _ _⟩
  have : IsTrans α fun a b : α => key a ≤ key b := ⟨fun _ _ _ => le_trans⟩
  exact List.pairwise_insertionSort _ l

variable (key) in
/-- **Sorting by a key that tells the elements apart forgets the order they came in.** -/
theorem List.insertionSort_key_perm (hkey : (l.map key).Nodup) (h : l.Perm l') :
    (l.insertionSort fun a b => key a ≤ key b) = l'.insertionSort fun a b => key a ≤ key b := by
  refine ((List.perm_insertionSort _ l).trans (h.trans (List.perm_insertionSort _ l').symm)
    ).eq_of_pairwise ?_ (pairwise_insertionSort_key key l)
      (pairwise_insertionSort_key key l')
  intro a b ha hb hab hba
  have ha := (List.mem_insertionSort _).mp ha
  have hb := h.symm.subset ((List.mem_insertionSort _).mp hb)
  exact List.inj_on_of_nodup_map hkey ha hb (le_antisymm hab hba)

end SortByKey
