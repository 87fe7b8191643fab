import Mathlib.Data.List.Basic
import Mathlib.Order.Lattice

/-!
# In-order delivery by numbers

A sender numbers its messages and never steps back; a receiver takes a message only above the last
number it has taken.  `InOrder` is the invariant of such a pair, and `InOrder.sublist` what it is
for: whatever happens on the way, what is received is part of what was sent, in the order in which
it was sent and each message once.
-/

namespace InOrder

variable {α β : Type*} [LinearOrder β] {number : α → β}

theorem sublist_of_subset {part whole : List α}
    (hpart : part.Pairwise fun a b => number a < number b)
    (hwhole : whole.Pairwise fun a b => number a ≤ number b) (hsub : part ⊆ whole) :
    part.Sublist whole := by
  induction whole generalizing part with
  | nil =>
    rw [List.subset_nil.mp hsub]
  | cons b whole ih =>
    rw [List.pairwise_cons] at hwhole
    cases part with
    | nil => exact List.nil_sublist _
    | cons a part =>
      have hlater := (List.pairwise_cons.mp hpart).1
      rcases List.mem_cons.mp (hsub List.mem_cons_self) with rfl | ha
      · refine (ih hpart.of_cons hwhole.2 fun x hx => ?_).cons_cons a
        rcases List.mem_cons.mp (hsub (List.mem_cons_of_mem a hx)) with rfl | hmem
        · exact absurd (hlater x hx) (lt_irrefl _)
        · exact hmem
      · refine (ih hpart hwhole.2 fun x hx => ?_).cons b
        rcases List.mem_cons.mp hx with rfl | hrest
        · exact ha
        rcases List.mem_cons.mp (hsub hx) with rfl | hmem
        · -- `x` is numbered above `a`, which stands behind it
          exact absurd (hlater x hrest) (not_lt.mpr (hwhole.1 a ha))
        · exact hmem

end InOrder

/-- The sender is about to use the number `next`, the receiver has last taken `last`. -/
structure InOrder {α β : Type*} [LinearOrder β] (number : α → β) (sent received : List α)
    (next last : β) : Prop where
  sent_sorted : sent.Pairwise fun a b => number a ≤ number b
  sent_le : ∀ a ∈ sent, number a ≤ next
  received_sorted : received.Pairwise fun a b => number a < number b
  received_le : ∀ a ∈ received, number a ≤ last
  subset : received ⊆ sent

namespace InOrder

variable {α β : Type*} [LinearOrder β] {number : α → β} {sent received : List α}
  {next next' last : β} {a : α}

theorem start (number : α → β) (next last : β) : InOrder number [] [] next last :=
  ⟨.nil, by simp, .nil, by simp, List.nil_subset _⟩

/-- A number may be passed over. -/
theorem skip (h : InOrder number sent received next last) (hnext : next ≤ next') :
    InOrder number sent received next' last :=
  ⟨h.sent_sorted, fun a ha => (h.sent_le a ha).trans hnext, h.received_sorted, h.received_le,
    h.subset⟩

theorem send (h : InOrder number sent received next last) (ha : number a = next)
    (hnext : next ≤ next') : InOrder number (sent ++ [a]) received next' last where
  sent_sorted := List.pairwise_append.mpr ⟨h.sent_sorted, List.pairwise_singleton _ _,
    fun b hb c hc => List.mem_singleton.mp hc ▸ ha ▸ h.sent_le b hb⟩
  sent_le b hb := by
    rcases List.mem_append.mp hb with hold | hnew
    · exact (h.sent_le b hold).trans hnext
    · rw [List.mem_singleton.mp hnew, ha]
      exact hnext
  received_sorted := h.received_sorted
  received_le := h.received_le
  subset := List.Subset.trans h.subset (List.subset_append_left sent [a])

theorem receive (h : InOrder number sent received next last) (ha : a ∈ sent)
    (hlast : last < number a) : InOrder number sent (received ++ [a]) next (number a) where
  sent_sorted := h.sent_sorted
  sent_le := h.sent_le
  received_sorted := List.pairwise_append.mpr ⟨h.received_sorted, List.pairwise_singleton _ _,
    fun b hb c hc => List.mem_singleton.mp hc ▸ (h.received_le b hb).trans_lt hlast⟩
  received_le b hb := by
    rcases List.mem_append.mp hb with hold | hnew
    · exact ((h.received_le b hold).trans_lt hlast).le
    · rw [List.mem_singleton.mp hnew]
  subset := List.append_subset.mpr ⟨h.subset, by simpa using ha⟩

/-- **What is received is what was sent**, in order and each message once. -/
theorem sublist (h : InOrder number sent received next last) : received.Sublist sent :=
  sublist_of_subset h.received_sorted h.sent_sorted h.subset

end InOrder
