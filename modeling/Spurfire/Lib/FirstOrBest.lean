import Mathlib.Algebra.Order.Group.Nat
import Mathlib.Data.List.Basic

/-!
# The first that is good enough, or else the best

A search over scored elements returns the first whose score reaches a requirement.  Where there is
none, it returns the best one it has seen, ties going to the smaller element.

* `firstOrBest_of_good`: the first good one wins;
* `firstOrBest_of_none`: otherwise nothing beats the result.
-/

variable {α : Type*} [LinearOrder α]

/-- A higher score, or the same score and the smaller element. -/
def Beats (a b : α × ℕ) : Prop := b.2 < a.2 ∨ a.2 = b.2 ∧ a.1 < b.1

instance (a b : α × ℕ) : Decidable (Beats a b) := inferInstanceAs (Decidable (_ ∨ _))

/-- The search, from the best so far. -/
def firstOrBest (required : ℕ) : List (α × ℕ) → α × ℕ → α × ℕ
  | [], best => best
  | a :: rest, best =>
    if required ≤ a.2 then a else firstOrBest required rest (if Beats a best then a else best)

theorem not_beats_iff {a b : α × ℕ} : ¬Beats a b ↔ a.2 < b.2 ∨ a.2 = b.2 ∧ b.1 ≤ a.1 := by
  unfold Beats
  simp only [not_or, not_and, not_lt]
  constructor
  · rintro ⟨hle, hties⟩
    rcases Nat.lt_or_eq_of_le hle with hlt | heq
    · exact Or.inl hlt
    · exact Or.inr ⟨heq, hties heq⟩
  · rintro (hlt | ⟨heq, hle⟩)
    · exact ⟨hlt.le, fun heq => absurd heq hlt.ne⟩
    · exact ⟨heq.le, fun _ => hle⟩

theorem not_beats_trans {a b c : α × ℕ} (h : ¬Beats a b) (h' : ¬Beats b c) : ¬Beats a c := by
  rw [not_beats_iff] at h h' ⊢
  rcases h with hlt | ⟨heq, hle⟩
  · refine Or.inl ?_
    rcases h' with hlt' | ⟨heq', -⟩
    · omega
    · omega
  · rcases h' with hlt' | ⟨heq', hle'⟩
    · exact Or.inl (by omega)
    · exact Or.inr ⟨heq.trans heq', hle'.trans hle⟩

theorem Beats.asymm {a b : α × ℕ} (h : Beats a b) : ¬Beats b a := by
  rw [not_beats_iff]
  rcases h with hlt | ⟨heq, hlt⟩
  · exact Or.inl hlt
  · exact Or.inr ⟨heq.symm, le_of_lt hlt⟩

theorem le_of_not_beats {a b : α × ℕ} (h : ¬Beats a b) : a.2 ≤ b.2 := by
  rcases not_beats_iff.mp h with hlt | ⟨heq, -⟩
  · exact hlt.le
  · exact heq.le

/-- What neither beats nor is beaten is the same. -/
theorem eq_of_not_beats {a b : α × ℕ} (h : ¬Beats a b) (h' : ¬Beats b a) : a = b := by
  have hscore : a.2 = b.2 := Nat.le_antisymm (le_of_not_beats h) (le_of_not_beats h')
  rw [not_beats_iff] at h h'
  have hge : b.1 ≤ a.1 := (h.resolve_left hscore.not_lt).2
  have hle : a.1 ≤ b.1 := (h'.resolve_left hscore.symm.not_lt).2
  exact Prod.ext (le_antisymm hle hge) hscore

theorem firstOrBest_of_good {required : ℕ} {before after : List (α × ℕ)} {a best : α × ℕ}
    (hbefore : ∀ b ∈ before, b.2 < required) (ha : required ≤ a.2) :
    firstOrBest required (before ++ a :: after) best = a := by
  induction before generalizing best with
  | nil =>
    unfold firstOrBest
    exact if_pos ha
  | cons b before ih =>
    have hb := hbefore b List.mem_cons_self
    rw [List.cons_append]
    unfold firstOrBest
    rw [if_neg (by omega)]
    exact ih fun c hc => hbefore c (List.mem_cons_of_mem b hc)

theorem firstOrBest_of_none {required : ℕ} {l : List (α × ℕ)} {best : α × ℕ}
    (h : ∀ a ∈ l, a.2 < required) : firstOrBest required l best ∈ best :: l
      ∧ ∀ a ∈ best :: l, ¬Beats a (firstOrBest required l best) := by
  induction l generalizing best with
  | nil =>
    refine ⟨List.mem_cons_self, ?_⟩
    intro a ha
    rw [List.mem_singleton.mp ha]
    exact not_beats_iff.mpr (Or.inr ⟨rfl, le_refl _⟩)
  | cons b l ih =>
    have hb := h b List.mem_cons_self
    have hrest := fun a ha => h a (List.mem_cons_of_mem b ha)
    unfold firstOrBest
    rw [if_neg (by omega)]
    by_cases hbeats : Beats b best
    · rw [if_pos hbeats]
      obtain ⟨hmem, hnone⟩ := @ih b hrest
      refine ⟨List.mem_cons_of_mem best hmem, ?_⟩
      intro a ha
      rcases List.mem_cons.mp ha with rfl | ha
      · exact not_beats_trans hbeats.asymm (hnone b List.mem_cons_self)
      · exact hnone a ha
    · rw [if_neg hbeats]
      obtain ⟨hmem, hnone⟩ := @ih best hrest
      refine ⟨?_, ?_⟩
      · rcases List.mem_cons.mp hmem with heq | hmem
        · rw [heq]
          exact List.mem_cons_self
        · exact List.mem_cons_of_mem best (List.mem_cons_of_mem b hmem)
      · intro a ha
        rcases List.mem_cons.mp ha with rfl | ha
        · exact hnone a List.mem_cons_self
        · rcases List.mem_cons.mp ha with rfl | ha
          · exact not_beats_trans hbeats (hnone _ List.mem_cons_self)
          · exact hnone a (List.mem_cons_of_mem best ha)
