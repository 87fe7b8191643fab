import Mathlib.Data.List.Induction
import Mathlib.Order.Lattice

/-!
# Timelines

A timeline is a list whose entries carry strictly ascending keys, the oldest first.  It is read at a
time, and what is too old is dropped from its front.

* `asOf`: the newest entry no later than a time;
* `prune`: what is left when everything before a bound is dropped;
* `prune_append_prune`: pruning at every entry is pruning once;
* **`asOf_prune`**: a pruned timeline answers as the full one does, or not at all.
-/

namespace Timeline

variable {α κ : Type*} [LinearOrder κ] {key : α → κ} {l : List α} {a : α} {bound time : κ}

def Ascends (key : α → κ) (l : List α) : Prop := l.Pairwise fun a b => key a < key b

theorem ascends_append_singleton :
    Ascends key (l ++ [a]) ↔ Ascends key l ∧ ∀ b ∈ l, key b < key a := by
  unfold Ascends
  rw [List.pairwise_append]
  constructor
  · exact fun ⟨hl, _, hlast⟩ => ⟨hl, fun b hb => hlast b hb a (List.mem_singleton.mpr rfl)⟩
  · rintro ⟨hl, hlast⟩
    refine ⟨hl, List.pairwise_singleton _ a, fun b hb c hc => ?_⟩
    rw [List.mem_singleton.mp hc]
    exact hlast b hb

/-- A timeline grows by entries later than its last one. -/
theorem Ascends.append_singleton (h : Ascends key l) (hlast : ∀ b ∈ l.getLast?, key b < key a) :
    Ascends key (l ++ [a]) := by
  refine ascends_append_singleton.mpr ⟨h, fun b hb => ?_⟩
  induction l using List.reverseRecOn with
  | nil => exact nomatch hb
  | append_singleton rest last _ =>
    have hlater := hlast last List.getLast?_concat
    rcases List.mem_append.mp hb with hold | hnew
    · exact ((ascends_append_singleton.mp h).2 b hold).trans hlater
    · rwa [List.mem_singleton.mp hnew]

/-! ## Reading -/

/-- The newest entry no later than a time. -/
def asOf (key : α → κ) (l : List α) (time : κ) : Option α := l.reverse.find? fun a => key a ≤ time

theorem asOf_append_singleton (key : α → κ) (l : List α) (a : α) (time : κ) :
    asOf key (l ++ [a]) time = if key a ≤ time then some a else asOf key l time := by
  unfold asOf
  rw [List.reverse_append, List.reverse_singleton, List.singleton_append, List.find?_cons]
  by_cases h : key a ≤ time
  · rw [if_pos h, decide_eq_true h]
  · rw [if_neg h, decide_eq_false h]

theorem mem_of_asOf (h : asOf key l time = some a) : a ∈ l :=
  List.mem_reverse.mp (List.mem_of_find?_eq_some h)

/-! ## Pruning -/

/-- What is left when everything before a bound is dropped. -/
def prune (key : α → κ) (bound : κ) (l : List α) : List α := l.dropWhile fun a => key a < bound

theorem prune_cons_of_lt {b : α} (h : key b < bound) (l : List α) :
    prune key bound (b :: l) = prune key bound l := by
  simp [prune, h]

theorem prune_cons_of_le {b : α} (h : bound ≤ key b) (l : List α) :
    prune key bound (b :: l) = b :: l := by
  simp [prune, h]

/-- An entry from the bound on stays. -/
theorem prune_append_singleton (l : List α) (h : bound ≤ key a) :
    prune key bound (l ++ [a]) = prune key bound l ++ [a] := by
  induction l with
  | nil => exact prune_cons_of_le h []
  | cons b l ih =>
    rw [List.cons_append]
    rcases lt_or_ge (key b) bound with hb | hb
    · rw [prune_cons_of_lt hb, prune_cons_of_lt hb, ih]
    · rw [prune_cons_of_le hb, prune_cons_of_le hb, List.cons_append]

/-- What an earlier bound has dropped, a later one drops. -/
theorem prune_append_prune {later : κ} (h : bound ≤ later) (l m : List α) :
    prune key later (prune key bound l ++ m) = prune key later (l ++ m) := by
  induction l with
  | nil => rfl
  | cons b l ih =>
    rcases lt_or_ge (key b) bound with hb | hb
    · rw [prune_cons_of_lt hb, ih, List.cons_append, prune_cons_of_lt (hb.trans_le h)]
    · rw [prune_cons_of_le hb]

/-- Of a timeline, pruning leaves the entries from the bound on. -/
theorem prune_eq_filter (h : Ascends key l) :
    prune key bound l = l.filter fun a => bound ≤ key a := by
  induction l with
  | nil => rfl
  | cons b l ih =>
    obtain ⟨hfirst, hrest⟩ := List.pairwise_cons.mp h
    rcases lt_or_ge (key b) bound with hb | hb
    · rw [prune_cons_of_lt hb, ih hrest]
      simp [hb]
    · have hall : ∀ c ∈ l, decide (bound ≤ key c) = true := fun c hc =>
        decide_eq_true (hb.trans (hfirst c hc).le)
      rw [prune_cons_of_le hb, List.filter_eq_self.mpr]
      rintro c (_ | ⟨_, hc⟩)
      · exact decide_eq_true hb
      · exact hall c hc

/-- **A pruned timeline answers as the full one does, or not at all.** -/
theorem asOf_prune (h : Ascends key l) :
    asOf key (prune key bound l) time = (asOf key l time).filter fun a => bound ≤ key a := by
  rw [prune_eq_filter h]
  induction l using List.reverseRecOn with
  | nil => rfl
  | append_singleton l a ih =>
    obtain ⟨hl, hlast⟩ := ascends_append_singleton.mp h
    rw [List.filter_append, asOf_append_singleton]
    rcases lt_or_ge (key a) bound with ha | ha
    · -- everything before the bound: nothing is left, and no answer is late enough
      have hearly : ∀ b ∈ l ++ [a], ¬decide (bound ≤ key b) = true := by
        intro b hb
        rw [decide_eq_true_eq, not_le]
        rcases List.mem_append.mp hb with hold | hnew
        · exact (hlast b hold).trans ha
        · rwa [List.mem_singleton.mp hnew]
      rw [← List.filter_append, List.filter_eq_nil_iff.mpr hearly, ← asOf_append_singleton]
      exact (Option.filter_eq_none_iff.mpr fun b hb => hearly b (mem_of_asOf hb)).symm
    · have hkept : [a].filter (fun a => bound ≤ key a) = [a] := by simp [ha]
      rw [hkept, asOf_append_singleton, ih hl]
      split_ifs
      · rw [Option.filter_some, if_pos (decide_eq_true ha)]
      · rfl

end Timeline
