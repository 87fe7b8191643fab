import Mathlib.Order.Basic

/-!
# Runs of a deterministic state machine with outputs

A machine is a step function `σ → α → β × σ`: it reads a call, answers, and moves on.  This file
has the rules by which a fact about one step becomes a fact about every run:

* `run_invariant` for unconditional invariants;
* `exists_turn`, the step of a run that brings something about;
* `Along`, the runs whose every step meets a side condition, with `run_invariant_along`,
  `forall_prefix_iff_along` and `exists_of_not_along`;
* `run_absorbed`, for calls of which only the last one counts;
* `history`, what a run records, and `run_history`, which relates it to the state;
* `not_used_of_spent` and `spent_once`, the at-most-once rule: what a step consumes is fresh
  before it and spent after it, and spent things stay spent, so no two steps of one run consume
  the same thing.
-/

namespace Runs

variable {σ α β γ : Type*} (step : σ → α → β × σ)

/-- The state after the calls `as`. -/
def run (s : σ) (as : List α) : σ :=
  as.foldl (fun s a => (step s a).2) s

@[simp] theorem run_nil (s : σ) : run step s [] = s := rfl

@[simp] theorem run_cons (s : σ) (a : α) (as : List α) :
    run step s (a :: as) = run step (step s a).2 as := rfl

theorem run_append (s : σ) (as bs : List α) :
    run step s (as ++ bs) = run step (run step s as) bs := by
  simp [run, List.foldl_append]

variable {step}

theorem run_invariant {P : σ → Prop} (keep : ∀ s a, P s → P (step s a).2) {s : σ} (hs : P s)
    (as : List α) : P (run step s as) := by
  induction as generalizing s with
  | nil => exact hs
  | cons a as ih => exact ih (keep s a hs)

/-- **A turn.**  A run from a state without `P` to one with `P` has a step that brings `P` about. -/
theorem exists_turn {P : σ → Prop} {s : σ} {as : List α} (hs : ¬P s) (hend : P (run step s as)) :
    ∃ before a after, as = before ++ a :: after ∧ ¬P (run step s before)
      ∧ P (step (run step s before) a).2 := by
  induction as generalizing s with
  | nil => exact absurd hend hs
  | cons a as ih =>
    by_cases hnext : P (step s a).2
    · exact ⟨[], a, as, rfl, hs, hnext⟩
    · obtain ⟨before, b, after, rfl, hbefore, hturn⟩ := ih hnext hend
      exact ⟨a :: before, b, after, rfl, hbefore, hturn⟩

/-! ## Runs under a side condition -/

variable (step) in
/-- Every call of the run meets `C` in the state it is made in. -/
def Along (C : σ → α → Prop) : σ → List α → Prop
  | _, [] => True
  | s, a :: as => C s a ∧ Along C (step s a).2 as

instance decidableAlong (C : σ → α → Prop) [∀ s a, Decidable (C s a)] :
    ∀ (s : σ) (as : List α), Decidable (Along step C s as)
  | _, [] => .isTrue trivial
  | s, a :: as =>
    have := decidableAlong C (step s a).2 as
    inferInstanceAs (Decidable (C s a ∧ Along step C (step s a).2 as))

theorem along_true (s : σ) (as : List α) : Along step (fun _ _ => True) s as := by
  induction as generalizing s with
  | nil => trivial
  | cons a as ih => exact ⟨trivial, ih _⟩

/-- A side condition on the calls alone holds along every run of them. -/
theorem along_of_forall {D : α → Prop} {s : σ} {as : List α} (h : ∀ a ∈ as, D a) :
    Along step (fun _ a => D a) s as := by
  induction as generalizing s with
  | nil => trivial
  | cons a as ih =>
    exact ⟨h a List.mem_cons_self, ih fun b hb => h b (List.mem_cons_of_mem a hb)⟩

theorem Along.append {C : σ → α → Prop} {s : σ} {as bs : List α} :
    Along step C s (as ++ bs) ↔ Along step C s as ∧ Along step C (run step s as) bs := by
  induction as generalizing s with
  | nil => simp [Along]
  | cons a as ih => simp only [List.cons_append, Along, ih, run_cons, and_assoc]

/-- A side condition on the calls alone joins one on the run. -/
theorem Along.and_forall {C : σ → α → Prop} {D : α → Prop} {s : σ} {as : List α}
    (h : Along step C s as) (hD : ∀ a ∈ as, D a) : Along step (fun s a => C s a ∧ D a) s as := by
  induction as generalizing s with
  | nil => trivial
  | cons a as ih =>
    exact ⟨⟨h.1, hD a List.mem_cons_self⟩, ih h.2 fun b hb => hD b (List.mem_cons_of_mem a hb)⟩

/-- A run that leaves the side condition has a first part, a call that breaks it, and a rest. -/
theorem exists_of_not_along {C : σ → α → Prop} {s : σ} {as : List α} (h : ¬Along step C s as) :
    ∃ before a after, as = before ++ a :: after ∧ ¬C (run step s before) a := by
  induction as generalizing s with
  | nil => exact absurd trivial h
  | cons a as ih =>
    by_cases ha : C s a
    · obtain ⟨before, b, after, rfl, hb⟩ := ih fun hrest => h ⟨ha, hrest⟩
      exact ⟨a :: before, b, after, rfl, hb⟩
    · exact ⟨[], a, as, rfl, ha⟩

theorem run_invariant_along {C : σ → α → Prop} {P : σ → Prop}
    (keep : ∀ s a, C s a → P s → P (step s a).2) {s : σ} (hs : P s) {as : List α}
    (h : Along step C s as) : P (run step s as) := by
  induction as generalizing s with
  | nil => exact hs
  | cons a as ih => exact ih (keep s a h.1 hs) h.2

/-- What an invariant of the runs under `C` gives for a step holds of every step of the run. -/
theorem Along.of_invariant {C D : σ → α → Prop} {P : σ → Prop}
    (keep : ∀ s a, C s a → P s → P (step s a).2) (gives : ∀ s a, C s a → P s → D s a) {s : σ}
    (hs : P s) {as : List α} (h : Along step C s as) : Along step D s as := by
  induction as generalizing s with
  | nil => trivial
  | cons a as ih => exact ⟨gives s a h.1 hs, ih (keep s a h.1 hs) h.2⟩

/-- **Only the last call counts.**  Where a later call does after an earlier one what it does alone,
a run of ever later calls ends where its last call alone leads. -/
theorem run_absorbed {I : σ → Prop} {C : σ → α → Prop} {R : α → α → Prop}
    (keep : ∀ s a, I s → C s a → I (step s a).2)
    (next : ∀ s a b, I s → C s a → R a b → C (step s a).2 b)
    (absorb : ∀ s a b, I s → C s a → R a b → (step (step s a).2 b).2 = (step s b).2) {s : σ}
    (hs : I s) {as : List α} {a : α} (hC : ∀ b ∈ as ++ [a], C s b)
    (hR : (as ++ [a]).Pairwise R) : run step s (as ++ [a]) = (step s a).2 := by
  induction as generalizing s with
  | nil => rfl
  | cons b bs ih =>
    rw [List.cons_append, List.pairwise_cons] at hR
    have hb := hC b List.mem_cons_self
    have hlast : R b a := hR.1 a (List.mem_append_right _ List.mem_cons_self)
    rw [List.cons_append, run_cons, ih (keep s b hs hb)
      (fun c hc => next s b c hs hb (hR.1 c hc)) hR.2]
    exact absorb s b a hs hb hlast

/-- When a step keeps `P` exactly where `C` holds, `P` holds in every state of a run exactly when
every step of the run meets `C`. -/
theorem forall_prefix_iff_along {C : σ → α → Prop} {I P : σ → Prop}
    (inv : ∀ s a, I s → I (step s a).2) (exact : ∀ s a, I s → P s → (P (step s a).2 ↔ C s a))
    {s : σ} (hI : I s) (hP : P s) (as : List α) :
    (∀ before, before <+: as → P (run step s before)) ↔ Along step C s as := by
  induction as generalizing s with
  | nil =>
    refine iff_of_true (fun before hbefore => ?_) trivial
    rw [List.prefix_nil.mp hbefore]
    exact hP
  | cons a as ih =>
    constructor
    · intro h
      have hnext : P (step s a).2 := h [a] (List.prefix_append [a] as)
      refine ⟨(exact s a hI hP).mp hnext, (ih (inv s a hI) hnext).mp fun before hbefore => ?_⟩
      exact h (a :: before) (List.cons_prefix_cons.mpr ⟨rfl, hbefore⟩)
    · rintro ⟨ha, hrest⟩ before hbefore
      have hnext := (exact s a hI hP).mpr ha
      cases before with
      | nil => exact hP
      | cons b before =>
        obtain ⟨rfl, hpre⟩ := List.cons_prefix_cons.mp hbefore
        exact (ih (inv s b hI) hnext).mpr hrest before hpre

/-! ## Histories -/

variable (step) in
/-- What `note` records of each step of the run, in order. -/
def history (note : σ → α → List γ) : σ → List α → List γ
  | _, [] => []
  | s, a :: as => note s a ++ history note (step s a).2 as

theorem history_cons (note : σ → α → List γ) (s : σ) (a : α) (as : List α) :
    history step note s (a :: as) = note s a ++ history step note (step s a).2 as := rfl

theorem history_append (note : σ → α → List γ) (s : σ) (as bs : List α) :
    history step note s (as ++ bs)
      = history step note s as ++ history step note (run step s as) bs := by
  induction as generalizing s with
  | nil => rfl
  | cons a as ih => rw [List.cons_append, history, history, ih, run_cons, List.append_assoc]

/-- A relation between the state and what has been recorded so far. -/
theorem run_history {C : σ → α → Prop} {note : σ → α → List γ} {P : σ → List γ → Prop}
    (keep : ∀ s h a, C s a → P s h → P (step s a).2 (h ++ note s a)) {s : σ} {before : List γ}
    (hs : P s before) {as : List α} (h : Along step C s as) :
    P (run step s as) (before ++ history step note s as) := by
  induction as generalizing s before with
  | nil => rwa [history, List.append_nil]
  | cons a as ih =>
    have hnext := ih (keep s before a h.1 hs) h.2
    rwa [List.append_assoc] at hnext

section AtMostOnce

/- `U s a x`: the call `a` consumes `x` in state `s`.  `S s x`: `x` can no longer be consumed. -/
variable {C : σ → α → Prop} {I : σ → Prop} {U : σ → α → γ → Prop} {S : σ → γ → Prop} {s : σ}
  {a b : α} {mid : List α} {x : γ}

/-- What is spent is never consumed again. -/
theorem not_used_of_spent (inv : ∀ s a, C s a → I s → I (step s a).2)
    (keep : ∀ s a x, C s a → I s → S s x → S (step s a).2 x)
    (fresh : ∀ s a x, C s a → I s → U s a x → ¬ S s x) (hs : I s) (hx : S s x)
    (h : Along step C s (mid ++ [b])) : ¬ U (run step s mid) b x := by
  rw [Along.append] at h
  obtain ⟨hmid, hb, -⟩ := h
  -- the run `mid` keeps the invariant and `S x` together
  have hend : I (run step s mid) ∧ S (run step s mid) x :=
    run_invariant_along (P := fun t => I t ∧ S t x)
      (fun t c hc ht => ⟨inv t c hc ht.1, keep t c x hc ht.1 ht.2⟩) ⟨hs, hx⟩ hmid
  intro huse
  exact fresh _ b x hb hend.1 huse hend.2

/-- **At most once.**  What a call consumes is fresh before it and spent after it; then no two
calls of one run consume the same thing. -/
theorem spent_once (inv : ∀ s a, C s a → I s → I (step s a).2)
    (keep : ∀ s a x, C s a → I s → S s x → S (step s a).2 x)
    (fresh : ∀ s a x, C s a → I s → U s a x → ¬ S s x)
    (spend : ∀ s a x, C s a → I s → U s a x → S (step s a).2 x) (hs : I s)
    (h : Along step C s (a :: mid ++ [b])) (ha : U s a x) :
    ¬ U (run step (step s a).2 mid) b x := by
  obtain ⟨hca, hrest⟩ := h
  exact not_used_of_spent inv keep fresh (inv s a hca hs) (spend s a x hca hs ha) hrest

end AtMostOnce

end Runs
