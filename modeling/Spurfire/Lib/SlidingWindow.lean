import Spurfire.Lib.Runs
import Mathlib.Algebra.Order.Group.Nat
import Mathlib.Data.List.Basic
import Mathlib.Data.List.Induction

/-!
# Sliding windows

A budget charges entries to accounts and keeps a log of what it has admitted.  Before an entry is
looked at, the log drops what is a full window old; the entry is admitted where every account it is
charged to has room.

* `Budget` is the clock, the window, the accounts and their limits;
* `Slides` relates the log to all that was ever admitted: it is kept by `later`, `expired` and
  `charged`;
* `Bounded`, no interval as long as the window has more than the limit, is part of it, and `full`
  says that an entry is refused only where an account is used up;
* `Runs.run_history_timed` carries such a relation along a run whose clock does not go back.
-/

/-! ## Runs under a clock -/

namespace Runs

variable {σ α β γ τ : Type*} {step : σ → α → β × σ} [Preorder τ]

/-- A relation between the time, the state and the history, which waiting keeps, holds along every
run whose clock does not go back. -/
theorem run_history_timed {clock : α → τ} {note : σ → α → List γ} {P : τ → σ → List γ → Prop}
    (later : ∀ {c c' : τ} {s h}, c ≤ c' → P c s h → P c' s h)
    (keep : ∀ s h a, P (clock a) s h → P (clock a) (step s a).2 (h ++ note s a)) {s : σ}
    (hs : ∀ c, P c s []) (as : List α) (hclock : (as.map clock).Pairwise (· ≤ ·)) {c : τ}
    (hc : ∀ a ∈ as, clock a ≤ c) : P c (run step s as) (history step note s as) := by
  induction as using List.reverseRecOn generalizing c with
  | nil => exact hs c
  | append_singleton as a ih =>
    rw [List.map_append, List.pairwise_append] at hclock
    obtain ⟨hbefore, -, hlast⟩ := hclock
    have hlater : ∀ b ∈ as, clock b ≤ clock a := fun b hb =>
      hlast _ (List.mem_map_of_mem hb) _ (List.mem_singleton_self _)
    have hnext := keep _ _ a (ih hbefore hlater)
    rw [run_append, history_append]
    refine later (hc a (List.mem_append_right _ (List.mem_singleton_self a))) ?_
    rw [history_cons, history, List.append_nil]
    exact hnext

end Runs

/-! ## Budgets -/

/-- How much each account may be charged within a window. -/
structure Budget (α κ : Type*) where
  stamp : α → ℕ
  width : ℕ
  accounts : α → List κ
  limit : κ → ℕ

namespace Budget

variable {α κ : Type*} (b : Budget α κ)

/-- The log without the entries that are a full window old. -/
def expire (now : ℕ) (log : List α) : List α :=
  log.dropWhile fun a => decide (b.stamp a + b.width ≤ now)

/-- In a log in the order of time the old entries are in front. -/
theorem expire_eq_filter {b : Budget α κ} {now : ℕ} {log : List α}
    (h : log.Pairwise fun a a' => b.stamp a ≤ b.stamp a') :
    b.expire now log = log.filter fun a => decide (now < b.stamp a + b.width) := by
  unfold expire
  induction log with
  | nil => rfl
  | cons a log ih =>
    obtain ⟨hfirst, hrest⟩ := List.pairwise_cons.mp h
    by_cases hold : b.stamp a + b.width ≤ now
    · have hgone : ¬decide (now < b.stamp a + b.width) = true := by simpa using hold
      rw [List.dropWhile_cons, if_pos (decide_eq_true hold), List.filter_cons, if_neg hgone]
      exact ih hrest
    · have hall : ∀ a' ∈ a :: log, decide (now < b.stamp a' + b.width) = true := by
        intro a' ha'
        rcases List.mem_cons.mp ha' with rfl | ha'
        · exact decide_eq_true (not_le.mp hold)
        · have := hfirst a' ha'
          exact decide_eq_true (by omega)
      have hstays : ¬decide (b.stamp a + b.width ≤ now) = true := by simpa using hold
      rw [List.dropWhile_cons, if_neg hstays, List.filter_eq_self.mpr hall]

variable [DecidableEq κ]

def HasRoom (log : List α) (a : α) : Prop :=
  ∀ k ∈ b.accounts a, (log.filter fun a' => decide (k ∈ b.accounts a')).length < b.limit k

/-- No account is charged beyond its limit in any interval as long as the window. -/
def Bounded (admitted : List α) : Prop :=
  ∀ (k : κ) (start : ℕ), (admitted.filter fun a => decide (k ∈ b.accounts a
    ∧ start ≤ b.stamp a ∧ b.stamp a < start + b.width)).length ≤ b.limit k

/-- An account of the entry has been charged its limit in the window that ends with the entry. -/
def Full (admitted : List α) (a : α) : Prop :=
  ∃ k ∈ b.accounts a, b.limit k ≤ (admitted.filter fun a' => decide (k ∈ b.accounts a'
    ∧ b.stamp a < b.stamp a' + b.width)).length

/-- The log has what was admitted and was still in the window at some time up to now. -/
structure Slides (now : ℕ) (log admitted : List α) : Prop where
  sorted : admitted.Pairwise fun a a' => b.stamp a ≤ b.stamp a'
  past : ∀ a ∈ admitted, b.stamp a ≤ now
  kept : ∃ seen ≤ now, log = admitted.filter fun a => decide (seen < b.stamp a + b.width)
  bounded : b.Bounded admitted

variable {b} {now : ℕ} {log admitted : List α} {a : α}

/-- The entries charged to an account, by what they are charged for. -/
theorem filter_accounts {k : κ} {p : α → Bool} (h : ∀ a, k ∈ b.accounts a ↔ p a = true)
    (log : List α) : (log.filter fun a => decide (k ∈ b.accounts a)) = log.filter p :=
  List.filter_congr fun a _ => by rw [Bool.eq_iff_iff, decide_eq_true_iff, h]

theorem slides_nil (now : ℕ) : b.Slides now [] [] :=
  ⟨.nil, nofun, ⟨0, Nat.zero_le _, rfl⟩, fun _ _ => Nat.zero_le _⟩

namespace Slides

theorem later {then' : ℕ} (h : b.Slides now log admitted) (hle : now ≤ then') :
    b.Slides then' log admitted := by
  obtain ⟨seen, hseen, hlog⟩ := h.kept
  exact ⟨h.sorted, fun a ha => (h.past a ha).trans hle, ⟨seen, hseen.trans hle, hlog⟩, h.bounded⟩

/-- The live entries are the admitted ones in the window. -/
theorem expire_eq (h : b.Slides now log admitted) :
    b.expire now log = admitted.filter fun a => decide (now < b.stamp a + b.width) := by
  obtain ⟨seen, hseen, rfl⟩ := h.kept
  rw [expire_eq_filter (h.sorted.filter _), List.filter_filter]
  refine List.filter_congr fun a _ => ?_
  rw [Bool.eq_iff_iff, Bool.and_eq_true, decide_eq_true_iff, decide_eq_true_iff]
  omega

theorem expired (h : b.Slides now log admitted) : b.Slides now (b.expire now log) admitted :=
  ⟨h.sorted, h.past, ⟨now, le_rfl, h.expire_eq⟩, h.bounded⟩

/-- An entry for which there is room keeps every interval within the limits. -/
theorem charged (h : b.Slides (b.stamp a) log admitted) (hwidth : 0 < b.width)
    (hroom : b.HasRoom (b.expire (b.stamp a) log) a) :
    b.Slides (b.stamp a) (b.expire (b.stamp a) log ++ [a]) (admitted ++ [a]) := by
  have hnew : [a].filter (fun a' => decide (b.stamp a < b.stamp a' + b.width)) = [a] :=
    List.filter_cons_of_pos (decide_eq_true (by omega))
  refine ⟨?_, ?_, ⟨b.stamp a, le_rfl, ?_⟩, fun k start => ?_⟩
  · refine List.pairwise_append.mpr ⟨h.sorted, List.pairwise_singleton _ _, fun a' ha' x hx => ?_⟩
    rw [List.mem_singleton.mp hx]
    exact h.past a' ha'
  · intro a' ha'
    rcases List.mem_append.mp ha' with ha' | ha'
    · exact h.past a' ha'
    · exact (congrArg b.stamp (List.mem_singleton.mp ha')).le
  · rw [h.expire_eq, List.filter_append, hnew]
  · rw [List.filter_append, List.length_append]
    by_cases hcounts : k ∈ b.accounts a ∧ start ≤ b.stamp a ∧ b.stamp a < start + b.width
    · -- what the interval has so far is still in the log
      obtain ⟨hk, hstart, hend⟩ := hcounts
      have hlive := hroom k hk
      rw [h.expire_eq, List.filter_filter] at hlive
      have hsub : (admitted.filter fun a' => decide (k ∈ b.accounts a'
          ∧ start ≤ b.stamp a' ∧ b.stamp a' < start + b.width)).length
          ≤ (admitted.filter fun a' => decide (k ∈ b.accounts a')
            && decide (b.stamp a < b.stamp a' + b.width)).length := by
        refine (List.monotone_filter_right admitted fun a' ha' => ?_).length_le
        obtain ⟨hk', hstart', -⟩ := of_decide_eq_true ha'
        rw [Bool.and_eq_true]
        exact ⟨decide_eq_true hk', decide_eq_true (by omega)⟩
      have hone := List.length_filter_le (fun a' => decide (k ∈ b.accounts a'
        ∧ start ≤ b.stamp a' ∧ b.stamp a' < start + b.width)) [a]
      rw [List.length_singleton] at hone
      omega
    · rw [List.filter_cons_of_neg (by simpa using hcounts), List.filter_nil, List.length_nil]
      exact h.bounded k start

/-- **An entry is refused only where an account is used up** in the window that ends with it. -/
theorem full (h : b.Slides (b.stamp a) log admitted)
    (hroom : ¬b.HasRoom (b.expire (b.stamp a) log) a) : b.Full admitted a := by
  obtain ⟨k, hk⟩ := not_forall.mp hroom
  obtain ⟨hmem, hfull⟩ := Classical.not_imp.mp hk
  refine ⟨k, hmem, ?_⟩
  rw [h.expire_eq, List.filter_filter] at hfull
  refine (not_lt.mp hfull).trans (le_of_eq (congrArg List.length (List.filter_congr fun a' _ => ?_)))
  rw [Bool.decide_and]

end Slides

end Budget
