import Mathlib.Data.Nat.Basic
import Mathlib.Data.List.Basic

/-!
# Cutting a list into chunks

`List.toChunks n` cuts a list into chunks of `n` elements, the last of which may be shorter.  The
chunks give the list back, none of them is empty or too long, and there are as many as the length
divided by `n`, rounded up.
-/

namespace List

variable {α : Type*} {n : ℕ}

theorem flatten_toChunks_go (n : ℕ) (xs : List α) (chunk : Array α) (chunks : Array (List α)) :
    (toChunks.go n xs chunk chunks).flatten = chunks.toList.flatten ++ chunk.toList ++ xs := by
  induction xs generalizing chunk chunks with
  | nil => simp [toChunks.go]
  | cons x xs ih =>
    unfold toChunks.go
    split_ifs
    · rw [ih]
      simp
    · rw [ih]
      simp

/-- The chunks of a list, one after the other, are the list. -/
theorem flatten_toChunks (n : ℕ) (xs : List α) : (xs.toChunks n).flatten = xs := by
  cases xs with
  | nil => simp [toChunks]
  | cons x xs =>
    cases n with
    | zero => simp [toChunks]
    | succ n =>
      have hstart : (x :: xs).toChunks (n + 1) = toChunks.go (n + 1) xs #[x] #[] := rfl
      rw [hstart, flatten_toChunks_go]
      simp

theorem length_of_mem_toChunks_go {xs : List α} {chunk : Array α} {chunks : Array (List α)}
    (hpos : 0 < chunk.size) (hle : chunk.size ≤ n)
    (hchunks : ∀ c ∈ chunks, 0 < c.length ∧ c.length ≤ n) :
    ∀ c ∈ toChunks.go n xs chunk chunks, 0 < c.length ∧ c.length ≤ n := by
  have hpush : ∀ c ∈ chunks.push chunk.toList, 0 < c.length ∧ c.length ≤ n := by
    intro c hc
    obtain hold | rfl := Array.mem_push.mp hc
    · exact hchunks c hold
    · rw [Array.length_toList]
      exact ⟨hpos, hle⟩
  induction xs generalizing chunk chunks with
  | nil =>
    intro c hc
    exact hpush c (Array.mem_toList_iff.mp hc)
  | cons x xs ih =>
    unfold toChunks.go
    have hone : 0 < ((Array.mkEmpty n).push x).size := by simp
    split_ifs with hfull
    · refine ih hone (by simp; omega) hpush ?_
      intro c hc
      obtain hold | rfl := Array.mem_push.mp hc
      · exact hpush c hold
      · simp
        omega
    · have hless : (chunk.push x).size ≤ n := by
        rw [beq_iff_eq] at hfull
        rw [Array.size_push]
        omega
      refine ih (by simp) hless hchunks ?_
      intro c hc
      obtain hold | rfl := Array.mem_push.mp hc
      · exact hchunks c hold
      · rw [Array.length_toList]
        exact ⟨by simp, hless⟩

/-- No chunk is empty or too long. -/
theorem length_of_mem_toChunks (hn : 0 < n) {xs c : List α} (hc : c ∈ xs.toChunks n) :
    0 < c.length ∧ c.length ≤ n := by
  cases xs with
  | nil => exact absurd hc (by simp [toChunks])
  | cons x xs =>
    obtain ⟨m, rfl⟩ := Nat.exists_eq_add_of_lt hn
    unfold toChunks at hc
    exact length_of_mem_toChunks_go (by simp) (by simp) (by simp) c hc

theorem length_toChunks_go {xs : List α} {chunk : Array α} {chunks : Array (List α)}
    (hpos : 0 < chunk.size) (hle : chunk.size ≤ n) :
    (toChunks.go n xs chunk chunks).length
      = chunks.size + (chunk.size + xs.length + n - 1) / n := by
  induction xs generalizing chunk chunks with
  | nil =>
    have hlast : (chunk.size + n - 1) / n = 1 :=
      Nat.div_eq_of_lt_le (by omega) (by omega)
    simp [toChunks.go, hlast]
  | cons x xs ih =>
    unfold toChunks.go
    split_ifs with hfull
    · rw [beq_iff_eq] at hfull
      rw [ih (by simp) (by simp; omega)]
      have hnext : (chunk.size + (x :: xs).length + n - 1) / n
          = (1 + xs.length + n - 1) / n + 1 := by
        rw [← Nat.add_div_right _ (by omega), List.length_cons, hfull]
        congr 1
        omega
      rw [hnext]
      simp
      omega
    · rw [beq_iff_eq] at hfull
      rw [ih (by simp) (by rw [Array.size_push]; omega), Array.size_push, List.length_cons]
      congr 2
      omega

/-- There are as many chunks as the length divided by their size, rounded up. -/
theorem length_toChunks (hn : 0 < n) (xs : List α) :
    (xs.toChunks n).length = (xs.length + n - 1) / n := by
  cases xs with
  | nil =>
    have hnone : (n - 1) / n = 0 := Nat.div_eq_of_lt (by omega)
    simp [toChunks, hnone]
  | cons x xs =>
    obtain ⟨m, rfl⟩ := Nat.exists_eq_add_of_lt hn
    have hstart : (x :: xs).toChunks (0 + m + 1) = toChunks.go (0 + m + 1) xs #[x] #[] := by
      rw [Nat.zero_add]
      rfl
    rw [hstart, length_toChunks_go (by simp) (by simp)]
    simp
    congr 2
    omega

end List
