import Mathlib.Data.List.Induction
import Mathlib.Data.List.Basic
import Mathlib.Tactic.Common
import Spurfire.Lib.Json

/-!
# Decimal texts

Numbers written in decimal digits without a leading zero, as `Json.number` writes them, and what a
reader of such texts checks.
-/

namespace Decimal

open Json

def IsDigit (b : UInt8) : Prop := 48 ≤ b.toNat ∧ b.toNat ≤ 57

instance (b : UInt8) : Decidable (IsDigit b) := inferInstanceAs (Decidable (_ ∧ _))

/-- The number a text of digits stands for. -/
def value (text : List UInt8) : ℕ := text.foldl (fun n b => 10 * n + (b.toNat - 48)) 0

/-- Digits, at least one, and no zero in front of another. -/
structure IsNumeral (text : List UInt8) : Prop where
  ne_nil : text ≠ []
  digits : ∀ b ∈ text, IsDigit b
  head_ne : 1 < text.length → text.head? ≠ some 48

theorem value_append (text : List UInt8) (b : UInt8) :
    value (text ++ [b]) = 10 * value text + (b.toNat - 48) := by
  simp [value]

theorem number_of_lt {d : ℕ} (h : d < 10) : number d = [UInt8.ofNat (48 + d)] := by
  have hdigit : ∀ d : Fin 10,
      UInt8.ofNat (Nat.digitChar d.val).toNat = UInt8.ofNat (48 + d.val) := by decide
  rw [number, Nat.toDigits_of_lt_base h, ascii, List.map_singleton, hdigit ⟨d, h⟩]

theorem number_append {n d : ℕ} (hn : 0 < n) (hd : d < 10) :
    number (10 * n + d) = number n ++ [UInt8.ofNat (48 + d)] := by
  rw [← number_of_lt hd, number, number, number, ← Nat.toDigits_append_toDigits (by decide) hn hd,
    ascii, ascii, ascii, List.map_append]

theorem head?_append_of_ne_nil {text : List UInt8} (h : text ≠ []) (rest : List UInt8) :
    (text ++ rest).head? = text.head? := by
  cases text with
  | nil => exact absurd rfl h
  | cons b text => rfl

theorem isNumeral_number (n : ℕ) :
    IsNumeral (number n) ∧ value (number n) = n ∧ (0 < n → (number n).head? ≠ some 48) := by
  induction n using Nat.strongRecOn with
  | ind n ih =>
    by_cases hn : n < 10
    · rw [number_of_lt hn]
      have hb : (UInt8.ofNat (48 + n)).toNat = 48 + n := by simp; omega
      refine ⟨⟨by simp, ?_, by simp⟩, ?_, ?_⟩
      · intro b hmem
        rw [List.mem_singleton.mp hmem, IsDigit, hb]
        omega
      · simp only [value, List.foldl_cons, List.foldl_nil, hb]
        omega
      · intro hpos hhead
        have h48 := congrArg UInt8.toNat (Option.some.inj hhead)
        rw [hb] at h48
        exact absurd h48 (by simp; omega)
    · obtain ⟨hnumeral, hvalue, hhead⟩ := ih (n / 10) (by omega)
      have hsplit : n = 10 * (n / 10) + n % 10 := by omega
      have hmod : n % 10 < 10 := Nat.mod_lt _ (by decide)
      have hb : (UInt8.ofNat (48 + n % 10)).toNat = 48 + n % 10 := by simp; omega
      have hlead : (number n).head? ≠ some 48 := by
        rw [hsplit, number_append (by omega) hmod, head?_append_of_ne_nil hnumeral.ne_nil]
        exact hhead (by omega)
      refine ⟨⟨?_, ?_, fun _ => hlead⟩, ?_, fun _ => hlead⟩
      · rw [hsplit, number_append (by omega) hmod]
        simp
      · rw [hsplit, number_append (by omega) hmod]
        intro b hmem
        rcases List.mem_append.mp hmem with hold | hnew
        · exact hnumeral.digits b hold
        · rw [List.mem_singleton.mp hnew, IsDigit, hb]
          omega
      · rw [hsplit, number_append (by omega) hmod, value_append, hvalue, hb]
        omega

/-- A numeral is how its value is written. -/
theorem IsNumeral.eq_number {text : List UInt8} (h : IsNumeral text) :
    text = number (value text) := by
  induction text using List.reverseRecOn with
  | nil => exact absurd rfl h.ne_nil
  | append_singleton text b ih =>
    obtain ⟨hlow, hhigh⟩ := h.digits b (by simp)
    have hb : UInt8.ofNat (48 + (b.toNat - 48)) = b := by
      rw [show 48 + (b.toNat - 48) = b.toNat by omega, UInt8.ofNat_toNat]
    rw [value_append]
    by_cases hnil : text = []
    · subst hnil
      rw [show value [] = 0 from rfl, Nat.mul_zero, Nat.zero_add, number_of_lt (by omega), hb,
        List.nil_append]
    · have hlong : 1 < (text ++ [b]).length := by
        have := List.length_pos_of_ne_nil hnil
        simp
        omega
      have hlead : text.head? ≠ some 48 := by
        rw [← head?_append_of_ne_nil hnil [b]]
        exact h.head_ne hlong
      have htext := ih ⟨hnil, fun c hc => h.digits c (List.mem_append_left _ hc), fun _ => hlead⟩
      have hpos : 0 < value text := by
        by_contra hzero
        rw [htext, Nat.eq_zero_of_not_pos hzero] at hlead
        exact hlead (by decide)
      rw [number_append hpos (by omega), hb, ← htext]

/-- **Decimal texts have one spelling.** -/
theorem isNumeral_and_value_iff {text : List UInt8} {n : ℕ} :
    IsNumeral text ∧ value text = n ↔ text = number n := by
  constructor
  · rintro ⟨h, rfl⟩
    exact h.eq_number
  · rintro rfl
    exact ⟨(isNumeral_number n).1, (isNumeral_number n).2.1⟩

theorem dot_not_mem_number (n : ℕ) : 46 ∉ number n := by
  intro hmem
  exact absurd ((isNumeral_number n).1.digits 46 hmem) (by decide)

end Decimal
