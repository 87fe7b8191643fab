import Mathlib.Data.UInt
import Mathlib.Order.Lattice

/-!
# Saturating and checked machine words

Unsigned words with the two overflow disciplines a fixed-width program chooses between:

* `satAdd`, `satSub` clamp at the bounds of the type;
* `checkedAdd`, `checkedSub` answer `none` at the first overflow.

Every operation is described through `toNat`, so that a goal about words becomes a goal for
`omega` once `UInt64.lt_iff_toNat_lt` and its relatives have been used.
-/

namespace UInt64

/-- Addition clamped at `2 ^ 64 - 1`. -/
def satAdd (a b : UInt64) : UInt64 :=
  if a.toNat + b.toNat < 2 ^ 64 then a + b else 0xffffffffffffffff

/-- Subtraction clamped at `0`. -/
def satSub (a b : UInt64) : UInt64 :=
  if b ≤ a then a - b else 0

/-- Multiplication clamped at `2 ^ 64 - 1`. -/
def satMul (a b : UInt64) : UInt64 :=
  if a.toNat * b.toNat < 2 ^ 64 then a * b else 0xffffffffffffffff

/-- Division rounded up. -/
def divCeil (a b : UInt64) : UInt64 :=
  if a % b = 0 then a / b else a / b + 1

/-- Addition that reports overflow. -/
def checkedAdd (a b : UInt64) : Option UInt64 :=
  if a.toNat + b.toNat < 2 ^ 64 then some (a + b) else none

/-- Subtraction that reports underflow. -/
def checkedSub (a b : UInt64) : Option UInt64 :=
  if b ≤ a then some (a - b) else none

theorem toNat_satAdd (a b : UInt64) :
    (a.satAdd b).toNat = min (a.toNat + b.toNat) (2 ^ 64 - 1) := by
  unfold satAdd
  split_ifs with h
  · rw [UInt64.toNat_add]
    omega
  · have : (0xffffffffffffffff : UInt64).toNat = 2 ^ 64 - 1 := by decide
    omega

theorem toNat_satSub (a b : UInt64) : (a.satSub b).toNat = a.toNat - b.toNat := by
  unfold satSub
  split_ifs with h
  · exact UInt64.toNat_sub_of_le _ _ h
  · rw [UInt64.le_iff_toNat_le] at h
    have : (0 : UInt64).toNat = 0 := rfl
    omega

theorem toNat_satMul (a b : UInt64) :
    (a.satMul b).toNat = min (a.toNat * b.toNat) (2 ^ 64 - 1) := by
  unfold satMul
  split_ifs with h
  · rw [UInt64.toNat_mul, Nat.mod_eq_of_lt h, Nat.min_eq_left (by omega)]
  · have : (0xffffffffffffffff : UInt64).toNat = 2 ^ 64 - 1 := by decide
    omega

/-- The elapsed time, `0` where the start lies ahead. -/
theorem toNat_checkedSub_getD (a b : UInt64) :
    ((a.checkedSub b).getD 0).toNat = a.toNat - b.toNat := by
  unfold checkedSub
  split_ifs with h
  · exact UInt64.toNat_sub_of_le _ _ h
  · rw [UInt64.le_iff_toNat_le] at h
    have : ((none : Option UInt64).getD 0).toNat = 0 := rfl
    omega

theorem checkedAdd_eq_some {a b c : UInt64} :
    a.checkedAdd b = some c ↔ c.toNat = a.toNat + b.toNat := by
  unfold checkedAdd
  split_ifs with h
  · rw [Option.some.injEq, ← UInt64.toNat_inj, UInt64.toNat_add, Nat.mod_eq_of_lt h, eq_comm]
  · have := c.toNat_lt
    simp only [false_iff]
    omega

/-- A checked increment is strictly larger. -/
theorem lt_of_checkedAdd_one {a c : UInt64} (h : a.checkedAdd 1 = some c) : a < c := by
  rw [checkedAdd_eq_some] at h
  have : (1 : UInt64).toNat = 1 := rfl
  rw [UInt64.lt_iff_toNat_lt]
  omega

/-! ### Extrema of lists of words -/

instance instLawfulOrderMax : Std.LawfulOrderMax UInt64 where
  max_le_iff a b c := by
    change (if a ≤ b then b else a) ≤ c ↔ _
    split_ifs with h <;> grind
  max_eq_or a b := by
    change (if a ≤ b then b else a) = _ ∨ (if a ≤ b then b else a) = _
    split_ifs <;> simp

instance instLawfulOrderMin : Std.LawfulOrderMin UInt64 where
  le_min_iff a b c := by
    change a ≤ (if b ≤ c then b else c) ↔ _
    split_ifs with h <;> grind
  min_eq_or a b := by
    change (if a ≤ b then a else b) = _ ∨ (if a ≤ b then a else b) = _
    split_ifs <;> simp

theorem le_satAdd (a b : UInt64) : a ≤ a.satAdd b := by
  have := a.toNat_lt
  rw [UInt64.le_iff_toNat_le, toNat_satAdd]
  omega

theorem satMul_ne_zero {a b : UInt64} (ha : a ≠ 0) (hb : b ≠ 0) : a.satMul b ≠ 0 := by
  unfold satMul
  split_ifs with h
  · rw [← UInt64.toNat_inj.ne] at ha hb ⊢
    rw [UInt64.toNat_mul, Nat.mod_eq_of_lt h]
    exact Nat.mul_ne_zero ha hb
  · decide

theorem divCeil_ne_zero {a b : UInt64} (ha : a ≠ 0) : a.divCeil b ≠ 0 := by
  rw [← UInt64.toNat_inj.ne] at ha ⊢
  have hlt := a.toNat_lt
  have hsplit := Nat.div_add_mod a.toNat b.toNat
  unfold divCeil
  split_ifs with h <;> rw [← UInt64.toNat_inj, UInt64.toNat_mod] at h
  · intro hzero
    rw [UInt64.toNat_div] at hzero
    rw [hzero, h] at hsplit
    exact ha hsplit.symm
  · -- a divisor with a remainder is not one, so the quotient is below the top
    have hb : b.toNat ≠ 1 := by
      intro hb
      rw [hb, Nat.mod_one] at h
      exact h rfl
    have hquotient : a.toNat / b.toNat < 2 ^ 64 - 1 := by
      rcases Nat.lt_or_ge b.toNat 2 with hb' | hb'
      · have : b.toNat = 0 := by omega
        rw [this, Nat.div_zero]
        decide
      · have := Nat.div_le_div_left hb' (by decide : 0 < 2) (a := a.toNat)
        omega
    rw [UInt64.toNat_add, UInt64.toNat_div, show (1 : UInt64).toNat = 1 from rfl,
      Nat.mod_eq_of_lt (by omega)]
    exact Nat.succ_ne_zero _

end UInt64

namespace UInt32

/-- Addition clamped at `2 ^ 32 - 1`. -/
def satAdd (a b : UInt32) : UInt32 :=
  if a.toNat + b.toNat < 2 ^ 32 then a + b else 0xffffffff

/-- Subtraction clamped at `0`. -/
def satSub (a b : UInt32) : UInt32 :=
  if b ≤ a then a - b else 0

/-- Multiplication clamped at `2 ^ 32 - 1`. -/
def satMul (a b : UInt32) : UInt32 :=
  if a.toNat * b.toNat < 2 ^ 32 then a * b else 0xffffffff

/-- Addition that reports overflow. -/
def checkedAdd (a b : UInt32) : Option UInt32 :=
  if a.toNat + b.toNat < 2 ^ 32 then some (a + b) else none

theorem toNat_satAdd (a b : UInt32) :
    (a.satAdd b).toNat = min (a.toNat + b.toNat) (2 ^ 32 - 1) := by
  unfold satAdd
  split_ifs with h
  · rw [UInt32.toNat_add]
    omega
  · have : (0xffffffff : UInt32).toNat = 2 ^ 32 - 1 := by decide
    omega

theorem toNat_satSub (a b : UInt32) : (a.satSub b).toNat = a.toNat - b.toNat := by
  unfold satSub
  split_ifs with h
  · exact UInt32.toNat_sub_of_le _ _ h
  · rw [UInt32.le_iff_toNat_le] at h
    have : (0 : UInt32).toNat = 0 := rfl
    omega

theorem toNat_satMul_of_lt {a b : UInt32} (h : a.toNat * b.toNat < 2 ^ 32) :
    (a.satMul b).toNat = a.toNat * b.toNat := by
  unfold satMul
  rw [if_pos h, UInt32.toNat_mul, Nat.mod_eq_of_lt h]

theorem toNat_of_checkedAdd {a b c : UInt32} (h : a.checkedAdd b = some c) :
    c.toNat = a.toNat + b.toNat := by
  unfold checkedAdd at h
  split_ifs at h with hfits
  cases h
  rw [UInt32.toNat_add, Nat.mod_eq_of_lt hfits]

end UInt32

namespace UInt8

/-- Addition clamped at `2 ^ 8 - 1`. -/
def satAdd (a b : UInt8) : UInt8 :=
  if a.toNat + b.toNat < 2 ^ 8 then a + b else 0xff

/-- Subtraction clamped at `0`. -/
def satSub (a b : UInt8) : UInt8 :=
  if b ≤ a then a - b else 0

theorem toNat_satAdd (a b : UInt8) :
    (a.satAdd b).toNat = min (a.toNat + b.toNat) (2 ^ 8 - 1) := by
  unfold satAdd
  split_ifs with h
  · rw [UInt8.toNat_add]
    omega
  · have : (0xff : UInt8).toNat = 2 ^ 8 - 1 := by decide
    omega

theorem toNat_satSub (a b : UInt8) : (a.satSub b).toNat = a.toNat - b.toNat := by
  unfold satSub
  split_ifs with h
  · exact UInt8.toNat_sub_of_le _ _ h
  · rw [UInt8.le_iff_toNat_le] at h
    have : (0 : UInt8).toNat = 0 := rfl
    omega

end UInt8

namespace UInt16

/-- Addition clamped at `2 ^ 16 - 1`. -/
def satAdd (a b : UInt16) : UInt16 :=
  if a.toNat + b.toNat < 2 ^ 16 then a + b else 0xffff

/-- Subtraction clamped at `0`. -/
def satSub (a b : UInt16) : UInt16 :=
  if b ≤ a then a - b else 0

theorem toNat_satAdd (a b : UInt16) :
    (a.satAdd b).toNat = min (a.toNat + b.toNat) (2 ^ 16 - 1) := by
  unfold satAdd
  split_ifs with h
  · rw [UInt16.toNat_add]
    omega
  · have : (0xffff : UInt16).toNat = 2 ^ 16 - 1 := by decide
    omega

theorem toNat_satSub (a b : UInt16) : (a.satSub b).toNat = a.toNat - b.toNat := by
  unfold satSub
  split_ifs with h
  · exact UInt16.toNat_sub_of_le _ _ h
  · rw [UInt16.le_iff_toNat_le] at h
    have : (0 : UInt16).toNat = 0 := rfl
    omega

theorem satAdd_ne_zero {a b : UInt16} (hb : b ≠ 0) : a.satAdd b ≠ 0 := by
  rw [← UInt16.toNat_inj.ne] at hb ⊢
  have : (0 : UInt16).toNat = 0 := rfl
  rw [toNat_satAdd]
  omega

end UInt16

namespace Int32

/-- The number clamped into the range of the type. -/
def satOfInt (v : ℤ) : Int32 := Int32.ofInt (max (-2 ^ 31) (min v (2 ^ 31 - 1)))

/-- Addition clamped at both bounds. -/
def satAdd (a b : Int32) : Int32 := satOfInt (a.toInt + b.toInt)

/-- Subtraction clamped at both bounds. -/
def satSub (a b : Int32) : Int32 := satOfInt (a.toInt - b.toInt)

theorem toInt_satOfInt (v : ℤ) : (satOfInt v).toInt = max (-2 ^ 31) (min v (2 ^ 31 - 1)) :=
  toInt_ofInt_of_le (by omega) (by omega)

theorem toInt_min (a b : Int32) : (min a b).toInt = min a.toInt b.toInt := by
  change (if a ≤ b then a else b).toInt = _
  split_ifs with h <;> rw [Int32.le_iff_toInt_le] at h <;> omega

theorem toInt_max (a b : Int32) : (max a b).toInt = max a.toInt b.toInt := by
  change (if a ≤ b then b else a).toInt = _
  split_ifs with h <;> rw [Int32.le_iff_toInt_le] at h <;> omega

theorem toInt_satAdd (a b : Int32) :
    (a.satAdd b).toInt = max (-2 ^ 31) (min (a.toInt + b.toInt) (2 ^ 31 - 1)) :=
  toInt_satOfInt _

theorem toInt_satSub (a b : Int32) :
    (a.satSub b).toInt = max (-2 ^ 31) (min (a.toInt - b.toInt) (2 ^ 31 - 1)) :=
  toInt_satOfInt _

end Int32
