import Spurfire.Protocol.Placement
import Mathlib.Analysis.Real.Sqrt

/-!
# Integer square roots in machine words

`integer_sqrt` of `radius.rs`, `integer_sqrt_u128` of `m5.rs` and `playable_radius_m`, with every
operation as a word of the source's width does it: an overflow, an underflow, a division by zero or
a loop that does not end gives `none`.

* `sqrtLoop_eq`: the loop ends, and it is the bisection without a width;
* `integerSqrt_word`: in a word of any width it is the integer square root;
* `integer_sqrt_exact` is the result for both widths and for the playable radius.
-/

namespace Spurfire

namespace Machine

/-! ## The words -/

/-- A result that has to fit in `w` bits. -/
def fits (w v : ℕ) : Option ℕ := if v < 2 ^ w then some v else none

def checkedSub (a b : ℕ) : Option ℕ := if b ≤ a then some (a - b) else none

def checkedDiv (a b : ℕ) : Option ℕ := if b = 0 then none else some (a / b)

/-- The loop of `integer_sqrt` in words of `w` bits, for `fuel` rounds at most. -/
def sqrtLoop (w value : ℕ) : ℕ → ℕ → ℕ → ℕ → Option ℕ
  | 0, _, _, _ => none
  | fuel + 1, low, high, answer =>
    if low ≤ high then do
      let span ← checkedSub high low
      let middle ← fits w (low + span / 2)
      let quotient ← checkedDiv value middle
      if middle ≤ quotient then do
        let next ← fits w (middle + 1)
        sqrtLoop w value fuel next high middle
      else do
        let next ← checkedSub middle 1
        sqrtLoop w value fuel low next answer
    else some answer

def integerSqrtWord (w value : ℕ) : Option ℕ :=
  if value < 2 then some value
  else do
    let high ← fits w (value / 2 + 1)
    sqrtLoop w value (w + 1) 1 high 1

def integerSqrtU128 (value : BitVec 128) : Option UInt64 :=
  (integerSqrtWord 128 value.toNat).map UInt64.ofNat

def integerSqrt (value : UInt64) : Option UInt64 :=
  (integerSqrtWord 64 value.toNat).map UInt64.ofNat

def playableRadiusM (playerCount : UInt32) : Option UInt32 := do
  let radicand ← fits 64 (62500 * playerCount.toNat)
  let root ← integerSqrt (UInt64.ofNat radicand)
  let unbounded := root.toUInt32
  if unbounded < 450 then some 450
  else if 1500 < unbounded then some 1500
  else some unbounded

/-! ## The loop -/

variable {w value : ℕ}

theorem fits_of_lt {v : ℕ} (h : v < 2 ^ w) : fits w v = some v := if_pos h

/-- A loop whose bounds leave room in the word ends, and is the bisection. -/
theorem sqrtLoop_eq {fuel low high answer : ℕ} (hfuel : high + 1 - low < 2 ^ fuel) (hlow : 0 < low)
    (hroom : high + 1 < 2 ^ w) :
    sqrtLoop w value (fuel + 1) low high answer
      = some (integerSqrtLoop value fuel low high answer) := by
  induction fuel generalizing low high answer with
  | zero =>
    have hdone : ¬low ≤ high := by
      rw [Nat.pow_zero] at hfuel
      omega
    unfold sqrtLoop integerSqrtLoop
    rw [if_neg hdone]
  | succ fuel ih =>
    unfold sqrtLoop integerSqrtLoop
    by_cases hloop : low ≤ high
    · rw [if_pos hloop, if_pos hloop]
      have hmiddle : low ≤ low + (high - low) / 2 ∧ low + (high - low) / 2 ≤ high := by omega
      have hhalf : 2 ^ (fuel + 1) = 2 * 2 ^ fuel := Nat.pow_succ'
      have hright : high + 1 - (low + (high - low) / 2 + 1) < 2 ^ fuel := by omega
      have hleft : low + (high - low) / 2 - 1 + 1 - low < 2 ^ fuel := by omega
      unfold checkedSub
      simp only [Option.bind_eq_bind]
      rw [if_pos hloop, Option.bind_some, fits_of_lt (by omega), Option.bind_some]
      generalize low + (high - low) / 2 = middle at hmiddle hright hleft
      unfold checkedDiv
      rw [if_neg (by omega), Option.bind_some]
      by_cases hfit : middle ≤ value / middle
      · rw [if_pos hfit, if_pos hfit, fits_of_lt (by omega), Option.bind_some]
        exact ih hright (by omega) hroom
      · rw [if_neg hfit, if_neg hfit, if_pos (by omega), Option.bind_some]
        exact ih hleft hlow (by omega)
    · rw [if_neg hloop, if_neg hloop]

/-- In a word of any width the loop ends, nothing overflows, and the answer is the square root. -/
theorem integerSqrt_word (h : value < 2 ^ w) : integerSqrtWord w value = some (Nat.sqrt value) := by
  unfold integerSqrtWord
  by_cases hsmall : value < 2
  · rw [if_pos hsmall]
    obtain rfl | rfl : value = 0 ∨ value = 1 := by omega
    · rw [Nat.sqrt_zero]
    · rw [Nat.sqrt_one]
  · rw [if_neg hsmall]
    -- a value of two or more needs two bits
    obtain ⟨v, rfl⟩ : ∃ v, w = v + 2 := by
      refine ⟨w - 2, (Nat.sub_add_cancel ?_).symm⟩
      by_contra hnarrow
      have hw : 2 ^ w ≤ 2 ^ 1 := Nat.pow_le_pow_right (by omega) (by omega)
      omega
    have hword : 2 ^ (v + 2) = 4 * 2 ^ v := by
      rw [Nat.pow_add]
      omega
    have hpos : 0 < 2 ^ v := Nat.two_pow_pos v
    have hroom : value / 2 + 1 < 2 ^ (v + 2) := by omega
    have hover : value < (value / 2 + 1 + 1) * (value / 2 + 1 + 1) :=
      calc value < 2 * (value / 2 + 1) := by omega
        _ ≤ (value / 2 + 1 + 1) * (value / 2 + 1 + 1) := Nat.mul_le_mul (by omega) (by omega)
    rw [fits_of_lt hroom, Option.bind_eq_bind, Option.bind_some,
      sqrtLoop_eq (by omega) Nat.one_pos (by omega)]
    exact congrArg some (integerSqrtLoop_eq (by omega) (by omega) Nat.one_pos (by omega)
      (Nat.zero_le _) hover nofun)

/-- The root of a word of `2 * v` bits has `v` of them. -/
theorem sqrt_fits {v : ℕ} (h : value < 2 ^ (2 * v)) : Nat.sqrt value < 2 ^ v := by
  rw [Nat.sqrt_lt', ← pow_mul, Nat.mul_comm]
  exact h

theorem sqrt_enclosed (value : ℕ) : Nat.sqrt value * Nat.sqrt value ≤ value
    ∧ value < (Nat.sqrt value + 1) * (Nat.sqrt value + 1) :=
  ⟨Nat.sqrt_le value, Nat.lt_succ_sqrt value⟩

/-! ## The playable radius -/

/-- `floor (250 * sqrt n)`, between 450 and 1500. -/
noncomputable def clampedRadius (n : ℕ) : ℕ := max 450 (min 1500 ⌊250 * √(n : ℝ)⌋₊)

theorem floor_radius (n : ℕ) : ⌊250 * √(n : ℝ)⌋₊ = Nat.sqrt (62500 * n) := by
  have hscale : 250 * √(n : ℝ) = √((62500 * n : ℕ) : ℝ) := by
    rw [Nat.cast_mul, Real.sqrt_mul (Nat.cast_nonneg _)]
    congr 1
    rw [Nat.cast_ofNat, show (62500 : ℝ) = 250 ^ 2 by norm_num]
    exact (Real.sqrt_sq (by norm_num)).symm
  rw [hscale, Real.nat_floor_real_sqrt_eq_nat_sqrt]

theorem clampedRadius_mono {n m : ℕ} (h : n ≤ m) : clampedRadius n ≤ clampedRadius m := by
  unfold clampedRadius
  rw [floor_radius, floor_radius]
  have hroot := Nat.sqrt_le_sqrt (Nat.mul_le_mul_left 62500 h)
  omega

theorem integerSqrt_eq (value : UInt64) :
    ∃ r : UInt64, integerSqrt value = some r ∧ r.toNat = Nat.sqrt value.toNat := by
  have hroot : Nat.sqrt value.toNat < 2 ^ 32 := sqrt_fits value.toNat_lt
  refine ⟨UInt64.ofNat (Nat.sqrt value.toNat), ?_, ?_⟩
  · unfold integerSqrt
    rw [integerSqrt_word value.toNat_lt, Option.map_some]
  · exact UInt64.toNat_ofNat_of_lt' (show Nat.sqrt value.toNat < 2 ^ 64 by omega)

theorem integerSqrtU128_eq (value : BitVec 128) :
    ∃ r : UInt64, integerSqrtU128 value = some r ∧ r.toNat = Nat.sqrt value.toNat := by
  have hroot : Nat.sqrt value.toNat < 2 ^ 64 := sqrt_fits value.isLt
  refine ⟨UInt64.ofNat (Nat.sqrt value.toNat), ?_, ?_⟩
  · unfold integerSqrtU128
    rw [integerSqrt_word value.isLt, Option.map_some]
  · exact UInt64.toNat_ofNat_of_lt' hroot

/-- `playable_radius_m` of any player count. -/
theorem playableRadiusM_eq (n : UInt32) :
    ∃ r : UInt32, playableRadiusM n = some r ∧ r.toNat = clampedRadius n.toNat := by
  have hcount := n.toNat_lt
  have hradicand : 62500 * n.toNat < 2 ^ 48 := by omega
  obtain ⟨root, hroot, hvalue⟩ := integerSqrt_eq (UInt64.ofNat (62500 * n.toNat))
  rw [UInt64.toNat_ofNat_of_lt' (show 62500 * n.toNat < 2 ^ 64 by omega)] at hvalue
  have hsmall : root.toNat < 2 ^ 24 := by
    rw [hvalue]
    exact sqrt_fits (by omega)
  have hcast : root.toUInt32.toNat = root.toNat := by
    rw [UInt64.toNat_toUInt32]
    omega
  unfold playableRadiusM clampedRadius
  rw [fits_of_lt (by omega), Option.bind_eq_bind, Option.bind_some, hroot, Option.bind_eq_bind,
    Option.bind_some, floor_radius, ← hvalue, ← hcast]
  dsimp only
  simp only [UInt32.lt_iff_toNat_lt]
  have hlow : (450 : UInt32).toNat = 450 := rfl
  have hhigh : (1500 : UInt32).toNat = 1500 := rfl
  split_ifs with hbelow habove
  · refine ⟨450, rfl, ?_⟩
    omega
  · refine ⟨1500, rfl, ?_⟩
    omega
  · refine ⟨_, rfl, ?_⟩
    omega

end Machine

/-- **The integer square roots are exact at every width.**  For every word of 128 and of 64 bits the
loop ends, nothing in it overflows or underflows, and the answer is the floor of the root; so the
playable radius is the clamped floor of `250 * sqrt n`, and it does not shrink with more players. -/
theorem integer_sqrt_exact (wide : BitVec 128) (value : UInt64) (few many : UInt32) :
    (∃ r, Machine.integerSqrtU128 wide = some r ∧ r.toNat * r.toNat ≤ wide.toNat
      ∧ wide.toNat < (r.toNat + 1) * (r.toNat + 1))
    ∧ (∃ r, Machine.integerSqrt value = some r ∧ r.toNat * r.toNat ≤ value.toNat
      ∧ value.toNat < (r.toNat + 1) * (r.toNat + 1))
    ∧ ∃ r r', Machine.playableRadiusM few = some r ∧ Machine.playableRadiusM many = some r'
      ∧ r.toNat = max 450 (min 1500 ⌊250 * √(few.toNat : ℝ)⌋₊) ∧ (few ≤ many → r ≤ r') := by
  obtain ⟨root, hroot, hwide⟩ := Machine.integerSqrtU128_eq wide
  obtain ⟨root', hroot', hvalue⟩ := Machine.integerSqrt_eq value
  obtain ⟨r, hr, hfew⟩ := Machine.playableRadiusM_eq few
  obtain ⟨r', hr', hmany⟩ := Machine.playableRadiusM_eq many
  refine ⟨⟨root, hroot, ?_⟩, ⟨root', hroot', ?_⟩, r, r', hr, hr', hfew, fun hle => ?_⟩
  · rw [hwide]
    exact Machine.sqrt_enclosed wide.toNat
  · rw [hvalue]
    exact Machine.sqrt_enclosed value.toNat
  · rw [UInt32.le_iff_toNat_le, hfew, hmany]
    exact Machine.clampedRadius_mono (UInt32.le_iff_toNat_le.mp hle)

end Spurfire
