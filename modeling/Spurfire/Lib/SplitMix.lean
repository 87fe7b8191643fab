import Mathlib.Data.UInt
import Mathlib.Logic.Function.Basic

/-!
# Invertible mixing of 64-bit words

Mixers such as SplitMix64 are composed of steps that lose no information: adding a constant,
multiplying by an odd constant and folding the high bits down with `v ^^^ (v >>> k)`.  Each step is
injective, so distinct states never collide, however well they are scrambled.
-/

namespace UInt64

/-- A factor with an inverse modulo `2 ^ 64`, that is an odd one, is cancelled by it. -/
theorem mul_left_injective {c d : UInt64} (h : c * d = 1) :
    Function.Injective fun v => v * c := by
  intro a b hab
  dsimp only at hab
  calc a = a * c * d := by rw [UInt64.mul_assoc, h, UInt64.mul_one]
    _ = b * c * d := by rw [hab]
    _ = b := by rw [UInt64.mul_assoc, h, UInt64.mul_one]

/-- Only zero survives a proper right shift unchanged. -/
theorem eq_zero_of_shiftRight_eq {v k : UInt64} (hk : k.toNat % 64 ≠ 0) (h : v >>> k = v) :
    v = 0 := by
  have h := congrArg UInt64.toNat h
  rw [UInt64.toNat_shiftRight, Nat.shiftRight_eq_div_pow] at h
  by_contra hv
  have hpos : 0 < v.toNat := by
    rw [← UInt64.toNat_inj] at hv
    exact Nat.pos_of_ne_zero hv
  have := Nat.div_lt_self hpos (Nat.one_lt_two_pow hk)
  omega

theorem xor_shiftRight_injective {k : UInt64} (hk : k.toNat % 64 ≠ 0) :
    Function.Injective fun v => v ^^^ (v >>> k) := by
  intro a b h
  dsimp only at h
  -- the difference of the two words is its own shift
  have hd : (a ^^^ b) >>> k = a ^^^ b := by
    rw [UInt64.shiftRight_xor]
    calc a >>> k ^^^ b >>> k
        = a ^^^ (a ^^^ a >>> k) ^^^ b >>> k := by
          rw [← UInt64.xor_assoc a a, UInt64.xor_self, UInt64.zero_xor]
      _ = a ^^^ (b ^^^ b >>> k) ^^^ b >>> k := by rw [h]
      _ = a ^^^ b := by
          rw [UInt64.xor_assoc, UInt64.xor_assoc, UInt64.xor_self, UInt64.xor_zero]
  exact UInt64.xor_eq_zero_iff.mp (eq_zero_of_shiftRight_eq hk hd)

/-- One output of the SplitMix64 generator from a given state. -/
def splitmix64 (value : UInt64) : UInt64 :=
  let v := value + 0x9e3779b97f4a7c15
  let v := (v ^^^ (v >>> 30)) * 0xbf58476d1ce4e5b9
  let v := (v ^^^ (v >>> 27)) * 0x94d049bb133111eb
  v ^^^ (v >>> 31)

/-- **SplitMix64 never maps two states to one word.** -/
theorem splitmix64_injective : Function.Injective splitmix64 := by
  have h₁ : Function.Injective fun v : UInt64 => v + 0x9e3779b97f4a7c15 :=
    fun _ _ h => (UInt64.add_left_inj _).mp h
  have h₂ := xor_shiftRight_injective (show (30 : UInt64).toNat % 64 ≠ 0 by decide)
  have h₃ := mul_left_injective (show (0xbf58476d1ce4e5b9 : UInt64) * 0x96de1b173f119089 = 1 by
    decide)
  have h₄ := xor_shiftRight_injective (show (27 : UInt64).toNat % 64 ≠ 0 by decide)
  have h₅ := mul_left_injective (show (0x94d049bb133111eb : UInt64) * 0x319642b2d24d8ec3 = 1 by
    decide)
  have h₆ := xor_shiftRight_injective (show (31 : UInt64).toNat % 64 ≠ 0 by decide)
  exact ((((h₆.comp h₅).comp h₄).comp h₃).comp h₂).comp h₁

end UInt64
