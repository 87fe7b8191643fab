import Mathlib.Data.UInt
import Mathlib.Tactic.Common
import Spurfire.Lib.Loop
import Spurfire.Lib.Runs

/-!
# The replay window of a tunnel session

`ReceivingKeyCounterValidator` of the vendored WireGuard tunnel (`noise/session.rs`): the counters
of received packets, as a bitmap of 1024 bits that slides with the highest of them.  Sums are taken
modulo `2 ^ 64`, as a release build takes them.

* `willAccept`, `markDidReceive`: the two checks of a counter, before and after decryption;
* `clearRange`: the three loops that clear what a jump of the counter skips;
* `Tracks`: what the bitmap knows of the counters received so far;
* **`accepts_along`**: a counter is accepted exactly when it is new and not too far back.
-/

/-! ## Bits of a word -/

namespace UInt64

variable {w b : UInt64} {c : ℕ}

theorem toNat_one_shiftLeft (hb : b.toNat < 64) : (1 <<< b : UInt64).toNat = 2 ^ b.toNat := by
  rw [UInt64.toNat_shiftLeft, UInt64.toNat_one, Nat.mod_eq_of_lt hb, Nat.shiftLeft_eq,
    Nat.one_mul, Nat.mod_eq_of_lt (Nat.pow_lt_pow_right (by decide) hb)]

theorem testBit_or_one_shiftLeft (hb : b.toNat < 64) (w : UInt64) (c : ℕ) :
    (w ||| 1 <<< b).toNat.testBit c = (decide (b.toNat = c) || w.toNat.testBit c) := by
  rw [UInt64.toNat_or, Nat.testBit_or, toNat_one_shiftLeft hb, Nat.testBit_two_pow, Bool.or_comm]

theorem testBit_and_not_one_shiftLeft (hb : b.toNat < 64) (w : UInt64) (hc : c < 64) :
    (w &&& ~~~(1 <<< b)).toNat.testBit c = (decide (b.toNat ≠ c) && w.toNat.testBit c) := by
  have hpow : (2 : ℕ) ^ b.toNat < 2 ^ 64 := Nat.pow_lt_pow_right (by decide) hb
  have hnot : UInt64.size - 1 - 2 ^ b.toNat = 2 ^ 64 - (2 ^ b.toNat + 1) := by
    rw [Nat.sub_sub, Nat.add_comm]
    rfl
  rw [UInt64.toNat_and, Nat.testBit_and, UInt64.toNat_not, toNat_one_shiftLeft hb, hnot,
    Nat.testBit_two_pow_sub_succ hpow, Nat.testBit_two_pow, Bool.and_comm]
  simp [hc]

theorem shiftRight_and_one_beq_one (hb : b.toNat < 64) (w : UInt64) :
    ((w >>> b) &&& 1 == 1) = w.toNat.testBit b.toNat := by
  rw [Bool.eq_iff_iff, beq_iff_eq, ← UInt64.toNat_inj, UInt64.toNat_and,
    UInt64.toNat_shiftRight, UInt64.toNat_one, Nat.mod_eq_of_lt hb, Nat.and_one_is_mod,
    Nat.testBit_eq_decide_div_mod_eq, Nat.shiftRight_eq_div_pow, decide_eq_true_eq]

/-- A multiple of 64 is its own lower multiple of 64. -/
theorem and_neg_word (h : w.toNat % 64 = 0) : w &&& (0 - 64) = w := by
  refine UInt64.toNat_inj.mp (Nat.eq_of_testBit_eq fun j => ?_)
  have hmask : (0 - 64 : UInt64).toNat = 2 ^ 64 - ((2 ^ 6 - 1) + 1) := by decide
  rw [UInt64.toNat_and, Nat.testBit_and, hmask, Nat.testBit_two_pow_sub_succ (by decide),
    Nat.testBit_two_pow_sub_one]
  by_cases hlow : j < 6
  · have hzero : w.toNat.testBit j = false := by
      obtain ⟨q, hq⟩ := Nat.dvd_of_mod_eq_zero h
      have hw : w.toNat = 2 ^ 6 * q := hq
      rw [hw, Nat.testBit_two_pow_mul, decide_eq_false (by omega), Bool.false_and]
    rw [hzero, Bool.false_and]
  · by_cases hhigh : j < 64
    · simp [hlow, hhigh]
    · have hzero : w.toNat.testBit j = false :=
        Nat.testBit_lt_two_pow (w.toNat_lt.trans_le (Nat.pow_le_pow_right (by decide) (by omega)))
      rw [hzero, Bool.false_and]

end UInt64

namespace Spurfire.Noise

inductive WireGuardError
  | wrongIndex
  | invalidCounter
  | duplicateCounter
  | invalidPacket
  | noCurrentSession
  | invalidAeadTag
deriving DecidableEq

def WORD_SIZE : UInt64 := 64
def N_BITS : UInt64 := 1024

/-- The highest counter plus one, how many were received, and the bitmap. -/
structure ReceivingKeyCounterValidator where
  next : UInt64
  receiveCnt : UInt64
  bitmap : Vector UInt64 16
deriving DecidableEq

/-- The word of the bitmap that a counter falls into. -/
def wordOf (k : ℕ) : Fin 16 := ⟨k % 1024 / 64, by omega⟩

namespace ReceivingKeyCounterValidator

protected def default : ReceivingKeyCounterValidator := ⟨0, 0, Vector.replicate 16 0⟩

def word (idx : UInt64) : Fin 16 := ⟨(idx % N_BITS / WORD_SIZE).toNat, by
  have hbits : N_BITS.toNat = 1024 := rfl
  have hword : WORD_SIZE.toNat = 64 := rfl
  rw [UInt64.toNat_div, UInt64.toNat_mod, hbits, hword]
  omega⟩

def bit (idx : UInt64) : UInt64 := idx % N_BITS % WORD_SIZE

def setBit (v : ReceivingKeyCounterValidator) (idx : UInt64) : ReceivingKeyCounterValidator :=
  { v with bitmap := v.bitmap.set (word idx) (v.bitmap.get (word idx) ||| 1 <<< bit idx) }

def clearBit (v : ReceivingKeyCounterValidator) (idx : UInt64) : ReceivingKeyCounterValidator :=
  { v with bitmap := v.bitmap.set (word idx) (v.bitmap.get (word idx) &&& ~~~(1 <<< bit idx)) }

def clearWord (v : ReceivingKeyCounterValidator) (idx : UInt64) : ReceivingKeyCounterValidator :=
  { v with bitmap := v.bitmap.set (word idx) 0 }

def checkBit (v : ReceivingKeyCounterValidator) (idx : UInt64) : Bool :=
  (v.bitmap.get (word idx) >>> bit idx) &&& 1 == 1

/-- Whether a counter was not yet received, and is not too far back. -/
def willAccept (v : ReceivingKeyCounterValidator) (counter : UInt64) : Except WireGuardError Unit :=
  if counter ≥ v.next then .ok ()
  else if counter + N_BITS < v.next then .error .invalidCounter
  else if !v.checkBit counter then .ok ()
  else .error .duplicateCounter

/-- Clears until `i` is aligned to the word size. -/
def clearToWord (counter : UInt64) :
    ReceivingKeyCounterValidator × UInt64 → ReceivingKeyCounterValidator × UInt64 :=
  Loops.turns (fun s => s.2 % WORD_SIZE != 0 && s.2 < counter)
    (fun s => (s.1.clearBit s.2, s.2 + 1)) 1024

/-- Clears a whole word at a time. -/
def clearWords (counter : UInt64) :
    ReceivingKeyCounterValidator × UInt64 → ReceivingKeyCounterValidator × UInt64 :=
  Loops.turns (fun s => s.2 + WORD_SIZE < counter)
    (fun s => (s.1.clearWord s.2, (s.2 + WORD_SIZE) &&& (0 - WORD_SIZE))) 1024

def clearRest (counter : UInt64) :
    ReceivingKeyCounterValidator × UInt64 → ReceivingKeyCounterValidator × UInt64 :=
  Loops.turns (fun s => s.2 < counter) (fun s => (s.1.clearBit s.2, s.2 + 1)) 1024

def clearRange (v : ReceivingKeyCounterValidator) (counter : UInt64) :
    ReceivingKeyCounterValidator :=
  (clearRest counter (clearWords counter (clearToWord counter (v, v.next)))).1

def skipped (v : ReceivingKeyCounterValidator) (counter : UInt64) : ReceivingKeyCounterValidator :=
  if counter - v.next ≥ N_BITS then { v with bitmap := Vector.replicate 16 0 }
  else v.clearRange counter

/-- Marks a counter as received, where it is still good. -/
def markDidReceive (v : ReceivingKeyCounterValidator) (counter : UInt64) :
    Except WireGuardError ReceivingKeyCounterValidator :=
  if counter + N_BITS < v.next then .error .invalidCounter
  else if counter = v.next then .ok { v.setBit counter with next := v.next + 1 }
  else if counter < v.next then
    if v.checkBit counter then .error .invalidCounter else .ok (v.setBit counter)
  else .ok { (v.skipped counter).setBit counter with next := counter + 1 }

def receivingCounterMark (v : ReceivingKeyCounterValidator) (counter : UInt64) :
    Except WireGuardError ReceivingKeyCounterValidator :=
  (v.markDidReceive counter).map fun v => { v with receiveCnt := v.receiveCnt + 1 }

/-! ## The bitmap as a set of counters -/

variable {v v' : ReceivingKeyCounterValidator} {idx counter : UInt64} {received : List UInt64}

def has (v : ReceivingKeyCounterValidator) (k : ℕ) : Bool :=
  (v.bitmap.get (wordOf k)).toNat.testBit (k % 64)

theorem word_eq (idx : UInt64) : word idx = wordOf idx.toNat := by
  refine Fin.ext ?_
  change (idx % N_BITS / WORD_SIZE).toNat = _
  rw [UInt64.toNat_div, UInt64.toNat_mod]
  rfl

theorem toNat_bit (idx : UInt64) : (bit idx).toNat = idx.toNat % 64 := by
  unfold bit N_BITS WORD_SIZE
  rw [UInt64.toNat_mod, UInt64.toNat_mod]
  exact Nat.mod_mod_of_dvd _ (by decide)

theorem toNat_bit_lt (idx : UInt64) : (bit idx).toNat < 64 := by
  rw [toNat_bit]
  omega

theorem checkBit_eq_has (v : ReceivingKeyCounterValidator) (idx : UInt64) :
    v.checkBit idx = v.has idx.toNat := by
  unfold checkBit has
  rw [UInt64.shiftRight_and_one_beq_one (toNat_bit_lt idx), toNat_bit, word_eq]

/-- Two counters share a bit exactly when they share the word and the place in it. -/
theorem same_bit_iff (j k : ℕ) : j % 1024 = k % 1024 ↔ wordOf j = wordOf k ∧ j % 64 = k % 64 := by
  unfold wordOf
  rw [Fin.mk.injEq]
  omega

theorem get_set_word (v : ReceivingKeyCounterValidator) (idx w : UInt64) (k : ℕ) :
    (v.bitmap.set (word idx) w).get (wordOf k) = if wordOf idx.toNat = wordOf k then w
      else v.bitmap.get (wordOf k) := by
  change (v.bitmap.set (word idx) w)[(wordOf k).val] = if _ then w else v.bitmap[(wordOf k).val]
  rw [Vector.getElem_set, ← word_eq]
  simp only [Fin.val_inj]

theorem has_setBit (v : ReceivingKeyCounterValidator) (idx : UInt64) (k : ℕ) :
    (v.setBit idx).has k = (decide (idx.toNat % 1024 = k % 1024) || v.has k) := by
  unfold setBit has
  dsimp only
  rw [get_set_word, word_eq]
  split_ifs with hword
  · rw [UInt64.testBit_or_one_shiftLeft (toNat_bit_lt idx), toNat_bit, hword]
    simp only [same_bit_iff, hword, true_and]
  · rw [decide_eq_false (fun h => hword ((same_bit_iff _ _).mp h).1), Bool.false_or]

theorem has_clearBit (v : ReceivingKeyCounterValidator) (idx : UInt64) (k : ℕ) :
    (v.clearBit idx).has k = (decide (idx.toNat % 1024 ≠ k % 1024) && v.has k) := by
  unfold clearBit has
  dsimp only
  rw [get_set_word, word_eq]
  split_ifs with hword
  · rw [UInt64.testBit_and_not_one_shiftLeft (toNat_bit_lt idx) _ (Nat.mod_lt k (by decide)),
      toNat_bit, hword]
    simp only [ne_eq, same_bit_iff, hword, true_and]
  · have hne : idx.toNat % 1024 ≠ k % 1024 := fun h => hword ((same_bit_iff _ _).mp h).1
    rw [decide_eq_true hne, Bool.true_and]

theorem has_clearWord (v : ReceivingKeyCounterValidator) (idx : UInt64) (k : ℕ) :
    (v.clearWord idx).has k = (decide (wordOf idx.toNat ≠ wordOf k) && v.has k) := by
  unfold clearWord has
  dsimp only
  rw [get_set_word]
  split_ifs with hword
  · simp [hword]
  · simp [hword]

/-! ### Clearing -/

/-- The bits of the counters from `next` up to where the loops are have been cleared. -/
structure Cleared (v : ReceivingKeyCounterValidator) (counter : UInt64)
    (s : ReceivingKeyCounterValidator × UInt64) : Prop where
  lower : v.next.toNat ≤ s.2.toNat
  upper : s.2.toNat ≤ counter.toNat
  has : ∀ k, s.1.has k = true
    ↔ v.has k = true ∧ ∀ j, v.next.toNat ≤ j → j < s.2.toNat → j % 1024 ≠ k % 1024

variable {s : ReceivingKeyCounterValidator × UInt64}

theorem toNat_add_one (h : idx < counter) : (idx + 1).toNat = idx.toNat + 1 := by
  have hlt := UInt64.lt_iff_toNat_lt.mp h
  have hmax := counter.toNat_lt
  rw [UInt64.toNat_add, UInt64.toNat_one]
  omega

theorem Cleared.clearBit (h : Cleared v counter s) (hdue : s.2 < counter) :
    Cleared v counter (s.1.clearBit s.2, s.2 + 1) := by
  have hnext := toNat_add_one hdue
  have hlower := h.lower
  have hlt := UInt64.lt_iff_toNat_lt.mp hdue
  refine ⟨by dsimp only; omega, by dsimp only; omega, fun k => ?_⟩
  rw [has_clearBit, Bool.and_eq_true, decide_eq_true_eq, h.has, hnext]
  constructor
  · rintro ⟨hlast, hhad, hothers⟩
    refine ⟨hhad, fun j hj hj' => ?_⟩
    rcases Nat.lt_succ_iff_lt_or_eq.mp hj' with hbefore | rfl
    · exact hothers j hj hbefore
    · exact hlast
  · rintro ⟨hhad, hall⟩
    exact ⟨hall _ hlower (Nat.lt_succ_self _), hhad, fun j hj hj' => hall j hj (by omega)⟩

theorem toNat_add_word (hsmall : idx.toNat + 1024 < 2 ^ 64) :
    (idx + WORD_SIZE).toNat = idx.toNat + 64 := by
  have hword : WORD_SIZE.toNat = 64 := rfl
  rw [UInt64.toNat_add, hword]
  omega

theorem Cleared.clearWord (h : Cleared v counter s) (hsmall : counter.toNat + 1024 < 2 ^ 64)
    (haligned : s.2.toNat % 64 = 0) (hdue : s.2 + WORD_SIZE < counter) :
    Cleared v counter (s.1.clearWord s.2, (s.2 + WORD_SIZE) &&& (0 - WORD_SIZE))
      ∧ ((s.2 + WORD_SIZE) &&& (0 - WORD_SIZE)).toNat = s.2.toNat + 64 := by
  have hlower := h.lower
  have hupper := h.upper
  have hadd : (s.2 + WORD_SIZE).toNat = s.2.toNat + 64 := toNat_add_word (by omega)
  have hlt := UInt64.lt_iff_toNat_lt.mp hdue
  have hmask : (s.2 + WORD_SIZE) &&& (0 - WORD_SIZE) = s.2 + WORD_SIZE :=
    UInt64.and_neg_word (by omega)
  rw [hmask]
  refine ⟨⟨by dsimp only; omega, by dsimp only; omega, fun k => ?_⟩, hadd⟩
  rw [has_clearWord, Bool.and_eq_true, decide_eq_true_eq, h.has, hadd]
  -- the word of `s.2` holds the counters from `s.2` on
  have hword : wordOf s.2.toNat ≠ wordOf k
      ↔ ∀ j, s.2.toNat ≤ j → j < s.2.toNat + 64 → j % 1024 ≠ k % 1024 := by
    unfold wordOf
    rw [ne_eq, Fin.mk.injEq]
    constructor
    · intro hne j hj hj' heq
      omega
    · intro hall heq
      exact hall (s.2.toNat + k % 64) (by omega) (by omega) (by omega)
  rw [hword]
  constructor
  · rintro ⟨hlast, hhad, hothers⟩
    refine ⟨hhad, fun j hj hj' => ?_⟩
    rcases Nat.lt_or_ge j s.2.toNat with hbefore | hin
    · exact hothers j hj hbefore
    · exact hlast j hin hj'
  · rintro ⟨hhad, hall⟩
    exact ⟨fun j hj hj' => hall j (by omega) hj', hhad, fun j hj hj' => hall j hj (by omega)⟩

/-- Where the first loop leaves the second: on a word, or at the end. -/
def Aligned (counter : UInt64) (s : ReceivingKeyCounterValidator × UInt64) : Prop :=
  s.2.toNat % 64 = 0 ∨ s.2.toNat = counter.toNat

theorem cleared_clearToWord (h : Cleared v counter s)
    (hnear : counter.toNat < v.next.toNat + 1024) :
    Cleared v counter (clearToWord counter s) ∧ Aligned counter (clearToWord counter s) := by
  have hlower := h.lower
  have hend : Cleared v counter (clearToWord counter s) ∧
      ((clearToWord counter s).2 % WORD_SIZE != 0 && (clearToWord counter s).2 < counter)
        = false := by
    refine Loops.turns_spec (Cleared v counter) (fun s => counter.toNat - s.2.toNat)
      (fun s hs hdue => ?_) h (by omega)
    have hdue := of_decide_eq_true (Bool.and_eq_true_iff.mp hdue).2
    have hnext := toNat_add_one hdue
    have hlt := UInt64.lt_iff_toNat_lt.mp hdue
    exact ⟨hs.clearBit hdue, by dsimp only; omega⟩
  refine ⟨hend.1, ?_⟩
  have hupper := hend.1.upper
  rcases Bool.and_eq_false_iff.mp hend.2 with haligned | hdone
  · have hzero := UInt64.toNat_inj.mpr
      (not_not.mp (bne_iff_ne.not.mp (ne_true_of_eq_false haligned)))
    rw [UInt64.toNat_mod] at hzero
    exact .inl hzero
  · have hdone := mt UInt64.lt_iff_toNat_lt.mpr (of_decide_eq_false hdone)
    exact .inr (by omega)

theorem cleared_clearWords (h : Cleared v counter s) (haligned : Aligned counter s)
    (hsmall : counter.toNat + 1024 < 2 ^ 64) (hnear : counter.toNat < v.next.toNat + 1024) :
    Cleared v counter (clearWords counter s) := by
  have hlower := h.lower
  refine (Loops.turns_spec (fun s => Cleared v counter s ∧ Aligned counter s)
    (fun s => counter.toNat - s.2.toNat) (fun s hs hdue => ?_) ⟨h, haligned⟩
    (by omega)).1.1
  obtain ⟨hs, haligned⟩ := hs
  have hdue := of_decide_eq_true hdue
  have hupper := hs.upper
  have hadd : (s.2 + WORD_SIZE).toNat = s.2.toNat + 64 := toNat_add_word (by omega)
  have hlt := UInt64.lt_iff_toNat_lt.mp hdue
  have hword : s.2.toNat % 64 = 0 := by
    rcases haligned with haligned | hdone
    · exact haligned
    · omega
  obtain ⟨hcleared, hnext⟩ := hs.clearWord hsmall hword hdue
  refine ⟨⟨hcleared, .inl ?_⟩, ?_⟩
  · dsimp only
    omega
  · dsimp only
    omega

/-- What the three loops leave: the skipped counters are cleared, the others are as before. -/
theorem has_clearRange (hle : v.next.toNat ≤ counter.toNat)
    (hsmall : counter.toNat + 1024 < 2 ^ 64) (hnear : counter.toNat < v.next.toNat + 1024) (k : ℕ) :
    (v.clearRange counter).has k = true
      ↔ v.has k = true ∧ ∀ j, v.next.toNat ≤ j → j < counter.toNat → j % 1024 ≠ k % 1024 := by
  have hstart : Cleared v counter (v, v.next) := by
    refine ⟨Nat.le_refl _, hle, fun k => ⟨fun h => ⟨h, fun j hj hj' => ?_⟩, And.left⟩⟩
    exact absurd hj' (Nat.not_lt.mpr hj)
  obtain ⟨hfirst, haligned⟩ := cleared_clearToWord hstart hnear
  have hwords := cleared_clearWords hfirst haligned hsmall hnear
  have hlower := hwords.lower
  have hrest : Cleared v counter (clearRest counter (clearWords counter (clearToWord counter
      (v, v.next)))) ∧ decide ((clearRest counter (clearWords counter (clearToWord counter
        (v, v.next)))).2 < counter) = false := by
    refine Loops.turns_spec (Cleared v counter) (fun s => counter.toNat - s.2.toNat)
      (fun s hs hdue => ?_) hwords (by omega)
    have hdue := of_decide_eq_true hdue
    have hnext := toNat_add_one hdue
    have hlt := UInt64.lt_iff_toNat_lt.mp hdue
    exact ⟨hs.clearBit hdue, by dsimp only; omega⟩
  have hdone := mt UInt64.lt_iff_toNat_lt.mpr (of_decide_eq_false hrest.2)
  have hupper := hrest.1.upper
  have hend : (clearRest counter (clearWords counter (clearToWord counter (v, v.next)))).2.toNat
      = counter.toNat := by omega
  unfold clearRange
  rw [hrest.1.has, hend]

/-! ## What the window knows -/

/-- A counter that was not received, and that no received one has left behind. -/
def Fresh (received : List UInt64) (counter : UInt64) : Prop :=
  counter ∉ received ∧ ∀ c ∈ received, c.toNat < counter.toNat + 1024

/-- The bitmap knows of every counter of the window whether it was received. -/
structure Tracks (v : ReceivingKeyCounterValidator) (received : List UInt64) : Prop where
  nodup : received.Nodup
  small : v.next.toNat + 1023 < 2 ^ 64
  below : ∀ c ∈ received, c.toNat < v.next.toNat
  last : v.next.toNat = 0 ∨ ∃ c ∈ received, v.next.toNat = c.toNat + 1
  window : ∀ c : UInt64, c.toNat < v.next.toNat → v.next.toNat ≤ c.toNat + 1024 →
    (v.has c.toNat = true ↔ c ∈ received)

theorem tracks_default : Tracks ReceivingKeyCounterValidator.default [] where
  nodup := List.nodup_nil
  small := by decide
  below := nofun
  last := .inl rfl
  window := fun c hc => absurd hc (Nat.not_lt_zero _)

/-- `next` bounds the window from what was received. -/
theorem Tracks.next_le_iff (h : v.Tracks received) (counter : UInt64) :
    v.next.toNat ≤ counter.toNat + 1024 ↔ ∀ c ∈ received, c.toNat < counter.toNat + 1024 := by
  constructor
  · intro hle c hc
    exact (h.below c hc).trans_le hle
  · intro hall
    rcases h.last with hzero | ⟨c, hc, hnext⟩
    · rw [hzero]
      exact Nat.zero_le _
    · rw [hnext]
      exact hall c hc

/-- The bitmap knows the counters of the last window, once `counter` is marked. -/
theorem Tracks.marked (h : v.Tracks received) (hsmall : counter.toNat + 1024 < 2 ^ 64)
    (hfresh : Fresh received counter) (hhigh : v'.next.toNat = max v.next.toNat (counter.toNat + 1))
    (hbits : ∀ c : UInt64, c ≠ counter → c.toNat < v'.next.toNat →
      v'.next.toNat ≤ c.toNat + 1024 → (v'.has c.toNat = true ↔ c ∈ received))
    (hbit : v'.has counter.toNat = true) : v'.Tracks (received ++ [counter]) where
  nodup := by
    rw [List.nodup_append]
    refine ⟨h.nodup, List.nodup_singleton _, fun c hc d hd heq => hfresh.1 ?_⟩
    rw [← List.mem_singleton.mp hd, ← heq]
    exact hc
  small := by
    have := h.small
    omega
  below := by
    intro c hc
    rcases List.mem_append.mp hc with hold | hnew
    · have := h.below c hold
      omega
    · rw [List.mem_singleton.mp hnew]
      omega
  last := by
    refine .inr ?_
    rcases h.last with hzero | ⟨c, hc, hnext⟩
    · exact ⟨counter, List.mem_append_right _ (List.mem_singleton_self _), by omega⟩
    · rcases Nat.le_total v.next.toNat (counter.toNat + 1) with hle | hle
      · exact ⟨counter, List.mem_append_right _ (List.mem_singleton_self _), by omega⟩
      · exact ⟨c, List.mem_append_left _ hc, by omega⟩
  window := by
    intro c hc hc'
    rw [List.mem_append, List.mem_singleton]
    by_cases heq : c = counter
    · rw [heq]
      exact iff_of_true hbit (.inr rfl)
    · rw [hbits c heq hc hc', or_iff_left heq]

theorem has_skipped (hlt : v.next.toNat < counter.toNat) (hsmall : counter.toNat + 1024 < 2 ^ 64)
    {c : ℕ} (hc : c < counter.toNat) (hc' : counter.toNat < c + 1024) :
    (v.skipped counter).has c = true ↔ c < v.next.toNat ∧ v.has c = true := by
  have hsub : (counter - v.next).toNat = counter.toNat - v.next.toNat :=
    UInt64.toNat_sub_of_le _ _ (UInt64.le_iff_toNat_le.mpr hlt.le)
  have hbits : N_BITS.toNat = 1024 := rfl
  unfold skipped
  split_ifs with hfar
  · have hfar := UInt64.le_iff_toNat_le.mp hfar
    have hzero : has { v with bitmap := Vector.replicate 16 0 } c = false := by
      have hget : (Vector.replicate 16 (0 : UInt64)).get (wordOf c) = 0 :=
        Vector.getElem_replicate _
      unfold has
      dsimp only
      rw [hget]
      exact Nat.zero_testBit _
    rw [hzero]
    exact iff_of_false nofun fun h => by omega
  · have hnear := mt UInt64.le_iff_toNat_le.mpr hfar
    rw [has_clearRange hlt.le hsmall (by omega)]
    constructor
    · rintro ⟨hhad, hall⟩
      exact ⟨Nat.not_le.mp fun hle => hall c hle hc rfl, hhad⟩
    · rintro ⟨hlow, hhad⟩
      exact ⟨hhad, fun j hj hj' heq => by omega⟩

theorem toNat_add_bits (hsmall : counter.toNat + 1024 < 2 ^ 64) :
    (counter + N_BITS).toNat = counter.toNat + 1024 := by
  have hbits : N_BITS.toNat = 1024 := rfl
  rw [UInt64.toNat_add, hbits]
  omega

theorem markDidReceive_of_fresh (h : v.Tracks received) (hsmall : counter.toNat + 1024 < 2 ^ 64)
    (hfresh : Fresh received counter) :
    ∃ v', v.markDidReceive counter = .ok v' ∧ v'.Tracks (received ++ [counter]) := by
  have hwindow := (h.next_le_iff counter).mpr hfresh.2
  have hbits := toNat_add_bits hsmall
  unfold markDidReceive
  rw [if_neg (by rw [UInt64.lt_iff_toNat_lt]; omega)]
  split_ifs with heq hlt hset
  · -- in order
    have hsucc : (v.next + 1).toNat = counter.toNat + 1 := by
      rw [← heq, UInt64.toNat_add, UInt64.toNat_one]
      omega
    refine ⟨_, rfl, h.marked hsmall hfresh ?_ (fun c hne hc hc' => ?_) ?_⟩
    · dsimp only
      rw [hsucc, heq]
      omega
    · dsimp only at hc hc'
      have hne := mt UInt64.toNat_inj.mp hne
      rw [hsucc] at hc hc'
      change (v.setBit counter).has c.toNat = true ↔ _
      rw [has_setBit, decide_eq_false (by omega), Bool.false_or]
      exact h.window c (by rw [← heq]; omega) (by rw [← heq]; omega)
    · change (v.setBit counter).has counter.toNat = true
      rw [has_setBit, decide_eq_true rfl, Bool.true_or]
  · -- out of order, and already received
    have hlt := UInt64.lt_iff_toNat_lt.mp hlt
    rw [checkBit_eq_has] at hset
    exact absurd ((h.window counter hlt hwindow).mp hset) hfresh.1
  · -- out of order
    have hlt := UInt64.lt_iff_toNat_lt.mp hlt
    refine ⟨_, rfl, h.marked hsmall hfresh ?_ (fun c hne hc hc' => ?_) ?_⟩
    · change v.next.toNat = _
      omega
    · change c.toNat < v.next.toNat at hc
      change v.next.toNat ≤ _ at hc'
      have hne := mt UInt64.toNat_inj.mp hne
      rw [has_setBit, decide_eq_false (by omega), Bool.false_or]
      exact h.window c hc hc'
    · rw [has_setBit, decide_eq_true rfl, Bool.true_or]
  · -- ahead
    have hne := mt UInt64.toNat_inj.mp heq
    have hge := mt UInt64.lt_iff_toNat_lt.mpr hlt
    have hahead : v.next.toNat < counter.toNat := by omega
    have hsucc : (counter + 1).toNat = counter.toNat + 1 := by
      rw [UInt64.toNat_add, UInt64.toNat_one]
      omega
    refine ⟨_, rfl, h.marked hsmall hfresh ?_ (fun c hne hc hc' => ?_) ?_⟩
    · dsimp only
      rw [hsucc]
      omega
    · dsimp only at hc hc'
      have hne := mt UInt64.toNat_inj.mp hne
      rw [hsucc] at hc hc'
      change ((v.skipped counter).setBit counter).has c.toNat = true ↔ _
      rw [has_setBit, decide_eq_false (by omega), Bool.false_or,
        has_skipped hahead hsmall (by omega) (by omega)]
      constructor
      · rintro ⟨hlow, hhad⟩
        exact (h.window c hlow (by omega)).mp hhad
      · intro hc
        have hlow := h.below c hc
        exact ⟨hlow, (h.window c hlow (by omega)).mpr hc⟩
    · change ((v.skipped counter).setBit counter).has counter.toNat = true
      rw [has_setBit, decide_eq_true rfl, Bool.true_or]

theorem markDidReceive_of_not_fresh (h : v.Tracks received)
    (hsmall : counter.toNat + 1024 < 2 ^ 64) (hstale : ¬Fresh received counter) :
    v.markDidReceive counter = .error .invalidCounter := by
  have hbits := toNat_add_bits hsmall
  unfold markDidReceive
  by_cases hfar : counter + N_BITS < v.next
  · rw [if_pos hfar]
  have hnear := mt UInt64.lt_iff_toNat_lt.mpr hfar
  have hwindow : v.next.toNat ≤ counter.toNat + 1024 := by omega
  have hmem : counter ∈ received := by
    by_contra hnew
    exact hstale ⟨hnew, (h.next_le_iff counter).mp hwindow⟩
  have hlow := h.below counter hmem
  have hne : counter ≠ v.next := fun heq => by
    rw [heq] at hlow
    exact absurd hlow (Nat.lt_irrefl _)
  rw [if_neg hfar, if_neg hne, if_pos (UInt64.lt_iff_toNat_lt.mpr hlow), checkBit_eq_has,
    if_pos ((h.window counter hlow hwindow).mpr hmem)]

theorem willAccept_isOk_iff (h : v.Tracks received) (hsmall : counter.toNat + 1024 < 2 ^ 64) :
    v.willAccept counter = .ok () ↔ Fresh received counter := by
  have hbits := toNat_add_bits hsmall
  unfold willAccept Fresh
  rw [← h.next_le_iff]
  split_ifs with hge hfar hset
  · have hge := UInt64.le_iff_toNat_le.mp hge
    exact iff_of_true rfl ⟨fun hmem => absurd (h.below _ hmem) (Nat.not_lt.mpr hge), by omega⟩
  · have hfar := UInt64.lt_iff_toNat_lt.mp hfar
    exact iff_of_false nofun fun hfresh => by omega
  · have hlow := Nat.not_le.mp (mt UInt64.le_iff_toNat_le.mpr hge)
    have hnear := Nat.not_lt.mp (mt UInt64.lt_iff_toNat_lt.mpr hfar)
    rw [hbits] at hnear
    rw [Bool.not_eq_true', checkBit_eq_has, ← Bool.not_eq_true, h.window counter hlow hnear] at hset
    exact iff_of_true rfl ⟨hset, hnear⟩
  · have hlow := Nat.not_le.mp (mt UInt64.le_iff_toNat_le.mpr hge)
    have hnear := Nat.not_lt.mp (mt UInt64.lt_iff_toNat_lt.mpr hfar)
    rw [hbits] at hnear
    rw [Bool.not_eq_true', checkBit_eq_has, ← Bool.not_eq_true, not_not,
      h.window counter hlow hnear] at hset
    exact iff_of_false nofun fun hfresh => hfresh.1 hset

/-! ## Runs -/

def step (v : ReceivingKeyCounterValidator) (counter : UInt64) :
    Option WireGuardError × ReceivingKeyCounterValidator :=
  match v.receivingCounterMark counter with
  | .error error => (some error, v)
  | .ok v => (none, v)

def receives (v : ReceivingKeyCounterValidator) (counter : UInt64) : List UInt64 :=
  if (v.receivingCounterMark counter).isOk then [counter] else []

theorem Tracks.counted (h : v.Tracks received) (n : UInt64) :
    Tracks { v with receiveCnt := n } received :=
  ⟨h.nodup, h.small, h.below, h.last, h.window⟩

theorem receivingCounterMark_isOk_iff (h : v.Tracks received)
    (hsmall : counter.toNat + 1024 < 2 ^ 64) :
    (v.receivingCounterMark counter).isOk = true ↔ Fresh received counter := by
  unfold receivingCounterMark
  by_cases hfresh : Fresh received counter
  · obtain ⟨v', hmarked, -⟩ := markDidReceive_of_fresh h hsmall hfresh
    rw [hmarked]
    exact iff_of_true rfl hfresh
  · rw [markDidReceive_of_not_fresh h hsmall hfresh]
    exact iff_of_false nofun hfresh

theorem tracks_step (h : v.Tracks received) (hsmall : counter.toNat + 1024 < 2 ^ 64) :
    (v.step counter).2.Tracks (received ++ v.receives counter) := by
  unfold step receives receivingCounterMark
  by_cases hfresh : Fresh received counter
  · obtain ⟨v', hmarked, htracks⟩ := markDidReceive_of_fresh h hsmall hfresh
    rw [hmarked]
    exact htracks.counted _
  · rw [markDidReceive_of_not_fresh h hsmall hfresh]
    exact (List.append_nil received).symm ▸ h

/-- The window after counters have arrived in this order. -/
def windowAfter (counters : List UInt64) : ReceivingKeyCounterValidator :=
  Runs.run step ReceivingKeyCounterValidator.default counters

def receivedOf (counters : List UInt64) : List UInt64 :=
  Runs.history step receives ReceivingKeyCounterValidator.default counters

theorem tracks_along {counters : List UInt64} (hsmall : ∀ c ∈ counters, c.toNat + 1024 < 2 ^ 64) :
    (windowAfter counters).Tracks (receivedOf counters) := by
  have halong : Runs.Along step (fun _ counter => counter.toNat + 1024 < 2 ^ 64)
      ReceivingKeyCounterValidator.default counters := Runs.along_of_forall hsmall
  have hend := Runs.run_history (fun v received counter hcounter h => tracks_step h hcounter)
    tracks_default halong
  rwa [List.nil_append] at hend

/-- **A counter is received once.**  However packets arrive, a session receives no counter twice,
and it receives one exactly when it is new and less than 1024 behind each that it has received; the
check before decryption says the same. -/
theorem accepts_along {counters : List UInt64} (hsmall : ∀ c ∈ counters, c.toNat + 1024 < 2 ^ 64)
    {counter : UInt64} (hcounter : counter.toNat + 1024 < 2 ^ 64) :
    (receivedOf counters).Nodup
      ∧ (((windowAfter counters).receivingCounterMark counter).isOk = true
        ↔ counter ∉ receivedOf counters
          ∧ ∀ c ∈ receivedOf counters, c.toNat < counter.toNat + 1024)
      ∧ ((windowAfter counters).willAccept counter = .ok ()
        ↔ ((windowAfter counters).receivingCounterMark counter).isOk = true) := by
  have htracks := tracks_along hsmall
  exact ⟨htracks.nodup, receivingCounterMark_isOk_iff htracks hcounter,
    (willAccept_isOk_iff htracks hcounter).trans
      (receivingCounterMark_isOk_iff htracks hcounter).symm⟩

/-- A packet that a later one has left 1024 behind is not received again. -/
theorem accepts_along_late :
    ((windowAfter [5, 3, 2000]).receivingCounterMark 3).isOk = false := by
  have hsmall : ∀ c ∈ [(5 : UInt64), 3, 2000], c.toNat + 1024 < 2 ^ 64 := by
    simp
  have hlater : 2000 ∈ receivedOf [5, 3, 2000] := by decide +kernel
  refine Bool.eq_false_iff.mpr fun hok => ?_
  have hbehind := ((accepts_along hsmall (by decide)).2.1.mp hok).2 2000 hlater
  exact absurd hbehind (by decide)

end ReceivingKeyCounterValidator

end Spurfire.Noise
