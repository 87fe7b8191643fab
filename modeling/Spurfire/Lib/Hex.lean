import Mathlib.Data.List.Basic
import Mathlib.Tactic.Common

/-!
# Hexadecimal texts

Bytes written as two lowercase digits each, and the reader that takes either case.  The bytes of a
text stand for the text: everything here is ASCII.

* `encode`, `decode`: the two directions;
* `decode_eq_some_iff`: a text is read exactly as the bytes whose spelling it is, up to case.
-/

namespace Hex

def digit (n : ℕ) : UInt8 := UInt8.ofNat (if n < 10 then 48 + n else 87 + n)

/-- The value of a digit of either case. -/
def nibble (byte : UInt8) : Option UInt8 :=
  if 48 ≤ byte ∧ byte ≤ 57 then some (byte - 48)
  else if 97 ≤ byte ∧ byte ≤ 102 then some (byte - 97 + 10)
  else if 65 ≤ byte ∧ byte ≤ 70 then some (byte - 65 + 10)
  else none

/-- ASCII lowercase. -/
def lower (byte : UInt8) : UInt8 := if 65 ≤ byte ∧ byte ≤ 90 then byte + 32 else byte

def encode (bytes : List UInt8) : List UInt8 :=
  bytes.flatMap fun b => [digit (b.toNat / 16), digit (b.toNat % 16)]

def decode : List UInt8 → Option (List UInt8)
  | [] => some []
  | [_] => none
  | high :: low :: text => do
    let high ← nibble high
    let low ← nibble low
    let bytes ← decode text
    some ((high <<< 4 ||| low) :: bytes)

/-! ## Digits -/

theorem nibble_eq_some_iff {b n : UInt8} :
    nibble b = some n ↔ n.toNat < 16 ∧ lower b = digit n.toNat := by
  have hbound : ∀ b : Fin 256, ∀ n ∈ nibble (UInt8.ofFin b), n.toNat < 16 := by decide +kernel
  have hspelled : ∀ b : Fin 256, ∀ n : Fin 16, nibble (UInt8.ofFin b) = some (UInt8.ofNat n.val)
      ↔ lower (UInt8.ofFin b) = digit n.val := by decide +kernel
  have hof : n = UInt8.ofNat n.toNat := by simp
  constructor
  · intro h
    have hn := hbound b.toFin n h
    refine ⟨hn, (hspelled b.toFin ⟨n.toNat, hn⟩).mp ?_⟩
    rw [← hof]
    exact h
  · rintro ⟨hn, h⟩
    rw [hof]
    exact (hspelled b.toFin ⟨n.toNat, hn⟩).mpr h

/-- Two digits make a byte. -/
theorem toNat_join {high low : UInt8} (hhigh : high.toNat < 16) (hlow : low.toNat < 16) :
    (high <<< 4 ||| low).toNat / 16 = high.toNat ∧ (high <<< 4 ||| low).toNat % 16 = low.toNat := by
  have hall : ∀ m n : Fin 16,
      (UInt8.ofNat m.val <<< 4 ||| UInt8.ofNat n.val).toNat / 16 = m.val
        ∧ (UInt8.ofNat m.val <<< 4 ||| UInt8.ofNat n.val).toNat % 16 = n.val := by decide +kernel
  have h := hall ⟨high.toNat, hhigh⟩ ⟨low.toNat, hlow⟩
  simpa using h

/-! ## Texts -/

@[simp] theorem encode_nil : encode [] = [] := rfl

theorem encode_cons (b : UInt8) (bytes : List UInt8) :
    encode (b :: bytes) = digit (b.toNat / 16) :: digit (b.toNat % 16) :: encode bytes := rfl

theorem encode_append (bytes bytes' : List UInt8) :
    encode (bytes ++ bytes') = encode bytes ++ encode bytes' :=
  List.flatMap_append

@[simp] theorem length_encode (bytes : List UInt8) : (encode bytes).length = 2 * bytes.length := by
  induction bytes with
  | nil => rfl
  | cons b bytes ih =>
    rw [encode_cons, List.length_cons, List.length_cons, ih, List.length_cons]
    omega

/-- What is written is lowercase. -/
theorem map_lower_encode (bytes : List UInt8) : (encode bytes).map lower = encode bytes := by
  have hdigit : ∀ n : Fin 16, lower (digit n.val) = digit n.val := by decide +kernel
  induction bytes with
  | nil => rfl
  | cons b bytes ih =>
    have hb := b.toNat_lt
    rw [encode_cons, List.map_cons, List.map_cons, ih, hdigit ⟨b.toNat / 16, by omega⟩,
      hdigit ⟨b.toNat % 16, by omega⟩]

/-- **A text is read as the bytes whose spelling it is**, in either case, and as nothing else. -/
theorem decode_eq_some_iff {text bytes : List UInt8} :
    decode text = some bytes ↔ text.map lower = encode bytes := by
  induction text using decode.induct generalizing bytes with
  | case1 =>
    cases bytes with
    | nil => simp [decode]
    | cons b bytes => simp [decode, encode_cons]
  | case2 c =>
    cases bytes with
    | nil => simp [decode]
    | cons b bytes => simp [decode, encode_cons]
  | case3 high low text ih =>
    simp only [decode, Option.bind_eq_bind, Option.bind_eq_some_iff, nibble_eq_some_iff, ih,
      List.map_cons, Option.some.injEq]
    constructor
    · rintro ⟨m, ⟨hm, hhigh⟩, n, ⟨hn, hlow⟩, rest, hrest, rfl⟩
      obtain ⟨hdiv, hmod⟩ := toNat_join hm hn
      rw [encode_cons, hdiv, hmod, hhigh, hlow, hrest]
    · intro h
      cases bytes with
      | nil => simp at h
      | cons b bytes =>
        rw [encode_cons, List.cons.injEq, List.cons.injEq] at h
        obtain ⟨hhigh, hlow, hrest⟩ := h
        have hb := b.toNat_lt
        have hm : (UInt8.ofNat (b.toNat / 16)).toNat = b.toNat / 16 := by simp; omega
        have hn : (UInt8.ofNat (b.toNat % 16)).toNat = b.toNat % 16 := by simp; omega
        refine ⟨UInt8.ofNat (b.toNat / 16), ⟨by omega, by rw [hm, hhigh]⟩,
          UInt8.ofNat (b.toNat % 16), ⟨by omega, by rw [hn, hlow]⟩, bytes, hrest, ?_⟩
        obtain ⟨hdiv, hmod⟩ := @toNat_join (UInt8.ofNat (b.toNat / 16))
          (UInt8.ofNat (b.toNat % 16)) (by omega) (by omega)
        have hjoin : (UInt8.ofNat (b.toNat / 16) <<< 4 ||| UInt8.ofNat (b.toNat % 16)).toNat
            = b.toNat := by omega
        rw [UInt8.toNat_inj.mp hjoin]

end Hex
