import Mathlib.Algebra.BigOperators.Group.List.Basic
import Mathlib.Algebra.GroupWithZero.Nat
import Mathlib.Algebra.Order.BigOperators.Group.List
import Mathlib.Algebra.Order.Group.Nat

/-!
# Compact JSON documents

Documents as bytes, written without blanks, with fields in the order they are given.  Strings are
identifiers and carry no character that needs an escape.  The length of a document is bounded from
the lengths of its parts.
-/

namespace Json

def ascii (text : List Char) : List UInt8 := text.map fun c => UInt8.ofNat c.toNat

def null : List UInt8 := ascii ['n', 'u', 'l', 'l']

def bool (b : Bool) : List UInt8 :=
  if b then ascii ['t', 'r', 'u', 'e'] else ascii ['f', 'a', 'l', 's', 'e']

def number (n : ℕ) : List UInt8 := ascii (Nat.toDigits 10 n)

def integer (n : ℤ) : List UInt8 :=
  if n < 0 then ascii ['-'] ++ number n.natAbs else number n.natAbs

def text (t : List Char) : List UInt8 := ascii ([Char.ofNat 34] ++ t ++ [Char.ofNat 34])

def nullable {α : Type*} (f : α → List UInt8) : Option α → List UInt8
  | none => null
  | some a => f a

def joined : List (List UInt8) → List UInt8
  | [] => []
  | [item] => item
  | item :: next :: items => item ++ ascii [','] ++ joined (next :: items)

def array (items : List (List UInt8)) : List UInt8 := ascii ['['] ++ joined items ++ ascii [']']

def object (fields : List (List Char × List UInt8)) : List UInt8 :=
  ascii ['{'] ++ joined (fields.map fun field => text field.1 ++ ascii [':'] ++ field.2)
    ++ ascii ['}']

/-! ## Lengths -/

@[simp] theorem length_ascii (t : List Char) : (ascii t).length = t.length := List.length_map _

@[simp] theorem length_text (t : List Char) : (text t).length = t.length + 2 := by
  simp [text]

theorem length_bool_le (b : Bool) : (bool b).length ≤ 5 := by
  cases b <;> simp [bool]

theorem length_number_le {n k : ℕ} (hk : 0 < k) (h : n < 10 ^ k) : (number n).length ≤ k := by
  rw [number, length_ascii]
  exact (Nat.length_toDigits_le_iff (by decide) hk).mpr h

theorem length_integer_le {n : ℤ} {k : ℕ} (hk : 0 < k) (h : n.natAbs < 10 ^ k) :
    (integer n).length ≤ k + 1 := by
  have := length_number_le hk h
  unfold integer
  split_ifs
  · rw [List.length_append, length_ascii, List.length_singleton]
    omega
  · omega

theorem length_nullable_le {α : Type*} {f : α → List UInt8} {o : Option α} {k : ℕ} (hk : 4 ≤ k)
    (h : ∀ a, o = some a → (f a).length ≤ k) : (nullable f o).length ≤ k := by
  cases o with
  | none => exact hk
  | some a => exact h a rfl

theorem length_joined_le (items : List (List UInt8)) :
    (joined items).length ≤ (items.map fun item => item.length + 1).sum := by
  induction items with
  | nil => exact Nat.le_refl 0
  | cons item items ih =>
    cases items with
    | nil => simp [joined]
    | cons next items =>
      rw [joined, List.length_append, List.length_append, length_ascii, List.map_cons,
        List.sum_cons]
      simpa using ih

theorem length_array_le (items : List (List UInt8)) :
    (array items).length ≤ (items.map fun item => item.length + 1).sum + 2 := by
  have := length_joined_le items
  simp only [array, List.length_append, length_ascii, List.length_singleton]
  omega

theorem length_array_le_of_forall (items : List (List UInt8)) {k : ℕ}
    (h : ∀ item ∈ items, item.length ≤ k) :
    (array items).length ≤ items.length * (k + 1) + 2 := by
  refine (length_array_le items).trans (Nat.add_le_add_right ?_ 2)
  have hsum := List.sum_le_card_nsmul (items.map fun item => item.length + 1) (k + 1) fun n hn => by
    obtain ⟨item, hitem, rfl⟩ := List.mem_map.mp hn
    exact Nat.succ_le_succ (h item hitem)
  simpa using hsum

theorem length_object_le (fields : List (List Char × List UInt8)) :
    (object fields).length ≤ (fields.map fun field => field.1.length + field.2.length + 4).sum + 2 := by
  have hjoined := length_joined_le
    (fields.map fun field => text field.1 ++ ascii [':'] ++ field.2)
  rw [List.map_map] at hjoined
  have hfields : (fields.map ((fun item : List UInt8 => item.length + 1) ∘ fun field =>
      text field.1 ++ ascii [':'] ++ field.2))
        = fields.map fun field => field.1.length + field.2.length + 4 := by
    refine List.map_congr_left fun field _ => ?_
    simp only [Function.comp_apply, List.length_append, length_text, length_ascii,
      List.length_singleton]
    omega
  rw [hfields] at hjoined
  simp only [object, List.length_append, length_ascii, List.length_singleton]
  omega

end Json
