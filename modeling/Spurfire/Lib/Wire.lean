import Mathlib.Data.List.Basic
import Mathlib.Data.UInt

/-!
# Self-delimiting byte encodings

`Uniq P f` says that `f` writes values satisfying `P` so that a reader can tell where one value
ends: two streams that start with encodings of `P`-values and agree have the same first value and
the same rest.  Every field-by-field encoder is a composition of such pieces, and injectivity of
the whole message is read off field by field with `Uniq.split`.

* `beBytes` is the big-endian writer of a fixed number of bytes;
* `Uniq.of_length` covers every fixed-width injective encoding;
* `uniq_option` and `uniq_lengthPrefixed` cover tagged options and length-prefixed blocks;
* `Delimits` is `Uniq` without a side condition, closed under fields one behind the other
  (`Delimits.pair`), options, vectors and injections, so that a record is delimited as soon as its
  fields are.
-/

namespace Wire

variable {α β : Type*}

/-- The `n` least significant bytes of `x`, most significant first. -/
def beBytes : ℕ → ℕ → List UInt8
  | 0, _ => []
  | n + 1, x => beBytes n (x / 256) ++ [UInt8.ofNat (x % 256)]

@[simp] theorem length_beBytes (n x : ℕ) : (beBytes n x).length = n := by
  induction n generalizing x with
  | zero => rfl
  | succ n ih => simp [beBytes, ih]

theorem beBytes_inj {n x y : ℕ} (hx : x < 256 ^ n) (hy : y < 256 ^ n)
    (h : beBytes n x = beBytes n y) : x = y := by
  induction n generalizing x y with
  | zero => omega
  | succ n ih =>
    rw [pow_succ] at hx hy
    have hlen : (beBytes n (x / 256)).length = (beBytes n (y / 256)).length := by simp
    obtain ⟨hhigh, hlow⟩ := List.append_inj h hlen
    have hq := ih (by omega) (by omega) hhigh
    have hr : x % 256 = y % 256 := by
      have h8 := congrArg UInt8.toNat (List.singleton_inj.mp hlow)
      simp only [UInt8.toNat_ofNat'] at h8
      omega
    omega

/-- Streams that begin with an encoding of a value satisfying `P` determine that value and the
rest of the stream. -/
def Uniq (P : α → Prop) (f : α → List UInt8) : Prop :=
  ∀ a b s t, P a → P b → f a ++ s = f b ++ t → a = b ∧ s = t

namespace Uniq

variable {P : α → Prop} {f : α → List UInt8}

theorem split (h : Uniq P f) {a b : α} {s t : List UInt8} (ha : P a) (hb : P b)
    (e : f a ++ s = f b ++ t) : a = b ∧ s = t :=
  h a b s t ha hb e

theorem mono {Q : α → Prop} (h : Uniq P f) (hq : ∀ a, Q a → P a) : Uniq Q f :=
  fun a b s t ha hb e => h a b s t (hq a ha) (hq b hb) e

/-- A fixed-width injective encoding delimits itself. -/
theorem of_length (n : ℕ) (hlen : ∀ a, P a → (f a).length = n)
    (hinj : ∀ a b, P a → P b → f a = f b → a = b) : Uniq P f := by
  intro a b s t ha hb e
  obtain ⟨hab, hst⟩ := List.append_inj e (by rw [hlen a ha, hlen b hb])
  exact ⟨hinj a b ha hb hab, hst⟩

/-- A self-delimiting encoding is injective. -/
theorem inj (h : Uniq P f) {a b : α} (ha : P a) (hb : P b) (e : f a = f b) : a = b :=
  (h a b [] [] ha hb (by simp [e])).1

/-- Encoding through an injection on the left. -/
theorem comap (h : Uniq P f) {g : β → α} (hg : Function.Injective g) :
    Uniq (fun b => P (g b)) (fun b => f (g b)) := by
  intro a b s t ha hb e
  obtain ⟨hab, hst⟩ := h _ _ s t ha hb e
  exact ⟨hg hab, hst⟩

end Uniq

/-- Big-endian bytes of a number below `256 ^ n`. -/
theorem uniq_beBytes (n : ℕ) : Uniq (fun x => x < 256 ^ n) (beBytes n) :=
  Uniq.of_length n (fun _ _ => length_beBytes n _) fun _ _ => beBytes_inj

theorem uniq_byte : Uniq (fun _ => True) (fun b : UInt8 => [b]) :=
  Uniq.of_length 1 (fun _ _ => rfl) fun _ _ _ _ h => List.singleton_inj.mp h

/-- A presence byte and, behind it, the value. -/
def option (f : α → List UInt8) : Option α → List UInt8
  | none => [0]
  | some a => 1 :: f a

theorem uniq_option {P : α → Prop} {f : α → List UInt8} (h : Uniq P f) :
    Uniq (fun o : Option α => ∀ a ∈ o, P a) (option f) := by
  rintro (_ | a) (_ | b) s t ha hb e
  · exact ⟨rfl, by simpa [option] using e⟩
  · simp [option] at e
  · simp [option] at e
  · have e' : f a ++ s = f b ++ t := by simpa [option] using e
    obtain ⟨hab, hst⟩ := h a b s t (ha a rfl) (hb b rfl) e'
    exact ⟨by rw [hab], hst⟩

/-- A block of bytes behind its length, written on `n` bytes. -/
def lengthPrefixed (n : ℕ) (bs : List UInt8) : List UInt8 :=
  beBytes n bs.length ++ bs

theorem uniq_lengthPrefixed (n : ℕ) :
    Uniq (fun bs => bs.length < 256 ^ n) (lengthPrefixed n) := by
  intro a b s t ha hb e
  rw [lengthPrefixed, lengthPrefixed, List.append_assoc, List.append_assoc] at e
  obtain ⟨hlen, hrest⟩ := (uniq_beBytes n).split ha hb e
  exact List.append_inj hrest hlen

/-- The rows of a list one behind the other. -/
def rows (f : α → List UInt8) (as : List α) : List UInt8 :=
  as.flatMap f

/-- Rows delimit themselves once their number is known. -/
theorem rows_split {P : α → Prop} {f : α → List UInt8} (h : Uniq P f) {as bs : List α}
    {s t : List UInt8} (hlen : as.length = bs.length) (ha : ∀ a ∈ as, P a) (hb : ∀ b ∈ bs, P b)
    (e : rows f as ++ s = rows f bs ++ t) : as = bs ∧ s = t := by
  induction as generalizing bs with
  | nil =>
    cases bs with
    | nil => exact ⟨rfl, by simpa [rows] using e⟩
    | cons b bs => simp at hlen
  | cons a as ih =>
    cases bs with
    | nil => simp at hlen
    | cons b bs =>
      simp only [rows, List.flatMap_cons, List.append_assoc] at e
      obtain ⟨hab, hrest⟩ := h.split (ha a (by simp)) (hb b (by simp)) e
      obtain ⟨htail, hst⟩ := ih (by simpa using hlen) (fun x hx => ha x (by simp [hx]))
        (fun x hx => hb x (by simp [hx])) hrest
      exact ⟨by rw [hab, htail], hst⟩

/-! ## Encodings without a side condition -/

/-- Every value delimits itself. -/
abbrev Delimits (f : α → List UInt8) : Prop := Uniq (fun _ => True) f

namespace Delimits

variable {f : α → List UInt8} {g : β → List UInt8}

theorem split (h : Delimits f) {a b : α} {s t : List UInt8} (e : f a ++ s = f b ++ t) :
    a = b ∧ s = t :=
  h a b s t trivial trivial e

theorem injective (h : Delimits f) : Function.Injective f :=
  fun _ _ e => h.inj trivial trivial e

/-- One field behind the other. -/
theorem pair (hf : Delimits f) (hg : Delimits g) : Delimits fun x : α × β => f x.1 ++ g x.2 := by
  rintro ⟨a, a'⟩ ⟨b, b'⟩ s t - - e
  rw [List.append_assoc, List.append_assoc] at e
  obtain ⟨hab, e⟩ := hf.split e
  obtain ⟨hab', e⟩ := hg.split e
  exact ⟨Prod.ext hab hab', e⟩

protected theorem option (h : Delimits f) : Delimits (option f) :=
  (uniq_option h).mono fun _ _ _ _ => trivial

/-- Encoding through an injection. -/
theorem comp (h : Delimits f) {k : β → α} (hk : Function.Injective k) : Delimits fun b => f (k b) :=
  h.comap hk

/-- One byte per value. -/
theorem code {k : α → UInt8} (hk : Function.Injective k) : Delimits fun a => [k a] :=
  uniq_byte.comap hk

theorem vector (h : Delimits f) (n : ℕ) : Delimits fun v : Vector α n => v.toList.flatMap f := by
  intro v w s t _ _ e
  have hlen : v.toList.length = w.toList.length := by simp
  obtain ⟨hvw, hst⟩ := rows_split h hlen (fun _ _ => trivial) (fun _ _ => trivial) e
  exact ⟨Vector.toList_inj.mp hvw, hst⟩

/-- The big-endian bytes of a machine word. -/
theorem word16 : Delimits fun v : UInt16 => beBytes 2 v.toNat :=
  ((uniq_beBytes 2).comap fun _ _ => UInt16.toNat_inj.mp).mono fun v _ => v.toNat_lt

theorem word32 : Delimits fun v : UInt32 => beBytes 4 v.toNat :=
  ((uniq_beBytes 4).comap fun _ _ => UInt32.toNat_inj.mp).mono fun v _ => v.toNat_lt

theorem word64 : Delimits fun v : UInt64 => beBytes 8 v.toNat :=
  ((uniq_beBytes 8).comap fun _ _ => UInt64.toNat_inj.mp).mono fun v _ => v.toNat_lt

/-- A block of fixed length. -/
theorem bytes (n : ℕ) : Delimits fun v : Vector UInt8 n => v.toList :=
  Uniq.of_length n (fun v _ => by simp) fun _ _ _ _ e => Vector.toList_inj.mp e

end Delimits

end Wire
