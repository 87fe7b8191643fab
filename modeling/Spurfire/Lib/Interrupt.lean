import Mathlib.Logic.Basic

/-!
# Interruptible programs

A program over a world `σ` takes one answer `ο` of its environment at each effect.  It may fail with
an error `ε`, and it stops where its answers end: a list of answers is a schedule, and the prefixes
of a schedule are its crashes.

* `effect` waits for an answer, `silent` does not wait, `fail` and `check` are the error exits;
* `Meets` is partial correctness with an invariant for every place where a program can stop, under
  an assumption on the answers;
* `meets_pure`, `meets_bind`, `meets_effect` and their relatives walk a program, `Meets.mono`
  weakens what is known of its result, `Meets.exec` is the fact about the world it leaves.
-/

namespace Interrupt

universe u

/-- How a program ends. -/
inductive Outcome (ε α : Type*)
  | done (a : α)
  | failed (e : ε)
  | cut

/-- A program: from a world and the answers to come, an outcome, a world and the answers left. -/
def Prog (σ ο ε α : Type*) := σ → List ο → Outcome ε α × σ × List ο

variable {σ ο ε : Type*} {α β : Type u}

namespace Prog

def pure (a : α) : Prog σ ο ε α := fun s os => (.done a, s, os)

def bind (p : Prog σ ο ε α) (f : α → Prog σ ο ε β) : Prog σ ο ε β := fun s os =>
  match p s os with
  | (.done a, s, os) => f a s os
  | (.failed e, s, os) => (.failed e, s, os)
  | (.cut, s, os) => (.cut, s, os)

instance instMonad : Monad (Prog σ ο ε) where
  pure := pure
  bind := bind

/-- Stops with an error. -/
def fail (e : ε) : Prog σ ο ε α := fun s os => (.failed e, s, os)

/-- Waits for the next answer; without one the program is cut. -/
def effect (act : σ → ο → α × σ) : Prog σ ο ε α := fun s os =>
  match os with
  | [] => (.cut, s, [])
  | o :: os => (.done (act s o).1, (act s o).2, os)

/-- Acts on the world at once. -/
def silent (act : σ → α × σ) : Prog σ ο ε α := fun s os => (.done (act s).1, (act s).2, os)

/-- Fails with `e` unless `b`. -/
def check (b : Bool) (e : ε) : Prog σ ο ε Unit := if b then pure () else fail e

/-- Fails where the computation did. -/
def ofExcept : Except ε α → Prog σ ο ε α
  | .ok a => pure a
  | .error e => fail e

/-- The world a program leaves. -/
def exec (p : Prog σ ο ε α) (s : σ) (os : List ο) : σ := (p s os).2.1

theorem bind_bind {γ : Type u} (p : Prog σ ο ε α) (f : α → Prog σ ο ε β) (g : β → Prog σ ο ε γ) :
    p >>= f >>= g = p >>= fun a => f a >>= g := by
  funext s os
  change Prog.bind (Prog.bind p f) g s os = Prog.bind p (fun a => Prog.bind (f a) g) s os
  unfold Prog.bind
  rcases p s os with ⟨_ | _ | _, s', os'⟩
  · rfl
  · rfl
  · rfl

/-- Two programs in sequence are done where the second is, with what the first has done. -/
theorem done_bind {p : Prog σ ο ε α} {f : α → Prog σ ο ε β} {s : σ} {os : List ο} {b : β}
    (h : ((p >>= f) s os).1 = .done b) :
    ∃ a s' os', p s os = (.done a, s', os') ∧ (p >>= f) s os = f a s' os' := by
  change (Prog.bind p f s os).1 = .done b at h
  change ∃ a s' os', p s os = (.done a, s', os') ∧ Prog.bind p f s os = f a s' os'
  unfold Prog.bind at h ⊢
  rcases hrun : p s os with ⟨outcome, s', os'⟩
  rw [hrun] at h
  cases outcome with
  | done a => exact ⟨a, s', os', rfl, rfl⟩
  | failed e => exact nomatch h
  | cut => exact nomatch h

end Prog

open Prog

/-! ## Correctness -/

section Meets

/- `A` is what the environment keeps to, `I` holds wherever a program stops early. -/
variable {A : ο → Prop} {I : σ → Prop} {s : σ} {p : Prog σ ο ε α} {Q Q' : α → σ → Prop}

/-- From `s`, with answers that keep to `A`: where `p` ends, its result meets `Q`; where it fails or
is cut, the world meets `I`. -/
def Meets (A : ο → Prop) (I : σ → Prop) (s : σ) (p : Prog σ ο ε α) (Q : α → σ → Prop) : Prop :=
  ∀ os, (∀ o ∈ os, A o) → (∀ o ∈ (p s os).2.2, o ∈ os)
    ∧ match p s os with
      | (.done a, s', _) => Q a s'
      | (_, s', _) => I s'

theorem meets_pure {a : α} (h : Q a s) : Meets A I s (Pure.pure a : Prog σ ο ε α) Q :=
  fun _ _ => ⟨fun _ ho => ho, h⟩

theorem meets_fail {e : ε} (h : I s) : Meets A I s (fail e : Prog σ ο ε α) Q :=
  fun _ _ => ⟨fun _ ho => ho, h⟩

theorem meets_bind {f : α → Prog σ ο ε β} {Q : β → σ → Prop}
    (h : Meets A I s p fun a s' => Meets A I s' (f a) Q) : Meets A I s (p >>= f) Q := by
  intro os hos
  obtain ⟨hsub, hp⟩ := h os hos
  change (∀ o ∈ (Prog.bind p f s os).2.2, o ∈ os) ∧ match Prog.bind p f s os with
    | (.done a, s', _) => Q a s'
    | (_, s', _) => I s'
  unfold Prog.bind
  rcases hrun : p s os with ⟨outcome, s', os'⟩
  rw [hrun] at hp hsub
  cases outcome with
  | done a =>
    obtain ⟨hsub', hf⟩ := hp os' fun o ho => hos o (hsub o ho)
    exact ⟨fun o ho => hsub o (hsub' o ho), hf⟩
  | failed e => exact ⟨hsub, hp⟩
  | cut => exact ⟨hsub, hp⟩

theorem meets_effect {act : σ → ο → α × σ} (hI : I s)
    (h : ∀ o, A o → Q (act s o).1 (act s o).2) :
    Meets A I s (effect act : Prog σ ο ε α) Q := by
  rintro (_ | ⟨o, os⟩) hos
  · exact ⟨fun _ ho => ho, hI⟩
  · exact ⟨fun _ ho => List.mem_cons_of_mem o ho, h o (hos o List.mem_cons_self)⟩

theorem meets_silent {act : σ → α × σ} (h : Q (act s).1 (act s).2) :
    Meets A I s (silent act : Prog σ ο ε α) Q :=
  fun _ _ => ⟨fun _ ho => ho, h⟩

theorem meets_check {b : Bool} {e : ε} {Q : Unit → σ → Prop} (hI : I s)
    (h : b = true → Q () s) : Meets A I s (check b e : Prog σ ο ε Unit) Q := by
  unfold check
  cases b with
  | true => exact meets_pure (h rfl)
  | false => exact meets_fail hI

theorem meets_ofExcept {x : Except ε α} (hI : I s) (h : ∀ a, x = .ok a → Q a s) :
    Meets A I s (ofExcept x : Prog σ ο ε α) Q := by
  cases x with
  | ok a => exact meets_pure (h a rfl)
  | error e => exact meets_fail hI

theorem Meets.mono (h : Meets A I s p Q) (hQ : ∀ a s', Q a s' → Q' a s') : Meets A I s p Q' := by
  intro os hos
  obtain ⟨hsub, hp⟩ := h os hos
  refine ⟨hsub, ?_⟩
  rcases hrun : p s os with ⟨outcome, s', os'⟩
  rw [hrun] at hp
  cases outcome with
  | done a => exact hQ a s' hp
  | failed e => exact hp
  | cut => exact hp

/-- Where the result also meets the invariant, the whole run does. -/
theorem Meets.exec (h : Meets A I s p Q) (hQ : ∀ a s', Q a s' → I s') {os : List ο}
    (hos : ∀ o ∈ os, A o) : I (p.exec s os) := by
  obtain ⟨-, hp⟩ := h os hos
  unfold Prog.exec
  rcases hrun : p s os with ⟨outcome, s', os'⟩
  rw [hrun] at hp
  cases outcome with
  | done a => exact hQ a s' hp
  | failed e => exact hp
  | cut => exact hp

end Meets

end Interrupt
