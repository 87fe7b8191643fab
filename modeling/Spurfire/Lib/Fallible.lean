import Mathlib.Logic.Basic

/-!
# Programs that may fail

A program over a world `σ` returns a value or fails with an error `ε`, and leaves a world either way.

* `act` is a primitive step of the world, and `look` one that leaves it alone;
* `Ends` is total correctness with two postconditions: `Q` where the program returns, `E` where it
  fails;
* `ends_pure`, `ends_bind`, `ends_act` and their relatives walk a program;
* `bind_eq_ok` and its relatives peel apart a program with errors and no world.
-/

namespace Fallible

/-- A program, in the monad of errors over a state. -/
abbrev Prog (σ ε α : Type) := ExceptT ε (StateM σ) α

variable {σ ε α β : Type}

/-- One step of the world. -/
def act (f : σ → Except ε α × σ) : Prog σ ε α := ExceptT.mk fun s => f s

/-- A look at the world. -/
def look (f : σ → Except ε α) : Prog σ ε α := act fun s => (f s, s)

/-- What a program returns, and the world it leaves. -/
def exec (p : Prog σ ε α) (s : σ) : Except ε α × σ := p.run s

/-- From `s`, `p` returns a result with `Q` or fails with `E`. -/
@[irreducible]
def Ends (E : ε → σ → Prop) (s : σ) (p : Prog σ ε α) (Q : α → σ → Prop) : Prop :=
  match exec p s with
  | (.ok a, s') => Q a s'
  | (.error e, s') => E e s'

variable {E : ε → σ → Prop} {s : σ} {p : Prog σ ε α} {Q : α → σ → Prop}

theorem ends_pure {a : α} (h : Q a s) : Ends E s (pure a : Prog σ ε α) Q := by
  unfold Ends
  exact h

theorem ends_throw {e : ε} (h : E e s) : Ends E s (throw e : Prog σ ε α) Q := by
  unfold Ends
  exact h

theorem Ends.mono {E' : ε → σ → Prop} {Q' : α → σ → Prop} (h : Ends E s p Q)
    (hE : ∀ e s, E e s → E' e s) (hQ : ∀ a s, Q a s → Q' a s) : Ends E' s p Q' := by
  unfold Ends at h ⊢
  rcases hp : exec p s with ⟨e | a, s'⟩
  · rw [hp] at h
    exact hE e s' h
  · rw [hp] at h
    exact hQ a s' h

/-- A program with one postcondition leaves a world with it. -/
theorem Ends.exec {P : σ → Prop} (h : Ends (fun _ => P) s p fun _ => P) :
    P (Fallible.exec p s).2 := by
  unfold Ends at h
  rcases hp : Fallible.exec p s with ⟨e | a, s'⟩
  · rw [hp] at h
    exact h
  · rw [hp] at h
    exact h

theorem ends_act {f : σ → Except ε α × σ} (hok : ∀ a s', f s = (.ok a, s') → Q a s')
    (herror : ∀ e s', f s = (.error e, s') → E e s') : Ends E s (act f) Q := by
  unfold Ends
  change match f s with
    | (.ok a, s') => Q a s'
    | (.error e, s') => E e s'
  rcases hf : f s with ⟨e | a, s'⟩
  · exact herror e s' hf
  · exact hok a s' hf

/-- A step whose answer is known. -/
theorem ends_act_ok {f : σ → Except ε α × σ} {a : α} {t : σ} (hf : f s = (.ok a, t))
    (h : Q a t) : Ends E s (act f) Q := by
  refine ends_act (fun b u heq => ?_) fun e u heq => ?_
  · obtain ⟨hb, rfl⟩ := Prod.mk.inj (hf.symm.trans heq)
    obtain rfl := Except.ok.inj hb
    exact h
  · exact nomatch hf.symm.trans heq

/-- What a step leaves behind, whether it fails or not. -/
theorem ends_act_snd {f : σ → Except ε α × σ} {P : σ → Prop} (h : P (f s).2) :
    Ends (fun _ => P) s (act f) fun _ => P := by
  refine ends_act (fun a s' heq => ?_) fun e s' heq => ?_
  · rwa [heq] at h
  · rwa [heq] at h

theorem ends_look {f : σ → Except ε α} (hok : ∀ a, f s = .ok a → Q a s)
    (herror : ∀ e, f s = .error e → E e s) : Ends E s (look f) Q := by
  refine ends_act (fun a s' heq => ?_) fun e s' heq => ?_
  · obtain ⟨hf, rfl⟩ := Prod.mk.injEq _ _ _ _ ▸ heq
    exact hok a hf
  · obtain ⟨hf, rfl⟩ := Prod.mk.injEq _ _ _ _ ▸ heq
    exact herror e hf

theorem exec_bind (p : Prog σ ε α) (f : α → Prog σ ε β) (s : σ) :
    exec (p >>= f) s = match exec p s with
      | (.ok a, s') => exec (f a) s'
      | (.error e, s') => (.error e, s') := by
  simp only [exec, bind, ExceptT.bind, ExceptT.mk, ExceptT.run, StateT.bind, ExceptT.bindCont]
  rcases p s with ⟨e | a, s'⟩ <;> rfl

theorem ends_bind {f : α → Prog σ ε β} {Q : β → σ → Prop}
    (h : Ends E s p fun a s' => Ends E s' (f a) Q) : Ends E s (p >>= f) Q := by
  unfold Ends at h ⊢
  rw [exec_bind]
  rcases hp : exec p s with ⟨e | a, s'⟩
  · rw [hp] at h
    exact h
  · rw [hp] at h
    exact h

/-- The rest of a program goes on from the postcondition of its first part. -/
theorem ends_seq {E' : ε → σ → Prop} {R : α → σ → Prop} {f : α → Prog σ ε β} {Q : β → σ → Prop}
    (hp : Ends E' s p R) (hE : ∀ e s, E' e s → E e s)
    (hf : ∀ a s', R a s' → Ends E s' (f a) Q) : Ends E s (p >>= f) Q :=
  ends_bind (hp.mono hE hf)

theorem ends_next {R : α → σ → Prop} {f : α → Prog σ ε β} {Q : β → σ → Prop}
    (hp : Ends E s p R) (hf : ∀ a s', R a s' → Ends E s' (f a) Q) : Ends E s (p >>= f) Q :=
  ends_seq hp (fun _ _ h => h) hf

theorem ends_ite {c : Prop} [Decidable c] {q : Prog σ ε α} (hpos : c → Ends E s p Q)
    (hneg : ¬c → Ends E s q Q) : Ends E s (if c then p else q) Q := by
  by_cases hc : c
  · rw [if_pos hc]
    exact hpos hc
  · rw [if_neg hc]
    exact hneg hc

/-! ## Errors alone -/

/-- What a program with errors alone has returned, peeled apart at its first step. -/
theorem bind_eq_ok {x : Except ε α} {f : α → Except ε β} {b : β} (h : (x >>= f) = .ok b) :
    ∃ a, x = .ok a ∧ f a = .ok b := by
  cases x with
  | error e => exact nomatch h
  | ok a => exact ⟨a, rfl, h⟩

theorem mapError_eq_ok {ε' : Type} {x : Except ε α} {f : ε → ε'} {a : α}
    (h : x.mapError f = .ok a) : x = .ok a := by
  cases x with
  | error e => exact nomatch h
  | ok b => exact congrArg Except.ok (Except.ok.inj h)

theorem map_eq_ok {x : Except ε α} {f : α → β} {b : β} (h : x.map f = .ok b) :
    ∃ a, x = .ok a ∧ f a = b := by
  cases x with
  | error e => exact nomatch h
  | ok a => exact ⟨a, rfl, Except.ok.inj h⟩

theorem toOption_eq_some {x : Except ε α} {a : α} : x.toOption = some a ↔ x = .ok a := by
  cases x with
  | error e => exact ⟨nofun, nofun⟩
  | ok b => exact ⟨fun h => congrArg Except.ok (Option.some.inj h),
      fun h => congrArg some (Except.ok.inj h)⟩

/-- An answer that passes a test is an answer. -/
theorem exists_ok_of_any {x : Except ε α} {p : α → Prop} [DecidablePred p]
    (h : x.toOption.any (fun a => decide (p a)) = true) : ∃ a, x = .ok a ∧ p a := by
  obtain ⟨a, ha, hp⟩ := (Option.any_eq_true _ _).mp h
  exact ⟨a, toOption_eq_some.mp ha, of_decide_eq_true hp⟩

end Fallible
