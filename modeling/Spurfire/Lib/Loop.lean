import Mathlib.Order.Basic

/-!
# Loops up to a deadline

`Loops due turn s t` says that `while due { turn }`, started in `s`, ends in `t`.  A process that
works off what is due at a deadline runs such a loop and then closes what has ended.

* `Loops.det`, `Loops.split`, `Loops.map`: the rules of the loop;
* `Loops.turns`, `Loops.turns_spec`: the loop run for a number of turns, and its invariant rule;
* `Deadlines`: what the turns and the closing of a deadline process have to do with each other;
* `Deadlines.Settles.map`: what does not touch the process commutes with it;
* **`Deadlines.catch_up`**: working off an earlier deadline first changes nothing.
-/

variable {σ δ : Type*}

/-- The loop `while due { turn }` from `s` ends in `t`. -/
inductive Loops (due : σ → Prop) (turn : σ → σ) : σ → σ → Prop
  | stop {s : σ} (h : ¬due s) : Loops due turn s s
  | again {s t : σ} (h : due s) (rest : Loops due turn (turn s) t) : Loops due turn s t

namespace Loops

variable {due due' : σ → Prop} {turn : σ → σ} {s t u : σ}

theorem not_due (h : Loops due turn s t) : ¬due t := by
  induction h with
  | stop h => exact h
  | again _ _ ih => exact ih

theorem det (h : Loops due turn s t) (h' : Loops due turn s u) : t = u := by
  induction h with
  | stop hs =>
    cases h' with
    | stop => rfl
    | again hdue => exact absurd hdue hs
  | again hs _ ih =>
    cases h' with
    | stop hstop => exact absurd hs hstop
    | again _ hrest => exact ih hrest

/-- A loop with a weaker condition goes on where the stronger one stopped. -/
theorem split (hweak : ∀ s, due s → due' s) (h : Loops due turn s t) (h' : Loops due' turn t u) :
    Loops due' turn s u := by
  induction h with
  | stop => exact h'
  | again hs _ ih => exact .again (hweak _ hs) (ih h')

theorem invariant {P : σ → Prop} (hturn : ∀ s, P s → P (turn s)) (h : Loops due turn s t)
    (hs : P s) : P t := by
  induction h with
  | stop => exact hs
  | again _ _ ih => exact ih (hturn _ hs)

/-- A map that commutes with the turns carries the loop along. -/
theorem map {ρ : Type*} {dueOf : ρ → Prop} {turnOf : ρ → ρ} (f : σ → ρ)
    (hdue : ∀ s, dueOf (f s) ↔ due s) (hturn : ∀ s, turnOf (f s) = f (turn s))
    (h : Loops due turn s t) : Loops dueOf turnOf (f s) (f t) := by
  induction h with
  | stop hs => exact .stop fun hf => hs ((hdue _).mp hf)
  | again hs _ ih => exact .again ((hdue _).mpr hs) ((hturn _).symm ▸ ih)

/-! ### Running a loop -/

/-- The loop, cut off after a number of turns. -/
def turns (due : σ → Bool) (turn : σ → σ) : ℕ → σ → σ
  | 0, s => s
  | n + 1, s => if due s then turns due turn n (turn s) else s

/-- **A loop with a falling rank.**  What every turn keeps holds at the end, and the loop has ended
where the turns suffice for the rank. -/
theorem turns_spec {due : σ → Bool} {turn : σ → σ} (I : σ → Prop) (rank : σ → ℕ)
    (hturn : ∀ s, I s → due s = true → I (turn s) ∧ rank (turn s) < rank s) {n : ℕ} {s : σ}
    (hs : I s) (hn : rank s ≤ n) : I (turns due turn n s) ∧ due (turns due turn n s) = false := by
  induction n generalizing s with
  | zero =>
    refine ⟨hs, Bool.eq_false_iff.mpr fun hdue => ?_⟩
    have := (hturn s hs hdue).2
    omega
  | succ n ih =>
    unfold turns
    by_cases hdue : due s = true
    · rw [if_pos hdue]
      obtain ⟨hkept, hrank⟩ := hturn s hs hdue
      exact ih hkept (by omega)
    · rw [if_neg hdue]
      exact ⟨hs, Bool.eq_false_iff.mpr hdue⟩

end Loops

/-- A process that works off what is due at a deadline, and closes what has ended by then. -/
structure Deadlines (δ σ : Type*) [LE δ] where
  due : δ → σ → Prop
  turn : σ → σ
  close : δ → σ → σ
  due_mono : ∀ {d e : δ} {s : σ}, d ≤ e → due d s → due e s
  due_close : ∀ {d e : δ} {s : σ}, due e (close d s) ↔ due e s
  close_close : ∀ {d e : δ} {s : σ}, d ≤ e → close e (close d s) = close e s
  /-- What was closed at an earlier deadline would have been closed by the turn. -/
  turn_close : ∀ {d e : δ} {s : σ}, due e s → ¬due d s → turn (close d s) = turn s

namespace Deadlines

variable [LE δ] (P : Deadlines δ σ) {d e : δ} {s t u r r' : σ}

/-- The process at deadline `e` takes `s` to `r`. -/
def Settles (e : δ) (s r : σ) : Prop := ∃ t, Loops (P.due e) P.turn s t ∧ r = P.close e t

variable {P}

theorem Settles.det (h : P.Settles e s r) (h' : P.Settles e s r') : r = r' := by
  obtain ⟨t, hloop, rfl⟩ := h
  obtain ⟨t', hloop', rfl⟩ := h'
  rw [hloop.det hloop']

/-- Where nothing is due and nothing to close, the process changes nothing. -/
theorem Settles.idle (hdue : ¬P.due e s) (hclose : P.close e s = s) : P.Settles e s s :=
  ⟨s, .stop hdue, hclose.symm⟩

theorem Settles.not_due (h : P.Settles e s r) : ¬P.due e r := by
  obtain ⟨t, hloop, rfl⟩ := h
  exact fun hdue => hloop.not_due (P.due_close.mp hdue)

theorem Settles.invariant {p : σ → Prop} (hturn : ∀ s, p s → p (P.turn s))
    (hclose : ∀ s, p s → p (P.close e s)) (h : P.Settles e s r) (hs : p s) : p r := by
  obtain ⟨t, hloop, rfl⟩ := h
  exact hclose t (hloop.invariant hturn hs)

/-- A map that commutes with the process carries its result along. -/
theorem Settles.map (f : σ → σ) (hdue : ∀ s, P.due e (f s) ↔ P.due e s)
    (hturn : ∀ s, P.turn (f s) = f (P.turn s)) (hclose : ∀ s, P.close e (f s) = f (P.close e s))
    (h : P.Settles e s r) : P.Settles e (f s) (f r) := by
  obtain ⟨t, hloop, rfl⟩ := h
  exact ⟨f t, hloop.map f hdue hturn, (hclose t).symm⟩

/-- Closing what the turns would close anyway makes no difference. -/
theorem Settles.close (hde : d ≤ e) (hturn : P.due e s → P.turn (P.close d s) = P.turn s)
    (h : P.Settles e s r) : P.Settles e (P.close d s) r := by
  obtain ⟨t, hloop, rfl⟩ := h
  cases hloop with
  | stop hs =>
    exact ⟨P.close d s, .stop fun hdue => hs (P.due_close.mp hdue), (P.close_close hde).symm⟩
  | again hs hrest => exact ⟨t, .again (P.due_close.mpr hs) ((hturn hs).symm ▸ hrest), rfl⟩

/-- **Catching up equals stepping.**  From where the process stands at an earlier deadline it
reaches what it reaches from the start. -/
theorem catch_up (hde : d ≤ e) (hfirst : P.Settles d s t) (htotal : ∀ s, ∃ r, P.Settles e s r)
    (hsecond : P.Settles e t u) (hdirect : P.Settles e s r) : u = r := by
  obtain ⟨mid, hloop, rfl⟩ := hfirst
  obtain ⟨r', hrest⟩ := htotal mid
  obtain ⟨last, hlast, hr'⟩ := hrest
  have hwhole : P.Settles e s r' := ⟨last, hloop.split (fun _ => P.due_mono hde) hlast, hr'⟩
  have hclosed : P.Settles e (P.close d mid) r' :=
    Settles.close hde (fun hdue => P.turn_close hdue hloop.not_due) ⟨last, hlast, hr'⟩
  exact (hsecond.det hclosed).trans (hwhole.det hdirect)

end Deadlines
