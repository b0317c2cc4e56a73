import Mathlib.Tactic

/-!
# Stateful computations that may fail

Sequencing in `EStateM`, read off the runs of the parts. A program that stops at its first failure
is a chain of binds; its run is found one step at a time with `run_bind_ok` and `run_bind_error`,
and a run that is known to have succeeded is taken apart with `exists_of_run_bind_ok`.

`Match` compares two runs over different states: the same outcome, in related states. It is what a
computation and its view of one component of the state have in common.
-/

namespace Outcome

variable {ε σ α β : Type}

/-- The first step succeeded: go on with its value, in the state it left. -/
theorem run_bind_ok {x : EStateM ε σ α} {f : α → EStateM ε σ β} {s s' : σ} {a : α}
    (hx : x.run s = .ok a s') : (x >>= f).run s = (f a).run s' := by
  rw [EStateM.run_bind, hx]

/-- The first step failed: so does the whole, in the state it left. -/
theorem run_bind_error {x : EStateM ε σ α} {f : α → EStateM ε σ β} {s s' : σ} {e : ε}
    (hx : x.run s = .error e s') : (x >>= f).run s = .error e s' := by
  rw [EStateM.run_bind, hx]

theorem run_throw (e : ε) (s : σ) : (throw e : EStateM ε σ α).run s = .error e s := rfl

/-- A successful sequence is a successful first step followed by a successful second one. -/
theorem exists_of_run_bind_ok {x : EStateM ε σ α} {f : α → EStateM ε σ β} {s s'' : σ} {b : β}
    (h : (x >>= f).run s = .ok b s'') :
    ∃ a s', x.run s = .ok a s' ∧ (f a).run s' = .ok b s'' := by
  cases hx : x.run s with
  | ok a s' =>
    rw [run_bind_ok hx] at h
    exact ⟨a, s', rfl, h⟩
  | error e s' =>
    rw [run_bind_error hx] at h
    exact absurd h (by simp)

/-! ### Outcomes as values -/

/-- The outcome of a run, and the state it left, whether it has succeeded or failed. -/
def split : EStateM.Result ε σ α → Except ε α × σ
  | .ok a s => (.ok a, s)
  | .error e s => (.error e, s)

/-- The run with outcome `r` that leaves the state `s`: the inverse of `split`. -/
def ofExcept (r : Except ε α) (s : σ) : EStateM.Result ε σ α :=
  match r with
  | .ok a => .ok a s
  | .error e => .error e s

@[simp] theorem split_ofExcept (r : Except ε α) (s : σ) : split (ofExcept r s) = (r, s) := by
  cases r <;> rfl

theorem eq_ok_of_split {x : EStateM.Result ε σ α} {a : α} {s : σ} (h : split x = (.ok a, s)) :
    x = .ok a s := by
  cases x with
  | ok a' s' =>
    cases h
    rfl
  | error e s' => cases h

theorem eq_error_of_split {x : EStateM.Result ε σ α} {e : ε} {s : σ}
    (h : split x = (.error e, s)) : x = .error e s := by
  cases x with
  | ok a s' => cases h
  | error e' s' =>
    cases h
    rfl

/-! ### Runs over different states -/

/-- Two runs over different states have the same outcome, and leave states that are related. -/
inductive Match {τ : Type} (R : σ → τ → Prop) :
    EStateM.Result ε σ α → EStateM.Result ε τ α → Prop
  | ok (a : α) {s : σ} {t : τ} (h : R s t) : Match R (.ok a s) (.ok a t)
  | error (e : ε) {s : σ} {t : τ} (h : R s t) : Match R (.error e s) (.error e t)

variable {τ : Type} {R : σ → τ → Prop}

theorem Match.ofExcept (r : Except ε α) {s : σ} {t : τ} (h : R s t) :
    Match R (Outcome.ofExcept r s) (Outcome.ofExcept r t) := by
  cases r with
  | ok a => exact .ok a h
  | error e => exact .error e h

/-- Matching runs both succeed, with the same value, or both fail, with the same error. -/
theorem Match.exists {x : EStateM.Result ε σ α} {y : EStateM.Result ε τ α} (h : Match R x y) :
    (∃ a s t, x = .ok a s ∧ y = .ok a t ∧ R s t) ∨
      (∃ e s t, x = .error e s ∧ y = .error e t ∧ R s t) := by
  cases h with
  | ok a h => exact .inl ⟨a, _, _, rfl, rfl, h⟩
  | error e h => exact .inr ⟨e, _, _, rfl, rfl, h⟩

/-- Matching first steps, and matching continuations from wherever they lead. -/
theorem Match.bind {x : EStateM ε σ α} {y : EStateM ε τ α} {f : α → EStateM ε σ β}
    {g : α → EStateM ε τ β} {s : σ} {t : τ} (hx : Match R (x.run s) (y.run t))
    (hf : ∀ a s' t', R s' t' → Match R ((f a).run s') ((g a).run t')) :
    Match R ((x >>= f).run s) ((y >>= g).run t) := by
  -- A failure on either side is one on both, and then neither goes on to its continuation.
  obtain ⟨a, s', t', hs, ht, h⟩ | ⟨e, s', t', hs, ht, h⟩ := hx.exists
  · rw [run_bind_ok hs, run_bind_ok ht]
    exact hf a s' t' h
  · rw [run_bind_error hs, run_bind_error ht]
    exact .error e h

/-- The states of matching runs are related, and their outcomes are equal. -/
theorem Match.split {x : EStateM.Result ε σ α} {y : EStateM.Result ε τ α} (h : Match R x y) :
    (Outcome.split x).1 = (Outcome.split y).1 ∧ R (Outcome.split x).2 (Outcome.split y).2 := by
  cases h with
  | ok a h => exact ⟨rfl, h⟩
  | error e h => exact ⟨rfl, h⟩

end Outcome
