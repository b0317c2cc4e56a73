import Pax.Framework.Outcome

/-!
# Bounded retries

`retryFrom` runs a computation until it succeeds, fails with a final error, or the attempts run out,
when it fails with the last error. It is cut into single attempts (`attemptOnce`), so that several
such loops can be interleaved attempt by attempt.
-/

namespace Retry

variable {ε σ α : Type}

/-- What is left after one attempt: the loop stops with a result, or it goes on with the error at
hand. -/
inductive Verdict (ε α : Type) where
  /-- The loop is over. -/
  | stop (result : Except ε α)
  /-- It goes on, after a failure that may be retried. -/
  | again (e : ε)
  deriving DecidableEq, Repr

/-- One attempt of the loop, from the state `s`: run the body and look at what it came to. -/
def attemptOnce (body : EStateM ε σ α) (isFinal : ε → Bool) (s : σ) : Verdict ε α × σ :=
  match body.run s with
  | .ok a s' => (.stop (.ok a), s')
  | .error e s' => if isFinal e then (.stop (.error e), s') else (.again e, s')

/-- Attempt up to `left` more times, `made` attempts having been made; the value of a success comes
with the number of attempts it took. `last` is the error if there is no attempt left. -/
def retryFrom (body : EStateM ε σ α) (isFinal : ε → Bool) (made : ℕ) :
    (left : ℕ) → (last : ε) → EStateM ε σ (α × ℕ)
  | 0, last => throw last
  | left + 1, _ => fun s =>
    match attemptOnce body isFinal s with
    | (.stop (.ok a), s') => .ok (a, made + 1) s'
    | (.stop (.error e), s') => .error e s'
    | (.again e, s') => retryFrom body isFinal (made + 1) left e s'

variable {body : EStateM ε σ α} {isFinal : ε → Bool}

variable (isFinal) in
/-- An attempt leaves the state that its body leaves, whatever it came to. -/
theorem attemptOnce_snd (s : σ) :
    (attemptOnce body isFinal s).2 = (Outcome.split (body.run s)).2 := by
  rw [attemptOnce]
  cases body.run s with
  | ok a s' => rfl
  | error e s' => by_cases h : isFinal e <;> simp [h, Outcome.split]

theorem run_retryFrom_succ (made left : ℕ) (last : ε) (s : σ) :
    (retryFrom body isFinal made (left + 1) last).run s
      = match attemptOnce body isFinal s with
        | (.stop (.ok a), s') => .ok (a, made + 1) s'
        | (.stop (.error e), s') => .error e s'
        | (.again e, s') => (retryFrom body isFinal (made + 1) left e).run s' := rfl

/-- With an attempt left, the error given for the case that there is none does not matter. -/
theorem run_retryFrom_last (made left : ℕ) (last last' : ε) (s : σ) :
    (retryFrom body isFinal made (left + 1) last).run s
      = (retryFrom body isFinal made (left + 1) last').run s := rfl

/-- What grows with every attempt has grown, if there was an attempt. -/
theorem add_min_le_retryFrom {m : σ → ℕ} (hbody : ∀ s, m s < m (Outcome.split (body.run s)).2)
    (made left : ℕ) (last : ε) (s : σ) :
    m s + min left 1 ≤ m (Outcome.split ((retryFrom body isFinal made left last).run s)).2 := by
  induction left generalizing made last s with
  | zero => exact Nat.le_refl (m s)
  | succ left ih =>
    have hgrown := hbody s
    rw [← attemptOnce_snd isFinal] at hgrown
    rw [run_retryFrom_succ]
    cases hattempt : attemptOnce body isFinal s with
    | mk verdict s' =>
      rw [hattempt] at hgrown
      change m s < m s' at hgrown
      -- One attempt alone adds as much as is to be shown, and those that follow take nothing away.
      have hgoal : m s + min (left + 1) 1 ≤ m s' := by omega
      cases verdict with
      | stop result =>
        cases result with
        | ok a => exact hgoal
        | error e => exact hgoal
      | again e => exact hgoal.trans ((Nat.le_add_right _ _).trans (ih (made + 1) e s'))

/-! ### Attempts that run a script -/

/-- The `n`-th attempt goes as `script n` says. The state is the number of attempts made. -/
def scripted (script : ℕ → Except ε α) : EStateM ε ℕ α :=
  fun n => Outcome.ofExcept (script n) (n + 1)

/-- Loops over different states match if their attempts do: the same number of attempts, with the
same outcome in the end. -/
theorem match_retryFrom {τ : Type} {R : σ → τ → Prop} {body' : EStateM ε τ α}
    (hbody : ∀ s t, R s t → Outcome.Match R (body.run s) (body'.run t)) (made left : ℕ) (last : ε)
    (s : σ) (t : τ) (h : R s t) :
    Outcome.Match R ((retryFrom body isFinal made left last).run s)
      ((retryFrom body' isFinal made left last).run t) := by
  -- Induction on the attempts left; the states stay related, whatever an attempt comes to.
  induction left generalizing made last s t with
  | zero => exact .error last h
  | succ left ih =>
    rw [run_retryFrom_succ, run_retryFrom_succ]
    simp only [attemptOnce]
    obtain ⟨a, s', t', hs, ht, h'⟩ | ⟨e, s', t', hs, ht, h'⟩ := (hbody s t h).exists
    · rw [hs, ht]
      exact .ok _ h'
    · rw [hs, ht]
      -- The two loops fail with one error, so they agree on whether it may be retried.
      by_cases hfinal : isFinal e
      · simp only [hfinal, if_true]
        exact .error e h'
      · simp only [hfinal]
        exact ih _ _ _ _ h'

end Retry
