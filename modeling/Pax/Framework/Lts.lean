import Mathlib.Data.List.Basic

/-!
# Labelled steps and their runs

A system is a partial step function: `next s a` is the state after the step `a`, or `none` where `a`
cannot be taken. A run is a list of steps. `Meets ok` says of a run that each of its steps satisfies
a condition `ok` on the step and on the state before it, and the invariant rules come with such a
condition.
-/

/-- A system with states `σ` and steps `α`. A step that cannot be taken leads nowhere. -/
structure Lts (σ α : Type*) where
  next : σ → α → Option σ

namespace Lts

variable {σ α : Type*} (L : Lts σ α)

/-- Take the steps in order, from the state `s`; none is left out. -/
def exec (s : σ) : List α → Option σ
  | [] => some s
  | a :: as => (L.next s a).bind fun s' => exec s' as

/-- The steps `as` can be taken from `s`, and lead to `s'`. -/
def Run (s : σ) (as : List α) (s' : σ) : Prop := L.exec s as = some s'

/-- Each of the steps `as`, taken from `s`, satisfies `ok` where it is taken. -/
def Meets (ok : σ → α → Prop) (s : σ) : List α → Prop
  | [] => True
  | a :: as => ok s a ∧ ∀ s' ∈ L.next s a, Meets ok s' as

instance [DecidableEq σ] (s : σ) (as : List α) (s' : σ) : Decidable (L.Run s as s') :=
  inferInstanceAs (Decidable (_ = _))

/-- Whether a run meets a condition can be computed if the condition can. -/
def decideMeets (ok : σ → α → Prop) [∀ s a, Decidable (ok s a)] (s : σ) :
    (as : List α) → Decidable (L.Meets ok s as)
  | [] => isTrue trivial
  | a :: as =>
    match hnext : L.next s a with
    | none => decidable_of_iff (ok s a) (by simp [Meets, hnext])
    | some s' =>
      have := decideMeets ok s' as
      decidable_of_iff (ok s a ∧ L.Meets ok s' as) (by simp [Meets, hnext])

instance (ok : σ → α → Prop) [∀ s a, Decidable (ok s a)] (s : σ) (as : List α) :
    Decidable (L.Meets ok s as) := decideMeets L ok s as

variable {L} {ok : σ → α → Prop} {s s' s'' : σ} {a : α} {as bs : List α}

@[simp] theorem run_nil : L.Run s [] s' ↔ s = s' := by simp [Run, exec]

theorem run_cons : L.Run s (a :: as) s'' ↔ ∃ s', L.next s a = some s' ∧ L.Run s' as s'' := by
  simp [Run, exec, Option.bind_eq_some_iff]

theorem Run.nil (s : σ) : L.Run s [] s := run_nil.mpr rfl

theorem Run.cons (hstep : L.next s a = some s') (h : L.Run s' as s'') : L.Run s (a :: as) s'' :=
  run_cons.mpr ⟨s', hstep, h⟩

theorem run_append : L.Run s (as ++ bs) s'' ↔ ∃ s', L.Run s as s' ∧ L.Run s' bs s'' := by
  induction as generalizing s with
  | nil => simp
  | cons a as ih =>
    rw [List.cons_append, run_cons]
    simp only [ih, run_cons]
    constructor
    · rintro ⟨s₁, hstep, s', hfirst, hsecond⟩
      exact ⟨s', ⟨s₁, hstep, hfirst⟩, hsecond⟩
    · rintro ⟨s', ⟨s₁, hstep, hfirst⟩, hsecond⟩
      exact ⟨s₁, hstep, s', hfirst, hsecond⟩

theorem Run.append (hfirst : L.Run s as s') (hsecond : L.Run s' bs s'') : L.Run s (as ++ bs) s'' :=
  run_append.mpr ⟨s', hfirst, hsecond⟩

/-- A run that is computed: it is enough to know of the state it leads to what a test can tell. -/
theorem exists_run_of_any {p : σ → Bool} (h : (L.exec s as).any p = true) :
    ∃ s', L.Run s as s' ∧ p s' = true :=
  (Option.any_eq_true p _).mp h

/-! ### Invariants -/

/-- **The invariant rule, under a condition on the steps.** What holds at first, and is kept by
each step that meets the condition, holds after every run whose steps meet it. -/
theorem Run.invariant_of_meets {I : σ → Prop}
    (hstep : ∀ s a s', I s → ok s a → L.next s a = some s' → I s')
    (h : L.Run s as s') (hok : L.Meets ok s as) (hinit : I s) : I s' := by
  induction as generalizing s with
  | nil => exact run_nil.mp h ▸ hinit
  | cons a as ih =>
    -- the condition holds at the first step, and along the rest from the state it leads to
    obtain ⟨s₁, hnext, hrest⟩ := run_cons.mp h
    exact ih hrest (hok.2 s₁ hnext) (hstep s a s₁ hinit hok.1 hnext)

theorem meets_true (s : σ) (as : List α) : L.Meets (fun _ _ => True) s as := by
  induction as generalizing s with
  | nil => trivial
  | cons a as ih => exact ⟨trivial, fun s' _ => ih s'⟩

/-- **The invariant rule**, for all steps: what holds at first, and is kept by each step, holds
after every run. -/
theorem Run.invariant {I : σ → Prop} (hstep : ∀ s a s', I s → L.next s a = some s' → I s')
    (h : L.Run s as s') (hinit : I s) : I s' :=
  h.invariant_of_meets (fun s a s' hs _ => hstep s a s' hs) (meets_true s as) hinit

/-- An invariant of a state and of the steps that have led to it. -/
theorem Run.history {P : List α → σ → Prop} (h : L.Run s as s') (hinit : P [] s)
    (hstep : ∀ before s a s', P before s → L.next s a = some s' → P (before ++ [a]) s') :
    P as s' := by
  -- For a run that goes on from some labels already taken.
  have hfrom : ∀ before, P before s → P (before ++ as) s' := by
    clear hinit
    induction as generalizing s with
    | nil =>
      intro before hbefore
      rw [List.append_nil]
      exact run_nil.mp h ▸ hbefore
    | cons a as ih =>
      intro before hbefore
      obtain ⟨s₁, hnext, hrest⟩ := run_cons.mp h
      have hlater := ih hrest (before ++ [a]) (hstep before s a s₁ hbefore hnext)
      rwa [List.append_assoc] at hlater
  exact hfrom [] hinit

theorem Meets.mono {ok' : σ → α → Prop} (h : L.Meets ok s as) (himp : ∀ s a, ok s a → ok' s a) :
    L.Meets ok' s as := by
  induction as generalizing s with
  | nil => trivial
  | cons a as ih => exact ⟨himp s a h.1, fun s' hnext => ih (h.2 s' hnext)⟩

/-- A condition that an invariant gives is met along every run. -/
theorem meets_of_invariant {I : σ → Prop} (hok : ∀ s a, I s → ok s a)
    (hstep : ∀ s a s', I s → L.next s a = some s' → I s') (hinit : I s) : L.Meets ok s as := by
  induction as generalizing s with
  | nil => trivial
  | cons a as ih => exact ⟨hok s a hinit, fun s' hnext => ih (hstep s a s' hinit hnext)⟩

/-- A condition that follows from another one, given what all steps have and all states. -/
theorem Meets.mono_of_invariant {ok' : σ → α → Prop} {I : σ → Prop} {Q : α → Prop}
    (hok : ∀ s a, I s → Q a → ok s a → ok' s a)
    (hstep : ∀ s a s', I s → Q a → ok s a → L.next s a = some s' → I s')
    (hQ : ∀ a ∈ as, Q a) (hinit : I s) (h : L.Meets ok s as) : L.Meets ok' s as := by
  induction as generalizing s with
  | nil => trivial
  | cons a as ih =>
    have hQa := hQ a List.mem_cons_self
    refine ⟨hok s a hinit hQa h.1, fun s' hnext => ?_⟩
    exact ih (fun b hb => hQ b (List.mem_cons_of_mem a hb)) (hstep s a s' hinit hQa h.1 hnext)
      (h.2 s' hnext)

/-- A run that does not meet a condition has a first part, a step that fails it, and a rest. -/
theorem Run.exists_not_ok (h : L.Run s as s'') (hnot : ¬ L.Meets ok s as) :
    ∃ as₁ s₁ a s₂ as₂, as = as₁ ++ a :: as₂ ∧ L.Run s as₁ s₁ ∧ ¬ ok s₁ a ∧
      L.next s₁ a = some s₂ ∧ L.Run s₂ as₂ s'' := by
  induction as generalizing s with
  | nil => exact absurd trivial hnot
  | cons a as ih =>
    obtain ⟨s₁, hnext, hrest⟩ := run_cons.mp h
    -- either the first step fails the condition, or the failing step is in the rest
    by_cases hok : ok s a
    · have hlater : ¬ L.Meets ok s₁ as := fun hmeets =>
        hnot ⟨hok, fun s' hs' => Option.some.inj (hnext.symm.trans hs') ▸ hmeets⟩
      obtain ⟨as₁, t, b, s₂, as₂, rfl, hfirst, hbad, hbnext, hlast⟩ := ih hrest hlater
      exact ⟨a :: as₁, t, b, s₂, as₂, rfl, .cons hnext hfirst, hbad, hbnext, hlast⟩
    · exact ⟨[], s, a, s₁, as, rfl, .nil s, hok, hnext, hrest⟩

/-! ### Properties of all states of a run -/

/-- The property holds in every state that the run comes through, the last one included. -/
def Throughout (L : Lts σ α) (P : σ → Prop) (s : σ) (as : List α) : Prop :=
  ∀ before after s', as = before ++ after → L.Run s before s' → P s'

theorem throughout_cons {P : σ → Prop} (hnext : L.next s a = some s') :
    L.Throughout P s (a :: as) ↔ P s ∧ L.Throughout P s' as := by
  constructor
  -- A run from the second state is one from the first with the step in front.
  · intro h
    refine ⟨h [] (a :: as) s rfl (.nil s), ?_⟩
    rintro before after t rfl hrun
    exact h (a :: before) after t rfl (.cons hnext hrun)
  -- And a run from the first state has taken no step, or that one first.
  · rintro ⟨hs, h⟩ before after t heq hrun
    cases before with
    | nil => exact run_nil.mp hrun ▸ hs
    | cons b before =>
      obtain ⟨rfl, rfl⟩ := List.cons.inj heq
      obtain ⟨s₁, hstep, hrest⟩ := run_cons.mp hrun
      obtain rfl := Option.some.inj (hnext.symm.trans hstep)
      exact h before after t rfl hrest

/-- **When a property holds all along a run**: if the steps that meet a condition keep it and all
others break it, then it does if and only if every step meets the condition. `J` is what is known of
all states. -/
theorem Run.throughout_iff_meets {J P : σ → Prop}
    (hinv : ∀ s a s', J s → L.next s a = some s' → J s')
    (hkeep : ∀ s a s', J s → P s → ok s a → L.next s a = some s' → P s')
    (hbreak : ∀ s a s', J s → ¬ ok s a → L.next s a = some s' → ¬ P s')
    (h : L.Run s as s') (hJ : J s) (hP : P s) : L.Throughout P s as ↔ L.Meets ok s as := by
  induction as generalizing s with
  | nil =>
    refine iff_of_true ?_ trivial
    intro before after t heq hrun
    obtain ⟨rfl, rfl⟩ := List.append_eq_nil_iff.mp heq.symm
    exact run_nil.mp hrun ▸ hP
  | cons a as ih =>
    obtain ⟨s₁, hnext, hrest⟩ := run_cons.mp h
    have hJ' := hinv s a s₁ hJ hnext
    rw [throughout_cons hnext, and_iff_right hP]
    -- A step that meets the condition keeps the property; one that does not breaks it at once.
    by_cases hok : ok s a
    · have hlater := ih hrest hJ' (hkeep s a s₁ hJ hP hok hnext)
      constructor
      · intro hall
        exact ⟨hok, fun t ht => Option.some.inj (hnext.symm.trans ht) ▸ hlater.mp hall⟩
      · rintro ⟨-, hmeets⟩
        exact hlater.mpr (hmeets s₁ hnext)
    · refine iff_of_false ?_ fun hmeets => hok hmeets.1
      intro hall
      exact hbreak s a s₁ hJ hok hnext (hall [] as s₁ rfl (.nil s₁))

end Lts
