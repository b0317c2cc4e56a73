import Pax.Framework.Pool

/-!
# Programs that are indifferent to their replies

A relation `same` says which replies to a call a program shall not tell apart. A program is
*indifferent* if it goes on in the same way after replies that are the same. Where the answers of a
handler are the same and its state is, pools of indifferent programs go through the same states, in
lockstep (`run_of_indifferent`): what they return and what they leave in the state does not depend
on what the replies differ in.
-/

namespace Program

variable {I J : Interface} {α β : Type} {same : (c : I.Call) → I.Reply c → I.Reply c → Prop}

/-- Replies that are the same are followed by the same program. -/
def Indifferent (same : (c : I.Call) → I.Reply c → I.Reply c → Prop) : Program I α → Prop
  | .done _ => True
  | .ask c next => ∀ r, (next r).Indifferent same ∧ ∀ r', same c r r' → next r = next r'

variable {p : Program I α}

theorem Indifferent.bind {f : α → Program I β} (hp : p.Indifferent same)
    (hf : ∀ a, (f a).Indifferent same) : (p >>= f).Indifferent same := by
  induction p with
  | done a => exact hf a
  | ask c next ih =>
    intro r
    exact ⟨ih r (hp r).1, fun r' hsame => congrArg (fun q => q >>= f) ((hp r).2 r' hsame)⟩

/-- A call whose replies are only the same if they are equal. -/
theorem indifferent_ask {c : I.Call} {next : I.Reply c → Program I α}
    (hc : ∀ r r', same c r r' → r = r') (hnext : ∀ r, (next r).Indifferent same) :
    (Program.ask c next).Indifferent same := by
  intro r
  refine ⟨hnext r, fun r' hsame => ?_⟩
  rw [hc r r' hsame]

/-- **Any program over indifferent ones** is indifferent, whatever it does with what they return. -/
theorem Indifferent.interpret {f : (c : J.Call) → Program I (J.Reply c)}
    (hf : ∀ c, (f c).Indifferent same) (p : Program J α) : (p.interpret f).Indifferent same := by
  induction p with
  | done a => trivial
  | ask c next ih => exact (hf c).bind ih

/-- Programs whose calls are made alike are interpreted alike. -/
theorem interpret_congr {f g : (c : J.Call) → Program I (J.Reply c)} (h : ∀ c, f c = g c)
    (p : Program J α) : p.interpret f = p.interpret g := by
  rw [show f = g from funext h]

theorem interpret_bind (f : (c : J.Call) → Program I (J.Reply c)) (p : Program J α)
    (g : α → Program J β) :
    (p >>= g).interpret f = p.interpret f >>= fun a => (g a).interpret f := by
  induction p with
  | done a => rfl
  | ask c next ih =>
    rw [ask_bind, Program.interpret, Program.interpret, bind_assoc']
    congr 1
    funext r
    exact ih r

end Program

namespace Pool

variable {I : Interface} {Ω σ ι : Type} {α : ι → Type} [DecidableEq ι] {H : Handler I Ω σ}
  {same : (c : I.Call) → I.Reply c → I.Reply c → Prop} {alike : Ω → Ω → Prop}

/-- The pools are in the same state. What the tasks were replied so far can be different. -/
structure Agree (w w' : Pool I σ α) : Prop where
  shared : w.shared = w'.shared
  task : w.task = w'.task

/-- The tasks are the same that take steps, and the environment's choices are alike. -/
def Alike (alike : Ω → Ω → Prop) : List (ι × Ω) → List (ι × Ω) → Prop :=
  List.Forall₂ fun step step' => step.1 = step'.1 ∧ alike step.2 step'.2

/-- **One step of two pools**, answered by choices that are alike. -/
theorem Agree.step (hH : ∀ c ω ω' s, alike ω ω' →
      same c (H c ω s).1 (H c ω' s).1 ∧ (H c ω s).2 = (H c ω' s).2)
    {w₁ w₂ w₁' : Pool I σ α} {i : ι} {ω ω' : Ω} (hagree : w₁.Agree w₂)
    (htasks : ∀ i, (w₁.task i).Indifferent same) (halike : alike ω ω')
    (hstep : (system H).next w₁ (i, ω) = some w₁') :
    (∀ j, (w₁'.task j).Indifferent same) ∧
      ∃ w₂', (system H).next w₂ (i, ω') = some w₂' ∧ w₁'.Agree w₂' := by
  obtain ⟨c, next, htask, rfl⟩ := next_eq_some.mp hstep
  have hindifferent := htasks i
  rw [htask] at hindifferent
  obtain ⟨hsame, hstate⟩ := hH c ω ω' w₁.shared halike
  have hnext := (hindifferent (H c ω w₁.shared).1).2 _ hsame
  -- What is left of the task is indifferent to the replies that come later.
  constructor
  · intro j
    by_cases hj : j = i
    · subst hj
      dsimp only
      rw [Function.update_self]
      exact (hindifferent _).1
    · dsimp only
      rw [Function.update_of_ne hj]
      exact htasks j
  -- The other pool takes the step as well, with a reply that is not told apart.
  · refine ⟨_, next_eq_some.mpr ⟨c, next, hagree.task ▸ htask, rfl⟩, ?_, ?_⟩
    · rw [← hagree.shared]
      exact hstate
    · rw [← hagree.shared, ← hagree.task, hnext]

/-- **Two pools of indifferent programs run in lockstep.** If the handler answers alike from the
same state, then to each run of the one there is a run of the other with the same tasks at the
same steps, and they end in the same state. -/
theorem run_of_indifferent (hH : ∀ c ω ω' s, alike ω ω' →
      same c (H c ω s).1 (H c ω' s).1 ∧ (H c ω s).2 = (H c ω' s).2)
    {w₁ w₂ w₁' : Pool I σ α} {steps steps' : List (ι × Ω)} (hagree : w₁.Agree w₂)
    (htasks : ∀ i, (w₁.task i).Indifferent same) (halike : Alike alike steps steps')
    (hrun : (system H).Run w₁ steps w₁') :
    ∃ w₂', (system H).Run w₂ steps' w₂' ∧ w₁'.Agree w₂' := by
  -- On the choices, two by two; the step lemma carries the agreement on.
  induction halike generalizing w₁ w₂ with
  | nil =>
    obtain rfl := Lts.run_nil.mp hrun
    exact ⟨w₂, .nil w₂, hagree⟩
  | cons hfirst _ ih =>
    obtain ⟨w, hstep, hrest⟩ := Lts.run_cons.mp hrun
    obtain ⟨htasks', v, hstep', hagree'⟩ := hagree.step hH htasks hfirst.2 hstep
    rw [hfirst.1] at hstep'
    obtain ⟨v', hrun', hlast⟩ := ih hagree' htasks' hrest
    exact ⟨v', .cons hstep' hrun', hlast⟩

end Pool
