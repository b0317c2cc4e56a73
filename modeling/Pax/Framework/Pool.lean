import Mathlib.Algebra.BigOperators.Group.List.Basic
import Mathlib.Algebra.Ring.Nat
import Mathlib.Data.List.Induction
import Pax.Framework.Program

/-!
# Programs that share a state

A `Handler` answers the calls of an interface from a shared state, and by a choice of the
environment. A `Pool` runs any number of programs over it, the tasks, whose calls are atomic and are
interleaved in any order. It keeps the trace of all exchanges, each with the task that made it.

This is the form that every run in this development has: the operations of a backend that is shared
by several callers, the refreshes of a resolver, the sessions of a client. A step is one call of one
task, so that everything else may happen between two calls, and nothing within one.

## What is known of a run

Two facts about a run carry all others (`Pool.Reached`).

* The trace as a whole is what the handler answers from the start state (`Served`), so that
  invariants of the shared state are proved without a look at the tasks (`Served.invariant`).
* What a task did itself, `own w.trace i`, is a path of its own program, so that what it does is
  proved without a look at the state.

Quantities that add up over the exchanges are compared task by task (`rel_sum_of_own`).

## Runs that there are

The state in which a task begins is `BeginsIn`. A task can always be run to its end while the others
stay where they are (`exists_run_done`), which is how runs are made that a counterexample needs.
-/

/-- How the calls are answered: from a shared state of `σ` and a choice of the environment, which
is of `Ω`, come the reply and the state after the call. -/
abbrev Handler (I : Interface) (Ω σ : Type) := (c : I.Call) → Ω → σ → I.Reply c × σ

section Served

variable {I : Interface} {Ω σ : Type} {H : Handler I Ω σ}
  {s s' s'' : σ} {es es' : List (Exchange I)}

/-- The handler may answer as in `es` from the state `s`, and leave `s'`. -/
inductive Served (H : Handler I Ω σ) : σ → List (Exchange I) → σ → Prop
  | nil (s : σ) : Served H s [] s
  | snoc {s s' : σ} {es : List (Exchange I)} (h : Served H s es s') (c : I.Call) (ω : Ω) :
    Served H s (es ++ [⟨c, (H c ω s').1⟩]) (H c ω s').2

namespace Served

theorem eq_of_nil (h : Served H s [] s') : s' = s := by
  generalize hnil : [] = es at h
  cases h with
  | nil => rfl
  | snoc h c ω => exact absurd hnil.symm (List.append_ne_nil_of_right_ne_nil _ (by simp))

/-- **The invariant rule for what a handler answered.** -/
theorem invariant {P : List (Exchange I) → σ → Prop} (h : Served H s es s') (hinit : P [] s)
    (hstep : ∀ es s c ω, P es s → P (es ++ [⟨c, (H c ω s).1⟩]) (H c ω s).2) : P es s' := by
  induction h with
  | nil => exact hinit
  | snoc h c ω ih => exact hstep _ _ c ω ih

/-- Every exchange is one the handler may have in some state. -/
theorem answered (h : Served H s es s') : ∀ e ∈ es, ∃ s₁ ω, (H e.call ω s₁).1 = e.reply := by
  refine h.invariant (P := fun es _ => ∀ e ∈ es, ∃ s₁ ω, (H e.call ω s₁).1 = e.reply)
    (fun e he => absurd he List.not_mem_nil) fun es s c ω ih e he => ?_
  rcases List.mem_append.mp he with he | he
  · exact ih e he
  · obtain rfl := List.mem_singleton.mp he
    exact ⟨s, ω, rfl⟩

theorem append (hfirst : Served H s es s') (hsecond : Served H s' es' s'') :
    Served H s (es ++ es') s'' := by
  induction hsecond with
  | nil => rwa [List.append_nil]
  | snoc h c ω ih =>
    rw [← List.append_assoc]
    exact .snoc ih c ω

/-- Up to any point the answers are those of a state reached there. -/
theorem split (h : Served H s (es ++ es') s'') : ∃ s', Served H s es s' ∧ Served H s' es' s'' := by
  generalize hall : es ++ es' = all at h
  induction h generalizing es' with
  | nil =>
    obtain ⟨rfl, rfl⟩ := List.append_eq_nil_iff.mp hall
    exact ⟨_, .nil _, .nil _⟩
  | snoc h c ω ih =>
    -- the last answer is the last of the second part, unless that is empty
    rcases List.eq_nil_or_concat es' with rfl | ⟨init, e, rfl⟩
    · rw [List.append_nil] at hall
      subst hall
      exact ⟨_, .snoc h c ω, .nil _⟩
    · rw [List.concat_eq_append, ← List.append_assoc] at hall
      obtain ⟨hinit, he⟩ := List.append_inj' hall rfl
      obtain ⟨s', hfirst, hsecond⟩ := ih hinit
      rw [List.singleton_inj] at he
      subst he
      exact ⟨s', hfirst, List.concat_eq_append ▸ .snoc hsecond c ω⟩

/-- An exchange of the whole, answered in the state reached before it. -/
theorem at_exchange {e : Exchange I} (h : Served H s (es ++ e :: es') s'') :
    ∃ s' ω, Served H s es s' ∧ (H e.call ω s').1 = e.reply ∧
      Served H (H e.call ω s').2 es' s'' := by
  obtain ⟨s₁, hfirst, hrest⟩ := h.split
  have hfirstOfRest : Served H s₁ ([e] ++ es') s'' := hrest
  obtain ⟨s₂, hone, hlast⟩ := hfirstOfRest.split
  generalize hlist : [e] = l at hone
  -- The one exchange in the middle is one step of the server.
  cases hone with
  | nil => cases hlist
  | snoc hnone c ω =>
    rw [← List.nil_append [e]] at hlist
    obtain ⟨rfl, he⟩ := List.append_inj' hlist rfl
    obtain rfl := List.singleton_inj.mp he
    obtain rfl := hnone.eq_of_nil
    exact ⟨_, ω, hfirst, rfl, hlast⟩

/-- The first exchange is answered in the state before all of them, and the others from the state
that it leaves. -/
theorem of_cons {e : Exchange I} (h : Served H s (e :: es) s') :
    ∃ ω, (H e.call ω s).1 = e.reply ∧ Served H (H e.call ω s).2 es s' := by
  rw [← List.nil_append (e :: es)] at h
  obtain ⟨s₁, ω, hbefore, hreply, hafter⟩ := h.at_exchange
  obtain rfl := hbefore.eq_of_nil
  exact ⟨ω, hreply, hafter⟩

theorem cons {c : I.Call} {ω : Ω} (h : Served H (H c ω s).2 es s') :
    Served H s (⟨c, (H c ω s).1⟩ :: es) s' :=
  Served.append (.snoc (.nil s) c ω) h

end Served

/-- Each program returns, whatever state it is answered from. -/
theorem exists_served_returns [Nonempty Ω] (H : Handler I Ω σ) {α : Type} (p : Program I α)
    (s : σ) :
    ∃ es a s', Program.Returns p es a ∧ Served H s es s' := by
  induction p generalizing s with
  | done a => exact ⟨[], a, s, .nil _, .nil s⟩
  | ask c next ih =>
    obtain ⟨ω⟩ := ‹Nonempty Ω›
    obtain ⟨es, a, s', hreturns, hserved⟩ := ih (H c ω s).1 (H c ω s).2
    exact ⟨⟨c, (H c ω s).1⟩ :: es, a, s', .cons _ hreturns, hserved.cons⟩

/-- What was answered to one call is what the handler says for some choice of the environment,
and so is the state it has left. -/
theorem Served.of_singleton {c : I.Call} {reply : I.Reply c} (h : Served H s [⟨c, reply⟩] s') :
    ∃ ω, (H c ω s).1 = reply ∧ s' = (H c ω s).2 := by
  obtain ⟨ω, hreply, hafter⟩ := h.of_cons
  exact ⟨ω, hreply, hafter.eq_of_nil⟩

end Served

/-! ### Pools -/

/-- The tasks, what is left of each, over a shared state; and the trace of what they did. -/
structure Pool (I : Interface) (σ : Type) {ι : Type} (α : ι → Type) where
  shared : σ
  task : (i : ι) → Program I (α i)
  trace : List (ι × Exchange I)

/-- What a task did: its own exchanges, in their order, out of a trace of all tasks. -/
def own {ι ε : Type} [DecidableEq ι] (trace : List (ι × ε)) (i : ι) : List ε :=
  (trace.filter fun p => p.1 = i).map Prod.snd

section Own

variable {ι ε : Type} [DecidableEq ι] {trace : List (ι × ε)} {i j : ι} {e : ε}

@[simp] theorem own_nil : own ([] : List (ι × ε)) i = [] := rfl

theorem own_append (first second : List (ι × ε)) (i : ι) :
    own (first ++ second) i = own first i ++ own second i := by
  rw [own, List.filter_append, List.map_append]
  rfl

theorem own_concat_self : own (trace ++ [(i, e)]) i = own trace i ++ [e] := by
  rw [own_append]
  simp [own]

theorem own_concat_of_ne (h : j ≠ i) : own (trace ++ [(i, e)]) j = own trace j := by
  rw [own_append]
  simp [own, h.symm]

theorem mem_own : e ∈ own trace i ↔ (i, e) ∈ trace := by
  simp [own]

/-- If all entries of a trace are of one task, then they are what this task did. -/
@[simp] theorem own_map_mk (es : List ε) : own (es.map (Prod.mk i)) i = es := by
  induction es with
  | nil => rfl
  | cons e es ih => simpa [own] using ih

/-- What is read off the entries of a trace and kept with the task is, of each task, what is read
off its own entries. -/
theorem own_filterMap {β : Type} (f : ε → Option β) (trace : List (ι × ε)) (i : ι) :
    own (trace.filterMap fun p => (f p.2).map (Prod.mk p.1)) i = (own trace i).filterMap f := by
  induction trace using List.reverseRecOn with
  | nil => rfl
  | append_singleton trace p ih =>
    obtain ⟨j, e⟩ := p
    rw [List.filterMap_append, own_append, own_append, List.filterMap_append, ih]
    cases hf : f e with
    | none => by_cases hj : j = i <;> simp [own, hf, hj]
    | some b => by_cases hj : j = i <;> simp [own, hf, hj]

theorem own_filter_self : own (trace.filter fun p => p.1 ≠ i) i = [] := by
  simp [own, List.filter_filter]

theorem own_filter_of_ne (h : j ≠ i) : own (trace.filter fun p => p.1 ≠ i) j = own trace j := by
  rw [own, own, List.filter_filter]
  congr 2
  funext p
  by_cases hp : p.1 = j <;> simp [hp, h]

/-- **Task by task.** A relation between sums that is kept by addition holds over a trace if it
holds over what each task did. -/
theorem rel_sum_of_own {M : Type*} [AddCommMonoid M] {R : M → M → Prop} (hzero : R 0 0)
    (hadd : ∀ a b c d, R a b → R c d → R (a + c) (b + d)) {f g : ε → M}
    (h : ∀ i, R ((own trace i).map f).sum ((own trace i).map g).sum) :
    R ((trace.map Prod.snd).map f).sum ((trace.map Prod.snd).map g).sum := by
  -- Induction on the length: take the task of the first entry out, with all that it did.
  induction hn : trace.length using Nat.strongRecOn generalizing trace with
  | ind n ih =>
    cases trace with
    | nil => exact hzero
    | cons p rest =>
      set trace := p :: rest with htrace
      -- The sum is that of the task and that of all the others.
      have hsplit (f : ε → M) : ((trace.map Prod.snd).map f).sum
          = ((own trace p.1).map f).sum
            + (((trace.filter fun q => q.1 ≠ p.1).map Prod.snd).map f).sum := by
        have hperm := List.filter_append_perm (fun q : ι × ε => decide (q.1 = p.1)) trace
        rw [← ((hperm.map Prod.snd).map f).sum_eq, List.map_append, List.map_append,
          List.sum_append, own]
        simp only [decide_not]
      have hshorter : (trace.filter fun q => q.1 ≠ p.1).length < n := by
        rw [← hn]
        apply List.length_filter_lt_length_iff_exists.mpr
        exact ⟨p, List.mem_cons_self, by simp⟩
      rw [hsplit f, hsplit g]
      refine hadd _ _ _ _ (h p.1) (ih _ hshorter ?_ rfl)
      intro j
      -- What is left of the trace has nothing of that task, and of the others what it had.
      by_cases hj : j = p.1
      · subst hj
        rw [own_filter_self]
        exact hzero
      · rw [own_filter_of_ne hj]
        exact h j

/-- If nothing is read off a list twice, then two entries off which the same is read are one and
the same. -/
theorem eq_of_nodup_filterMap {β γ : Type} {f : β → Option γ} {l : List β}
    (h : (l.filterMap f).Nodup) {a b : β} {c : γ} (ha : a ∈ l) (hb : b ∈ l) (hfa : f a = some c)
    (hfb : f b = some c) : a = b := by
  induction l with
  | nil => exact absurd ha List.not_mem_nil
  | cons x l ih =>
    rcases List.mem_cons.mp ha with rfl | hal <;> rcases List.mem_cons.mp hb with rfl | hbl
    · rfl
    · rw [List.filterMap_cons_some hfa] at h
      exact absurd (List.mem_filterMap.mpr ⟨b, hbl, hfb⟩) (List.nodup_cons.mp h).1
    · rw [List.filterMap_cons_some hfb] at h
      exact absurd (List.mem_filterMap.mpr ⟨a, hal, hfa⟩) (List.nodup_cons.mp h).1
    · refine ih (h.sublist ?_) hal hbl
      exact (List.sublist_cons_self x l).filterMap f

theorem countP_eq_sum (p : ε → Bool) (es : List ε) :
    es.countP p = (es.map fun e => (p e).toNat).sum := by
  induction es with
  | nil => rfl
  | cons e es ih =>
    rw [List.countP_cons, List.map_cons, List.sum_cons, ih, add_comm]
    cases p e <;> rfl

/-- Two kinds of exchanges are as many if each task has as many of the one as of the other. -/
theorem countP_eq_of_own {p q : ε → Bool}
    (h : ∀ i, (own trace i).countP p = (own trace i).countP q) :
    (trace.map Prod.snd).countP p = (trace.map Prod.snd).countP q := by
  rw [countP_eq_sum, countP_eq_sum]
  refine rel_sum_of_own (R := fun a b : ℕ => a = b) rfl
    (fun a b c d hab hcd => congrArg₂ (· + ·) hab hcd) fun i => ?_
  rw [← countP_eq_sum, ← countP_eq_sum]
  exact h i

end Own

namespace Pool

variable {I : Interface} {Ω σ ι : Type} {α : ι → Type} [DecidableEq ι]

/-- The pool before any task has begun: the trace is empty, and of each task there is left all of
its program. -/
def start (s : σ) (task : (i : ι) → Program I (α i)) : Pool I σ α :=
  { shared := s, task, trace := [] }

/-- The tasks, interleaved call by call: a step is a task that goes on, and a choice of the
environment. -/
def system (H : Handler I Ω σ) : Lts (Pool I σ α) (ι × Ω) where
  next w step :=
    match w.task step.1 with
    | .done _ => none
    | .ask c next =>
      let reply := (H c step.2 w.shared).1
      some { shared := (H c step.2 w.shared).2
             task := Function.update w.task step.1 (next reply)
             trace := w.trace ++ [(step.1, ⟨c, reply⟩)] }

/-- The task is not in progress: it has not begun, or it has returned. -/
def AtRest (w : Pool I σ α) (i : ι) : Prop := own w.trace i = [] ∨ ∃ a, w.task i = .done a

/-- No task is in progress. The shared state is then what whole operations have left. -/
def Quiescent (w : Pool I σ α) : Prop := ∀ i, w.AtRest i

variable {H : Handler I Ω σ} {w w' : Pool I σ α} {i : ι} {ω : Ω}

/-- What a step does: the task that takes it is about to make a call, the call is answered from
the shared state, and the exchange is put at the end of the trace. All other tasks are where they
were. -/
theorem next_eq_some : (system H).next w (i, ω) = some w' ↔
    ∃ c next, w.task i = .ask c next ∧
      w' = { shared := (H c ω w.shared).2
             task := Function.update w.task i (next (H c ω w.shared).1)
             trace := w.trace ++ [(i, ⟨c, (H c ω w.shared).1⟩)] } := by
  rw [system]
  dsimp only
  -- A task that has returned takes no step, and one that has not takes just the one of its next
  -- call.
  cases htask : w.task i with
  | done a => simp
  | ask c next =>
    constructor
    · intro h
      exact ⟨c, next, rfl, (Option.some.inj h).symm⟩
    · rintro ⟨c', next', heq, rfl⟩
      cases heq
      rfl

/-- What is so of each pool that can be reached from `s` with the tasks `task`. -/
structure Reached (H : Handler I Ω σ) (s : σ) (task : (i : ι) → Program I (α i))
    (w : Pool I σ α) : Prop where
  /-- The trace is what the handler answered. -/
  served : Served H s (w.trace.map Prod.snd) w.shared
  /-- What a task did is a path of its program, and what is left of it is left. -/
  path : ∀ i, Program.Path (task i) (own w.trace i) (w.task i)

theorem Reached.start (H : Handler I Ω σ) (s : σ) (task : (i : ι) → Program I (α i)) :
    Reached H s task (start s task) where
  served := .nil s
  path i := .nil (task i)

theorem Reached.step {s : σ} {task : (i : ι) → Program I (α i)} (h : Reached H s task w)
    (hstep : (system H).next w (i, ω) = some w') : Reached H s task w' := by
  -- The task that goes on has one more exchange, which was answered from the shared state.
  obtain ⟨c, next, htask, rfl⟩ := next_eq_some.mp hstep
  constructor
  · rw [List.map_append]
    exact .snoc h.served c ω
  · intro j
    by_cases hj : j = i
    · subst hj
      have hpath : Program.Path (task j) (own w.trace j) (.ask c next) := htask ▸ h.path j
      dsimp only
      rw [own_concat_self, Function.update_self]
      exact hpath.snoc _
    -- another task is where it was
    · dsimp only
      rw [own_concat_of_ne hj, Function.update_of_ne hj]
      exact h.path j

/-- **What a run leads to** from the pool in which no task has begun. The two facts of `Reached`
are kept by each step. -/
theorem reached_of_run {s : σ} {task : (i : ι) → Program I (α i)} {steps : List (ι × Ω)}
    (h : (system H).Run (Pool.start s task) steps w) : Reached H s task w :=
  h.invariant (fun _ _ _ hreached hstep => hreached.step hstep) (Reached.start H s task)

/-- Task `i` takes its first step of the run `steps` from the pool `w₁`: there is a run up to `w₁`
in which it takes none, and it goes on from there. -/
def BeginsIn (H : Handler I Ω σ) (w₀ : Pool I σ α) (steps : List (ι × Ω)) (i : ι)
    (w₁ : Pool I σ α) : Prop :=
  ∃ before ω after, steps = before ++ (i, ω) :: after ∧ (system H).Run w₀ before w₁ ∧
    own w₁.trace i = []

/-- **Where a task begins.** What a task did first was answered from the state in which it began. -/
theorem exists_beginsIn {s : σ} {task : (i : ι) → Program I (α i)} {steps : List (ι × Ω)}
    (h : (system H).Run (Pool.start s task) steps w) {e : Exchange I} {es : List (Exchange I)}
    (hown : own w.trace i = e :: es) :
    ∃ w₁, BeginsIn H (Pool.start s task) steps i w₁ ∧ ∃ ω, (H e.call ω w₁.shared).1 = e.reply := by
  -- On the run, with the run itself kept at hand: the pool in which a task begins is one on the
  -- way.
  suffices hall : (system H).Run (Pool.start s task) steps w ∧
      ∀ e es, own w.trace i = e :: es → ∃ w₁, BeginsIn H (Pool.start s task) steps i w₁ ∧
        ∃ ω, (H e.call ω w₁.shared).1 = e.reply from hall.2 e es hown
  clear hown e es
  refine h.history (P := fun steps w => (system H).Run (Pool.start s task) steps w ∧
    ∀ e es, own w.trace i = e :: es → ∃ w₁, BeginsIn H (Pool.start s task) steps i w₁ ∧
      ∃ ω, (H e.call ω w₁.shared).1 = e.reply) ⟨.nil _, fun e es hnil => nomatch hnil⟩ ?_
  rintro before w₁ ⟨j, ω⟩ w₂ ⟨hrun, ih⟩ hstep
  refine ⟨hrun.append (.cons hstep (.nil w₂)), fun e es hown => ?_⟩
  -- a task that had begun before began where it did then
  have hlonger {w₀ : Pool I σ α} (hbegins : BeginsIn H (Pool.start s task) before i w₀) :
      BeginsIn H (Pool.start s task) (before ++ [(j, ω)]) i w₀ := by
    obtain ⟨first, ω', after, rfl, hfirst, hnone⟩ := hbegins
    refine ⟨first, ω', after ++ [(j, ω)], ?_, hfirst, hnone⟩
    rw [List.append_assoc, List.cons_append]
  obtain ⟨c, next, htask, rfl⟩ := next_eq_some.mp hstep
  by_cases hj : i = j
  · subst hj
    rw [own_concat_self] at hown
    cases hbefore : own w₁.trace i with
    | nil =>
      rw [hbefore] at hown
      cases hown
      exact ⟨w₁, ⟨before, ω, [], rfl, hrun, hbefore⟩, ω, rfl⟩
    | cons e' es' =>
      rw [hbefore] at hown
      cases hown
      obtain ⟨w₀, hbegins, hreply⟩ := ih e es' hbefore
      exact ⟨w₀, hlonger hbegins, hreply⟩
  · rw [own_concat_of_ne hj] at hown
    obtain ⟨w₀, hbegins, hreply⟩ := ih e es hown
    exact ⟨w₀, hlonger hbegins, hreply⟩

/-- A task that has returned did all that its program does before it returns. -/
theorem Reached.returns {s : σ} {task : (i : ι) → Program I (α i)} (h : Reached H s task w)
    {a : α i} (hdone : w.task i = .done a) : Program.Returns (task i) (own w.trace i) a := by
  have hpath := h.path i
  rwa [hdone] at hpath

/-- At rest, a task did nothing, or what its program does before it returns. -/
theorem Reached.atRest {s : σ} {task : (i : ι) → Program I (α i)} (h : Reached H s task w)
    (hrest : w.AtRest i) :
    own w.trace i = [] ∨ ∃ a, Program.Returns (task i) (own w.trace i) a := by
  rcases hrest with hnil | ⟨a, hdone⟩
  · exact .inl hnil
  · exact .inr ⟨a, h.returns hdone⟩

/-- **A task can be run to its end**, while the others stay where they are. -/
theorem exists_run_done [Nonempty Ω] (w : Pool I σ α) (i : ι) :
    ∃ steps w' es a, (system H).Run w steps w' ∧ w'.task = Function.update w.task i (.done a) ∧
      w'.trace = w.trace ++ es.map (Prod.mk i) ∧ Program.Returns (w.task i) es a ∧
      Served H w.shared es w'.shared := by
  -- On what is left of the task. Each call is answered by whatever choice there is.
  generalize hp : w.task i = p
  induction p generalizing w with
  | done a =>
    refine ⟨[], w, [], a, .nil w, ?_, (List.append_nil _).symm, .nil _, .nil _⟩
    rw [← hp, Function.update_eq_self]
  | ask c next ih =>
    obtain ⟨ω⟩ := ‹Nonempty Ω›
    set reply := (H c ω w.shared).1 with hreply
    set w₁ : Pool I σ α := { shared := (H c ω w.shared).2
                             task := Function.update w.task i (next reply)
                             trace := w.trace ++ [(i, ⟨c, reply⟩)] } with hw₁
    -- One step of the task, with the reply of the server.
    have hstep : (system H).next w (i, ω) = some w₁ := next_eq_some.mpr ⟨c, next, hp, rfl⟩
    have htask : w₁.task i = next reply := Function.update_self ..
    obtain ⟨steps, w', es, a, hrun, hend, htrace, hreturns, hserved⟩ := ih reply w₁ htask
    refine ⟨(i, ω) :: steps, w', ⟨c, reply⟩ :: es, a, .cons hstep hrun, ?_, ?_, ?_, ?_⟩
    · rw [hend, hw₁]
      exact Function.update_idem ..
    · rw [htrace, hw₁, List.map_cons, List.append_assoc, List.singleton_append]
    · exact .cons reply hreturns
    · exact Served.append (.snoc (.nil _) c ω) hserved

/-- An entry of the trace, with what all tasks did before it. -/
theorem Reached.at_entry {s : σ} {task : (i : ι) → Program I (α i)} (h : Reached H s task w)
    {pre post : List (ι × Exchange I)} {e : Exchange I} (htrace : w.trace = pre ++ (i, e) :: post) :
    ∃ s' ω, Served H s (pre.map Prod.snd) s' ∧ (H e.call ω s').1 = e.reply := by
  have hserved := h.served
  rw [htrace, List.map_append, List.map_cons] at hserved
  obtain ⟨s', ω, hpre, hreply, -⟩ := hserved.at_exchange
  exact ⟨s', ω, hpre, hreply⟩

end Pool
