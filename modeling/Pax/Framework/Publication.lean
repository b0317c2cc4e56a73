import Mathlib.Algebra.Order.Group.Multiset
import Mathlib.Algebra.BigOperators.Group.Multiset.Basic
import Mathlib.Data.UInt
import Pax.Framework.Pool

/-!
# Publishing in two steps

A task publishes a message in two exchanges: it takes the message, which gives it its number, and it
hands the message over. In between other tasks go on. `Publishes` says that a program hands over
what it took before it takes anything else, and before it returns; what a task has taken and not
handed over is `pending`.

Of the tasks together, no message is handed over that was not taken, and none twice
(`handed_le_taken`). The messages are handed over in the order they were taken in if no task takes
one while another has one pending (`handed_prefix`), and otherwise they may be handed over out of
order (`exists_disorder`).
-/

/-- Which exchanges take a message, and which hand one over. -/
structure Publication (I : Interface) (μ : Type) where
  /-- The calls that take a message. -/
  takes : I.Call → Bool
  taken : Exchange I → Option μ
  handed : Exchange I → Option μ
  isSome_taken : ∀ e, (taken e).isSome = takes e.call
  handed_of_takes : ∀ e, takes e.call → handed e = none

namespace Publication

variable {I : Interface} {μ : Type} [DecidableEq μ] (P : Publication I μ)

/-- What is pending: nothing is taken while a message is, and nothing else is handed over. -/
def automaton : Lts (Option μ) (Exchange I) where
  next pending e :=
    match P.taken e, P.handed e with
    | some m, _ => if pending = none then some (some m) else none
    | none, some m => if pending = some m then some none else none
    | none, none => some pending

/-- The program hands over each message that it takes, before it takes another or returns. -/
def Publishes {α : Type} (p : Program I α) : Prop :=
  p.Conforms P.automaton (fun _ pending => pending = none) none

/-- The messages that were taken in these exchanges, in order. -/
def takenBy (es : List (Exchange I)) : List μ := es.filterMap P.taken

/-- The messages that were handed over in these exchanges, in order. -/
def handedBy (es : List (Exchange I)) : List μ := es.filterMap P.handed

omit [DecidableEq μ] in
theorem takenBy_concat (es : List (Exchange I)) (e : Exchange I) :
    P.takenBy (es ++ [e]) = P.takenBy es ++ (P.taken e).toList := by
  rw [takenBy, List.filterMap_append]
  rfl

omit [DecidableEq μ] in
theorem handedBy_concat (es : List (Exchange I)) (e : Exchange I) :
    P.handedBy (es ++ [e]) = P.handedBy es ++ (P.handed e).toList := by
  rw [handedBy, List.filterMap_append]
  rfl

variable {P}

/-- What one exchange does to the pending message: what was pending before and is taken now is
handed over now or pending then. -/
theorem next_automaton {t t' : Option μ} {e : Exchange I} (h : P.automaton.next t e = some t') :
    t.toList ++ (P.taken e).toList = (P.handed e).toList ++ t'.toList := by
  rw [automaton] at h
  dsimp only at h
  cases htaken : P.taken e with
  | some m =>
    -- a message is taken with none pending, and nothing is handed over by the same exchange
    have hcall : P.takes e.call = true := by rw [← P.isSome_taken, htaken]; rfl
    rw [htaken] at h
    dsimp only at h
    split_ifs at h with hnone
    cases h
    rw [P.handed_of_takes e hcall, hnone]
  | none =>
    cases hhanded : P.handed e with
    | some m =>
      rw [htaken, hhanded] at h
      dsimp only at h
      split_ifs at h with hpending
      cases h
      rw [hpending]
    | none =>
      rw [htaken, hhanded] at h
      cases h
      rw [Option.toList_none, List.append_nil, List.nil_append]

/-- What was pending and what was taken is what was handed over and what is pending now. -/
theorem run_automaton {t t' : Option μ} {es : List (Exchange I)}
    (h : P.automaton.Run t es t') :
    t.toList ++ P.takenBy es = P.handedBy es ++ t'.toList := by
  -- On the exchanges: what is pending and taken is what is handed over and pending after.
  induction es generalizing t with
  | nil =>
    obtain rfl := Lts.run_nil.mp h
    rw [takenBy, handedBy, List.filterMap_nil, List.filterMap_nil, List.append_nil,
      List.nil_append]
  | cons e es ih =>
    obtain ⟨t₁, hnext, hrest⟩ := Lts.run_cons.mp h
    have htaken : P.takenBy (e :: es) = (P.taken e).toList ++ P.takenBy es := by
      rw [takenBy, List.filterMap_cons, takenBy]
      cases P.taken e <;> rfl
    have hhanded : P.handedBy (e :: es) = (P.handed e).toList ++ P.handedBy es := by
      rw [handedBy, List.filterMap_cons, handedBy]
      cases P.handed e <;> rfl
    calc t.toList ++ P.takenBy (e :: es)
        = (t.toList ++ (P.taken e).toList) ++ P.takenBy es := by rw [htaken, List.append_assoc]
      _ = (P.handed e).toList ++ (t₁.toList ++ P.takenBy es) := by
          rw [next_automaton hnext, List.append_assoc]
      _ = P.handedBy (e :: es) ++ t'.toList := by rw [ih hrest, hhanded, List.append_assoc]

/-! ### Programs that publish -/

section Programs

variable {α β : Type}

theorem publishes_done (a : α) : P.Publishes (.done a : Program I α) := by
  rw [Publishes, Program.Conforms]

theorem Publishes.bind {p : Program I α} {f : α → Program I β} (hp : P.Publishes p)
    (hf : ∀ a, P.Publishes (f a)) : P.Publishes (p >>= f) := by
  refine Program.conforms_bind.mpr (Program.Conforms.mono hp ?_)
  rintro a t rfl
  exact hf a

/-- A call that neither takes a message nor hands one over does not matter to a program that
publishes. -/
theorem publishes_ask {c : I.Call} {next : I.Reply c → Program I α} (htakes : P.takes c = false)
    (hhanded : ∀ reply, P.handed ⟨c, reply⟩ = none) (h : ∀ reply, P.Publishes (next reply)) :
    P.Publishes (.ask c next) := by
  intro reply
  have htaken : P.taken ⟨c, reply⟩ = none := by
    rw [← Option.not_isSome_iff_eq_none, P.isSome_taken, htakes]
    exact Bool.false_ne_true
  refine ⟨none, ?_, h reply⟩
  rw [automaton]
  dsimp only
  rw [htaken, hhanded]

/-- A program publishes if the programs for its calls do, one after the other: nothing is pending
where one of them returns. -/
theorem publishes_interpret {J : Interface} {f : (c : J.Call) → Program I (J.Reply c)}
    (hf : ∀ c, P.Publishes (f c)) (p : Program J α) : P.Publishes (p.interpret f) := by
  induction p with
  | done a => exact publishes_done a
  | ask c next ih => exact (hf c).bind ih

end Programs

/-! ### Tasks that publish -/

section Tasks

variable {Ω σ ι : Type} {α : ι → Type} [DecidableEq ι] {H : Handler I Ω σ} {s : σ}
  {task : (i : ι) → Program I (α i)} {w w' : Pool I σ α} {i j : ι} {ω : Ω} {m : μ}

variable (P) in
/-- The message that a task has pending: the one it has taken last, unless it has handed it over. -/
def pending (trace : List (ι × Exchange I)) (i : ι) : Option μ :=
  (P.automaton.exec none (own trace i)).getD none

variable (P) in
/-- The messages that all tasks together have taken, in the order in which they were taken. -/
def allTaken (w : Pool I σ α) : List μ := P.takenBy (w.trace.map Prod.snd)

variable (P) in
/-- The messages that all tasks together have handed over, in the order in which a subscriber
gets them. -/
def allHanded (w : Pool I σ α) : List μ := P.handedBy (w.trace.map Prod.snd)

omit [DecidableEq μ] in
/-- What has been taken by all tasks together was taken by one of them. -/
theorem mem_allTaken : m ∈ P.allTaken w ↔ ∃ i, m ∈ P.takenBy (own w.trace i) := by
  simp only [allTaken, takenBy, List.mem_filterMap, List.mem_map, mem_own]
  constructor
  · rintro ⟨e, ⟨⟨i, e'⟩, hmem, rfl⟩, htaken⟩
    exact ⟨i, e', hmem, htaken⟩
  · rintro ⟨i, e, hmem, htaken⟩
    exact ⟨e, ⟨(i, e), hmem, rfl⟩, htaken⟩

variable (hpub : ∀ i, P.Publishes (task i)) (h : Pool.Reached H s task w)

include hpub h

/-- A task's own exchanges go along with what it has pending, and so does what is left of it. -/
theorem run_pending (i : ι) :
    P.automaton.Run none (own w.trace i) (P.pending w.trace i) ∧
      (w.task i).Conforms P.automaton (fun _ t => t = none) (P.pending w.trace i) := by
  obtain ⟨t, hrun, hrest⟩ := Program.Conforms.path (hpub i) (h.path i)
  have hpending : P.pending w.trace i = t := by
    rw [pending, hrun]
    rfl
  rw [hpending]
  exact ⟨hrun, hrest⟩

theorem takenBy_own (i : ι) : P.takenBy (own w.trace i)
    = P.handedBy (own w.trace i) ++ (P.pending w.trace i).toList :=
  run_automaton (run_pending hpub h i).1

/-- A task that is at rest has nothing pending: it has taken nothing, or it has returned since. -/
theorem pending_of_atRest (hrest : w.AtRest i) : P.pending w.trace i = none := by
  rcases hrest with hnil | ⟨a, hdone⟩
  · rw [pending, hnil]
    rfl
  · have hconforms := (run_pending hpub h i).2
    rw [hdone] at hconforms
    exact hconforms

/-- What is handed over was taken before, by the same task. -/
theorem taken_before_handed {pre post : List (ι × Exchange I)} {e : Exchange I}
    (htrace : w.trace = pre ++ (i, e) :: post) (hhands : P.handed e = some m) :
    m ∈ P.takenBy (pre.map Prod.snd) := by
  have hrun := (run_pending hpub h i).1
  have hown : own w.trace i = own pre i ++ e :: own post i := by
    rw [htrace, own_append, own, own, own, List.filter_cons_of_pos (by simp), List.map_cons]
  rw [hown, Lts.run_append] at hrun
  obtain ⟨t, hbefore, hafter⟩ := hrun
  obtain ⟨t', hnext, -⟩ := Lts.run_cons.mp hafter
  -- the message is what the task had pending, so it has taken it
  have hone := next_automaton hnext
  have hnotaken : P.taken e = none := by
    rw [← Option.not_isSome_iff_eq_none, P.isSome_taken]
    intro hcall
    rw [P.handed_of_takes e hcall] at hhands
    cases hhands
  rw [hnotaken, hhands, Option.toList_none, List.append_nil] at hone
  have htaken := run_automaton hbefore
  rw [hone, Option.toList_none, List.nil_append] at htaken
  have hmem : m ∈ P.takenBy (own pre i) := by
    rw [htaken]
    simp
  obtain ⟨e', he', hm⟩ := List.mem_filterMap.mp hmem
  exact List.mem_filterMap.mpr ⟨e', List.mem_map.mpr ⟨(i, e'), mem_own.mp he', rfl⟩, hm⟩

omit [DecidableEq μ] hpub h in
theorem sum_toList (f : Exchange I → Option μ) (es : List (Exchange I)) :
    (es.map fun e => ((f e).toList : Multiset μ)).sum = (es.filterMap f : Multiset μ) := by
  induction es with
  | nil => rfl
  | cons e es ih =>
    rw [List.map_cons, List.sum_cons, ih, List.filterMap_cons]
    cases f e with
    | none => exact zero_add _
    | some m => rfl

/-- **Nothing is handed over that was not taken, and nothing twice.** -/
theorem handed_le_taken : (P.allHanded w : Multiset μ) ≤ P.allTaken w := by
  suffices hsum : ((w.trace.map Prod.snd).map fun e => ((P.handed e).toList : Multiset μ)).sum
      ≤ ((w.trace.map Prod.snd).map fun e => ((P.taken e).toList : Multiset μ)).sum by
    rwa [sum_toList, sum_toList] at hsum
  apply rel_sum_of_own (R := fun a b : Multiset μ => a ≤ b) le_rfl
    (fun a b c d hab hcd => add_le_add hab hcd)
  intro i
  rw [sum_toList, sum_toList]
  change (P.handedBy _ : Multiset μ) ≤ P.takenBy _
  rw [takenBy_own hpub h i, ← Multiset.coe_add]
  exact Multiset.le_add_right _ _

/-- With nothing pending, all that was taken has been handed over. -/
theorem handed_perm_of_pending (hnone : ∀ i, P.pending w.trace i = none) :
    (P.allHanded w).Perm (P.allTaken w) := by
  suffices hsum : ((w.trace.map Prod.snd).map fun e => ((P.handed e).toList : Multiset μ)).sum
      = ((w.trace.map Prod.snd).map fun e => ((P.taken e).toList : Multiset μ)).sum by
    rw [sum_toList, sum_toList] at hsum
    exact Multiset.coe_eq_coe.mp hsum
  apply rel_sum_of_own (R := fun a b : Multiset μ => a = b) rfl
    (fun a b c d hab hcd => congrArg₂ (· + ·) hab hcd)
  intro i
  rw [sum_toList, sum_toList]
  change (P.handedBy _ : Multiset μ) = P.takenBy _
  rw [takenBy_own hpub h i, hnone i]
  exact congrArg _ (List.append_nil _).symm

/-- When no task is in progress, all that was taken has been handed over, if not in the same
order. -/
theorem handed_perm_taken (hrest : w.Quiescent) : (P.allHanded w).Perm (P.allTaken w) :=
  handed_perm_of_pending hpub h fun i => pending_of_atRest hpub h (hrest i)

/-! ### In what order -/

/-- What a step does to what is taken, handed over and pending. -/
theorem step_pending (hstep : (Pool.system H).next w (i, ω) = some w') :
    ∃ c next, w.task i = .ask c next ∧
      P.automaton.next (P.pending w.trace i) ⟨c, (H c ω w.shared).1⟩
        = some (P.pending w'.trace i) ∧
      P.allTaken w' = P.allTaken w ++ (P.taken ⟨c, (H c ω w.shared).1⟩).toList ∧
      P.allHanded w' = P.allHanded w ++ (P.handed ⟨c, (H c ω w.shared).1⟩).toList ∧
      ∀ j, j ≠ i → P.pending w'.trace j = P.pending w.trace j := by
  obtain ⟨c, next, htask, hw'⟩ := Pool.next_eq_some.mp hstep
  set e : Exchange I := ⟨c, (H c ω w.shared).1⟩ with he
  have htrace : w'.trace = w.trace ++ [(i, e)] := by rw [hw']
  refine ⟨c, next, htask, ?_, ?_, ?_, ?_⟩
  · -- the task's own exchanges are those before and this one
    have hrun := (run_pending hpub (h.step hstep) i).1
    rw [htrace, own_concat_self, Lts.run_append] at hrun
    obtain ⟨t, hbefore, hone⟩ := hrun
    obtain ⟨t', hnext, hlast⟩ := Lts.run_cons.mp hone
    obtain rfl := Lts.run_nil.mp hlast
    have ht : some (P.pending w.trace i) = some t :=
      (run_pending hpub h i).1.symm.trans hbefore
    rw [Option.some.inj ht, htrace]
    exact hnext
  · rw [allTaken, allTaken, htrace, List.map_append, List.map_singleton, takenBy_concat]
  · rw [allHanded, allHanded, htrace, List.map_append, List.map_singleton, handedBy_concat]
  · intro j hj
    rw [pending, pending, htrace, own_concat_of_ne hj]

omit hpub h

variable (P) in
/-- The call that the program is about to make takes a message. -/
def Takes {β : Type} : Program I β → Prop
  | .ask c _ => P.takes c = true
  | .done _ => False

instance {β : Type} (p : Program I β) : Decidable (P.Takes p) :=
  match p with
  | .ask c _ => inferInstanceAs (Decidable (P.takes c = true))
  | .done _ => isFalse id

variable (P) in
/-- A step at which a message is taken finds none pending with another task. -/
def Alone (w : Pool I σ α) (step : ι × Ω) : Prop :=
  P.Takes (w.task step.1) → ∀ j, j ≠ step.1 → P.pending w.trace j = none

variable (P) in
/-- At most one message is pending, and the others were handed over in the order they were taken
in. -/
def InStep (w : Pool I σ α) : Prop :=
  ∃ p : Option (ι × μ), P.allTaken w = P.allHanded w ++ (p.map Prod.snd).toList ∧
    ∀ i m, P.pending w.trace i = some m ↔ p = some (i, m)

theorem inStep_start : P.InStep (Pool.start s task) := by
  refine ⟨none, rfl, ?_⟩
  intro i m
  exact ⟨fun hpending => absurd hpending (by simp [pending, Pool.start, Lts.exec]),
    fun hnone => absurd hnone (by simp)⟩

include hpub h

theorem InStep.step (hin : P.InStep w) (halone : P.Alone w (i, ω))
    (hstep : (Pool.system H).next w (i, ω) = some w') : P.InStep w' := by
  obtain ⟨c, next, htask, hnext, htaken, hhanded, hothers⟩ := step_pending hpub h hstep
  obtain ⟨p, hall, hp⟩ := hin
  set e : Exchange I := ⟨c, (H c ω w.shared).1⟩ with he
  rw [automaton] at hnext
  dsimp only at hnext
  cases htakes : P.taken e with
  | some m =>
    -- the message is taken with none pending, neither with this task nor, alone, with another
    have hcall : P.takes c = true := by
      rw [show c = e.call from rfl, ← P.isSome_taken, htakes]
      rfl
    rw [htakes] at hnext
    dsimp only at hnext
    split_ifs at hnext with hnone
    have hnobody : p = none := by
      rw [Option.eq_none_iff_forall_ne_some]
      rintro ⟨j, m'⟩ hj
      have hpending := (hp j m').mpr hj
      by_cases hji : j = i
      · rw [hji, hnone] at hpending
        cases hpending
      · rw [halone (by rw [htask]; exact hcall) j hji] at hpending
        cases hpending
    refine ⟨some (i, m), ?_, ?_⟩
    · rw [htaken, hhanded, hall, htakes, P.handed_of_takes e hcall, hnobody]
      simp
    · intro j m'
      by_cases hji : j = i
      · rw [hji, ← Option.some.inj hnext]
        simp
      · rw [hothers j hji, hp j m', hnobody]
        simp [Ne.symm hji]
  | none =>
    cases hhands : P.handed e with
    -- the message that was pending is handed over, so that none is pending now
    | some m =>
      rw [htakes, hhands] at hnext
      dsimp only at hnext
      split_ifs at hnext with hpending
      have hp' : p = some (i, m) := (hp i m).mp hpending
      refine ⟨none, ?_, ?_⟩
      · rw [htaken, hhanded, hall, htakes, hhands, hp']
        simp
      · intro j m'
        by_cases hji : j = i
        · rw [hji, ← Option.some.inj hnext]
          simp
        · rw [hothers j hji, hp j m', hp']
          simp [Ne.symm hji]
    | none =>
      rw [htakes, hhands] at hnext
      refine ⟨p, ?_, ?_⟩
      · rw [htaken, hhanded, hall, htakes, hhands]
        simp
      · intro j m'
        by_cases hji : j = i
        · rw [hji, ← Option.some.inj hnext, ← hp i m']
        · rw [hothers j hji, hp j m']

omit h in
/-- **If messages are taken alone, they are handed over in the order they were taken in.** -/
theorem handed_prefix {steps : List (ι × Ω)}
    (hrun : (Pool.system H).Run (Pool.start s task) steps w)
    (halone : (Pool.system H).Meets P.Alone (Pool.start s task) steps) :
    P.allHanded w <+: P.allTaken w := by
  have hin := hrun.invariant_of_meets (I := fun w => Pool.Reached H s task w ∧ P.InStep w)
    (fun w a w' hw hok hstep => ⟨hw.1.step hstep, hw.2.step hpub hw.1 hok hstep⟩) halone
    ⟨Pool.Reached.start H s task, inStep_start⟩
  obtain ⟨p, hall, -⟩ := hin.2
  exact ⟨_, hall.symm⟩

/-- A task that has a message pending can go on by itself until it has handed it over. -/
theorem exists_hand [Nonempty Ω] (hpending : P.pending w.trace i = some m) :
    ∃ steps w', (Pool.system H).Run w steps w' ∧ Pool.Reached H s task w' ∧
      P.allHanded w' = P.allHanded w ++ [m] ∧
      ∀ j, j ≠ i → P.pending w'.trace j = P.pending w.trace j := by
  -- On what is left of the task, which hands the message over sooner or later.
  generalize hp : w.task i = p
  induction p generalizing w with
  | done a =>
    -- a program that publishes does not return with a message pending
    have hconforms := (run_pending hpub h i).2
    rw [hp, hpending] at hconforms
    cases hconforms
  | ask c next ih =>
    obtain ⟨ω⟩ := ‹Nonempty Ω›
    obtain ⟨w₁, hstep⟩ : ∃ w₁, (Pool.system H).next w (i, ω) = some w₁ :=
      ⟨_, Pool.next_eq_some.mpr ⟨c, next, hp, rfl⟩⟩
    obtain ⟨c', next', htask, hnext, -, hhanded, hothers⟩ := step_pending hpub h hstep
    rw [hp] at htask
    cases htask
    set e : Exchange I := ⟨c, (H c ω w.shared).1⟩ with he
    rw [automaton, hpending] at hnext
    dsimp only at hnext
    cases htakes : P.taken e with
    | some m' =>
      rw [htakes] at hnext
      cases hnext
    | none =>
      cases hhands : P.handed e with
      | some m' =>
        rw [htakes, hhands] at hnext
        dsimp only at hnext
        split_ifs at hnext with heq
        refine ⟨[(i, ω)], w₁, .cons hstep (.nil w₁), h.step hstep, ?_, hothers⟩
        rw [hhanded, hhands, Option.some.inj heq]
        rfl
      | none =>
        -- an exchange of another kind: the message stays pending
        rw [htakes, hhands] at hnext
        have hlater : w₁.task i = next (H c ω w.shared).1 := by
          obtain ⟨c', next', hsame, rfl⟩ := Pool.next_eq_some.mp hstep
          rw [hp] at hsame
          cases hsame
          exact Function.update_self ..
        obtain ⟨steps, w', hrun, hreached, hall, hrest⟩ :=
          ih _ (h.step hstep) (Option.some.inj hnext).symm hlater
        refine ⟨(i, ω) :: steps, w', .cons hstep hrun, hreached, ?_, ?_⟩
        · rw [hall, hhanded, hhands, Option.toList_none, List.append_nil]
        · intro j hj
          rw [hrest j hj, hothers j hj]

/-- A message that is to come after one that was handed over is handed over as well. -/
theorem exists_disorder_of_handed [Nonempty Ω] {R : μ → μ → Prop} {n : μ}
    (hpending : P.pending w.trace i = some n) (hm : m ∈ P.allHanded w) (hR : ¬ R m n) :
    ∃ steps w', (Pool.system H).Run w steps w' ∧ ¬ (P.allHanded w').Pairwise R := by
  obtain ⟨steps, w', hrun, -, hall, -⟩ := exists_hand hpub h hpending
  refine ⟨steps, w', hrun, ?_⟩
  rw [hall, List.pairwise_append]
  intro hpairwise
  exact hR (hpairwise.2.2 m hm n (List.mem_singleton.mpr rfl))

/-- **With two messages pending, either may be handed over first.** -/
theorem exists_disorder [Nonempty Ω] {R : μ → μ → Prop} {n : μ} (hne : j ≠ i)
    (hi : P.pending w.trace i = some n) (hj : P.pending w.trace j = some m) (hR : ¬ R n m) :
    ∃ steps w', (Pool.system H).Run w steps w' ∧ ¬ (P.allHanded w').Pairwise R := by
  obtain ⟨steps, w₁, hrun, hreached, hall, hothers⟩ := exists_hand hpub h hi
  -- the first task has handed its message over; the second one still has its own
  have hpending : P.pending w₁.trace j = some m := (hothers j hne).trans hj
  have hmem : n ∈ P.allHanded w₁ := by rw [hall]; simp
  obtain ⟨steps', w', hrun', hdisorder⟩ := exists_disorder_of_handed hpub hreached hpending hmem hR
  exact ⟨steps ++ steps', w', hrun.append hrun', hdisorder⟩

end Tasks

end Publication
