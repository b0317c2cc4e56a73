import Pax.Framework.Publication

/-!
# Numbered messages

Where messages are numbered as they are taken, from 0 up and modulo `2 ^ 64`, handing them over in
the order of their numbers is what it takes for a subscriber to see them in order. `InTurn` is the
condition on the steps of a run under which that is so (`pairwise_handed`), and a step that fails it
leads to a run in which it is not (`exists_out_of_order`).
-/

namespace Publication

variable {I : Interface} {μ Ω σ ι : Type} [DecidableEq μ] [DecidableEq ι] {α : ι → Type}
  {P : Publication I μ} {H : Handler I Ω σ} {s : σ} {task : (i : ι) → Program I (α i)}
  {w w' : Pool I σ α} {i : ι} {ω : Ω}

variable (P) in
/-- The handler numbers the messages from 0 up, modulo `2 ^ 64`, in the order in which they are
taken. -/
def Numbers (number : μ → UInt64) (H : Handler I Ω σ) (s : σ) : Prop :=
  ∀ es s', Served H s es s' →
    (P.takenBy es).map number = (List.range (P.takenBy es).length).map UInt64.ofNat

variable (P) in
/-- A message is taken with none pending at another task, and while there is a new number. -/
def InTurn (w : Pool I σ α) (step : ι × Ω) : Prop :=
  P.Takes (w.task step.1) →
    (∀ j, j ≠ step.1 → P.pending w.trace j = none) ∧ (P.allTaken w).length < 2 ^ 64

instance [Fintype ι] (w : Pool I σ α) (step : ι × Ω) : Decidable (P.InTurn w step) :=
  inferInstanceAs (Decidable (_ → _))

omit [DecidableEq μ] [DecidableEq ι] in
/-- A message is taken by a task that is about to make a call that takes one. -/
theorem takes_of_taken {c : I.Call} {next : I.Reply c → Program I (α i)} {m : μ}
    (htask : w.task i = .ask c next) {reply : I.Reply c} (htaken : P.taken ⟨c, reply⟩ = some m) :
    P.Takes (w.task i) := by
  rw [htask]
  show P.takes c = true
  rw [show c = (⟨c, reply⟩ : Exchange I).call from rfl, ← P.isSome_taken, htaken]
  rfl

variable (hpub : ∀ i, P.Publishes (task i)) {number : μ → UInt64} (hnum : P.Numbers number H s)

include hpub

/-- In a run in turn no number is given twice: there are at most as many messages as there are
numbers. -/
theorem length_allTaken_le {steps : List (ι × Ω)}
    (hrun : (Pool.system H).Run (Pool.start s task) steps w)
    (hturn : (Pool.system H).Meets P.InTurn (Pool.start s task) steps) :
    (P.allTaken w).length ≤ 2 ^ 64 := by
  have hinv := hrun.invariant_of_meets
    (I := fun w => Pool.Reached H s task w ∧ (P.allTaken w).length ≤ 2 ^ 64) ?_ hturn
    ⟨Pool.Reached.start H s task, Nat.zero_le _⟩
  · exact hinv.2
  rintro w ⟨i, ω⟩ w' ⟨hreached, hle⟩ hok hstep
  refine ⟨hreached.step hstep, ?_⟩
  obtain ⟨c, next, htask, -, htaken, -, -⟩ := step_pending hpub hreached hstep
  rw [htaken, List.length_append]
  -- The step takes a message only in its turn, when there is a number left.
  cases hcase : P.taken ⟨c, (H c ω w.shared).1⟩ with
  | none => exact hle
  | some m => exact (hok (takes_of_taken htask hcase)).2

include hnum

/-- **Messages taken in turn are handed over in the order of their numbers.** -/
theorem pairwise_handed {steps : List (ι × Ω)}
    (hrun : (Pool.system H).Run (Pool.start s task) steps w)
    (hturn : (Pool.system H).Meets P.InTurn (Pool.start s task) steps) :
    (P.allHanded w).Pairwise (number · < number ·) := by
  have hprefix := handed_prefix hpub hrun
    (hturn.mono fun _ _ hok htakes => (hok htakes).1)
  have hcount := length_allTaken_le hpub hrun hturn
  refine List.Pairwise.sublist hprefix.sublist (List.pairwise_map.mp ?_)
  rw [allTaken, hnum _ _ (Pool.reached_of_run hrun).served, List.pairwise_map]
  refine List.pairwise_lt_range.imp_of_mem ?_
  intro a b ha hb hab
  -- both numbers are below the bound
  have hbound (n : ℕ) (hn : n ∈ List.range (P.takenBy (w.trace.map Prod.snd)).length) :
      (UInt64.ofNat n).toNat = n :=
    UInt64.toNat_ofNat_of_lt' (lt_of_lt_of_le (List.mem_range.mp hn) hcount)
  rw [UInt64.lt_iff_toNat_lt, hbound a ha, hbound b hb]
  exact hab

omit [DecidableEq μ] hpub in
/-- A message is taken with the number of those taken before. -/
theorem number_taken {m : μ} (h : Pool.Reached H s task w)
    (hstep : (Pool.system H).next w (i, ω) = some w')
    (htaken : P.allTaken w' = P.allTaken w ++ [m]) :
    number m = UInt64.ofNat (P.allTaken w).length := by
  have hafter : (P.allTaken w').map number
      = (List.range (P.allTaken w').length).map UInt64.ofNat :=
    hnum _ _ (h.step hstep).served
  rw [htaken, List.length_append, List.length_singleton, List.range_succ, List.map_append,
    List.map_append, List.map_singleton, List.map_singleton] at hafter
  exact List.singleton_inj.mp (List.append_inj' hafter rfl).2

/-- **A step out of turn can lead to a message handed over out of order.** -/
theorem exists_out_of_order [Nonempty Ω] {steps : List (ι × Ω)}
    (hrun : (Pool.system H).Run (Pool.start s task) steps w)
    (hturn : (Pool.system H).Meets P.InTurn (Pool.start s task) steps)
    (hnot : ¬ P.InTurn w (i, ω)) (hstep : (Pool.system H).next w (i, ω) = some w') :
    ∃ steps' w'', (Pool.system H).Run w' steps' w'' ∧
      ¬ (P.allHanded w'').Pairwise (number · < number ·) := by
  have hreached := Pool.reached_of_run hrun
  have hreached' := hreached.step hstep
  obtain ⟨c, next, htask, hnext, htaken, hhanded, hothers⟩ := step_pending hpub hreached hstep
  rw [InTurn, Classical.not_imp] at hnot
  obtain ⟨htakes, hnot⟩ := hnot
  -- the step takes a message, which is pending then
  obtain ⟨n, hn⟩ : ∃ n, P.taken ⟨c, (H c ω w.shared).1⟩ = some n := by
    rw [← Option.isSome_iff_exists, P.isSome_taken]
    rw [htask] at htakes
    exact htakes
  rw [automaton] at hnext
  dsimp only at hnext
  rw [hn] at hnext htaken
  dsimp only at hnext
  split_ifs at hnext with hnone
  have hpending : P.pending w'.trace i = some n := (Option.some.inj hnext).symm
  by_cases hother : ∃ j, j ≠ i ∧ P.pending w.trace j ≠ none
  · -- another message is pending as well, and the greater of the two may go first
    obtain ⟨j, hj, hne⟩ := hother
    obtain ⟨m, hm⟩ := Option.ne_none_iff_exists'.mp hne
    have hm' : P.pending w'.trace j = some m := (hothers j hj).trans hm
    by_cases hlt : number n < number m
    · apply exists_disorder hpub hreached' hj.symm hm' hpending
      exact UInt64.lt_asymm hlt
    · exact exists_disorder hpub hreached' hj hpending hm' hlt
  · -- all numbers have been given out, and the next one is 0 again
    have hallnone : ∀ j, P.pending w.trace j = none := by
      intro j
      by_cases hj : j = i
      · rw [hj]
        exact hnone
      · by_contra hne
        exact hother ⟨j, hj, hne⟩
    have hlength : (P.allTaken w).length = 2 ^ 64 := by
      apply le_antisymm (length_allTaken_le hpub hrun hturn)
      by_contra hlt
      exact hnot ⟨fun j _ => hallnone j, Nat.lt_of_not_le hlt⟩
    have hzero : number n = 0 := by
      rw [number_taken hnum hreached hstep htaken, hlength]
      rfl
    have hperm := handed_perm_of_pending hpub hreached hallnone
    have hsome : P.allHanded w ≠ [] := by
      intro hnil
      rw [hnil, List.nil_perm] at hperm
      rw [hperm] at hlength
      cases hlength
    -- Some message was handed over already, and its number is not below the one pending.
    obtain ⟨m, hm⟩ := List.exists_mem_of_ne_nil _ hsome
    have hm' : m ∈ P.allHanded w' := by
      rw [hhanded]
      exact List.mem_append_left _ hm
    apply exists_disorder_of_handed hpub hreached' hpending hm'
    rw [hzero, UInt64.lt_iff_toNat_lt]
    exact Nat.not_lt_zero _

end Publication
