import Mathlib.Data.List.Nodup
import Pax.Framework.Pool

/-!
# Linearizability

The tasks of a pool are operations on the shared state, each made of atomic steps that interleave
with those of the others. They are linearizable if there is an object with atomic operations that
does the same: the operations can be put in an order in which each, done at once, returns what it
returned in the run, and an operation that was over before another one began comes before it.

The proof rule is that of commit points (`Pool.exists_linearization`). Each operation commits at one
of its steps, and the order is that of the commits. A relation between the pool and the state of the
object is kept: a step that is no commit leaves the object where it is, and at a commit it takes the
operation, with whatever result the operation may still return.
-/

section Atomic

variable {A ι : Type} {α : ι → Type}

/-- What the operations do if each is done at once: in the state `a` the operation `i` may return
`r` and leave `a'`. -/
abbrev Atomic (A : Type) {ι : Type} (α : ι → Type) : Type :=
  (i : ι) → (a : A) → (r : α i) → (a' : A) → Prop

/-- The operations of a list are done at once, one after the other, with whatever results are
possible. -/
inductive Legal (atomic : Atomic A α) (possible : (i : ι) → α i → Prop) : A → List ι → A → Prop
  | nil (a : A) : Legal atomic possible a [] a
  | snoc {a a' a'' : A} {order : List ι} (h : Legal atomic possible a order a') (i : ι)
    (hi : ∀ r, possible i r → atomic i a' r a'') : Legal atomic possible a (order ++ [i]) a''

/-- **From one specification to another**: what is possible under the second is possible under the
first, for the operations of the list, and done in the same way. -/
theorem Legal.imp {β : ι → Type} {atomic : Atomic A α} {atomic' : Atomic A β}
    {possible : (i : ι) → α i → Prop} {possible' : (i : ι) → β i → Prop} {a a' : A} {order : List ι}
    (h : Legal atomic possible a order a')
    (himp : ∀ i ∈ order, ∀ r', possible' i r' →
      ∃ r, possible i r ∧ ∀ b b', atomic i b r b' → atomic' i b r' b') :
    Legal atomic' possible' a order a' := by
  induction h with
  | nil => exact .nil _
  | snoc _ i hi ih =>
    refine .snoc (ih fun j hj => himp j (List.mem_append_left _ hj)) i fun r' hr' => ?_
    obtain ⟨r, hr, hsame⟩ := himp i (List.mem_append_right _ List.mem_cons_self) r' hr'
    exact hsame _ _ (hi r hr)

/-- **Later on**: what one operation brings about and none undoes holds when a later one is done. -/
theorem Legal.later {atomic : Atomic A α} {possible : (i : ι) → α i → Prop} {a a' : A}
    {order : List ι} {P : A → Prop} {i : ι} (h : Legal atomic possible a order a')
    (hpossible : ∀ k, ∃ r, possible k r)
    (hbrings : ∀ r b b', possible i r → atomic i b r b' → P b')
    (hkeeps : ∀ k r b b', P b → atomic k b r b' → P b') :
    (i ∈ order → P a') ∧
      ∀ j, [i, j].Sublist order → ∃ b b', P b ∧ ∀ r, possible j r → atomic j b r b' := by
  induction h with
  | nil => exact ⟨fun hi => absurd hi List.not_mem_nil, fun j hj => absurd hj (by simp)⟩
  | @snoc b b' order _ k hk ih =>
    obtain ⟨r, hr⟩ := hpossible k
    constructor
    -- It was in the order before, and what it has brought is kept, or it is the last one.
    · intro hi
      rcases List.mem_append.mp hi with hbefore | hlast
      · exact hkeeps k r b b' (ih.1 hbefore) (hk r hr)
      · obtain rfl := List.mem_singleton.mp hlast
        exact hbrings r b b' hr (hk r hr)
    · intro j hj
      obtain ⟨l₁, l₂, hl, hfirst, hsecond⟩ := List.sublist_append_iff.mp hj
      rcases List.sublist_singleton.mp hsecond with rfl | rfl
      · rw [List.append_nil] at hl
        exact ih.2 j (hl ▸ hfirst)
      · -- the later one is the last
        have hl : [i] ++ [j] = l₁ ++ [k] := hl
        obtain ⟨rfl, hlast⟩ := List.append_inj' hl rfl
        obtain rfl := List.singleton_inj.mp hlast
        exact ⟨b, b', ih.1 (List.singleton_sublist.mp hfirst), hk⟩

end Atomic

/-- The commit is where it is expected: a list that has just one element with `p` has it in one
place only, so that two ways to write the list around it are the same. -/
theorem eq_of_append_cons {β : Type} {p : β → Bool} {a b : β} {l₁ l₂ m₂ : List β} (m₁ : List β)
    (h : l₁ ++ a :: l₂ = m₁ ++ b :: m₂) (ha : p a = true) (h₁ : m₁.countP p = 0)
    (h₂ : m₂.countP p = 0) : l₁ = m₁ ∧ a = b := by
  -- By which of the two comes first: the other one would be counted on its side.
  induction m₁ generalizing l₁ with
  | nil =>
    cases l₁ with
    | nil => exact ⟨rfl, (List.cons_eq_cons.mp h).1⟩
    | cons x l₁ =>
      obtain ⟨-, rfl⟩ := List.cons_eq_cons.mp h
      exact absurd (List.countP_eq_zero.mp h₂ a (by simp)) (not_not_intro ha)
  | cons y m₁ ih =>
    cases l₁ with
    | nil =>
      obtain ⟨rfl, -⟩ := List.cons_eq_cons.mp h
      exact absurd (List.countP_eq_zero.mp h₁ a List.mem_cons_self) (not_not_intro ha)
    | cons x l₁ =>
      obtain ⟨rfl, htail⟩ := List.cons_eq_cons.mp h
      rw [List.countP_cons] at h₁
      obtain ⟨rfl, rfl⟩ := ih htail (by omega)
      exact ⟨rfl, rfl⟩

namespace Pool

open Program (Path Returns)

variable {I : Interface} {Ω σ A ι : Type} {α : ι → Type} [DecidableEq ι]

/-- The operations that have committed, in the order in which they did. -/
def commitOrder (commit : ι → Exchange I → Bool) (trace : List (ι × Exchange I)) : List ι :=
  trace.filterMap fun p => if commit p.1 p.2 then some p.1 else none

/-- **A linearization** of the operations of a pool: an order of those that have taken effect. -/
structure Linearizes (atomic : Atomic A α) (w : Pool I σ α) (a a' : A) (order : List ι) : Prop where
  nodup : order.Nodup
  /-- An operation that has returned has taken effect, and one that has not begun has not. -/
  returned : ∀ i r, w.task i = .done r → i ∈ order
  begun : ∀ i ∈ order, own w.trace i ≠ []
  /-- What an operation returned is its result, and any that it may still return would do. -/
  legal : Legal atomic (fun i r => ∃ es, Returns (w.task i) es r) a order a'
  /-- An operation that was over before another one began comes first. -/
  realTime : ∀ before after i j, w.trace = before ++ after → own after i = [] → own before j = [] →
    i ∈ order → j ∈ order → [i, j].Sublist order

section CommitOrder

variable {commit : ι → Exchange I → Bool} {trace before after : List (ι × Exchange I)} {i j : ι}
  {e : Exchange I}

omit [DecidableEq ι] in
theorem commitOrder_append :
    commitOrder commit (before ++ after) = commitOrder commit before ++ commitOrder commit after :=
  List.filterMap_append

omit [DecidableEq ι] in
theorem commitOrder_concat : commitOrder commit (trace ++ [(i, e)])
    = commitOrder commit trace ++ if commit i e then [i] else [] := by
  rw [commitOrder_append]
  congr 1
  cases h : commit i e <;> simp [commitOrder, h]

theorem count_commitOrder :
    (commitOrder commit trace).count i = (own trace i).countP (commit i) := by
  induction trace using List.reverseRecOn with
  | nil => rfl
  | append_singleton trace p ih =>
    obtain ⟨j, e⟩ := p
    rw [commitOrder_concat, List.count_append, ih]
    by_cases hj : i = j
    · subst hj
      rw [own_concat_self, List.countP_append, List.countP_singleton]
      cases commit i e <;> simp
    · rw [own_concat_of_ne hj]
      cases commit j e <;> simp [Ne.symm hj]

theorem mem_commitOrder : i ∈ commitOrder commit trace ↔ ∃ e ∈ own trace i, commit i e = true := by
  rw [← List.count_pos_iff, count_commitOrder, List.countP_pos_iff]

/-- An operation that is over before another one begins commits before it does. -/
theorem sublist_commitOrder (hi : i ∈ commitOrder commit (before ++ after))
    (hj : j ∈ commitOrder commit (before ++ after)) (hafter : own after i = [])
    (hbefore : own before j = []) : [i, j].Sublist (commitOrder commit (before ++ after)) := by
  rw [commitOrder_append] at hi hj ⊢
  -- An operation with no exchange in a part of the trace has no commit in it.
  have hnot {l : List (ι × Exchange I)} {k : ι} (hnil : own l k = []) :
      k ∉ commitOrder commit l := by
    rw [mem_commitOrder, hnil]
    simp
  have hfirst := (List.mem_append.mp hi).resolve_right (hnot hafter)
  have hsecond := (List.mem_append.mp hj).resolve_left (hnot hbefore)
  exact (List.singleton_sublist.mpr hfirst).append (List.singleton_sublist.mpr hsecond)

end CommitOrder

variable {H : Handler I Ω σ} {s : σ} {task : (i : ι) → Program I (α i)}

/-- **Commit points.** If each operation commits once before it returns, and a relation `R` between
the trace, the shared state and the object is kept, then the operations, done at once in the order
of their commits, have the results that they may still return. What an operation does at once may
depend on all exchanges that it has in the end. -/
theorem legal_commitOrder (atomic : Atomic A fun i => List (Exchange I) × α i)
    (commit : ι → Exchange I → Bool) (R : List (ι × Exchange I) → σ → A → Prop) {a : A}
    (hinit : R [] s a)
    (hother : ∀ trace s' a' i c ω, Served H s (trace.map Prod.snd) s' → R trace s' a' →
      (∃ next, Path (task i) (own trace i) (.ask c next)) →
      commit i ⟨c, (H c ω s').1⟩ = false →
      R (trace ++ [(i, ⟨c, (H c ω s').1⟩)]) (H c ω s').2 a')
    (hcommit : ∀ trace s' a' i c ω, Served H s (trace.map Prod.snd) s' → R trace s' a' →
      (∃ next, Path (task i) (own trace i) (.ask c next)) →
      commit i ⟨c, (H c ω s').1⟩ = true →
      ∃ a'', R (trace ++ [(i, ⟨c, (H c ω s').1⟩)]) (H c ω s').2 a'' ∧
        ∀ es r, Returns (task i) (own trace i ++ ⟨c, (H c ω s').1⟩ :: es) r →
          atomic i a' (own trace i ++ ⟨c, (H c ω s').1⟩ :: es, r) a'')
    {steps : List (ι × Ω)} {w : Pool I σ α}
    (hrun : (system H).Run (Pool.start s task) steps w) :
    ∃ a', R w.trace w.shared a' ∧
      Legal atomic (fun i p => ∃ es, Returns (w.task i) es p.2 ∧ p.1 = own w.trace i ++ es) a
        (commitOrder commit w.trace) a' := by
  -- Induction on the run, with the object where the commits so far have taken it.
  let possible (w : Pool I σ α) (i : ι) (p : List (Exchange I) × α i) : Prop :=
    ∃ es, Returns (w.task i) es p.2 ∧ p.1 = own w.trace i ++ es
  let Inv (w : Pool I σ α) : Prop := Reached H s task w ∧ ∃ a', R w.trace w.shared a' ∧
    Legal atomic (possible w) a (commitOrder commit w.trace) a'
  suffices hlegal : Inv w from hlegal.2
  refine hrun.invariant (I := Inv) ?_ ⟨.start H s task, a, hinit, .nil a⟩
  rintro w ⟨i, ω⟩ w' ⟨hreached, a', hR, hlegal⟩ hnext
  refine ⟨hreached.step hnext, ?_⟩
  obtain ⟨c, next, htask, hw'⟩ := next_eq_some.mp hnext
  have hpath : Path (task i) (own w.trace i) (.ask c next) := htask ▸ hreached.path i
  have htask' : w'.task = Function.update w.task i (next (H c ω w.shared).1) := by rw [hw']
  have htrace' : w'.trace = w.trace ++ [(i, ⟨c, (H c ω w.shared).1⟩)] := by rw [hw']
  have hshared' : w'.shared = (H c ω w.shared).2 := by rw [hw']
  -- what may still be returned could have been returned before the step, by the same exchanges
  have hfewer (j : ι) (p : List (Exchange I) × α j) (hp : possible w' j p) : possible w j p := by
    obtain ⟨es, hes, hwhole⟩ := hp
    by_cases hj : j = i
    · subst hj
      rw [htask', Function.update_self] at hes
      rw [htrace', own_concat_self, List.append_assoc, List.singleton_append] at hwhole
      exact ⟨_, htask ▸ Path.cons _ hes, hwhole⟩
    · rw [htask', Function.update_of_ne hj] at hes
      rw [htrace', own_concat_of_ne hj] at hwhole
      exact ⟨es, hes, hwhole⟩
  have hkept := hlegal.imp fun j _ p hp => ⟨p, hfewer j p hp, fun _ _ h => h⟩
  rw [hshared', htrace', commitOrder_concat]
  cases hc : commit i ⟨c, (H c ω w.shared).1⟩ with
  | false =>
    rw [if_neg Bool.false_ne_true, List.append_nil]
    exact ⟨a', hother _ _ _ _ _ _ hreached.served hR ⟨next, hpath⟩ hc, hkept⟩
  | true =>
    rw [if_pos rfl]
    obtain ⟨a'', hR', hatomic⟩ := hcommit _ _ _ _ _ _ hreached.served hR ⟨next, hpath⟩ hc
    refine ⟨a'', hR', .snoc hkept i ?_⟩
    rintro ⟨whole, r⟩ ⟨es, hes, hwhole⟩
    rw [htask', Function.update_self] at hes
    rw [htrace', own_concat_self, List.append_assoc, List.singleton_append] at hwhole
    obtain rfl : whole = own w.trace i ++ ⟨c, (H c ω w.shared).1⟩ :: es := hwhole
    exact hatomic es r (hpath.append (.cons _ hes))

/-- The order of the commits is one that a linearization may have. -/
theorem linearizes_commitOrder [∀ c, Nonempty (I.Reply c)] {atomic : Atomic A α}
    {commit : ι → Exchange I → Bool} {a a' : A} {w : Pool I σ α} (hreached : Reached H s task w)
    (honce : ∀ i es r, Returns (task i) es r → es.countP (commit i) = 1)
    (hlegal : Legal atomic (fun i r => ∃ es, Returns (w.task i) es r) a
      (commitOrder commit w.trace) a') :
    Linearizes atomic w a a' (commitOrder commit w.trace) := by
  refine ⟨?_, ?_, ?_, hlegal, ?_⟩
  · rw [List.nodup_iff_count_le_one]
    intro i
    rw [count_commitOrder]
    -- what it did so far is the beginning of a path that ends
    obtain ⟨es, r, hes⟩ := Program.exists_returns (w.task i)
    have hcount := honce i _ r ((hreached.path i).append hes)
    rw [List.countP_append] at hcount
    omega
  -- what has returned has committed once
  · intro i r hdone
    rw [← List.count_pos_iff, count_commitOrder, honce i _ r (hreached.returns hdone)]
    exact Nat.one_pos
  · intro i hi hnil
    rw [mem_commitOrder, hnil] at hi
    simp at hi
  -- of two that are apart in time, the one that is over has committed first
  · intro before after i j htrace hafter hbefore hi hj
    rw [htrace] at hi hj ⊢
    exact sublist_commitOrder hi hj hafter hbefore

/-- **The proof rule of commit points.** If each operation commits once before it returns, and a
relation `R` between the trace, the shared state and the object is kept, then the order of the
commits is a linearization. -/
theorem exists_linearization [∀ c, Nonempty (I.Reply c)] {atomic : Atomic A α}
    (commit : ι → Exchange I → Bool) (R : List (ι × Exchange I) → σ → A → Prop) {a : A}
    (honce : ∀ i es r, Returns (task i) es r → es.countP (commit i) = 1) (hinit : R [] s a)
    (hother : ∀ trace s' a' i c ω, Served H s (trace.map Prod.snd) s' → R trace s' a' →
      (∃ next, Path (task i) (own trace i) (.ask c next)) →
      commit i ⟨c, (H c ω s').1⟩ = false →
      R (trace ++ [(i, ⟨c, (H c ω s').1⟩)]) (H c ω s').2 a')
    (hcommit : ∀ trace s' a' i c ω, Served H s (trace.map Prod.snd) s' → R trace s' a' →
      (∃ next, Path (task i) (own trace i) (.ask c next)) →
      commit i ⟨c, (H c ω s').1⟩ = true →
      ∃ a'', R (trace ++ [(i, ⟨c, (H c ω s').1⟩)]) (H c ω s').2 a'' ∧
        ∀ es r, Returns (task i) (own trace i ++ ⟨c, (H c ω s').1⟩ :: es) r → atomic i a' r a'')
    {steps : List (ι × Ω)} {w : Pool I σ α}
    (hrun : (system H).Run (Pool.start s task) steps w) :
    ∃ a', R w.trace w.shared a' ∧ Linearizes atomic w a a' (commitOrder commit w.trace) := by
  -- The rule with the exchanges of the operations left out.
  obtain ⟨a', hR, hlegal⟩ := legal_commitOrder (fun i b p b' => atomic i b p.2 b')
    commit R hinit hother hcommit hrun
  refine ⟨a', hR, linearizes_commitOrder (reached_of_run hrun) honce ?_⟩
  refine hlegal.imp fun i _ r ⟨es, hes⟩ => ⟨(own w.trace i ++ es, r), ⟨es, hes, rfl⟩, ?_⟩
  exact fun _ _ h => h

end Pool
