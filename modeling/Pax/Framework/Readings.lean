import Mathlib.Algebra.BigOperators.Group.Multiset.Basic
import Mathlib.Algebra.Order.Group.Multiset
import Mathlib.Data.List.Flatten
import Pax.Framework.Pool

/-!
# What is read off a run

A reading takes from each exchange a list of what is of interest in it, and over a run these are
strung together with `flatMap`. A reading is compared with another one where the exchanges come
from: call by call for a program that is interpreted, state by state for a handler, and task by task
for a pool.
-/

variable {I J : Interface} {α μ : Type}

/-- What a program has done so far can be carried on to where it returns. -/
theorem Program.Path.exists_returns [∀ c, Nonempty (I.Reply c)] {p q : Program I α}
    {es : List (Exchange I)} (h : Path p es q) : ∃ es' a, Returns p (es ++ es') a := by
  obtain ⟨es', a, hrest⟩ := Program.exists_returns q
  exact ⟨es', a, h.append hrest⟩

/-- **Call by call.** A relation that is kept by stringing together holds of what a client calls and
what becomes of it, if it holds for each call. -/
theorem Program.Interpreted.rel {f : (c : I.Call) → Program J (I.Reply c)}
    {R : List (Exchange I) → List (Exchange J) → Prop} (hnil : R [] [])
    (happend : ∀ cs cs' es es', R cs es → R cs' es' → R (cs ++ cs') (es ++ es'))
    (hone : ∀ c es reply, Returns (f c) es reply → R [⟨c, reply⟩] es) {cs : List (Exchange I)}
    {es : List (Exchange J)} (h : Interpreted f cs es) : R cs es := by
  induction h with
  | nil => exact hnil
  | cons hfirst _ ih => exact happend _ _ _ _ (hone _ _ _ hfirst) ih

/-- **State by state.** Of a list that the handler keeps: what it was and what came in is what went
out and what it is now. -/
theorem Served.balance {Ω σ : Type} {H : Handler I Ω σ} (held : σ → List μ)
    {into out : Exchange I → List μ}
    (hstep : ∀ c ω s, held s ++ into ⟨c, (H c ω s).1⟩ = out ⟨c, (H c ω s).1⟩ ++ held (H c ω s).2)
    {s s' : σ} {es : List (Exchange I)} (h : Served H s es s') :
    held s ++ es.flatMap into = es.flatMap out ++ held s' := by
  induction h with
  | nil => exact List.append_nil _
  | @snoc s₁ es hes c ω ih =>
    rw [List.flatMap_append, List.flatMap_singleton, List.flatMap_append, List.flatMap_singleton]
    calc held s ++ (es.flatMap into ++ into ⟨c, (H c ω s₁).1⟩)
        = es.flatMap out ++ (held s₁ ++ into ⟨c, (H c ω s₁).1⟩) := by
          rw [← List.append_assoc, ih, List.append_assoc]
      _ = (es.flatMap out ++ out ⟨c, (H c ω s₁).1⟩) ++ held (H c ω s₁).2 := by
          rw [hstep, List.append_assoc]

section Trace

variable {ι ε : Type} [DecidableEq ι] {trace : List (ι × ε)}

theorem sum_map_coe (f : ε → List μ) (es : List ε) :
    (es.map fun e => (f e : Multiset μ)).sum = (es.flatMap f : Multiset μ) := by
  induction es with
  | nil => rfl
  | cons e es ih =>
    rw [List.map_cons, List.sum_cons, ih, List.flatMap_cons]
    rfl

/-- **Task by task.** Two readings of a trace are the same up to order if they are so for each
task. -/
theorem perm_flatMap_of_own {f g : ε → List μ}
    (h : ∀ i, ((own trace i).flatMap f).Perm ((own trace i).flatMap g)) :
    ((trace.map Prod.snd).flatMap f).Perm ((trace.map Prod.snd).flatMap g) := by
  refine Multiset.coe_eq_coe.mp ?_
  rw [← sum_map_coe, ← sum_map_coe]
  refine rel_sum_of_own (R := fun a b : Multiset μ => a = b) rfl
    (fun a b c d hab hcd => congrArg₂ (· + ·) hab hcd) fun i => ?_
  rw [sum_map_coe, sum_map_coe]
  exact Multiset.coe_eq_coe.mpr (h i)

/-- What is read off a task stands in order in what is read off all. -/
theorem sublist_flatMap_own (f : ε → List μ) (i : ι) :
    ((own trace i).flatMap f).Sublist ((trace.map Prod.snd).flatMap f) :=
  List.Sublist.flatMap (List.filter_sublist.map Prod.snd) f

end Trace
