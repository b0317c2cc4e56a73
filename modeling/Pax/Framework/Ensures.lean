import Pax.Framework.Concurrently
import Pax.Framework.Pool

/-!
# What a program ensures

`p.Ensures ok post` is a triple for interaction programs. If every exchange of `p` is as `ok` says,
which is what is known of the environment, then what it does until it returns, and what it returns,
satisfies `post`. The rules are those of a Hoare logic: for a sequence, for a single call, for
programs that run concurrently, and for a program whose calls are programs themselves. A task of a
pool ensures the same, whatever the others do (`Pool.Reached.ensures`).
-/

namespace Program

variable {I J : Interface} {α β : Type}

/-- If its exchanges are `ok`, the program returns with these and a value that satisfy `post`. -/
def Ensures (ok : Exchange I → Prop) (p : Program I α) (post : List (Exchange I) → α → Prop) :
    Prop :=
  ∀ es a, Returns p es a → (∀ e ∈ es, ok e) → post es a

namespace Ensures

variable {ok ok' : Exchange I → Prop} {p : Program I α} {f : α → Program I β}
  {post post' : List (Exchange I) → α → Prop}

theorem mono (h : p.Ensures ok post) (himp : ∀ es a, post es a → post' es a) :
    p.Ensures ok post' :=
  fun es a hreturns hok => himp es a (h es a hreturns hok)

theorem done {a : α} (h : post [] a) : (Program.done a : Program I α).Ensures ok post := by
  intro es a' hreturns _
  obtain ⟨rfl, rfl⟩ := returns_done.mp hreturns
  exact h

/-- A call, and what comes after it: every reply that the environment may give must lead to what
is ensured. -/
theorem ask {c : I.Call} {next : I.Reply c → Program I α}
    (h : ∀ r, ok ⟨c, r⟩ → (next r).Ensures ok fun es a => post (⟨c, r⟩ :: es) a) :
    (Program.ask c next).Ensures ok post := by
  intro es a hreturns hok
  obtain ⟨r, es', rfl, hrest⟩ := returns_ask.mp hreturns
  exact h r (hok _ List.mem_cons_self) es' a hrest fun e he => hok e (List.mem_cons_of_mem _ he)

/-- One program after the other: what the first one ensures is what is known where the second one
begins. -/
theorem bind {mid : List (Exchange I) → α → Prop} {post : List (Exchange I) → β → Prop}
    (h : p.Ensures ok mid)
    (hf : ∀ es a, mid es a → (f a).Ensures ok fun es' b => post (es ++ es') b) :
    (p >>= f).Ensures ok post := by
  intro es b hreturns hok
  obtain ⟨es₁, a, es₂, rfl, hfirst, hsecond⟩ := returns_bind.mp hreturns
  have hmid := h es₁ a hfirst fun e he => hok e (List.mem_append_left _ he)
  exact hf es₁ a hmid es₂ b hsecond fun e he => hok e (List.mem_append_right _ he)

/-- **Concurrently.** Of programs that are one for each job, whichever goes on at each point, each
returns, and what is done and returned is what they did and returned. -/
theorem concurrently {κ : Type*} {g : κ → Program I β} {post : κ → List (Exchange I) → β → Prop}
    {jobs : List κ} (h : ∀ job ∈ jobs, (g job).Ensures ok (post job)) (active : ℕ)
    (picks : List ℕ) :
    (Program.concurrently active picks (jobs.map g) [] []).Ensures ok fun es out =>
      ∃ runs : List (κ × List (Exchange I) × β), (runs.map Prod.fst).Perm jobs ∧
        es.Perm (runs.flatMap fun run => run.2.1) ∧ out.Perm (runs.map fun run => run.2.2) ∧
        ∀ run ∈ runs, post run.1 run.2.1 run.2.2 := by
  intro es out hreturns hok
  obtain ⟨returned, hran, hout⟩ := returns_concurrently hreturns
  rw [List.nil_append] at hran hout
  subst hout
  obtain ⟨jobs', ran, hjobs, hall, hes, hreturned⟩ := hran.jobs
  have hran (run : Ran I β) (hrun : run ∈ ran) : ∀ e ∈ run.exchanges, ok e := fun e he =>
    hok e (hes.mem_iff.mpr (List.mem_flatMap.mpr ⟨run, hrun, he⟩))
  -- Each program has run to its end, so what it ensures by itself is known of it.
  have hpost : List.Forall₂ (fun job (run : Ran I β) => post job run.exchanges run.value)
      jobs' ran := by
    refine (List.forall₂_iff_get.mpr ⟨hall.length_eq, fun i hi hi' => ?_⟩)
    have hprogram := (List.forall₂_iff_get.mp hall).2 i hi hi'
    refine h _ (hjobs.mem_iff.mp (List.get_mem _ _)) _ _ ?_ (hran _ (List.get_mem _ _))
    rw [← hprogram]
    exact (ran.get ⟨i, hi'⟩).returns
  -- The jobs and their runs, listed side by side.
  have hfst : (jobs'.zip ran).map Prod.fst = jobs' := List.map_fst_zip hpost.length_eq.le
  have hsnd : (jobs'.zip ran).map Prod.snd = ran := List.map_snd_zip hpost.length_eq.ge
  refine ⟨(jobs'.zip ran).map fun p => (p.1, p.2.exchanges, p.2.value), ?_, ?_, ?_, ?_⟩
  · rw [List.map_map]
    exact hfst.symm ▸ hjobs
  · rw [List.flatMap_map]
    rwa [← hsnd, List.flatMap_map] at hes
  · rw [List.map_map]
    rwa [← hsnd, List.map_map] at hreturned
  · intro run hrun
    obtain ⟨p, hp, rfl⟩ := List.mem_map.mp hrun
    exact List.forall₂_iff_zip.mp hpost |>.2 hp

/-- Each call is made by a program that ensures what `post` says of the call. -/
theorem interpreted {f : (c : I.Call) → Program J (I.Reply c)} {ok : Exchange J → Prop}
    {post : (c : I.Call) → List (Exchange J) → I.Reply c → Prop}
    (h : ∀ c, (f c).Ensures ok (post c)) (p : Program I α) :
    (p.interpret f).Ensures ok fun es a => ∃ runs : List (Exchange I × List (Exchange J)),
      Returns p (runs.map Prod.fst) a ∧ es = runs.flatMap Prod.snd ∧
        ∀ run ∈ runs, post run.1.call run.2 run.1.reply := by
  -- On the program: the exchanges of the first call, and those of what comes after its reply.
  induction p with
  | done a => exact .done ⟨[], .nil _, rfl, fun run hrun => absurd hrun List.not_mem_nil⟩
  | ask c next ih =>
    refine (h c).bind fun es₁ r hr => (ih r).mono ?_
    rintro es₂ a ⟨runs, hreturns, rfl, hruns⟩
    refine ⟨(⟨c, r⟩, es₁) :: runs, .cons r hreturns, rfl, fun run hrun => ?_⟩
    rcases List.mem_cons.mp hrun with rfl | hrun
    · exact hr
    · exact hruns run hrun

end Ensures

end Program

/-- **A task ensures what its program does**, whatever the other tasks do. -/
theorem Pool.Reached.ensures {I : Interface} {Ω σ ι : Type} {α : ι → Type} [DecidableEq ι]
    {H : Handler I Ω σ} {w : Pool I σ α} {s : σ} {task : (i : ι) → Program I (α i)} {i : ι}
    {ok : Exchange I → Prop} {post : List (Exchange I) → α i → Prop}
    (hreached : Pool.Reached H s task w) (h : (task i).Ensures ok post)
    (hok : ∀ e ∈ own w.trace i, ok e) {a : α i} (hdone : w.task i = .done a) :
    post (own w.trace i) a :=
  h _ a (hreached.returns hdone) hok
