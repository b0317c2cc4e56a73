import Pax.Framework.Indifference

/-!
# Programs that run concurrently within one

`concurrently` runs a list of programs with at most `active` of them in progress, and returns what
they return, in the order in which they finish. Which program goes on at each point is told by
`picks`; once these are used up, the rest runs one after the other.

This is how a stream of futures is buffered unordered: it is polled for more futures before those in
progress are, and a future that is ready makes room for the next one. `concurrently_start` and
`concurrently_pick` say just that. Since every choice that an executor has is some list of picks,
what is proved for all of them holds of every executor.

## The rule for what they do together

`Gathers R` says of a relation `R` between programs, exchanges and values that it is kept as
programs are started, make a call, or return, and does not depend on the order in which they are
listed. Any such relation holds of what `concurrently` does (`Gathers.concurrently`). The one that
is used the most is `RanAll`: each of the programs has run from its beginning to its end, and the
exchanges of the whole are theirs (`returns_concurrently`).
-/

namespace Program

variable {I : Interface} {β : Type}

/-- One after the other, with what has been returned so far. -/
def inTurn : List (Program I β) → (out : List β) → Program I (List β)
  | [], out => .done out
  | p :: ps, out => p >>= fun b => inTurn ps (out ++ [b])

/-- Run the programs, with those in progress and what has been returned so far. A pick is used up by
each start of a program, and by each call. -/
def concurrently (active : ℕ) :
    (picks : List ℕ) → (waiting running : List (Program I β)) → (out : List β) →
      Program I (List β)
  | [], waiting, running, out => inTurn (running ++ waiting) out
  | pick :: picks, waiting, running, out =>
    if !waiting.isEmpty && decide (running.length < active) then
      concurrently active picks waiting.tail (running ++ waiting.take 1) out
    else
      let i := pick % running.length
      match running[i]? with
      -- nothing is in progress
      | none => inTurn waiting out
      | some (.done b) => concurrently active picks waiting (running.eraseIdx i) (out ++ [b])
      | some (.ask c next) => .ask c fun r =>
        match next r with
        | .done b => concurrently active picks waiting (running.eraseIdx i) (out ++ [b])
        | .ask c' next' => concurrently active picks waiting (running.set i (.ask c' next')) out

variable {active pick : ℕ} {picks : List ℕ} {waiting running : List (Program I β)} {out : List β}

/-- While there is room, the next program is started, before any of those in progress goes on. -/
theorem concurrently_start {p : Program I β} (hroom : running.length < active) :
    concurrently active (pick :: picks) (p :: waiting) running out
      = concurrently active picks waiting (running ++ [p]) out := by
  rw [concurrently, if_pos (by simp [hroom])]
  rfl

/-- If there is no room, or nothing is waiting, then the program that is picked makes its next
call. If it returns after that, its value is handed out and it makes room for another one. -/
theorem concurrently_pick {c : I.Call} {next : I.Reply c → Program I β}
    (hroom : waiting = [] ∨ ¬ running.length < active)
    (hpicked : running[pick % running.length]? = some (.ask c next)) :
    concurrently active (pick :: picks) waiting running out = .ask c fun r =>
      match next r with
      | .done b =>
        concurrently active picks waiting (running.eraseIdx (pick % running.length)) (out ++ [b])
      | .ask c' next' =>
        concurrently active picks waiting
          (running.set (pick % running.length) (.ask c' next')) out := by
  -- No program is started: none is waiting, or there is no room for it.
  have hnot : ¬ (!waiting.isEmpty && decide (running.length < active)) = true := by
    rcases hroom with rfl | hfull
    · simp
    · simp [hfull]
  rw [concurrently, if_neg hnot]
  dsimp only
  rw [hpicked]

/-- If no program is waiting or in progress, then there is nothing left to do. -/
theorem concurrently_nil :
    concurrently active picks ([] : List (Program I β)) [] out = .done out := by
  cases picks <;> rfl

/-! ### Properties that composition keeps -/

/-- A property of programs that holds of whatever only returns, and goes from a program to others
that make its calls and look at nothing but what is left of it. -/
structure Compositional (P : (α : Type) → Program I α → Prop) : Prop where
  done : ∀ {α : Type} (a : α), P α (.done a)
  ask : ∀ {α β : Type} {c : I.Call} {next : I.Reply c → Program I α}
    {next' : I.Reply c → Program I β}, P α (.ask c next) → (∀ r, P α (next r) → P β (next' r)) →
      (∀ r r', next r = next r' → next' r = next' r') → P β (.ask c next')

theorem compositional_uses (ok : I.Call → Prop) :
    Compositional fun _ (p : Program I _) => p.Uses ok where
  done _ := trivial
  ask hp hnext _ := ⟨hp.1, fun r => hnext r (hp.2 r)⟩

theorem compositional_indifferent (same : (c : I.Call) → I.Reply c → I.Reply c → Prop) :
    Compositional fun _ (p : Program I _) => p.Indifferent same where
  done _ := trivial
  ask hp hnext heq r :=
    ⟨hnext r (hp r).1, fun r' hsame => heq r r' ((hp r).2 r' hsame)⟩

namespace Compositional

variable {P : (α : Type) → Program I α → Prop} (hP : Compositional P)
include hP

theorem bind {α : Type} {p : Program I α} {f : α → Program I β} (hp : P α p)
    (hf : ∀ a, P β (f a)) : P β (p >>= f) := by
  induction p with
  | done a => exact hf a
  | ask c next ih =>
    refine hP.ask hp (fun r hr => ih r hr) fun r r' heq => ?_
    rw [heq]

theorem inTurn {ps : List (Program I β)} (h : ∀ p ∈ ps, P β p) (out : List β) :
    P (List β) (inTurn ps out) := by
  induction ps generalizing out with
  | nil => exact hP.done out
  | cons p ps ih =>
    refine hP.bind (h p List.mem_cons_self) fun b => ?_
    exact ih (fun q hq => h q (List.mem_cons_of_mem p hq)) _

/-- **What all programs have, they have together**, whichever goes on at each point. -/
theorem concurrently (hwaiting : ∀ p ∈ waiting, P β p) (hrunning : ∀ p ∈ running, P β p)
    (out : List β) : P (List β) (concurrently active picks waiting running out) := by
  induction picks generalizing waiting running out with
  | nil =>
    apply hP.inTurn
    intro p hp
    exact (List.mem_append.mp hp).elim (hrunning p) (hwaiting p)
  | cons pick picks ih =>
    have herase (i : ℕ) : ∀ q ∈ running.eraseIdx i, P β q := fun q hq =>
      hrunning q (List.mem_of_mem_eraseIdx hq)
    rw [Program.concurrently]
    split
    -- one more is started
    · refine ih (fun q hq => hwaiting q (List.mem_of_mem_tail hq)) (fun q hq => ?_) out
      rcases List.mem_append.mp hq with hq | hq
      · exact hrunning q hq
      · exact hwaiting q (List.mem_of_mem_take hq)
    · dsimp only
      split
      · exact hP.inTurn hwaiting out
      · exact ih hwaiting (herase _) _
      · next c next hpicked =>
        -- the program picked goes on, and all of them with what is left of it
        refine hP.ask (hrunning _ (List.mem_of_getElem? hpicked)) (fun r hr => ?_)
          fun r r' heq => ?_
        · cases hnext : next r with
          | done b => exact ih hwaiting (herase _) _
          | ask c' next' =>
            refine ih hwaiting (fun q hq => ?_) out
            rcases List.mem_or_eq_of_mem_set hq with hq | rfl
            · exact hrunning q hq
            · exact hnext ▸ hr
        · rw [heq]

end Compositional

/-! ### What each of them did -/

/-- A program that has run to its end, with what it did and what it returned. -/
structure Ran (I : Interface) (β : Type) where
  program : Program I β
  exchanges : List (Exchange I)
  value : β
  returns : Returns program exchanges value

/-- All of these programs ran, and the exchanges `es` and the values `out` are theirs, in some
order. -/
def RanAll (ps : List (Program I β)) (es : List (Exchange I)) (out : List β) : Prop :=
  ∃ runs : List (Ran I β), (runs.map Ran.program).Perm ps ∧ es.Perm (runs.flatMap Ran.exchanges) ∧
    out.Perm (runs.map Ran.value)

namespace RanAll

variable {ps ps' : List (Program I β)} {es : List (Exchange I)} {p q : Program I β}

theorem nil : RanAll ([] : List (Program I β)) [] [] := ⟨[], .nil, .nil, .nil⟩

theorem perm (h : RanAll ps es out) (hps : ps.Perm ps') : RanAll ps' es out := by
  obtain ⟨runs, hprograms, hes, hout⟩ := h
  exact ⟨runs, hprograms.trans hps, hes, hout⟩

/-- One more program ran, and its exchanges are put before those of the others. -/
theorem cons (run : Ran I β) (h : RanAll ps es out) :
    RanAll (run.program :: ps) (run.exchanges ++ es) (run.value :: out) := by
  obtain ⟨runs, hprograms, hes, hout⟩ := h
  exact ⟨run :: runs, hprograms.cons _, hes.append_left _, hout.cons _⟩

/-- One of the programs had another exchange before all of those gathered so far. -/
theorem ask {c : I.Call} {next : I.Reply c → Program I β} {r : I.Reply c}
    (h : RanAll (next r :: ps) es out) : RanAll (.ask c next :: ps) (⟨c, r⟩ :: es) out := by
  obtain ⟨runs, hprograms, hes, hout⟩ := h
  have hmem : next r ∈ runs.map Ran.program := hprograms.mem_iff.mpr List.mem_cons_self
  obtain ⟨run, hrun, hprogram⟩ := List.mem_map.mp hmem
  obtain ⟨before, after, rfl⟩ := List.append_of_mem hrun
  -- the run of that program first
  have hsplit : (before ++ run :: after).Perm (run :: (before ++ after)) := List.perm_middle
  have hrest : ((before ++ after).map Ran.program).Perm ps := by
    have hall := (hsplit.map Ran.program).symm.trans hprograms
    rw [List.map_cons, hprogram] at hall
    exact hall.cons_inv
  refine ⟨⟨.ask c next, ⟨c, r⟩ :: run.exchanges, run.value, .cons r (hprogram ▸ run.returns)⟩
    :: (before ++ after), hrest.cons _, ?_, hout.trans (hsplit.map Ran.value)⟩
  exact (hes.trans (hsplit.flatMap_right Ran.exchanges)).cons _

/-- Of programs that are one for each job, those that ran are, for the same jobs. -/
theorem jobs {κ : Type*} {f : κ → Program I β} {jobs : List κ} (h : RanAll (jobs.map f) es out) :
    ∃ (jobs' : List κ) (runs : List (Ran I β)), jobs'.Perm jobs ∧
      List.Forall₂ (fun job run => run.program = f job) jobs' runs ∧
      es.Perm (runs.flatMap Ran.exchanges) ∧ out.Perm (runs.map Ran.value) := by
  obtain ⟨runs, hprograms, hes, hout⟩ := h
  have hmap : List.Forall₂ (fun p job => p = f job) (jobs.map f) jobs :=
    List.forall₂_map_left_iff.mpr (List.forall₂_same.mpr fun _ _ => rfl)
  -- the jobs in the order in which the programs stand among the runs
  have hcomp := List.perm_comp_forall₂ hprograms hmap
  obtain ⟨jobs', hruns, hjobs⟩ := hcomp
  exact ⟨jobs', runs, hjobs, (List.forall₂_map_left_iff.mp hruns).flip, hes, hout⟩

end RanAll

variable {es es₁ : List (Exchange I)} {out' : List β}

/-- A relation between programs, what they did and what they returned that holds of more programs
when one more is over, and when one of them made a call before. -/
structure Gathers (R : List (Program I β) → List (Exchange I) → List β → Prop) : Prop where
  nil : R [] [] []
  perm : ∀ {ps ps' es out}, R ps es out → ps.Perm ps' → R ps' es out
  done : ∀ {ps es out} (b : β), R ps es out → R (.done b :: ps) es (b :: out)
  ask : ∀ {c : I.Call} {next : I.Reply c → Program I β} {r : I.Reply c} {ps es out},
    R (next r :: ps) es out → R (.ask c next :: ps) (⟨c, r⟩ :: es) out

namespace Gathers

variable {R : List (Program I β) → List (Exchange I) → List β → Prop} {p : Program I β} {b : β}
  {ps : List (Program I β)}

/-- One more program ran, and its exchanges are put before those of the others. -/
theorem cons (hR : Gathers R) (hp : Returns p es₁ b) (h : R ps es out) :
    R (p :: ps) (es₁ ++ es) (b :: out) := by
  induction p generalizing es₁ with
  | done b' =>
    obtain ⟨rfl, rfl⟩ := returns_done.mp hp
    exact hR.done _ h
  | ask c next ih =>
    obtain ⟨r, es', rfl, hrest⟩ := returns_ask.mp hp
    exact hR.ask (ih r hrest)

theorem inTurn (hR : Gathers R) (h : Returns (inTurn ps out) es out') :
    ∃ returned, R ps es returned ∧ out' = out ++ returned := by
  induction ps generalizing out es with
  | nil =>
    obtain ⟨rfl, rfl⟩ := returns_done.mp h
    exact ⟨[], hR.nil, (List.append_nil _).symm⟩
  | cons p ps ih =>
    obtain ⟨es₁, b, es₂, rfl, hp, hrest⟩ := returns_bind.mp h
    obtain ⟨returned, hran, rfl⟩ := ih hrest
    exact ⟨b :: returned, hR.cons hp hran, List.append_assoc ..⟩

end Gathers

theorem perm_of_getElem? {α : Type*} {l : List α} {i : ℕ} {a : α} (h : l[i]? = some a) :
    l.Perm (a :: l.eraseIdx i) := by
  obtain ⟨hlt, rfl⟩ := List.getElem?_eq_some_iff.mp h
  exact (List.getElem_cons_eraseIdx_perm hlt).symm

/-- **The rule for programs that run concurrently**, whichever goes on at each point. -/
theorem Gathers.concurrently {R : List (Program I β) → List (Exchange I) → List β → Prop}
    (hR : Gathers R) (h : Returns (concurrently active picks waiting running out) es out') :
    ∃ returned, R (running ++ waiting) es returned ∧ out' = out ++ returned := by
  induction picks generalizing waiting running out es with
  | nil => exact hR.inTurn h
  | cons pick picks ih =>
    rw [Program.concurrently] at h
    split at h
    -- one more is started
    · obtain ⟨returned, hran, rfl⟩ := ih h
      refine ⟨returned, ?_, rfl⟩
      have hwaiting : waiting.take 1 ++ waiting.tail = waiting := by
        rw [← List.drop_one, List.take_append_drop]
      rwa [List.append_assoc, hwaiting] at hran
    · dsimp only at h
      split at h
      · next hnone =>
        -- a pick below the length finds something, so nothing is in progress
        have hnil : running = [] := by
          by_contra hne
          have hlt := Nat.mod_lt pick (List.length_pos_of_ne_nil hne)
          rw [List.getElem?_eq_none_iff] at hnone
          omega
        rw [hnil]
        exact hR.inTurn h
      · next b hpicked =>
        obtain ⟨returned, hran, rfl⟩ := ih h
        have hperm := (perm_of_getElem? hpicked).append_right waiting
        exact ⟨b :: returned, hR.perm (hR.done b hran) hperm.symm, List.append_assoc ..⟩
      · next c next hpicked =>
        have hperm := (perm_of_getElem? hpicked).append_right waiting
        obtain ⟨r, es', rfl, hrest⟩ := returns_ask.mp h
        split at hrest
        · next b hnext =>
          obtain ⟨returned, hran, rfl⟩ := ih hrest
          have hone : R (next r :: (running.eraseIdx (pick % running.length) ++ waiting)) es'
              (b :: returned) := hnext ▸ hR.done b hran
          exact ⟨b :: returned, hR.perm (hR.ask hone) hperm.symm, List.append_assoc ..⟩
        · next c' next' hnext =>
          obtain ⟨returned, hran, rfl⟩ := ih hrest
          obtain ⟨hlt, -⟩ := List.getElem?_eq_some_iff.mp hpicked
          have hset := (List.set_perm_cons_eraseIdx hlt (next r)).append_right waiting
          rw [hnext] at hset
          refine ⟨returned, ?_, rfl⟩
          exact hR.perm (hR.ask (hnext ▸ hR.perm hran hset)) hperm.symm

theorem gathers_ranAll : Gathers (RanAll (I := I) (β := β)) where
  nil := .nil
  perm h hps := h.perm hps
  done b h := h.cons ⟨.done b, [], b, .nil _⟩
  ask h := h.ask

/-- **What programs did concurrently**, whichever went on at each point: every one of them ran to
its end, nothing else was done, and the values are theirs. -/
theorem returns_concurrently
    (h : Returns (concurrently active picks waiting running out) es out') :
    ∃ returned, RanAll (running ++ waiting) es returned ∧ out' = out ++ returned :=
  gathers_ranAll.concurrently h

end Program
