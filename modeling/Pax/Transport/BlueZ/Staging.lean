import Pax.Transport.BlueZ.Push

/-!
# Isolation of the staged files

The path of a staged file is made of the process id and of the name of the object, so that two
pushes under way at once stage into one file if their names collide (`Host.Collide`): the second
truncates what the first has staged, and the first to return unlinks it.

* While no two live pushes share a path (`Apart`), each finds its own payload staged
  (`isolated_of_meets`). The invariant is `Inv`: what is at the path of each call, in each of its
  phases (`Holds`), and that no two live calls share a path. A step touches the file of its own call
  only (`Effect`), so that it keeps what the others have staged.
* Once two do share a path, a continuation of the run shows it (`exists_run_not_isolated`): one of
  the two goes on until it is pushing and the other until it has returned, and with that the file is
  gone.

`staged_isolated_iff` puts both directions together, and `same_name_truncates` is a run of two
pushes of one name.
-/

namespace Pax
namespace BlueZ

variable {ι : Type}

/-! ### What a step does -/

/-- The call whose step it is. -/
def Step.call : Step ι → ι
  | create i | createFails i _ | write i _ | writeFails i _ | push i | read i | progress i _
  | finish i _ | remove i => i

section

variable (host : Host) (calls : ι → PushCall)

/-- What a step does to the phase of its call, and to the files. -/
inductive Effect : Step ι → Phase → FileSystem String → Phase → FileSystem String → Prop where
  | create {i fs start} :
    Effect (.create i) .idle fs (.staging start (fs.create (pathOf host calls i)).2 0)
      (fs.create (pathOf host calls i)).1
  | createFails {i e fs result} : Effect (.createFails i e) .idle fs (.returned result) fs
  | write {i n fs start node written} (hle : written + n ≤ (payload calls i).length) :
    Effect (.write i n) (.staging start node written) fs (.staging start node (written + n))
      (fs.write node written (((payload calls i).drop written).take n))
  | writeFails {i e fs start node written result} :
    Effect (.writeFails i e) (.staging start node written) fs (.returned result) fs
  | push {i fs start node progress} :
    Effect (.push i) (.staging start node (payload calls i).length) fs (.pushing start progress) fs
  | read {i fs start progress} :
    Effect (.read i) (.pushing start progress) fs (.pushing start progress) fs
  | progress {i transferred fs start progress progress'} :
    Effect (.progress i transferred) (.pushing start progress) fs (.pushing start progress') fs
  | finish {i outcome fs start progress result} :
    Effect (.finish i outcome) (.pushing start progress) fs (.ended result) fs
  | remove {i fs result} :
    Effect (.remove i) (.ended result) fs (.returned result) (fs.remove (pathOf host calls i))

end

/-! ### The invariant -/

section

variable (host : Host) (calls : ι → PushCall)

/-- What is at the path of a call in each of its phases: what it has written so far, and then its
payload. -/
def Holds (i : ι) (fs : FileSystem String) : Phase → Prop
  | .staging _ node written =>
    written ≤ (payload calls i).length ∧ fs.link (pathOf host calls i) = some node ∧
      fs.content node = (payload calls i).take written
  | .pushing .. => fs.read (pathOf host calls i) = some (payload calls i)
  | .idle | .ended _ | .returned _ => True

/-- **Isolation.** From the end of its staging until the end of its transfer, a call's own payload
is at the path it staged; and so `obexd` has found nothing else there. -/
structure Isolated (w : World ι) : Prop where
  staged : ∀ i, (w.phase i).Pushing → w.fs.read (pathOf host calls i) = some (payload calls i)
  found : ∀ i, ∀ content ∈ w.found i, content = some (payload calls i)

/-- No call opens its file while another one is live whose name collides. -/
def Apart (w : World ι) : Step ι → Prop
  | .create i => ∀ j, j ≠ i → (w.phase j).Live →
      ¬ host.Collide (calls j).file.name (calls i).file.name
  | _ => True

/-- The invariant of the runs in which the calls stay apart. -/
structure Inv (w : World ι) : Prop where
  holds : ∀ i, Holds host calls i w.fs (w.phase i)
  found : ∀ i, ∀ content ∈ w.found i, content = some (payload calls i)
  distinct : ∀ i j, (w.phase i).Live → (w.phase j).Live →
    pathOf host calls i = pathOf host calls j → i = j

end

variable {env : Environment} {host : Host} {calls : ι → PushCall}
variable {w w' : World ι} {step : Step ι} {i j : ι}

theorem Holds.staged {fs : FileSystem String} {phase : Phase}
    (h : Holds host calls i fs phase) (hpushing : phase.Pushing) :
    fs.read (pathOf host calls i) = some (payload calls i) := by
  cases phase with
  | pushing => exact h
  | idle | staging | ended | returned => exact hpushing.elim

theorem Inv.isolated (h : Inv host calls w) : Isolated host calls w :=
  ⟨fun i => (h.holds i).staged, h.found⟩

theorem inv_start (fs : FileSystem String) (backend : State) :
    Inv host calls (World.start fs backend) where
  holds _ := trivial
  found _ _ h := absurd h List.not_mem_nil
  distinct _ _ h := h.elim

/-! ### One step keeps it -/

section Effect

variable {before after : Phase} {fs fs' : FileSystem String}

/-- What a call does to its own file goes with the phase that it comes to. -/
theorem Effect.holds (h : Effect host calls step before fs after fs')
    (hbefore : Holds host calls step.call fs before) : Holds host calls step.call fs' after := by
  cases h with
  | create => exact ⟨Nat.zero_le _, FileSystem.link_create, FileSystem.content_create⟩
  -- the next piece is appended to what this call has written
  | write hle =>
    obtain ⟨hwritten, hlink, hcontent⟩ := hbefore
    refine ⟨hle, hlink, ?_⟩
    -- The descriptor is at the end of what it has written.
    have hlength := List.length_take_of_le hwritten
    rw [FileSystem.content_write, hcontent]
    nth_rewrite 2 [← hlength]
    rw [FileSystem.overwrite_length]
    exact List.take_add.symm
  | push =>
    -- all is written, so the file found under the path is the payload
    obtain ⟨-, hlink, hcontent⟩ := hbefore
    simp only [Holds, Step.call, FileSystem.read] at hlink hcontent ⊢
    rw [hlink, Option.map_some, hcontent, List.take_length]
  | read | progress => exact hbefore
  | createFails | writeFails | finish | remove => trivial

/-- A step does nothing to the files of the paths that its call does not use. -/
theorem Effect.sameAt {q : String} (h : Effect host calls step before fs after fs')
    (hbefore : Holds host calls step.call fs before)
    (hne : before.Live ∨ after.Live → q ≠ pathOf host calls step.call) : fs.SameAt fs' q := by
  cases h with
  | create => exact FileSystem.sameAt_create (hne (.inr trivial))
  | write => exact FileSystem.sameAt_write (hne (.inl trivial)) hbefore.2.1
  | remove => exact FileSystem.sameAt_remove (hne (.inl trivial))
  -- these steps leave the files alone
  | createFails | writeFails | push | read | progress | finish => exact .refl q

/-- Only opening a file brings a call to life, so that it is enough to look at these steps. -/
theorem Effect.live (h : Effect host calls step before fs after fs') (hafter : after.Live) :
    before.Live ∨ ∃ i, step = .create i := by
  cases h with
  | create => exact .inr ⟨_, rfl⟩
  | write | push | read | progress | finish => exact .inl trivial
  | createFails | writeFails | remove => exact hafter.elim

theorem Effect.created (h : Effect host calls (.create i) before fs after fs') :
    ∃ start node, after = .staging start node 0 := by
  cases h
  exact ⟨_, _, rfl⟩

theorem Effect.written_le {start : Timestamp} {node written : ℕ}
    (h : Effect host calls step before fs (.staging start node written) fs') :
    written ≤ (payload calls step.call).length := by
  cases h with
  | create => exact Nat.zero_le _
  | write hle => exact hle

theorem Holds.of_sameAt {phase : Phase} (h : Holds host calls i fs phase)
    (hsame : fs.SameAt fs' (pathOf host calls i)) : Holds host calls i fs' phase := by
  cases phase with
  | staging start node written =>
    obtain ⟨hwritten, hlink, hcontent⟩ := h
    exact ⟨hwritten, hsame.link.trans hlink, (hsame.content hlink).trans hcontent⟩
  | pushing => exact hsame.read.trans h
  | idle | ended | returned => trivial

theorem Holds.of_not_live {phase : Phase} (h : ¬ phase.Live) : Holds host calls i fs phase := by
  cases phase with
  | staging | pushing => exact absurd trivial h
  | idle | ended | returned => trivial

end Effect

/-- The paths of the other live calls are not the path of the call whose step it is. -/
theorem Inv.path_ne (h : Inv host calls w) (hapart : Apart host calls w step) {after : Phase}
    (heffect : Effect host calls step (w.phase step.call) w.fs after w'.fs)
    (huses : (w.phase step.call).Live ∨ after.Live) (hj : j ≠ step.call)
    (hlive : (w.phase j).Live) :
    pathOf host calls j ≠ pathOf host calls step.call := by
  intro hpath
  -- it was live already, and live paths are distinct, or it opens its file now, and stays apart
  rcases huses.elim .inl heffect.live with hbefore | ⟨i, rfl⟩
  · exact hj (h.distinct j _ hlive hbefore hpath)
  · exact hapart j hj hlive (Host.stagedPath_eq_iff.mp hpath)

theorem not_isolated (hi : (w.phase i).Pushing) (hread : w.fs.read (pathOf host calls j) = none)
    (hpath : pathOf host calls i = pathOf host calls j) : ¬ Isolated host calls w := by
  intro h
  have hown := h.staged i hi
  rw [hpath, hread] at hown
  cases hown

/-! ### Every run keeps it -/

variable [DecidableEq ι]

/-- **What one step does.** Only the call of the step changes its phase; and what `obexd` finds, it
finds at the path of a call that is pushing. -/
theorem next_effect (h : (pushes env host calls).next w step = some w') :
    (∃ after, w'.phase = Function.update w.phase step.call after ∧
      Effect host calls step (w.phase step.call) w.fs after w'.fs) ∧
    ∀ j, w'.found j = w.found j ∨
      (w.phase j).Pushing ∧ w'.found j = w.found j ++ [w.fs.read (pathOf host calls j)] := by
  cases next_of_eq_some h with
  | create hphase => exact ⟨⟨_, rfl, hphase ▸ .create⟩, fun j => .inl rfl⟩
  | createFails e hphase => exact ⟨⟨_, rfl, hphase ▸ .createFails⟩, fun j => .inl rfl⟩
  | write hphase hle => exact ⟨⟨_, rfl, hphase ▸ .write hle⟩, fun j => .inl rfl⟩
  | writeFails e hphase => exact ⟨⟨_, rfl, hphase ▸ .writeFails⟩, fun j => .inl rfl⟩
  | push hphase => exact ⟨⟨_, rfl, hphase ▸ .push⟩, fun j => .inl rfl⟩
  | @read i _ _ hphase =>
    refine ⟨⟨_, (Function.update_eq_self ..).symm, hphase ▸ .read⟩, ?_⟩
    -- only the call that is read for finds something
    intro j
    rcases eq_or_ne j i with rfl | hne
    · exact .inr ⟨by rw [hphase]; trivial, Function.update_self ..⟩
    · exact .inl (Function.update_of_ne hne _ _)
  | progress transferred hphase => exact ⟨⟨_, rfl, hphase ▸ .progress⟩, fun j => .inl rfl⟩
  | finish result hphase => exact ⟨⟨_, rfl, hphase ▸ .finish⟩, fun j => .inl rfl⟩
  | remove hphase => exact ⟨⟨_, rfl, hphase ▸ .remove⟩, fun j => .inl rfl⟩

/-- **A step keeps the invariant**, if the calls stay apart. -/
theorem Inv.next (h : Inv host calls w) (hapart : Apart host calls w step)
    (hstep : (pushes env host calls).next w step = some w') : Inv host calls w' := by
  obtain ⟨⟨after, hphase, heffect⟩, hfound⟩ := next_effect hstep
  have hself : w'.phase step.call = after := by rw [hphase, Function.update_self]
  have hother : ∀ j, j ≠ step.call → w'.phase j = w.phase j := fun j hj => by
    rw [hphase, Function.update_of_ne hj]
  have hne := fun huses {j} => h.path_ne (j := j) hapart heffect huses
  refine ⟨?_, ?_, ?_⟩
  · intro j
    rcases eq_or_ne j step.call with rfl | hj
    · rw [hself]
      -- its own file
      exact heffect.holds (h.holds _)
    · rw [hother j hj]
      by_cases hlive : (w.phase j).Live
      -- another live call's file, which is under another path
      · exact (h.holds j).of_sameAt
          (heffect.sameAt (h.holds _) fun huses => hne huses hj hlive)
      · exact .of_not_live hlive
  · intro j content hcontent
    rcases hfound j with heq | ⟨hpushing, heq⟩
    · exact h.found j content (heq ▸ hcontent)
    · rw [heq, List.mem_append, List.mem_singleton] at hcontent
      rcases hcontent with hold | rfl
      · exact h.found j content hold
      -- what was found now is what was staged
      · exact (h.holds j).staged hpushing
  · -- Two calls are live: at most one of them is the call of the step.
    intro i j hi hj hpath
    by_contra hij
    rcases eq_or_ne i step.call with rfl | hi'
    · rw [hself] at hi
      rw [hother j (Ne.symm hij)] at hj
      exact hne (.inr hi) (Ne.symm hij) hj hpath.symm
    · rw [hother i hi'] at hi
      rcases eq_or_ne j step.call with rfl | hj'
      · rw [hself] at hj
        exact hne (.inr hj) hi' hi hpath
      · rw [hother j hj'] at hj
        exact hij (h.distinct i j hi hj hpath)

/-- **Calls that stay apart are isolated.** -/
theorem isolated_of_meets {fs : FileSystem String} {backend : State} {steps : List (Step ι)}
    (hrun : (pushes env host calls).Run (World.start fs backend) steps w)
    (hapart : (pushes env host calls).Meets (Apart host calls) (World.start fs backend) steps) :
    Isolated host calls w :=
  (hrun.invariant_of_meets (I := Inv host calls) (fun _ _ _ h => h.next) hapart
    (inv_start fs backend)).isolated

/-! ### Calls that do not stay apart -/

section Steps

variable (env host calls)

theorem next_create (h : w.phase i = .idle) :
    ∃ w' start node, (pushes env host calls).next w (.create i) = some w' ∧
      w'.phase = Function.update w.phase i (.staging start node 0) :=
  ⟨_, _, _, by simp only [pushes, h]; rfl, rfl⟩

/-- A write that takes all that is left of the payload. -/
theorem next_write {start : Timestamp} {node written : ℕ}
    (h : w.phase i = .staging start node written) (hless : written < (payload calls i).length) :
    ∃ w', (pushes env host calls).next w (.write i ((payload calls i).length - written)) = some w' ∧
      w'.phase = Function.update w.phase i (.staging start node (payload calls i).length) := by
  have hsum : written + ((payload calls i).length - written) = (payload calls i).length := by omega
  have hpos : 0 < (payload calls i).length - written := by omega
  refine ⟨_, by simp only [pushes, h, hsum, hpos, le_refl, and_self, if_true]; rfl, rfl⟩

theorem next_push {start : Timestamp} {node : ℕ}
    (h : w.phase i = .staging start node (payload calls i).length) :
    ∃ w', (pushes env host calls).next w (.push i) = some w' ∧
      w'.phase = Function.update w.phase i (.pushing start { last := 0, chunks := 0 }) :=
  ⟨_, by simp only [pushes, h, if_true]; rfl, rfl⟩

theorem next_finish (h : (w.phase i).Pushing) (result : Except TransportError UInt64) :
    ∃ w' r, (pushes env host calls).next w (.finish i result) = some w' ∧
      w'.phase = Function.update w.phase i (.ended r) := by
  cases hphase : w.phase i with
  | pushing start progress => exact ⟨_, _, by simp only [pushes, hphase]; rfl, rfl⟩
  | idle | staging | ended | returned =>
    rw [hphase] at h
    exact h.elim

theorem next_remove {result : Except TransportError TransferReceipt}
    (h : w.phase i = .ended result) :
    ∃ w', (pushes env host calls).next w (.remove i) = some w' ∧
      w'.phase = Function.update w.phase i (.returned result) ∧
      w'.fs.read (pathOf host calls i) = none :=
  ⟨_, by simp only [pushes, h]; rfl, rfl, FileSystem.read_remove⟩

/-- A call that is staging its file can complete that. -/
theorem exists_run_pushing {start : Timestamp} {node written : ℕ}
    (h : w.phase i = .staging start node written) (hwritten : written ≤ (payload calls i).length) :
    ∃ steps w', (pushes env host calls).Run w steps w' ∧ (w'.phase i).Pushing ∧
      ∀ j, j ≠ i → w'.phase j = w.phase j := by
  -- one write can take all that is left, if anything is
  rcases hwritten.eq_or_lt with rfl | hless
  · obtain ⟨w', hpush, hphase⟩ := next_push env host calls h
    refine ⟨[.push i], w', .cons hpush (.nil w'), ?_, ?_⟩
    · rw [hphase, Function.update_self]
      trivial
    · intro j hj
      rw [hphase, Function.update_of_ne hj]
  · obtain ⟨w₁, hwrite, hphase₁⟩ := next_write env host calls h hless
    have h₁ := congrFun hphase₁ i
    rw [Function.update_self] at h₁
    obtain ⟨w', hpush, hphase⟩ := next_push env host calls h₁
    refine ⟨_, w', .cons hwrite (.cons hpush (.nil w')), ?_, ?_⟩
    · rw [hphase, Function.update_self]
      trivial
    · intro j hj
      rw [hphase, Function.update_of_ne hj, hphase₁, Function.update_of_ne hj]

/-- A call that is pushing can return, and its path is then free. -/
theorem exists_run_returned (h : (w.phase i).Pushing) :
    ∃ steps w', (pushes env host calls).Run w steps w' ∧
      w'.fs.read (pathOf host calls i) = none ∧ ∀ j, j ≠ i → w'.phase j = w.phase j := by
  -- whatever `object_push` returns, the staged file is dropped
  obtain ⟨w₁, r, hfinish, hphase₁⟩ := next_finish env host calls h (.ok 0)
  have h₁ := congrFun hphase₁ i
  rw [Function.update_self] at h₁
  obtain ⟨w', hremove, hphase, hread⟩ := next_remove env host calls h₁
  refine ⟨_, w', .cons hfinish (.cons hremove (.nil w')), hread, ?_⟩
  intro j hj
  rw [hphase, Function.update_of_ne hj, hphase₁, Function.update_of_ne hj]

end Steps

/-- No call writes more than its payload. -/
def WrittenLe (calls : ι → PushCall) (w : World ι) : Prop :=
  ∀ i start node written, w.phase i = .staging start node written →
    written ≤ (payload calls i).length

theorem WrittenLe.next (h : WrittenLe calls w)
    (hstep : (pushes env host calls).next w step = some w') : WrittenLe calls w' := by
  obtain ⟨⟨after, hphase, heffect⟩, -⟩ := next_effect hstep
  intro i start node written hi
  rcases eq_or_ne i step.call with rfl | hne
  · rw [hphase, Function.update_self] at hi
    -- a write never goes beyond the end of the payload
    exact (hi ▸ heffect).written_le
  · rw [hphase, Function.update_of_ne hne] at hi
    exact h i start node written hi

/-- **Calls that do not stay apart can break isolation.** If a call opens its file while another one
is live whose name collides, then the run can go on so that one of the two returns while the other
is still pushing. -/
theorem exists_run_not_isolated (hwritten : WrittenLe calls w)
    (hstep : (pushes env host calls).next w step = some w') (hapart : ¬ Apart host calls w step) :
    ∃ steps w'', (pushes env host calls).Run w' steps w'' ∧ ¬ Isolated host calls w'' := by
  cases step with
  | createFails | write | writeFails | push | read | progress | finish | remove =>
    exact absurd trivial hapart
  | create i =>
    simp only [Apart, not_forall, not_not] at hapart
    obtain ⟨j, hji, hlive, hcollide⟩ := hapart
    -- one path for both: whoever unlinks it first takes it from the other
    have hpath : pathOf host calls j = pathOf host calls i := Host.stagedPath_eq_iff.mpr hcollide
    have hwritten' := hwritten.next hstep
    obtain ⟨⟨after, hphase, heffect⟩, -⟩ := next_effect hstep
    obtain ⟨start, node, rfl⟩ := heffect.created
    have hi : w'.phase i = .staging start node 0 := by rw [hphase, Step.call, Function.update_self]
    have hj : w'.phase j = w.phase j := by rw [hphase, Step.call, Function.update_of_ne hji]
    -- The call that opened its file stages it.
    obtain ⟨steps₁, w₁, hrun₁, hi₁, hother₁⟩ := exists_run_pushing env host calls hi (Nat.zero_le _)
    have hj₁ : w₁.phase j = w.phase j := (hother₁ j hji).trans hj
    cases hphase : w.phase j with
    | idle | returned =>
      rw [hphase] at hlive
      exact hlive.elim
    | ended result =>
      -- The other one returns: the file is gone.
      obtain ⟨w₂, hremove, hphase₂, hread⟩ := next_remove env host calls (hj₁.trans hphase)
      refine ⟨_, w₂, hrun₁.append (.cons hremove (.nil w₂)), not_isolated ?_ hread hpath.symm⟩
      rw [hphase₂, Function.update_of_ne (Ne.symm hji)]
      exact hi₁
    | pushing start progress =>
      obtain ⟨steps₂, w₂, hrun₂, hread, hother₂⟩ := exists_run_returned env host calls hi₁
      refine ⟨_, w₂, hrun₁.append hrun₂, not_isolated ?_ hread hpath⟩
      rw [hother₂ j hji, hj₁, hphase]
      trivial
    | staging start node written =>
      -- The other one has to stage its file first.
      obtain ⟨steps₂, w₂, hrun₂, hj₂, hother₂⟩ :=
        exists_run_pushing env host calls (hj₁.trans hphase)
        (hwritten j start node written hphase)
      rw [← hother₂ i (Ne.symm hji)] at hi₁
      obtain ⟨steps₃, w₃, hrun₃, hread, hother₃⟩ := exists_run_returned env host calls hi₁
      refine ⟨_, w₃, (hrun₁.append hrun₂).append hrun₃, not_isolated ?_ hread hpath⟩
      rw [hother₃ j hji]
      exact hj₂

theorem writtenLe_of_run {fs : FileSystem String} {backend : State} {steps : List (Step ι)}
    (hrun : (pushes env host calls).Run (World.start fs backend) steps w) : WrittenLe calls w :=
  hrun.invariant (I := WrittenLe calls) (fun _ _ _ h => h.next) (by rintro i start node written ⟨⟩)

/-! ### Which pushes are isolated -/

/-- **Isolation of the staged files.** A run is isolated in every state as long as no call opens its
file while another one is live whose name collides; from any such opening on, the run can go on to a
state that is not isolated; and so the calls are isolated in all their interleavings if and only if
no two of their names collide. -/
theorem staged_isolated_iff (env : Environment) (host : Host) (calls : ι → PushCall)
    (fs : FileSystem String) (backend : State) :
    let system := pushes env host calls
    let start := World.start fs backend
    (∀ steps w, system.Run start steps w → system.Meets (Apart host calls) start steps →
      Isolated host calls w) ∧
    (∀ steps w step w', system.Run start steps w → system.next w step = some w' →
      ¬ Apart host calls w step → ∃ more w'', system.Run w' more w'' ∧ ¬ Isolated host calls w'') ∧
    ((∀ steps w, system.Run start steps w → Isolated host calls w) ↔
      ∀ i j, i ≠ j → ¬ host.Collide (calls i).file.name (calls j).file.name) := by
  intro system start
  have hapart : ∀ steps w, system.Run start steps w →
      system.Meets (Apart host calls) start steps → Isolated host calls w :=
    fun steps w hrun => isolated_of_meets hrun
  have hbreak : ∀ steps w step w', system.Run start steps w → system.next w step = some w' →
      ¬ Apart host calls w step → ∃ more w'', system.Run w' more w'' ∧ ¬ Isolated host calls w'' :=
    fun steps w step w' hrun => exists_run_not_isolated (writtenLe_of_run hrun)
  refine ⟨hapart, hbreak, ?_, ?_⟩
  · -- The one opens its file, then the other.
    intro hall i j hij hcollide
    obtain ⟨w₁, s₁, n₁, hnext₁, hphase₁⟩ :=
      next_create env host calls (w := start) (i := i) rfl
    have hj : w₁.phase j = .idle := by
      rw [hphase₁, Function.update_of_ne (Ne.symm hij)]
      rfl
    obtain ⟨w₂, s₂, n₂, hnext₂, -⟩ := next_create env host calls hj
    -- The second call opens the name while the first one is still using it.
    have hlive : (w₁.phase i).Live := by
      rw [hphase₁, Function.update_self]
      trivial
    have hrun₁ := Lts.Run.cons hnext₁ (.nil w₁)
    obtain ⟨more, w₃, hrun₃, hnot⟩ := hbreak _ w₁ _ w₂ hrun₁ hnext₂ fun h => h i hij hlive hcollide
    exact hnot (hall _ w₃ (hrun₁.append (.cons hnext₂ hrun₃)))
  -- with names that never collide, every opening is apart from all other calls
  · intro hnames steps w hrun
    refine hapart steps w hrun (Lts.meets_of_invariant (I := fun _ => True) ?_
      (fun _ _ _ _ _ => trivial) trivial)
    intro w step _
    cases step with
    | create i => exact fun j hj _ => hnames j i hj
    | createFails | write | writeFails | push | read | progress | finish | remove => trivial

/-! ### Two pushes of one name -/

/-- A backend on which nothing pairs, which is of no concern to a push. -/
def idleEnv : Environment where
  controller := .virtualModel "hci0"
  spec := ⟨.v5_0, .dual⟩
  resolve _ := .bredrDefault
  clock n := ⟨n⟩
  kernel := Hci.notSupportedKernel
  adapter := ⟨"hci0", .ok ()⟩
  attempt _ _ :=
    { registerAgent := .error "not available"
      device := .error "not available"
      devicePair := .finish (.error "not available") }

def noEvents : State :=
  { mgmt := poweredState, seq := 0, events := [], history := [], calls := [] }

/-- A process that stages its files in `/tmp`. -/
def linuxHost : Host := { tempDir := "/tmp", pid := 4242, isAlphanumeric := Char.isAlphanum }

/-- The same name is pushed twice, with different payloads. -/
def sameName (second : Bool) : PushCall where
  conn :=
    { peer := DeviceId.pub .nil, local' := .virtualModel "hci0", spec := ⟨.v5_0, .dual⟩
      standards := .bredrDefault, token := 0 }
  file :=
    { name := "photo.jpg", mimeType := none, bytes := if second then [2] else [1] }

/-- The first push has staged its file when the second opens its own: it truncates the file, and
`obexd` sends the first peer nothing. -/
theorem same_name_truncates :
    ∃ w, (pushes idleEnv linuxHost sameName).Run
        (World.start (.empty String) noEvents)
        [.create false, .write false 1, .push false, .create true, .read false] w ∧
      w.found false = [some []] ∧ ¬ Isolated linuxHost sameName w := by
  have hread (fs : FileSystem String) : (fs.create (pathOf linuxHost sameName true)).1.read
      (pathOf linuxHost sameName false) = some [] := FileSystem.read_create
  obtain ⟨w, hrun, hfound⟩ : ∃ w, (pushes idleEnv linuxHost sameName).Run
      (World.start (.empty String) noEvents)
      [.create false, .write false 1, .push false, .create true, .read false] w ∧
      w.found false = [some []] := ⟨_, rfl, congrArg ([·]) (hread _)⟩
  refine ⟨w, hrun, hfound, ?_⟩
  intro h
  -- the first push staged `[1]`, and `obexd` found nothing in the file
  have hown := h.found false (some []) (hfound ▸ List.mem_singleton_self _)
  cases hown

end BlueZ
end Pax
