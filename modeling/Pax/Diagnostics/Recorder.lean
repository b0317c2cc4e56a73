import Pax.Diagnostics.ArrivalOrder
import Pax.Framework.Readings
import Pax.Transport.ObserverOrder

/-!
# Recorders behind an observer

The observers of `pax-core/src/observe.rs` and the `Recorder` of `pax-diagnostics/src/recorder.rs`,
under the events that a real backend emits. An event goes to the recorders behind the observer one
after the other, and each of them takes it under a lock of its own. While an event is on its way
other tasks emit theirs and empty recorders, so that two recorders may hold the same events in
different orders. What is made of them in the end is the same (`recorders_agree`).

## How the proof goes

* However observers are nested, an event goes to a list of recorders (`onEvent_eq_tell`), so that a
  fan-out is dealt with once.
* `Kept` says what the steps of a task come to, call by call: recorders that are behind the observer
  equally often are told the same, and one that is there once is told of each event once. It holds
  of each call (`kept_call`) and is composed along the task.
* A recorder loses nothing: what was drained and what it holds is what it was told (`pushed_eq`).
  This is about the recorders alone, and holds in any interleaving.
* The numbers are taken from 0 up (`stamped_eq`), so that fewer than `2 ^ 64` of them are distinct,
  and the reports agree by `Analyzer.new_eq_of_nodup`.
-/

namespace Pax

open Program (Returns Interpreted)

/-- An observer. A recorder is shared by reference, and may stand in several places: it is told
of an event once for each of them. -/
inductive Observer where
  | noop
  | recorder (k : ℕ)
  | fanOut (observers : List Observer)

/-- The steps of a task: those of `emit`, and those on a recorder. Each is taken under a lock, so
that nothing comes in between. -/
inductive RecordCall where
  | nextSeq
  | clock
  | push (k : ℕ) (event : TransitEvent)
  | events (k : ℕ)
  | len (k : ℕ)
  | drain (k : ℕ)

def RecordCall.Reply : RecordCall → Type
  | .nextSeq => UInt64
  | .clock => Timestamp
  | .push .. => Unit
  | .events _ => List TransitEvent
  | .len _ => ℕ
  | .drain _ => List TransitEvent

abbrev recordSteps : Interface := { Call := RecordCall, Reply := RecordCall.Reply }

/-- The sequence counter, and what the recorders hold. -/
structure RecordState where
  seq : UInt64
  recorders : ℕ → List TransitEvent

/-- A fresh backend, with empty recorders. -/
def RecordState.fresh : RecordState where
  seq := 0
  recorders _ := []

/-- How a step is answered, `time` being what the clock shows. -/
def serveRecord : Handler recordSteps Timestamp RecordState
  | .nextSeq, _, s => (s.seq, { s with seq := s.seq + 1 })
  | .clock, time, s => (time, s)
  | .push k event, _, s =>
    ((), { s with recorders := Function.update s.recorders k (s.recorders k ++ [event]) })
  | .events k, _, s => (s.recorders k, s)
  | .len k, _, s => ((s.recorders k).length, s)
  | .drain k, _, s => (s.recorders k, { s with recorders := Function.update s.recorders k [] })

namespace Observer

mutual

def onEvent : Observer → TransitEvent → Program recordSteps Unit
  | .noop, _ => return ()
  | .recorder k, event => Program.call (I := recordSteps) (.push k event)
  | .fanOut observers, event => onEvents observers event

/-- `for o in &self.observers`: the fan-out hands the event to one observer after the other. -/
def onEvents : List Observer → TransitEvent → Program recordSteps Unit
  | [], _ => return ()
  | observer :: rest, event => do
    observer.onEvent event
    onEvents rest event

end

mutual

/-- The recorders behind the observer, in the order in which they are told. -/
def recorders : Observer → List ℕ
  | .noop => []
  | .recorder k => [k]
  | .fanOut observers => recordersAll observers

def recordersAll : List Observer → List ℕ
  | [] => []
  | observer :: rest => observer.recorders ++ recordersAll rest

end

end Observer

/-- What a task does. What else it waits for decides only what it does next. -/
inductive TaskCall where
  | emit (peer : DeviceId) (kind : TransitEventKind)
  | events (k : ℕ)
  | len (k : ℕ)
  | drain (k : ℕ)

def TaskCall.Reply : TaskCall → Type
  | .emit .. => Unit
  | .events _ => List TransitEvent
  | .len _ => ℕ
  | .drain _ => List TransitEvent

abbrev taskCalls : Interface := { Call := TaskCall, Reply := TaskCall.Reply }

/-- The steps of `emit`, for this observer. -/
def announce (observer : Observer) : (step : EmitCall) → Program recordSteps step.Reply
  | .nextSeq => Program.call (I := recordSteps) .nextSeq
  | .clock => Program.call (I := recordSteps) .clock
  | .onEvent event => observer.onEvent event

/-- How each call of a task is carried out: an event is emitted in the steps of the real backend,
and a recorder is used in one step. -/
def onRecorders (backend : RealBackend) (observer : Observer) :
    (c : TaskCall) → Program recordSteps c.Reply
  | .emit peer kind => (backend.emit peer kind).interpret (announce observer)
  | .events k => Program.call (I := recordSteps) (.events k)
  | .len k => Program.call (I := recordSteps) (.len k)
  | .drain k => Program.call (I := recordSteps) (.drain k)

namespace Recorder

/-- The tasks before any of them has begun, with the observer of the backend put in. -/
def start (backend : RealBackend) (observer : Observer) {ι : Type} {α : ι → Type}
    (task : (i : ι) → Program taskCalls (α i)) : Pool recordSteps RecordState α :=
  .start .fresh fun i => (task i).interpret (onRecorders backend observer)

/-- The tasks, interleaved step by step; the clock says at each step what time it is. -/
abbrev system {ι : Type} [DecidableEq ι] {α : ι → Type} :
    Lts (Pool recordSteps RecordState α) (ι × Timestamp) :=
  Pool.system serveRecord

/-! ### What is read off a run -/

/-- The event that a recorder takes in a step, if the step is of this recorder. -/
def pushed (k : ℕ) : Exchange recordSteps → List TransitEvent
  | ⟨.push j event, _⟩ => if j = k then [event] else []
  | _ => []

/-- The events that leave a recorder in a step, which are those that it held. -/
def drained (k : ℕ) : Exchange recordSteps → List TransitEvent
  | ⟨.drain j, events⟩ => if j = k then events else []
  | _ => []

/-- The sequence number that is taken in a step. -/
def stamped : Exchange recordSteps → List UInt64
  | ⟨.nextSeq, seq⟩ => [seq]
  | _ => []

/-- The event that a task emits with a call, without its number and its time. -/
def emitted : Exchange taskCalls → List Label
  | ⟨.emit peer kind, _⟩ => [(peer, kind)]
  | _ => []

/-- What a task has told a recorder so far, in the order in which it did. -/
def told {ι : Type} [DecidableEq ι] {α : ι → Type} (w : Pool recordSteps RecordState α) (k : ℕ)
    (i : ι) : List TransitEvent := (own w.trace i).flatMap (pushed k)

/-- All that a recorder has recorded: what was drained, one drain after the other, and what it
holds. -/
def collected {ι : Type} {α : ι → Type} (w : Pool recordSteps RecordState α) (k : ℕ) :
    List TransitEvent := (w.trace.map Prod.snd).flatMap (drained k) ++ w.shared.recorders k

end Recorder

/-! ### An observer is its recorders -/

namespace Observer

/-- The recorders are told, one after the other. -/
def tell (event : TransitEvent) : List ℕ → Program recordSteps Unit
  | [] => return ()
  | k :: ks => do
    Program.call (I := recordSteps) (.push k event)
    tell event ks

theorem tell_append (event : TransitEvent) (ks ks' : List ℕ) :
    tell event (ks ++ ks') = tell event ks >>= fun _ => tell event ks' := by
  induction ks with
  | nil => rfl
  | cons k ks ih =>
    show (Program.call _ >>= fun _ => tell event (ks ++ ks')) = _
    rw [ih]
    rfl

mutual

/-- **However observers are nested**, an event goes to the recorders behind them in order. -/
theorem onEvent_eq_tell (event : TransitEvent) :
    (observer : Observer) → observer.onEvent event = tell event observer.recorders
  | .noop => by rw [onEvent, recorders, tell]
  | .recorder k => by
    rw [onEvent, recorders, tell, tell]
    exact (bind_pure _).symm
  | .fanOut observers => by rw [onEvent, recorders, onEvents_eq_tell]

theorem onEvents_eq_tell (event : TransitEvent) :
    (observers : List Observer) → onEvents observers event = tell event (recordersAll observers)
  | [] => by rw [onEvents, recordersAll, tell]
  | observer :: rest => by
    rw [onEvents, recordersAll, tell_append, onEvent_eq_tell, onEvents_eq_tell]

end

end Observer

namespace Recorder

variable {backend : RealBackend} {observer : Observer} {event : TransitEvent} {k k' : ℕ}
  {es : List (Exchange recordSteps)}

theorem returns_tell {ks : List ℕ} {u : Unit} (h : Returns (Observer.tell event ks) es u) :
    es.flatMap stamped = [] ∧
      ∀ k, es.flatMap (pushed k) = List.replicate (ks.count k) event := by
  induction ks generalizing es with
  | nil =>
    obtain ⟨rfl, -⟩ := Program.returns_done.mp h
    exact ⟨rfl, fun k => rfl⟩
  -- The first recorder is told, and then the others: a recorder may be among both.
  | cons j ks ih =>
    obtain ⟨reply, es', rfl, hrest⟩ := Program.returns_call_bind h
    obtain ⟨hstamped, hpushed⟩ := ih hrest
    refine ⟨hstamped, fun k => ?_⟩
    rw [List.flatMap_cons, hpushed, List.count_cons]
    by_cases hjk : j = k
    · rw [pushed, if_pos hjk, if_pos (beq_iff_eq.mpr hjk), List.replicate_succ]
      rfl
    · rw [pushed, if_neg hjk, if_neg (mt beq_iff_eq.mp hjk)]
      rfl

/-- **An event that is emitted** has the number that was taken for it, and goes to each recorder as
often as that is behind the observer. -/
theorem returns_emit {peer : DeviceId} {kind : TransitEventKind} {u : Unit}
    (h : Returns (onRecorders backend observer (.emit peer kind)) es u) :
    ∃ event : TransitEvent, event.label = (peer, kind) ∧ es.flatMap stamped = [event.seq] ∧
      ∀ k, es.flatMap (pushed k) = List.replicate (observer.recorders.count k) event := by
  obtain ⟨seq, es₁, rfl, hclock⟩ := Program.returns_call_bind h
  obtain ⟨time, es₂, rfl, hevent⟩ := Program.returns_call_bind hclock
  obtain ⟨es₃, u', es₄, rfl, htold, hend⟩ := Program.returns_bind.mp hevent
  obtain ⟨rfl, -⟩ := Program.returns_done.mp hend
  -- The event is stamped and timed; what is left is to tell the observer.
  rw [announce, Observer.onEvent_eq_tell] at htold
  obtain ⟨hstamped, hpushed⟩ := returns_tell htold
  rw [List.append_nil]
  refine ⟨_, ?_, ?_, hpushed⟩
  · rfl
  · exact congrArg (seq :: ·) hstamped

/-- What the steps `es` of a task come to, if its calls `cs` have all been carried out. -/
structure Kept (observer : Observer) (cs : List (Exchange taskCalls))
    (es : List (Exchange recordSteps)) : Prop where
  /-- Recorders that are behind the observer equally often are told the same. -/
  alike : ∀ k k', observer.recorders.count k = observer.recorders.count k' →
    es.flatMap (pushed k) = es.flatMap (pushed k')
  /-- A recorder that is there once is told of each event once, under its number. -/
  numbered : ∀ k, observer.recorders.count k = 1 →
    (es.flatMap (pushed k)).map TransitEvent.seq = es.flatMap stamped
  labelled : ∀ k, observer.recorders.count k = 1 →
    (es.flatMap (pushed k)).map TransitEvent.label = cs.flatMap emitted

theorem kept_nil : Kept observer [] [] := ⟨fun _ _ _ => rfl, fun _ _ => rfl, fun _ _ => rfl⟩

theorem Kept.append {cs cs' : List (Exchange taskCalls)} {es' : List (Exchange recordSteps)}
    (h : Kept observer cs es) (h' : Kept observer cs' es') :
    Kept observer (cs ++ cs') (es ++ es') := by
  constructor
  · intro k k' hcount
    rw [List.flatMap_append, List.flatMap_append, h.alike k k' hcount, h'.alike k k' hcount]
  · intro k hone
    rw [List.flatMap_append, List.map_append, h.numbered k hone, h'.numbered k hone,
      List.flatMap_append]
  · intro k hone
    rw [List.flatMap_append, List.map_append, h.labelled k hone, h'.labelled k hone,
      List.flatMap_append]

/-- A step that neither takes a number nor tells a recorder. -/
theorem kept_singleton {c : TaskCall} {reply : c.Reply} {e : Exchange recordSteps}
    (hemitted : emitted ⟨c, reply⟩ = []) (hstamped : stamped e = [])
    (hpushed : ∀ k, pushed k e = []) : Kept observer [⟨c, reply⟩] [e] := by
  constructor
  · intro k k' _
    rw [List.flatMap_singleton, List.flatMap_singleton, hpushed, hpushed]
  · intro k _
    rw [List.flatMap_singleton, List.flatMap_singleton, hpushed, hstamped]
    rfl
  · intro k _
    rw [List.flatMap_singleton, List.flatMap_singleton, hpushed, hemitted]
    rfl

/-- **Each call of a task** keeps the account: an event that is emitted reaches every recorder
under its number, and the other calls reach none. -/
theorem kept_call (c : TaskCall) (es : List (Exchange recordSteps)) (reply : c.Reply)
    (h : Returns (onRecorders backend observer c) es reply) : Kept observer [⟨c, reply⟩] es := by
  cases c with
  | emit peer kind =>
    -- An event is pushed onto a recorder as often as it occurs among the observers.
    obtain ⟨event, hlabel, hstamped, hpushed⟩ := returns_emit h
    constructor
    · intro k k' hcount
      rw [hpushed, hpushed, hcount]
    · intro k hone
      rw [hpushed, hone, hstamped]
      rfl
    · intro k hone
      rw [hpushed, hone]
      exact congrArg (fun label => [label]) hlabel
  -- To look at a recorder, or to drain it, tells none of them anything.
  | events k =>
    obtain rfl := Program.returns_call.mp h
    exact kept_singleton rfl rfl fun _ => rfl
  | len k =>
    obtain rfl := Program.returns_call.mp h
    exact kept_singleton rfl rfl fun _ => rfl
  | drain k =>
    obtain rfl := Program.returns_call.mp h
    exact kept_singleton rfl rfl fun _ => rfl

/-- **A task that has returned** has made some calls, and its steps are those that the calls were
carried out in. -/
theorem kept_of_returns {α : Type} {task : Program taskCalls α} {a : α}
    (h : Returns (task.interpret (onRecorders backend observer)) es a) :
    ∃ cs, Returns task cs a ∧ Kept observer cs es := by
  obtain ⟨cs, hreturns, hcs⟩ := Program.returns_interpret h
  exact ⟨cs, hreturns, hcs.rel kept_nil (fun _ _ _ _ h h' => h.append h') kept_call⟩

/-! ### The recorders and the counter -/

section Runs

variable {ι : Type} [DecidableEq ι] {α : ι → Type} {task : (i : ι) → Program taskCalls (α i)}
  {w : Pool recordSteps RecordState α} {s : RecordState}

instance (c : RecordCall) : Nonempty (recordSteps.Reply c) := by
  cases c <;> first | exact ⟨(0 : UInt64)⟩ | exact ⟨(⟨0⟩ : Timestamp)⟩ | exact ⟨()⟩ |
    exact ⟨([] : List TransitEvent)⟩ | exact ⟨(0 : ℕ)⟩

/-- **A recorder loses nothing.** What was drained and what it holds is what it was told, in
order. -/
theorem pushed_eq (h : Served serveRecord .fresh es s) (k : ℕ) :
    es.flatMap (drained k) ++ s.recorders k = es.flatMap (pushed k) := by
  refine (Served.balance (fun s => s.recorders k) ?_ h).symm
  intro c time s
  cases c with
  -- An event that is pushed is behind those that the recorder holds.
  | push j event =>
    by_cases hjk : j = k
    · subst hjk
      simp [serveRecord, pushed, drained]
    · simp [serveRecord, pushed, drained, hjk, Function.update_of_ne (Ne.symm hjk)]
  -- What is drained moves from what is held to what was drained.
  | drain j =>
    by_cases hjk : j = k
    · subst hjk
      simp [serveRecord, pushed, drained]
    · simp [serveRecord, pushed, drained, hjk, Function.update_of_ne (Ne.symm hjk)]
  | nextSeq => exact List.append_nil _
  | clock => exact List.append_nil _
  | events j => exact List.append_nil _
  | len j => exact List.append_nil _

/-- The numbers are taken from 0 up, and the counter shows how many there were, both modulo
`2 ^ 64`. -/
theorem stamped_eq (h : Served serveRecord .fresh es s) :
    s.seq = UInt64.ofNat (es.flatMap stamped).length ∧
      es.flatMap stamped = (List.range (es.flatMap stamped).length).map UInt64.ofNat := by
  refine h.invariant (P := fun es s => s.seq = UInt64.ofNat (es.flatMap stamped).length ∧
    es.flatMap stamped = (List.range (es.flatMap stamped).length).map UInt64.ofNat) ⟨rfl, rfl⟩ ?_
  rintro es s c time ⟨hseq, hnumbered⟩
  rw [List.flatMap_append, List.flatMap_singleton]
  -- A step that takes a number, and all others, which leave the counter alone.
  by_cases htakes : c = .nextSeq
  · subst htakes
    show s.seq + 1 = UInt64.ofNat (es.flatMap stamped ++ [s.seq]).length ∧
      es.flatMap stamped ++ [s.seq] =
        (List.range (es.flatMap stamped ++ [s.seq]).length).map UInt64.ofNat
    rw [List.length_append, List.length_singleton, UInt64.ofNat_add, ← hseq, List.range_succ,
      List.map_append, List.map_singleton, ← hnumbered, ← hseq]
    exact ⟨rfl, rfl⟩
  · have hother : stamped ⟨c, (serveRecord c time s).1⟩ = [] ∧
        (serveRecord c time s).2.seq = s.seq := by
      cases c with
      | nextSeq => exact absurd rfl htakes
      | _ => exact ⟨rfl, rfl⟩
    rw [hother.1, hother.2, List.append_nil]
    exact ⟨hseq, hnumbered⟩

/-- Fewer than `2 ^ 64` numbers are distinct, since the counter has not come round. -/
theorem nodup_stamped (h : Served serveRecord .fresh es s)
    (hfew : (es.flatMap stamped).length < 2 ^ 64) : (es.flatMap stamped).Nodup := by
  rw [(stamped_eq h).2]
  refine List.Nodup.map_on ?_ List.nodup_range
  intro a ha b hb hab
  have hvalue : ∀ n ∈ List.range (es.flatMap stamped).length, (UInt64.ofNat n).toNat = n :=
    fun n hn => UInt64.toNat_ofNat_of_lt' (lt_trans (List.mem_range.mp hn) hfew)
  rw [← hvalue a ha, ← hvalue b hb, hab]

/-- All that a recorder has recorded is what it was told. -/
theorem collected_eq (h : Pool.Reached serveRecord .fresh
    (fun i => (task i).interpret (onRecorders backend observer)) w) (k : ℕ) :
    collected w k = (w.trace.map Prod.snd).flatMap (pushed k) := pushed_eq h.served k

/-- Of each task, one of two recorders has what the other has, or the beginning of it. They may
differ while an event is on its way from the one to the other. -/
theorem told_prefix (h : Pool.Reached serveRecord .fresh
    (fun i => (task i).interpret (onRecorders backend observer)) w)
    (hcount : observer.recorders.count k = observer.recorders.count k') (i : ι) :
    told w k i <+: told w k' i ∨ told w k' i <+: told w k i := by
  -- both are beginnings of what the recorders will have when the task returns
  obtain ⟨es', a, hreturns⟩ := (h.path i).exists_returns
  obtain ⟨cs, -, hkept⟩ := kept_of_returns hreturns
  have halike := hkept.alike k k' hcount
  have hbegins (k : ℕ) : told w k i <+: (own w.trace i ++ es').flatMap (pushed k) := by
    rw [List.flatMap_append]
    exact List.prefix_append _ _
  exact List.prefix_or_prefix_of_prefix (halike ▸ hbegins k) (hbegins k')

/-- A task at rest has carried out its calls so far. -/
theorem kept_of_atRest (h : Pool.Reached serveRecord .fresh
    (fun i => (task i).interpret (onRecorders backend observer)) w) {i : ι} (hrest : w.AtRest i) :
    ∃ cs, Kept observer cs (own w.trace i) := by
  rcases h.atRest hrest with hnil | ⟨a, hreturns⟩
  · rw [hnil]
    exact ⟨[], kept_nil⟩
  · obtain ⟨cs, -, hkept⟩ := kept_of_returns hreturns
    exact ⟨cs, hkept⟩

/-- At rest, the numbers of the events of a recorder are those that were taken, in some order: no
event is on its way. -/
theorem perm_stamped (h : Pool.Reached serveRecord .fresh
    (fun i => (task i).interpret (onRecorders backend observer)) w) (hrest : w.Quiescent)
    (hone : observer.recorders.count k = 1) :
    ((collected w k).map TransitEvent.seq).Perm ((w.trace.map Prod.snd).flatMap stamped) := by
  rw [collected_eq h, List.map_flatMap]
  refine perm_flatMap_of_own fun i => ?_
  obtain ⟨cs, hkept⟩ := kept_of_atRest h (hrest i)
  rw [← List.map_flatMap, hkept.numbered k hone]

/-- At rest, the events of two recorders are the same, up to order: each task has told them the
same. -/
theorem collected_perm (h : Pool.Reached serveRecord .fresh
    (fun i => (task i).interpret (onRecorders backend observer)) w) (hrest : w.Quiescent)
    (hcount : observer.recorders.count k = observer.recorders.count k') :
    (collected w k).Perm (collected w k') := by
  rw [collected_eq h, collected_eq h]
  refine perm_flatMap_of_own fun i => ?_
  obtain ⟨cs, hkept⟩ := kept_of_atRest h (hrest i)
  rw [hkept.alike k k' hcount]

/-- **Recorders agree.** In every run of any tasks that emit events, look at recorders and drain
them, interleaved in any way, with two recorders that are each once behind the observer. At every
point, each recorder has what a task has told it, in order; one of the two has the beginning of what
the other has; and a task that has returned has told each of them all that it emitted. Once no task
is in progress, what was drained from the one recorder, with what it holds, is that of the other, in
some order and with distinct numbers; and the two reports are equal. -/
theorem recorders_agree (backend : RealBackend) (observer : Observer)
    (task : (i : ι) → Program taskCalls (α i)) (steps : List (ι × Timestamp))
    (w : Pool recordSteps RecordState α) (hrun : system.Run (start backend observer task) steps w)
    (k k' : ℕ) (hk : observer.recorders.count k = 1) (hk' : observer.recorders.count k' = 1) :
    (∀ i, (told w k i).Sublist (collected w k) ∧
      (told w k i <+: told w k' i ∨ told w k' i <+: told w k i) ∧
      ∀ a, w.task i = .done a → ∃ cs, Returns (task i) cs a ∧
        (told w k i).map TransitEvent.label = cs.flatMap emitted) ∧
    (w.Quiescent → (collected w k).Perm (collected w k') ∧
      ∀ v v' : EventVec, v.1 = collected w k → v'.1 = collected w k' →
        (v.1.map TransitEvent.seq).Nodup ∧ (Analyzer.new v).report = (Analyzer.new v').report) := by
  have hreached := Pool.reached_of_run hrun
  have hcount := hk.trans hk'.symm
  refine ⟨fun i => ⟨?_, told_prefix hreached hcount i, ?_⟩, fun hrest => ⟨?_, ?_⟩⟩
  · rw [collected_eq hreached]
    exact sublist_flatMap_own _ i
  -- a task that is done has told what its calls say
  · intro a hdone
    obtain ⟨cs, hreturns, hkept⟩ := kept_of_returns (hreached.returns hdone)
    exact ⟨cs, hreturns, hkept.labelled k hk⟩
  · exact collected_perm hreached hrest hcount
  · intro v v' hv hv'
    have hseqs := perm_stamped hreached hrest hk
    -- a vector has fewer elements than there are numbers
    have hfew : ((w.trace.map Prod.snd).flatMap stamped).length < 2 ^ 64 := by
      rw [← hseqs.length_eq, List.length_map, ← hv]
      exact lt_trans v.2 (by decide)
    have hnodup : (v.1.map TransitEvent.seq).Nodup :=
      hv ▸ hseqs.nodup_iff.mpr (nodup_stamped hreached.served hfew)
    have hperm : v.1.Perm v'.1 := by
      rw [hv, hv']
      exact collected_perm hreached hrest hcount
    exact ⟨hnodup, congrArg Analyzer.report (Analyzer.new_eq_of_nodup hperm hnodup)⟩

end Runs

/-- Two recorders, of which one stands in a fan-out within the other. -/
def twoRecorders : Observer := .fanOut [.recorder 0, .fanOut [.noop, .recorder 1]]

/-- A connection is reported, a lost connection is reported, and a recorder is drained. -/
def reporting : Fin 3 → Program taskCalls Unit
  | 0 => Program.call (I := taskCalls) (.emit MockBackend.phone.info.id .connected)
  | 1 => Program.call (I := taskCalls) (.emit MockBackend.phone.info.id (.disconnected none))
  | 2 => do
    let _ ← Program.call (I := taskCalls) (.drain 0)
    return ()

/-- The one recorder, drained in between, has the two events in the order of their numbers, and the
other one has them in the other order. -/
theorem recorders_agree_overtaken :
    ∃ w, system.Run (start smallAdapter twoRecorders reporting)
        ([0, 0, 1, 1, 0, 2, 1, 1, 0].map fun i => (i, ⟨5⟩)) w ∧
      (collected w 0).map TransitEvent.seq = [0, 1] ∧
      (collected w 1).map TransitEvent.seq = [1, 0] ∧
      ∀ v v' : EventVec, v.1 = collected w 0 → v'.1 = collected w 1 →
        (Analyzer.new v).report = (Analyzer.new v').report := by
  let p (w : Pool recordSteps RecordState fun _ : Fin 3 => Unit) : Bool :=
    decide ((∀ i, (w.task i).value? = some ()) ∧ (collected w 0).map TransitEvent.seq = [0, 1] ∧
      (collected w 1).map TransitEvent.seq = [1, 0])
  have hcomputed : (system.exec (start smallAdapter twoRecorders reporting)
      ([0, 0, 1, 1, 0, 2, 1, 1, 0].map fun i => (i, ⟨5⟩))).any p = true := by decide
  obtain ⟨w, hrun, hp⟩ := Lts.exists_run_of_any hcomputed
  obtain ⟨hdone, hfirst, hsecond⟩ := of_decide_eq_true hp
  -- Both tasks are done, so that nobody is about to push.
  have hrest : w.Quiescent := fun i => .inr ⟨(), Program.value?_eq_some.mp (hdone i)⟩
  have hagree := recorders_agree _ _ _ _ w hrun 0 1 (by decide) (by decide)
  exact ⟨w, hrun, hfirst, hsecond, fun v v' hv hv' => ((hagree.2 hrest).2 v v' hv hv').2⟩

end Recorder
end Pax
