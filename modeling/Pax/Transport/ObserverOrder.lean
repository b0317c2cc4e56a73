import Pax.Framework.Numbering
import Pax.Transport.Mock.EventLog

/-!
# The order in which the observer is called

`Observer::on_event` is documented to be called once per event, in `seq` order. Every backend takes
the sequence number in one step and calls the observer in a later one: the mock stamps the event
under its lock and calls after the lock is released, and `emit` of the BlueZ, Android and btleplug
backends, which is the same in all three, takes the number from an atomic counter, reads the clock
and calls. Between the two steps another operation may go on.

For the observer an operation of a real backend is the events it emits, one after the other,
whatever it waits for in between (`emitAll`).

Both cases are instances of one notion, numbers that are taken and handed over
(`Pax.Framework.Publication`). `observer_order` says on which steps it depends that the order is
kept, and `observer_called_out_of_order` shows two operations that overlap.
-/

namespace Pax

/-- The steps of `emit` in a real backend. -/
inductive EmitCall where
  /-- `fetch_add` of the sequence counter. -/
  | nextSeq
  /-- `Timestamp::now`. -/
  | clock
  | onEvent (event : TransitEvent)

def EmitCall.Reply : EmitCall → Type
  | .nextSeq => UInt64
  | .clock => Timestamp
  | .onEvent _ => Unit

abbrev emitSteps : Interface := { Call := EmitCall, Reply := EmitCall.Reply }

/-- The sequence counter, and the events the observer was handed so far. -/
structure EmitState where
  seq : UInt64
  observed : List TransitEvent

/-- How a step is answered, `time` being what the clock shows. -/
def serveEmit : Handler emitSteps Timestamp EmitState
  | .nextSeq, _, s => (s.seq, { s with seq := s.seq + 1 })
  | .clock, time, s => (time, s)
  | .onEvent event, _, s => ((), { s with observed := s.observed ++ [event] })

/-- What the events of a real backend have in common, but for the peer. -/
structure RealBackend where
  controller : ControllerModel
  spec : SpecContext
  /-- The standards of a peer, `StandardsResolver::resolve`. -/
  standards : DeviceId → StandardsProfile

namespace RealBackend

open Program (call)

variable (backend : RealBackend)

def emit (peer : DeviceId) (kind : TransitEventKind) : Program emitSteps Unit := do
  let origin : EventOrigin :=
    { local' := backend.controller, peer, spec := backend.spec,
      standards := backend.standards peer }
  let seq ← call (I := emitSteps) .nextSeq
  let time ← call (I := emitSteps) .clock
  call (I := emitSteps) (.onEvent { seq, at' := time, origin, kind })

/-- An operation, as the events it emits one after the other. -/
def emitAll : List (DeviceId × TransitEventKind) → Program emitSteps Unit
  | [] => return ()
  | (peer, kind) :: rest => do
    backend.emit peer kind
    emitAll rest

/-- Operations that emit these events, before any has begun. -/
def start {ι : Type} (ops : ι → List (DeviceId × TransitEventKind)) :
    Pool emitSteps EmitState fun _ : ι => Unit :=
  .start { seq := 0, observed := [] } fun i => backend.emitAll (ops i)

/-- Taking a sequence number takes an event, and calling the observer hands it over. -/
def numbers : Publication emitSteps UInt64 where
  takes
    | .nextSeq => true
    | _ => false
  taken
    | ⟨.nextSeq, seq⟩ => some seq
    | _ => none
  handed
    | ⟨.onEvent event, _⟩ => some event.seq
    | _ => none
  isSome_taken e := by
    obtain ⟨c, reply⟩ := e
    cases c <;> rfl
  handed_of_takes e h := by
    obtain ⟨c, reply⟩ := e
    cases c <;> first | rfl | cases h

theorem publishes_emitAll (events : List (DeviceId × TransitEventKind)) :
    numbers.Publishes (backend.emitAll events) := by
  induction events with
  | nil => exact Publication.publishes_done ()
  | cons event rest ih =>
    refine Publication.Publishes.bind ?_ fun _ => ih
    intro seq
    refine ⟨some seq, rfl, fun time => ⟨some seq, rfl, fun _ => ⟨none, if_pos rfl, rfl⟩⟩⟩

/-- Of the events emitted so far: how they are numbered, and what the observer has. -/
structure Counted (es : List (Exchange emitSteps)) (s : EmitState) : Prop where
  seq_eq : s.seq = UInt64.ofNat (numbers.takenBy es).length
  numbered : numbers.takenBy es = (List.range (numbers.takenBy es).length).map UInt64.ofNat
  observed_eq : s.observed.map TransitEvent.seq = numbers.handedBy es

/-- A step that takes no number leaves the counter where it is. -/
theorem Counted.other {es : List (Exchange emitSteps)} {s s' : EmitState} (h : Counted es s)
    {e : Exchange emitSteps} (hnone : numbers.taken e = none) (hseq : s'.seq = s.seq)
    (hobserved : s'.observed.map TransitEvent.seq
      = s.observed.map TransitEvent.seq ++ (numbers.handed e).toList) : Counted (es ++ [e]) s' := by
  have htaken : numbers.takenBy (es ++ [e]) = numbers.takenBy es := by
    rw [Publication.takenBy_concat, hnone, Option.toList_none, List.append_nil]
  constructor
  · rw [htaken, hseq, h.seq_eq]
  · rw [htaken]
    exact h.numbered
  · rw [hobserved, h.observed_eq, Publication.handedBy_concat]

theorem Counted.step {es : List (Exchange emitSteps)} {s : EmitState} (h : Counted es s)
    (c : EmitCall) (time : Timestamp) :
    Counted (es ++ [⟨c, (serveEmit c time s).1⟩]) (serveEmit c time s).2 := by
  cases c with
  -- Taking a number is the only step that changes the counter, and it adds one.
  | nextSeq =>
    have htaken : numbers.takenBy (es ++ [⟨.nextSeq, s.seq⟩]) = numbers.takenBy es ++ [s.seq] :=
      numbers.takenBy_concat es _
    have hhanded : numbers.handedBy (es ++ [⟨.nextSeq, s.seq⟩]) = numbers.handedBy es :=
      (numbers.handedBy_concat es _).trans (List.append_nil _)
    show Counted (es ++ [⟨.nextSeq, s.seq⟩]) { s with seq := s.seq + 1 }
    constructor
    · rw [htaken, List.length_append, List.length_singleton, UInt64.ofNat_add, ← h.seq_eq]
      rfl
    · rw [htaken, List.length_append, List.length_singleton, List.range_succ, List.map_append,
        List.map_singleton, ← h.numbered, ← h.seq_eq]
    · rw [hhanded, h.observed_eq]
  | clock => exact h.other rfl rfl (List.append_nil _).symm
  | onEvent event => exact h.other rfl rfl List.map_append

theorem counted_of_served {es : List (Exchange emitSteps)} {s : EmitState}
    (h : Served serveEmit { seq := 0, observed := [] } es s) : Counted es s :=
  h.invariant ⟨rfl, rfl, rfl⟩ fun _ _ c time hcounted => hcounted.step c time

instance : Nonempty Timestamp := ⟨⟨0⟩⟩

/-- The operations of a real backend, interleaved. -/
abbrev system {ι : Type} [DecidableEq ι] :
    Lts (Pool emitSteps EmitState fun _ : ι => Unit) (ι × Timestamp) :=
  Pool.system serveEmit

end RealBackend

/-! ### In the order of the numbers -/

section Order

variable {ι : Type} [DecidableEq ι]

theorem MockBackend.numbers_events (devices : List MockDevice) :
    MockBackend.events.Numbers TransitEvent.seq serve (.init devices) :=
  fun _ _ hserved => (MockBackend.logged_of_served hserved).numbered

theorem RealBackend.numbers_numbers :
    RealBackend.numbers.Numbers id serveEmit { seq := 0, observed := [] } := by
  intro es s hserved
  rw [List.map_id]
  exact (RealBackend.counted_of_served hserved).numbered

/-- What the observer of the mock has is what was handed to it, so that it is in order if the
numbers were handed over in order. -/
theorem MockBackend.pairwise_observed {mock : MockBackend} {devices : List MockDevice}
    {ops : ι → MockOp} {steps : List (ι × PairingResponse)}
    {w : Pool mockSteps MockState fun i => (ops i).Result}
    (hrun : (MockBackend.system ops).Run (mock.start devices ops) steps w) :
    w.shared.observed.Pairwise (·.seq < ·.seq) ↔
      (MockBackend.events.allHanded w).Pairwise (·.seq < ·.seq) := by
  rw [(MockBackend.logged_of_served (MockBackend.reached hrun).served).observed_eq]
  rfl

theorem RealBackend.pairwise_observed {real : RealBackend}
    {emits : ι → List (DeviceId × TransitEventKind)} {steps : List (ι × Timestamp)}
    {w : Pool emitSteps EmitState fun _ : ι => Unit}
    (hrun : RealBackend.system.Run (real.start emits) steps w) :
    w.shared.observed.Pairwise (·.seq < ·.seq) ↔
      (RealBackend.numbers.allHanded w).Pairwise (· < ·) := by
  have hcounted := RealBackend.counted_of_served (Pool.reached_of_run hrun).served
  rw [Publication.allHanded, ← hcounted.observed_eq, List.pairwise_map]

open RealBackend in
/-- **When the observer is called in `seq` order.** With the mock and with a real backend: if each
event is stamped while no other operation has one that it has not handed over, and fewer than
`2 ^ 64` were stamped before, then the observer is called in strictly increasing `seq` order. If
after such a run an event is stamped otherwise, then from there it may be called out of order. -/
theorem observer_order {κ : Type} [DecidableEq κ] (mock : MockBackend) (devices : List MockDevice)
    (ops : ι → MockOp) (real : RealBackend) (emits : κ → List (DeviceId × TransitEventKind)) :
    (∀ steps w, (MockBackend.system ops).Run (mock.start devices ops) steps w →
      (MockBackend.system ops).Meets MockBackend.events.InTurn (mock.start devices ops) steps →
      w.shared.observed.Pairwise (·.seq < ·.seq) ∧
        ∀ step w', (MockBackend.system ops).next w step = some w' →
          ¬ MockBackend.events.InTurn w step →
          ∃ steps' w'', (MockBackend.system ops).Run w' steps' w'' ∧
            ¬ w''.shared.observed.Pairwise (·.seq < ·.seq)) ∧
    (∀ steps w, RealBackend.system.Run (real.start emits) steps w →
      RealBackend.system.Meets numbers.InTurn (real.start emits) steps →
      w.shared.observed.Pairwise (·.seq < ·.seq) ∧
        ∀ step w', RealBackend.system.next w step = some w' → ¬ numbers.InTurn w step →
          ∃ steps' w'', RealBackend.system.Run w' steps' w'' ∧
            ¬ w''.shared.observed.Pairwise (·.seq < ·.seq)) := by
  constructor
  · intro steps w hrun hturn
    have hpub (i : ι) := MockBackend.publishes_run mock (ops i)
    have hnum := MockBackend.numbers_events devices
    refine ⟨?_, ?_⟩
    · rw [MockBackend.pairwise_observed hrun]
      exact Publication.pairwise_handed hpub hnum hrun hturn
    · rintro ⟨i, answer⟩ w' hstep hnot
      obtain ⟨steps', w'', hrest, hdisorder⟩ :=
        Publication.exists_out_of_order hpub hnum hrun hturn hnot hstep
      refine ⟨steps', w'', hrest, ?_⟩
      rw [MockBackend.pairwise_observed (hrun.append (.cons hstep hrest))]
      exact hdisorder
  -- The same rule for the observer of a real backend, whose messages are the numbers themselves.
  · intro steps w hrun hturn
    have hpub (i : κ) := publishes_emitAll real (emits i)
    refine ⟨?_, ?_⟩
    · rw [RealBackend.pairwise_observed hrun]
      exact Publication.pairwise_handed hpub numbers_numbers hrun hturn
    · rintro ⟨i, time⟩ w' hstep hnot
      obtain ⟨steps', w'', hrest, hdisorder⟩ :=
        Publication.exists_out_of_order hpub numbers_numbers hrun hturn hnot hstep
      refine ⟨steps', w'', hrest, ?_⟩
      rw [RealBackend.pairwise_observed (hrun.append (.cons hstep hrest))]
      exact hdisorder

end Order

/-- A BlueZ adapter, with the standards of a Classic link for every peer. -/
def smallAdapter : RealBackend :=
  { controller := .virtualModel "hci0", spec := ⟨.v5_2, .brEdr⟩,
    standards := fun _ => .bredrDefault }

/-- Two operations that each report a connection. -/
def reports : Bool → List (DeviceId × TransitEventKind) :=
  fun _ => [(MockBackend.phone.info.id, .connected)]

open MockBackend in
/-- One operation after the other: the observer is called in order, with the mock and with a real
backend. -/
theorem observer_order_in_turn :
    (∃ w, (MockBackend.system discoveries).Run (quietBackend.start [phone] discoveries)
        ((List.replicate 5 false ++ List.replicate 5 true).map fun i => (i, .cancel)) w ∧
      w.shared.observed.length = 4 ∧ w.shared.observed.Pairwise (·.seq < ·.seq)) ∧
    ∃ w, RealBackend.system.Run (smallAdapter.start reports)
        ((List.replicate 3 false ++ List.replicate 3 true).map fun i => (i, ⟨0⟩)) w ∧
      w.shared.observed.length = 2 ∧ w.shared.observed.Pairwise (·.seq < ·.seq) := by
  -- Of two tasks the second starts when the first is done, so that every step is in its turn.
  have horder := observer_order quietBackend [phone] discoveries smallAdapter reports
  constructor
  · let p (w : Pool mockSteps MockState fun i => (discoveries i).Result) : Bool :=
      w.shared.observed.length = 4
    have hcomputed : ((MockBackend.system discoveries).exec (quietBackend.start [phone] discoveries)
        ((List.replicate 5 false ++ List.replicate 5 true).map fun i => (i, .cancel))).any p
          = true := by decide
    obtain ⟨w, hrun, hp⟩ := Lts.exists_run_of_any hcomputed
    exact ⟨w, hrun, of_decide_eq_true hp, (horder.1 _ w hrun (by decide)).1⟩
  · let p (w : Pool emitSteps EmitState fun _ : Bool => Unit) : Bool := w.shared.observed.length = 2
    have hcomputed : (RealBackend.system.exec (smallAdapter.start reports)
        ((List.replicate 3 false ++ List.replicate 3 true).map fun i => (i, ⟨0⟩))).any p
          = true := by decide
    obtain ⟨w, hrun, hp⟩ := Lts.exists_run_of_any hcomputed
    exact ⟨w, hrun, of_decide_eq_true hp, (horder.2 _ w hrun (by decide)).1⟩

open MockBackend in
/-- Two operations that overlap: the one that stamps its event second is the first to call the
observer, with the mock and with a real backend. -/
theorem observer_called_out_of_order :
    (∃ w, (MockBackend.system discoveries).Run (quietBackend.start [phone] discoveries) overlap w ∧
      w.shared.observed.map TransitEvent.seq = [1, 0, 2, 3] ∧
      ¬ w.shared.observed.Pairwise (·.seq < ·.seq)) ∧
    ∃ w, RealBackend.system.Run (smallAdapter.start reports)
        ([false, true, true, true, false, false].map fun i => (i, ⟨0⟩)) w ∧
      w.shared.observed.map TransitEvent.seq = [1, 0] ∧
      ¬ w.shared.observed.Pairwise (·.seq < ·.seq) := by
  constructor
  -- One task stamps its event, and the other one overtakes it before it is handed over.
  · let p (w : Pool mockSteps MockState fun i => (discoveries i).Result) : Bool :=
      decide (w.shared.observed.map TransitEvent.seq = [1, 0, 2, 3] ∧
        ¬ w.shared.observed.Pairwise (·.seq < ·.seq))
    have hcomputed : ((MockBackend.system discoveries).exec (quietBackend.start [phone] discoveries)
        overlap).any p = true := by decide
    obtain ⟨w, hrun, hp⟩ := Lts.exists_run_of_any hcomputed
    exact ⟨w, hrun, of_decide_eq_true hp⟩
  · let p (w : Pool emitSteps EmitState fun _ : Bool => Unit) : Bool :=
      decide (w.shared.observed.map TransitEvent.seq = [1, 0] ∧
        ¬ w.shared.observed.Pairwise (·.seq < ·.seq))
    have hcomputed : (RealBackend.system.exec (smallAdapter.start reports)
        ([false, true, true, true, false, false].map fun i => (i, ⟨0⟩))).any p = true := by decide
    obtain ⟨w, hrun, hp⟩ := Lts.exists_run_of_any hcomputed
    exact ⟨w, hrun, of_decide_eq_true hp⟩

end Pax
