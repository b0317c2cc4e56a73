import Pax.Framework.Publication
import Pax.Transport.Mock.Runs

/-!
# The event log of the mock backend

Every operation of the mock publishes its events in two steps: an event is stamped under the lock,
and handed to the observer once the lock is released. So the facts about publications apply
(`publishes_run`), and they need no bound: an event is handed over after it was stamped, by the
operation that has stamped it, and never twice.

What is particular to the mock is how events are numbered and timed: `Logged` says that of the
events stamped so far, for whatever the operations did. The numbers come round after `2 ^ 64` events
(`exists_seq_comes_round`), and the clock after `2 ^ 128` nanoseconds, so that each statement about
them has the bound that it is about (`event_log`).
-/

namespace Pax
namespace MockBackend

open Program (call)

/-- Stamping takes an event, and calling the observer hands it over. -/
def events : Publication mockSteps TransitEvent where
  takes
    | .stamp .. => true
    | _ => false
  taken
    | ⟨.stamp .., event⟩ => some event
    | _ => none
  handed
    | ⟨.onEvent event, _⟩ => some event
    | _ => none
  isSome_taken e := by
    obtain ⟨c, reply⟩ := e
    cases c <;> rfl
  handed_of_takes e h := by
    obtain ⟨c, reply⟩ := e
    cases c <;> first | rfl | cases h

/-- What emits its events whole hands over each that it stamps. -/
theorem publishes_of_built {op : MockOp} {α : Type} {p : Steps α} (h : Built op p) :
    events.Publishes p := by
  induction h with
  | done a => exact Publication.publishes_done a
  | emit origin kind dt hkind h ih =>
    refine Publication.Publishes.bind ?_ fun _ => ih
    intro event
    exact ⟨some event, rfl, fun _ => ⟨none, if_pos rfl, rfl⟩⟩
  | ask c hcall h ih =>
    -- no other step stamps an event or calls the observer
    have hother : events.takes c = false ∧ ∀ reply, events.handed ⟨c, reply⟩ = none := by
      cases c <;> first | exact ⟨rfl, fun _ => rfl⟩ | (cases op <;> cases hcall)
    exact Publication.publishes_ask hother.1 hother.2 ih

/-- **Every operation hands over each event that it stamps.** -/
theorem publishes_run (backend : MockBackend) (op : MockOp) : events.Publishes (backend.run op) :=
  publishes_of_built (built_run backend op)

/-! ### What a step does to the log -/

/-- The virtual time that a step is charged. A pairing window is charged as a whole. -/
def charge : Exchange mockSteps → ℕ
  | ⟨.stamp _ _ dt, _⟩ => dt.nanos
  | ⟨.advance window, _⟩ => window.nanos
  | _ => 0

/-- The virtual time charged so far. -/
def charged (es : List (Exchange mockSteps)) : ℕ := (es.map charge).sum

section Serve

variable (c : MockCall) (answer : PairingResponse) (s : MockState)

/-- The observer has what it was handed, in the order in which it was called. -/
theorem observed_serve : (serve c answer s).2.observed
    = s.observed ++ (events.handed ⟨c, (serve c answer s).1⟩).toList := by
  cases hc : changes c with
  | true => cases c <;> first | rfl | exact (List.append_nil _).symm | cases hc
  | false =>
    obtain ⟨devices, hs⟩ := serve_of_changes hc answer s
    rw [hs]
    cases c <;> first | exact (List.append_nil _).symm | cases hc

/-- An event is stamped with the counter and the clock as they are. -/
theorem taken_serve : ∀ event ∈ events.taken ⟨c, (serve c answer s).1⟩,
    event.seq = s.seq ∧ event.at' = ⟨s.clockNs⟩ ∧ ∃ dt, c = .stamp event.origin event.kind dt := by
  intro event hevent
  cases c with
  | stamp origin kind dt =>
    cases hevent
    exact ⟨rfl, rfl, dt, rfl⟩
  | _ => cases hevent

/-- The counter of the sequence numbers counts the events stamped, modulo `2 ^ 64`. -/
theorem seq_serve : (serve c answer s).2.seq
    = s.seq + UInt64.ofNat (events.taken ⟨c, (serve c answer s).1⟩).toList.length := by
  cases hc : changes c with
  | true => cases c <;> first | rfl | exact (UInt64.add_zero _).symm | cases hc
  | false =>
    obtain ⟨devices, hs⟩ := serve_of_changes hc answer s
    rw [hs]
    cases c <;> first | exact (UInt64.add_zero _).symm | cases hc

/-- The clock goes forward by what is charged, and comes round. -/
theorem clockNs_serve (h : s.clockNs < 2 ^ 128) : (serve c answer s).2.clockNs
    = (s.clockNs + charge ⟨c, (serve c answer s).1⟩) % 2 ^ 128 := by
  have hkept : s.clockNs = (s.clockNs + 0) % 2 ^ 128 := (Nat.mod_eq_of_lt h).symm
  cases hc : changes c with
  | true => cases c <;> first | rfl | exact hkept | cases hc
  | false =>
    obtain ⟨devices, hs⟩ := serve_of_changes hc answer s
    rw [hs]
    cases c <;> first | exact hkept | cases hc

end Serve

/-! ### What is in the log -/

/-- Of the events stamped so far: how they are numbered and timed, and what the observer has. -/
structure Logged (es : List (Exchange mockSteps)) (s : MockState) : Prop where
  seq_eq : s.seq = UInt64.ofNat (events.takenBy es).length
  numbered : (events.takenBy es).map TransitEvent.seq
    = (List.range (events.takenBy es).length).map UInt64.ofNat
  observed_eq : s.observed = events.handedBy es
  clock_eq : s.clockNs = charged es % 2 ^ 128
  /-- If the clock has not come round, the timestamps go up, and the clock is past them. -/
  timed : charged es < 2 ^ 128 → (events.takenBy es).Pairwise (·.at' ≤ ·.at') ∧
    ∀ event ∈ events.takenBy es, event.at'.nanos ≤ charged es

theorem Logged.init (devices : List MockDevice) : Logged [] (.init devices) where
  seq_eq := rfl
  numbered := rfl
  observed_eq := rfl
  clock_eq := rfl
  timed _ := ⟨.nil, fun _ h => absurd h List.not_mem_nil⟩

theorem charged_concat (es : List (Exchange mockSteps)) (e : Exchange mockSteps) :
    charged (es ++ [e]) = charged es + charge e := by
  rw [charged, List.map_append, List.sum_append, List.map_singleton, List.sum_singleton]
  rfl

theorem Logged.step {es : List (Exchange mockSteps)} {s : MockState} (h : Logged es s)
    (c : MockCall) (answer : PairingResponse) :
    Logged (es ++ [⟨c, (serve c answer s).1⟩]) (serve c answer s).2 := by
  -- What the step stamps and hands over, if anything, is added at the end.
  set e : Exchange mockSteps := ⟨c, (serve c answer s).1⟩ with he
  have htaken := events.takenBy_concat es e
  have hhanded := events.handedBy_concat es e
  have hevent := taken_serve c answer s
  have hclock : s.clockNs < 2 ^ 128 := h.clock_eq ▸ Nat.mod_lt _ (by norm_num)
  constructor
  · rw [seq_serve, htaken, List.length_append, UInt64.ofNat_add, ← h.seq_eq]
  · -- the new event, if there is one, has the number of those before
    rw [htaken, List.map_append, List.length_append, h.numbered]
    cases hcase : events.taken e with
    | none => simp
    | some event =>
      obtain ⟨hseq, -, -⟩ := hevent event hcase
      rw [Option.toList_some, List.length_singleton, List.range_succ, List.map_append,
        List.map_singleton, List.map_singleton, hseq, h.seq_eq]
  · rw [observed_serve, hhanded, h.observed_eq]
  · rw [clockNs_serve c answer s hclock, charged_concat, h.clock_eq, Nat.mod_add_mod]
  · intro htime
    rw [charged_concat] at htime ⊢
    obtain ⟨hsorted, hpast⟩ := h.timed (by omega)
    rw [htaken]
    cases hcase : events.taken e with
    | none =>
      rw [Option.toList_none, List.append_nil]
      exact ⟨hsorted, fun event hmem => le_add_right (hpast event hmem)⟩
    | some event =>
      -- a new event carries the time charged before it
      obtain ⟨-, hat, -⟩ := hevent event hcase
      have hnow : event.at'.nanos = charged es := by
        rw [hat, h.clock_eq]
        exact Nat.mod_eq_of_lt (by omega)
      rw [Option.toList_some]
      constructor
      · rw [List.pairwise_append]
        refine ⟨hsorted, List.pairwise_singleton _ _, ?_⟩
        intro earlier hearlier later hlater
        obtain rfl := List.mem_singleton.mp hlater
        show earlier.at'.nanos ≤ later.at'.nanos
        rw [hnow]
        exact hpast earlier hearlier
      · intro other hmem
        rcases List.mem_append.mp hmem with hbefore | hlast
        · exact le_add_right (hpast other hbefore)
        · obtain rfl := List.mem_singleton.mp hlast
          rw [hnow]
          exact Nat.le_add_right _ _

/-- Whatever the operations did, the events stamped are numbered and timed as they should be. -/
theorem logged_of_served {devices : List MockDevice} {es : List (Exchange mockSteps)}
    {s : MockState} (h : Served serve (.init devices) es s) : Logged es s :=
  h.invariant (Logged.init devices) fun _ _ c answer hlogged => hlogged.step c answer

/-- The events of a sort in the log are as many as the steps that stamped them. -/
theorem countP_taken {s₀ s : MockState} {es : List (Exchange mockSteps)}
    (h : Served serve s₀ es s) (p : EventOrigin → TransitEventKind → Bool) :
    (events.takenBy es).countP (fun event => p event.origin event.kind) = es.countP (stamps p) := by
  rw [Publication.takenBy, List.countP_filterMap]
  refine List.countP_congr fun e he => ?_
  obtain ⟨s₁, answer, hreply⟩ := h.answered e he
  obtain ⟨c, reply⟩ := e
  dsimp only at hreply
  subst hreply
  cases c <;> rfl

/-! ### The log of a run -/

section Run

variable {backend : MockBackend} {devices : List MockDevice} {ι : Type} [DecidableEq ι]
  {ops : ι → MockOp} {steps : List (ι × PairingResponse)}
  {w : Pool mockSteps MockState fun i => (ops i).Result}

omit [DecidableEq ι] in
theorem publishes_ops (i : ι) : events.Publishes (backend.run (ops i)) :=
  publishes_run backend (ops i)

/-- With at most `2 ^ 64` events, the numbers are those of the events in order. -/
theorem toNat_seq_allTaken (hrun : (system ops).Run (backend.start devices ops) steps w)
    (hcount : (events.allTaken w).length ≤ 2 ^ 64) :
    (events.allTaken w).map (fun event => event.seq.toNat)
      = List.range (events.allTaken w).length := by
  -- The numbers are counted up in 64 bits, which are enough for these.
  have hnumbered := (logged_of_served (reached hrun).served).numbered
  calc (events.allTaken w).map (fun event => event.seq.toNat)
      = ((events.allTaken w).map TransitEvent.seq).map UInt64.toNat := by rw [List.map_map]; rfl
    _ = (List.range (events.allTaken w).length).map (UInt64.toNat ∘ UInt64.ofNat) := by
        rw [Publication.allTaken, hnumbered, List.map_map]
    _ = (List.range (events.allTaken w).length).map id := by
        refine List.map_congr_left fun n hn => ?_
        have hlt : n < 2 ^ 64 := lt_of_lt_of_le (List.mem_range.mp hn) hcount
        exact UInt64.toNat_ofNat_of_lt' hlt
    _ = List.range (events.allTaken w).length := List.map_id _

/-- With at most `2 ^ 64` events, no two events of the log are the same. -/
theorem nodup_allTaken (hrun : (system ops).Run (backend.start devices ops) steps w)
    (hcount : (events.allTaken w).length ≤ 2 ^ 64) : (events.allTaken w).Nodup := by
  refine List.Nodup.of_map (fun event => event.seq.toNat) ?_
  rw [toNat_seq_allTaken hrun hcount]
  exact List.nodup_range

/-- **The event log of interleaved operations.** Each clause has its own bound, and three have none.

* As long as at most `2 ^ 64` events are stamped, they are numbered `0, 1, ..` in the order in which
  they are stamped, and the observer is handed none of them twice.
* As long as the virtual time charged, by events and by accept windows, stays below `2 ^ 128` ns,
  the timestamps do not go down in that order, and none is past the virtual clock.
* An event that is handed to the observer has been stamped before.
* No event is handed over more often than it was stamped.
* When no operation is in progress, the recorder holds the events that were stamped, each as often
  as it was stamped. -/
theorem event_log (hrun : (system ops).Run (backend.start devices ops) steps w) :
    ((events.allTaken w).length ≤ 2 ^ 64 →
        (events.allTaken w).map (fun event => event.seq.toNat)
            = List.range (events.allTaken w).length ∧
          (events.allHanded w).Nodup ∧ w.shared.observed.Nodup) ∧
      (charged (w.trace.map Prod.snd) < 2 ^ 128 →
        (events.allTaken w).Pairwise (·.at' ≤ ·.at') ∧
          ∀ event ∈ events.allTaken w, event.at'.nanos ≤ w.shared.clockNs) ∧
      (∀ pre i event reply post, w.trace = pre ++ (i, ⟨.onEvent event, reply⟩) :: post →
        event ∈ events.takenBy (pre.map Prod.snd)) ∧
      (events.allHanded w : Multiset TransitEvent) ≤ events.allTaken w ∧
      (w.Quiescent → w.shared.observed.Perm (events.allTaken w)) := by
  have hreached := reached hrun
  have hlogged := logged_of_served hreached.served
  have hle := Publication.handed_le_taken publishes_ops hreached
  refine ⟨fun hcount => ?_, fun htime => ?_, ?_, hle, fun hrest => ?_⟩
  -- distinct numbers, and so distinct events
  · have htaken := nodup_allTaken hrun hcount
    have hhanded : (events.allHanded w).Nodup :=
      Multiset.coe_nodup.mp (Multiset.nodup_of_le hle (Multiset.coe_nodup.mpr htaken))
    refine ⟨toNat_seq_allTaken hrun hcount, hhanded, ?_⟩
    rw [hlogged.observed_eq]
    exact hhanded
  · obtain ⟨hsorted, hpast⟩ := hlogged.timed htime
    refine ⟨hsorted, fun event hmem => ?_⟩
    -- the clock has not come round, so it shows what was charged
    rw [hlogged.clock_eq, Nat.mod_eq_of_lt htime]
    exact hpast event hmem
  · intro pre i event reply post htrace
    exact Publication.taken_before_handed publishes_ops hreached htrace rfl
  · rw [hlogged.observed_eq]
    exact Publication.handed_perm_taken publishes_ops hreached hrest

end Run

/-- Two discoveries that overlap, the one that stamps first being the second to call the observer:
the numbers go from 0 to 3, and when both have returned the recorder has the four events, each
once, although it was not handed them in the order of their numbers. -/
theorem event_log_discoveries : ∃ w,
    (system discoveries).Run (quietBackend.start [phone] discoveries) overlap w ∧
      (events.allTaken w).map (fun event => event.seq.toNat) = [0, 1, 2, 3] ∧
      (events.allTaken w).Pairwise (·.at' ≤ ·.at') ∧
      w.shared.observed.Perm (events.allTaken w) ∧ w.shared.observed.Nodup ∧
      w.shared.observed ≠ events.allTaken w := by
  let p (w : Pool mockSteps MockState fun i => (discoveries i).Result) : Bool :=
    decide (charged (w.trace.map Prod.snd) < 2 ^ 128 ∧ (events.allTaken w).length = 4 ∧
      w.shared.observed ≠ events.allTaken w ∧ ∀ i, (w.task i).value?.isSome)
  have hcomputed : ((system discoveries).exec (quietBackend.start [phone] discoveries)
      overlap).any p = true := by decide
  obtain ⟨w, hrun, hp⟩ := Lts.exists_run_of_any hcomputed
  obtain ⟨htime, hcount, hdisorder, hdone⟩ := of_decide_eq_true hp
  have hfits : (events.allTaken w).length ≤ 2 ^ 64 := by
    rw [hcount]
    norm_num
  -- Both discoveries have returned.
  have hrest : w.Quiescent := by
    intro i
    obtain ⟨a, ha⟩ := Option.isSome_iff_exists.mp (hdone i)
    exact .inr ⟨a, Program.value?_eq_some.mp ha⟩
  obtain ⟨hnumbered, htimed, -, -, hrecorded⟩ := event_log hrun
  obtain ⟨hnumbers, -, hnodup⟩ := hnumbered hfits
  rw [hcount] at hnumbers
  exact ⟨w, hrun, hnumbers, (htimed htime).1, hrecorded hrest, hnodup, hdisorder⟩

/-! ### When the counters come round -/

/-- A window of the longest duration there is, and a discovery after it. -/
def longWindow : Bool → MockOp
  | false => .acceptPairings { window := ⟨2 ^ 128 - 1⟩, maxDevices := none }
  | true => discoverAll

/-- The clock comes round: the first event after the window is timed at its end, which is past the
clock by then, and the next event is timed before it. -/
theorem exists_clock_comes_round :
    ∃ steps w, (system longWindow).Run (quietBackend.start [phone] longWindow) steps w ∧
      ¬ ((events.allTaken w).Pairwise (·.at' ≤ ·.at') ∧
        ∀ event ∈ events.allTaken w, event.at'.nanos ≤ w.shared.clockNs) := by
  let p (w : Pool mockSteps MockState fun i => (longWindow i).Result) : Bool :=
    decide (¬ ((events.allTaken w).Pairwise (·.at' ≤ ·.at') ∧
      ∀ event ∈ events.allTaken w, event.at'.nanos ≤ w.shared.clockNs))
  have hcomputed : ((system longWindow).exec (quietBackend.start [phone] longWindow)
      ((false, .cancel) :: List.replicate 5 (true, .cancel))).any p = true := by decide
  obtain ⟨w, hrun, hp⟩ := Lts.exists_run_of_any hcomputed
  exact ⟨_, w, hrun, of_decide_eq_true hp⟩

/-- The sequence numbers come round: after enough connections, two events have the same number. -/
theorem exists_seq_comes_round :
    ∃ steps w, (system connects).Run (quietBackend.start [phone] connects) steps w ∧
      ¬ ((events.allTaken w).map TransitEvent.seq).Nodup := by
  obtain ⟨steps, w, hrun, -, hstamps, -⟩ := exists_connects (2 ^ 64 + 1)
  refine ⟨steps, w, hrun, not_nodup_of_length ?_⟩
  have hcount := countP_taken (reached hrun).served fun _ _ => true
  have hlength : (events.allTaken w).length = 2 ^ 64 + 1 := by
    rw [← hstamps, ← hcount, List.countP_true]
    rfl
  rw [List.length_map, hlength]
  exact Nat.lt_succ_self _

/-- What is true of each run up to the two bounds is not true of each run without them. -/
theorem event_log_comes_round :
    (∃ steps w, (system longWindow).Run (quietBackend.start [phone] longWindow) steps w ∧
      ¬ ((events.allTaken w).Pairwise (·.at' ≤ ·.at') ∧
        ∀ event ∈ events.allTaken w, event.at'.nanos ≤ w.shared.clockNs)) ∧
    ∃ steps w, (system connects).Run (quietBackend.start [phone] connects) steps w ∧
      ¬ ((events.allTaken w).map TransitEvent.seq).Nodup :=
  ⟨exists_clock_comes_round, exists_seq_comes_round⟩

end MockBackend
end Pax
