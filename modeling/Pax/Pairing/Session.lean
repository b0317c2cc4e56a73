import Pax.Framework.Concurrently
import Pax.Pairing.Items

/-!
# The pairing workflow as programs

The workflow of `pax-pairing/src/workflow.rs` once more, as programs over any operations that take
the part of the backend (`PairingOps`), so that the calls of `pair` that are in progress at a time
are interleaved with each other, and with whatever else is done on the backend, step by step. Within
a round, `picks` tells which of the calls of `pair_device` in progress goes on. On any backend, if
no operation of it is interrupted, the programs come to the same as the workflow there
(`run_pairDevice`, `run_pairDevices`).
-/

namespace Pax

/-- What a backend does for the pairing workflow, as programs. The agent is part of them. -/
structure PairingOps (I : Interface) where
  capabilities : Capabilities
  setLocalAddress : BdAddr → Program I (Except TransportError Unit)
  pair : DeviceId → Program I (Except TransportError PairingOutcome)

namespace Pairing

section Workflow

variable {I : Interface} (ops : PairingOps I)

/-- Set the local address, if one is given and the backend can do it. -/
def applySpoof (spoof : Option BdAddr) : Program I (Except TransportError Unit) :=
  match spoof with
  | none => return .ok ()
  | some addr =>
    if ¬ ops.capabilities.canSpoofAddress then
      return .error (.unsupported ops.capabilities.kind.name "set_local_address")
    else ops.setLocalAddress addr

/-- Pair up to `left` more times, after `made` attempts; `last` is the error if there is no attempt
left. -/
def pairFrom (target : DeviceId) :
    (made left : ℕ) → (last : TransportError) → Program I (Except TransportError PairReport)
  | _, 0, last => return .error last
  | made, left + 1, _ => do
    match ← ops.pair target with
    | .ok outcome => return .ok { outcome, attempts := made + 1 }
    | .error e => if isFinal e then return .error e else pairFrom target (made + 1) left e

/-- Pair with a device, retrying transient failures, after the address is set. -/
def pairDevice (target : DeviceId) (options : PairOptions) :
    Program I (Except TransportError PairReport) := do
  match ← applySpoof ops options.spoofLocal with
  | .error e => return .error e
  | .ok () => pairFrom ops target 0 (saturatingSucc options.retries) exhaustedRetries

/-- A call of `pair_device`, whose result comes with the device that it is for. -/
def roundCall (options : PairOptions) (id : DeviceId) : Program I RoundResult := do
  let outcome ← pairDevice ops id options
  return (id, outcome)

/-- One round over the pending devices: their calls of `pair_device` are interleaved as `picks`
tells. -/
def runRound (options : PairOptions) (active : ℕ) (picks : List ℕ) (pending : List DeviceId) :
    Program I (List RoundResult) :=
  Program.concurrently active picks (pending.map (roundCall ops options)) [] []

/-- The rounds over the still-pending devices, until none is pending or no round is left. -/
def roundsLoop (options : PairOptions) (concurrency : ℕ) (picks : ℕ → List ℕ) :
    (left round : ℕ) → (pending : List DeviceId) → ResultMap → Program I (Option ResultMap)
  | 0, _, _, results => return some results
  | left + 1, round, pending, results =>
    if pending = [] then return some results
    else do
      -- a buffer of zero would never yield anything
      let active := max (min concurrency pending.length) 1
      let outcomes ← runRound ops options active (picks round) pending
      match outcomes.foldlM Intake.take { results, next := [] } with
      | none => return none
      | some acc =>
        roundsLoop options concurrency picks left (round + 1) acc.next acc.results

/-- Pair with many devices, in rounds; `none` is a panic. -/
def pairDevices (picks : ℕ → List ℕ) (targets : List DeviceId) (options : BatchPairOptions) :
    Program I (Option (List PairItem)) := do
  let concurrency := max (options.concurrency.getD ops.capabilities.maxConcurrentPairings) 1
  let (order, results) := dedupe targets
  -- the address is set once for the whole batch
  match ← applySpoof ops options.perDevice.spoofLocal with
  | .error e =>
    -- the one error is copied into every item, as text
    return some
      (order.map fun id => { id, outcome := .error (.localAddress e.display), attempts := 0 })
  | .ok () =>
    let results ← roundsLoop ops { options.perDevice with spoofLocal := none } concurrency picks
      (max options.rounds.toNat 1) 0 order results
    return results.bind (drain order)

end Workflow

/-! ### The same workflow -/

/-- The operations of the backend that the workflow uses. -/
inductive Call where
  | setLocalAddress (addr : BdAddr)
  | pair (target : DeviceId)

def Call.Reply : Call → Type
  | .setLocalAddress _ => Except TransportError Unit
  | .pair _ => Except TransportError PairingOutcome

abbrev calls : Interface := { Call := Call, Reply := Call.Reply }

/-- The operations as calls: each of them is one call. -/
def callOps (capabilities : Capabilities) : PairingOps calls where
  capabilities
  setLocalAddress addr := Program.call (I := calls) (.setLocalAddress addr)
  pair target := Program.call (I := calls) (.pair target)

section Run

variable {σ : Type} (backend : BluetoothBackend σ) (agent : PairingAgent)

/-- An operation of the backend, with its failure as a result like any other. -/
def perform : (c : Call) → StateM σ c.Reply
  | .setLocalAddress addr => fun s => Outcome.split ((backend.setLocalAddress addr).run s)
  | .pair target => fun s => Outcome.split ((backend.pair target agent).run s)

/-- Run a program on the backend, with no call being interrupted. -/
def runOn {α : Type} (p : Program calls α) (s : σ) : α × σ :=
  (p.runWith (perform backend agent)).run s

/-- The operations by which the programs are those for this backend. -/
abbrev opsOf : PairingOps calls := callOps backend.capabilities

/-- What is left of a call of `pair_device` that is in flight, as a program. -/
def flightCall (flight : Flight) : Program calls RoundResult := do
  let outcome ← pairFrom (opsOf backend) flight.id flight.made flight.left exhaustedRetries
  return (flight.id, outcome)

/-- How a round runs that is given these picks, and yields the results in the order in which the
calls are over. -/
def scheduleOf (picks : List ℕ) : Schedule where
  pick k := picks.getD k 0
  yield := id
  yield_perm := List.Perm.refl

variable {backend agent}

theorem runOn_bind {α β : Type} (p : Program calls α) (f : α → Program calls β) (s : σ) :
    runOn backend agent (p >>= f) s
      = runOn backend agent (f (runOn backend agent p s).1) (runOn backend agent p s).2 := by
  rw [runOn, Program.runWith_bind]
  rfl

theorem runOn_pair {α : Type} (target : DeviceId)
    (next : Except TransportError PairingOutcome → Program calls α) (s : σ) :
    runOn backend agent (.ask (I := calls) (.pair target) next) s
      = runOn backend agent (next (Outcome.split ((backend.pair target agent).run s)).1)
          (Outcome.split ((backend.pair target agent).run s)).2 :=
  rfl

theorem run_applySpoof (spoof : Option BdAddr) (s : σ) :
    runOn backend agent (applySpoof (opsOf backend) spoof) s
      = Outcome.split ((Pax.applySpoof backend spoof).run s) := by
  cases spoof with
  | none => rfl
  | some addr =>
    have hcapabilities : (opsOf backend).capabilities = backend.capabilities := rfl
    rw [applySpoof, Pax.applySpoof, hcapabilities]
    by_cases hcannot : ¬ backend.capabilities.canSpoofAddress
    · rw [if_pos hcannot, if_pos hcannot]
      rfl
    · rw [if_neg hcannot, if_neg hcannot]
      rfl

theorem run_pairFrom (target : DeviceId) (made left : ℕ) (last : TransportError) (s : σ) :
    runOn backend agent (pairFrom (opsOf backend) target made left last) s
      = Outcome.split ((Retry.retryFrom (backend.pair target agent) isFinal made left last >>=
          fun (outcome, attempts) => pure { outcome, attempts : PairReport }).run s) := by
  -- On the attempts that are left; the two loops make the same call and look at the same answer.
  induction left generalizing made last s with
  | zero => rfl
  | succ left ih =>
    rw [pairFrom, runOn_bind, EStateM.run_bind, Retry.run_retryFrom_succ, Retry.attemptOnce]
    have hpair : runOn backend agent ((opsOf backend).pair target) s
        = Outcome.split ((backend.pair target agent).run s) := rfl
    rw [hpair]
    cases (backend.pair target agent).run s with
    | ok outcome s' => rfl
    | error e s' =>
      dsimp only [Outcome.split]
      by_cases hfinal : isFinal e
      · rw [if_pos hfinal, if_pos hfinal]
        rfl
      · rw [if_neg hfinal, if_neg hfinal, ih]
        rfl

/-- **One device**: as a program or as the function of the workflow, `pair_device` comes to the
same. -/
theorem run_pairDevice (target : DeviceId) (options : PairOptions) (s : σ) :
    runOn backend agent (pairDevice (opsOf backend) target options) s
      = Outcome.split ((Pax.pairDevice backend target agent options).run s) := by
  rw [pairDevice, runOn_bind, run_applySpoof, Pax.pairDevice]
  cases hspoof : (Pax.applySpoof backend options.spoofLocal).run s with
  | ok u s' =>
    rw [Outcome.run_bind_ok hspoof]
    exact run_pairFrom target 0 _ _ s'
  | error e s' =>
    rw [Outcome.run_bind_error hspoof]
    rfl

/-! ### The same rounds -/

theorem roundCall_eq {options : PairOptions} (hspoof : options.spoofLocal = none) (id : DeviceId) :
    roundCall (opsOf backend) options id
      = flightCall backend { id, made := 0, left := saturatingSucc options.retries } := by
  rw [roundCall, pairDevice, hspoof]
  rfl

/-- What is left of a call in flight once an attempt came to `result`. -/
def settle (flight : Flight) (result : Except TransportError PairingOutcome) :
    Flight ⊕ RoundResult :=
  match result with
  | .ok outcome => .inr (flight.id, .ok { outcome, attempts := flight.made + 1 })
  | .error e =>
    if isFinal e ∨ flight.left ≤ 1 then .inr (flight.id, .error e)
    else .inl { flight with made := flight.made + 1, left := flight.left - 1 }

theorem one_le_of_settle {flight flight' : Flight}
    {result : Except TransportError PairingOutcome} (h : settle flight result = .inl flight') :
    1 ≤ flight'.left := by
  cases result with
  | ok outcome => cases h
  | error e =>
    rw [settle] at h
    split at h
    · cases h
    · next hnot =>
      obtain rfl := Sum.inl.inj h
      dsimp only
      omega

theorem advance_eq (flight : Flight) (s : σ) : flight.advance backend agent s
    = (settle flight (Outcome.split ((backend.pair flight.id agent).run s)).1,
        (Outcome.split ((backend.pair flight.id agent).run s)).2) := by
  rw [Flight.advance, Retry.attemptOnce]
  cases (backend.pair flight.id agent).run s with
  | ok outcome s' => rfl
  | error e s' =>
    dsimp only [Outcome.split, settle]
    -- A final error ends the flight, and any other one does so once no attempt is left.
    by_cases hfinal : isFinal e
    · rw [if_pos hfinal, if_pos (.inl hfinal)]
    · rw [if_neg hfinal]
      dsimp only
      by_cases hleft : flight.left ≤ 1
      · rw [if_pos hleft, if_pos (.inr hleft)]
      · rw [if_neg hleft, if_neg (not_or.mpr ⟨hfinal, hleft⟩)]

/-- A call in flight asks for its next attempt, and goes on with what is left of it. -/
theorem flightCall_eq {flight : Flight} (hleft : 1 ≤ flight.left) :
    flightCall backend flight = .ask (I := calls) (.pair flight.id) fun result =>
      match settle flight result with
      | .inl flight' => flightCall backend flight'
      | .inr returned => .done returned := by
  obtain ⟨id, made, left⟩ := flight
  obtain ⟨left, rfl⟩ := Nat.exists_eq_add_of_le' hleft
  rw [flightCall, pairFrom]
  show Program.ask (I := calls) _ _ = _
  congr 1
  funext result
  cases result with
  | ok outcome => rfl
  | error e =>
    dsimp only [settle]
    -- After a final error nothing is called, and after another only if an attempt is left.
    by_cases hfinal : isFinal e
    · rw [if_pos (.inl hfinal)]
      simp only [Program.bind, if_pos hfinal]
      rfl
    · simp only [Program.bind, if_neg hfinal]
      cases left with
      | zero =>
        rw [if_pos (.inr le_rfl)]
        rfl
      | succ left =>
        rw [if_neg (by simp [hfinal])]
        rfl

/-- What is left of a round in this state, as a program. -/
def roundRest (backend : BluetoothBackend σ) (attempts active : ℕ) (picks : List ℕ)
    (st : RoundState) : Program calls (List RoundResult) :=
  Program.concurrently active picks
    (st.waiting.map fun id => flightCall backend { id, made := 0, left := attempts })
    (st.running.map (flightCall backend)) st.done

/-- Without room for another call, the one that is picked makes its next attempt. -/
theorem step_of_full {attempts active pick : ℕ} {st : RoundState} (s : σ)
    (hfull : st.waiting = [] ∨ ¬ st.running.length < active) :
    st.step backend agent attempts active pick s
      = st.advanceAt backend agent (pick % st.running.length) s := by
  obtain ⟨waiting, running, out⟩ := st
  rcases hfull with hnil | hnot
  · obtain rfl : waiting = [] := hnil
    rfl
  · change ¬ running.length < active at hnot
    cases waiting <;> simp [RoundState.step, hnot]

/-- The call that is picked makes its next attempt, and so does its program. -/
theorem runOn_roundRest_pick {attempts active pick : ℕ} {picks : List ℕ} {st : RoundState}
    {flight : Flight} (s : σ) (hfull : st.waiting = [] ∨ ¬ st.running.length < active)
    (hget : st.running[pick % st.running.length]? = some flight) (hleft : 1 ≤ flight.left) :
    runOn backend agent (roundRest backend attempts active (pick :: picks) st) s
      = runOn backend agent
          (roundRest backend attempts active picks
            (st.advanceAt backend agent (pick % st.running.length) s).1)
          (st.advanceAt backend agent (pick % st.running.length) s).2 := by
  obtain ⟨waiting, running, out⟩ := st
  dsimp only at hfull hget ⊢
  have hpicked : (running.map (flightCall backend))[pick %
      (running.map (flightCall backend)).length]? = some (flightCall backend flight) := by
    rw [List.length_map, List.getElem?_map, hget, Option.map_some]
  have hfull' :
      waiting.map (fun id => flightCall backend { id, made := 0, left := attempts }) = [] ∨
        ¬ (running.map (flightCall backend)).length < active := by
    rwa [List.map_eq_nil_iff, List.length_map]
  rw [flightCall_eq hleft] at hpicked
  rw [RoundState.advanceAt, hget, roundRest, Program.concurrently_pick hfull' hpicked,
    List.length_map]
  dsimp only
  rw [advance_eq]
  refine (runOn_pair flight.id _ s).trans ?_
  -- The flight stays in its slot for another attempt, or it is done and leaves it.
  cases hsettle : settle flight (Outcome.split ((backend.pair flight.id agent).run s)).1 with
  | inl flight' =>
    have hlive := one_le_of_settle hsettle
    dsimp only
    rw [flightCall_eq hlive]
    dsimp only
    rw [← flightCall_eq hlive, roundRest, List.map_set]
  | inr returned =>
    dsimp only
    rw [roundRest, List.eraseIdx_map]

/-- **One step of a round.** The program for what is left of it is a step further, too. -/
theorem runOn_roundRest_cons {attempts active pick : ℕ} {picks : List ℕ} {st : RoundState} (s : σ)
    (hactive : 1 ≤ active) (hlive : st.Live) (hst : ¬ st.Complete) :
    runOn backend agent (roundRest backend attempts active (pick :: picks) st) s
      = runOn backend agent
          (roundRest backend attempts active picks (st.step backend agent attempts active pick s).1)
          (st.step backend agent attempts active pick s).2 := by
  by_cases hstart : st.waiting ≠ [] ∧ st.running.length < active
  -- there is room for one more call
  · obtain ⟨waiting, running, out⟩ := st
    obtain ⟨hwaiting, hroom⟩ := hstart
    dsimp only at hwaiting hroom
    obtain ⟨id, waiting, rfl⟩ := List.exists_cons_of_ne_nil hwaiting
    have hroom' : (running.map (flightCall backend)).length < active := by rwa [List.length_map]
    rw [roundRest, List.map_cons, Program.concurrently_start hroom']
    simp [RoundState.step, roundRest, hroom]
  · have hfull : st.waiting = [] ∨ ¬ st.running.length < active := by
      by_contra hnot
      rw [not_or, not_not] at hnot
      exact hstart hnot
    -- so there is a call in flight, and it is picked
    have hrunning : st.running ≠ [] := by
      intro hnil
      rcases hfull with hwaiting | hnot
      · exact hst ⟨hwaiting, hnil⟩
      · rw [hnil] at hnot
        exact hnot hactive
    have hlt : pick % st.running.length < st.running.length :=
      Nat.mod_lt _ (List.length_pos_of_ne_nil hrunning)
    rw [step_of_full s hfull]
    exact runOn_roundRest_pick s hfull (List.getElem?_eq_getElem hlt)
      (hlive _ (List.getElem_mem hlt))

theorem runOn_roundRest_of_complete {attempts active : ℕ} {schedule : Schedule} {picks : List ℕ}
    {fuel step : ℕ} {st : RoundState} (s : σ) (hst : st.Complete) :
    runOn backend agent (roundRest backend attempts active picks st) s
      = ((roundLoop backend agent attempts active schedule fuel step st s).1.done,
          (roundLoop backend agent attempts active schedule fuel step st s).2) := by
  obtain ⟨waiting, running, out⟩ := st
  obtain ⟨rfl, rfl⟩ : waiting = [] ∧ running = [] := hst
  rw [roundRest, List.map_nil, List.map_nil, Program.concurrently_nil]
  cases fuel <;> rfl

/-- **The steps of a round.** With fuel and picks for all the work there is, the two come to the
same. -/
theorem runOn_roundRest {attempts active : ℕ} (hattempts : 1 ≤ attempts) (hactive : 1 ≤ active)
    (schedule : Schedule) (picks : List ℕ) (fuel step : ℕ) (st : RoundState) (s : σ)
    (hpick : ∀ k pick, picks[k]? = some pick → schedule.pick (step + k) = pick) (hlive : st.Live)
    (hpicks : st.work attempts ≤ picks.length) (hfuel : st.work attempts ≤ fuel) :
    runOn backend agent (roundRest backend attempts active picks st) s
      = ((roundLoop backend agent attempts active schedule fuel step st s).1.done,
          (roundLoop backend agent attempts active schedule fuel step st s).2) := by
  -- On the picks: each step of the schedule uses one up and leaves less work, and there are enough
  -- of them.
  induction picks generalizing fuel step st s with
  | nil =>
    apply runOn_roundRest_of_complete
    -- there is no work left
    by_contra hnot
    have hless := (RoundState.step_spec backend agent attempts 0 hactive hnot s).work_lt hlive
    exact Nat.not_lt_zero _ (hless.trans_le hpicks)
  | cons pick picks ih =>
    by_cases hc : st.Complete
    · exact runOn_roundRest_of_complete s hc
    · have hstep := RoundState.step_spec backend agent attempts pick hactive hc s
      have hless := hstep.work_lt hlive
      have hne : fuel ≠ 0 := by
        rintro rfl
        exact Nat.not_lt_zero _ (hless.trans_le hfuel)
      obtain ⟨fuel, rfl⟩ := Nat.exists_eq_succ_of_ne_zero hne
      have hfirst : schedule.pick step = pick := hpick 0 pick rfl
      rw [runOn_roundRest_cons s hactive hlive hc, roundLoop, if_neg hc, hfirst]
      refine ih fuel (step + 1) _ _ (fun k pick' hk => ?_) (hstep.live hattempts hlive)
        (Nat.le_of_lt_succ (hless.trans_le hpicks)) (Nat.le_of_lt_succ (hless.trans_le hfuel))
      rw [Nat.add_right_comm, Nat.add_assoc]
      exact hpick (k + 1) pick' hk

theorem run_runRound {options : PairOptions} (hspoof : options.spoofLocal = none) {active : ℕ}
    (hactive : 1 ≤ active) {picks : List ℕ} {pending : List DeviceId}
    (hpicks : roundFuel pending (saturatingSucc options.retries) ≤ picks.length) (s : σ) :
    runOn backend agent (runRound (opsOf backend) options active picks pending) s
      = Pax.runRound backend agent (saturatingSucc options.retries) active (scheduleOf picks)
          pending s := by
  -- The picks are enough for every attempt of every device.
  have hwork : RoundState.work (saturatingSucc options.retries)
      { waiting := pending, running := [], done := [] }
      = roundFuel pending (saturatingSucc options.retries) := by simp [RoundState.work, roundFuel]
  have hcalls : roundCall (opsOf backend) options = fun id =>
      flightCall backend { id, made := 0, left := saturatingSucc options.retries } :=
    funext fun id => roundCall_eq hspoof id
  rw [runRound, hcalls]
  refine runOn_roundRest (one_le_saturatingSucc _) hactive (scheduleOf picks) picks
    (roundFuel pending (saturatingSucc options.retries)) 0
    { waiting := pending, running := [], done := [] } s ?_ ?_ (hwork.trans_le hpicks) hwork.le
  · intro k pick hk
    show picks.getD (0 + k) 0 = pick
    rw [Nat.zero_add, List.getD_eq_getElem?_getD, hk, Option.getD_some]
  · intro flight hflight
    exact absurd hflight List.not_mem_nil

/-- The devices of the next round come from the results, in their order. -/
theorem sublist_next {outcomes : List RoundResult} {acc acc' : Intake}
    (h : outcomes.foldlM Intake.take acc = some acc') :
    List.Sublist acc'.next (acc.next ++ outcomes.map Prod.fst) := by
  -- Each outcome adds its device to the next round at most once.
  induction outcomes generalizing acc with
  | nil =>
    obtain rfl := Option.some.inj h
    exact List.sublist_append_left _ _
  | cons outcome outcomes ih =>
    rw [List.foldlM_cons] at h
    obtain ⟨acc₁, htake, hrest⟩ := Option.bind_eq_some_iff.mp h
    have hfirst : List.Sublist acc₁.next (acc.next ++ [outcome.1]) := by
      obtain ⟨item, -, hitem⟩ := Option.bind_eq_some_iff.mp htake
      split at hitem
      · cases hitem
      · obtain rfl := Option.some.inj hitem
        dsimp only
        split
        · exact List.Sublist.refl _
        · exact List.sublist_append_left _ _
    have hlast := (ih hrest).trans (hfirst.append_right _)
    rwa [List.append_assoc] at hlast

theorem length_runRound {attempts active : ℕ} (hattempts : 1 ≤ attempts) (hactive : 1 ≤ active)
    (schedule : Schedule) (pending : List DeviceId) (s : σ) :
    (Pax.runRound backend agent attempts active schedule pending s).1.length = pending.length := by
  obtain ⟨out, s', -, hids, hround⟩ := runRound_invariant hattempts hactive schedule
    (I := fun _ => True) (fun _ _ _ _ => trivial) pending s trivial
  rw [hround, (schedule.yield_perm out).length_eq, ← hids.length_eq, List.length_map]

theorem run_roundsLoop {options : PairOptions} (hspoof : options.spoofLocal = none)
    (concurrency : ℕ) {picks : ℕ → List ℕ} {n : ℕ}
    (hpicks : ∀ round, n * (saturatingSucc options.retries + 1) ≤ (picks round).length)
    (left round : ℕ) {pending : List DeviceId} (hpending : pending.length ≤ n) (results : ResultMap)
    (s : σ) :
    runOn backend agent
        (roundsLoop (opsOf backend) options concurrency picks left round pending results) s
      = Pax.roundsLoop backend agent (saturatingSucc options.retries) concurrency
          (fun round => scheduleOf (picks round)) left round pending results s := by
  -- On the rounds that are left; the next round has no more devices, so its picks are enough as
  -- well.
  induction left generalizing round pending results s with
  | zero => rfl
  | succ left ih =>
    rw [roundsLoop, Pax.roundsLoop]
    by_cases hnil : pending = []
    · rw [if_pos hnil, if_pos hnil]
      rfl
    · have hactive : 1 ≤ max (min concurrency pending.length) 1 := le_max_right _ _
      have hfuel : roundFuel pending (saturatingSucc options.retries) ≤ (picks round).length :=
        (Nat.mul_le_mul_right _ hpending).trans (hpicks round)
      have hlength : (Pax.runRound backend agent (saturatingSucc options.retries)
          (max (min concurrency pending.length) 1) (scheduleOf (picks round)) pending s).1.length
          = pending.length :=
        length_runRound (one_le_saturatingSucc _) hactive _ pending s
      rw [if_neg hnil, if_neg hnil]
      dsimp only
      rw [runOn_bind, run_runRound hspoof hactive hfuel]
      generalize Pax.runRound backend agent (saturatingSucc options.retries) _ _ pending s = out
        at hlength ⊢
      obtain ⟨outcomes, s'⟩ := out
      dsimp only at hlength ⊢
      cases hfold : outcomes.foldlM Intake.take { results, next := [] } with
      | none => rfl
      | some acc =>
        have hnext := (sublist_next hfold).length_le
        refine ih (round + 1) ?_ acc.results s'
        rw [List.nil_append, List.length_map, hlength] at hnext
        exact hnext.trans hpending

/-- **A batch.** With enough picks for each round it is the batch with the schedules that they
are. -/
theorem run_pairDevices (picks : ℕ → List ℕ) (targets : List DeviceId) (options : BatchPairOptions)
    (hpicks : ∀ round, roundFuel (dedupe targets).1 (saturatingSucc options.perDevice.retries)
      ≤ (picks round).length) (s : σ) :
    runOn backend agent (pairDevices (opsOf backend) picks targets options) s
      = Pax.pairDevices backend (fun round => scheduleOf (picks round)) targets agent options
          s := by
  rw [pairDevices, Pax.pairDevices]
  dsimp only
  rw [runOn_bind, run_applySpoof]
  -- A failed spoof fills the items on both sides, and otherwise the rounds agree.
  cases (Pax.applySpoof backend options.perDevice.spoofLocal).run s with
  | error e s' => rfl
  | ok u s' =>
    dsimp only [Outcome.split]
    have hnone : ({ options.perDevice with spoofLocal := none } : PairOptions).spoofLocal = none :=
      rfl
    rw [runOn_bind, run_roundsLoop hnone _ hpicks _ 0 le_rfl]
    rfl

end Run

/-! ### What the workflow keeps -/

section Compositional

variable {I : Interface} {P : (α : Type) → Program I α → Prop} (hP : Program.Compositional P)
  {ops : PairingOps I}
include hP

theorem compositional_applySpoof (hops : ∀ addr, P _ (ops.setLocalAddress addr))
    (spoof : Option BdAddr) : P _ (applySpoof ops spoof) := by
  cases spoof with
  | none => exact hP.done _
  | some addr =>
    rw [applySpoof]
    split
    · exact hP.done _
    · exact hops addr

theorem compositional_pairFrom {target : DeviceId} (hops : P _ (ops.pair target)) (made left : ℕ)
    (last : TransportError) : P _ (pairFrom ops target made left last) := by
  induction left generalizing made last with
  | zero => exact hP.done _
  | succ left ih =>
    refine hP.bind hops fun result => ?_
    cases result with
    | ok outcome => exact hP.done _
    | error e =>
      show P _ (if isFinal e then .done (.error e) else pairFrom ops target (made + 1) left e)
      split
      · exact hP.done _
      · exact ih _ e

/-- Without an address to set, a round makes no calls but those of `pair`. -/
theorem compositional_runRound (hops : ∀ target, P _ (ops.pair target)) {options : PairOptions}
    (hspoof : options.spoofLocal = none) (active : ℕ) (picks : List ℕ) (pending : List DeviceId) :
    P _ (runRound ops options active picks pending) := by
  apply hP.concurrently
  · intro p hp
    obtain ⟨id, -, rfl⟩ := List.mem_map.mp hp
    rw [roundCall, pairDevice, hspoof]
    exact hP.bind (compositional_pairFrom hP (hops id) 0 _ _) fun _ => hP.done _
  · intro p hp
    exact absurd hp List.not_mem_nil

theorem compositional_roundsLoop (hops : ∀ target, P _ (ops.pair target)) {options : PairOptions}
    (hspoof : options.spoofLocal = none) (concurrency : ℕ) (picks : ℕ → List ℕ) (left round : ℕ)
    (pending : List DeviceId) (results : ResultMap) :
    P _ (roundsLoop ops options concurrency picks left round pending results) := by
  -- On the rounds that are left: one round, and the rest.
  induction left generalizing round pending results with
  | zero => exact hP.done _
  | succ left ih =>
    rw [roundsLoop]
    split
    · exact hP.done _
    · refine hP.bind (compositional_runRound hP hops hspoof _ _ _) fun outcomes => ?_
      cases outcomes.foldlM Intake.take { results, next := [] } with
      | none => exact hP.done _
      | some acc => exact ih _ _ _

/-- What is left of a batch, once the address is set, makes no calls but those of `pair`. -/
theorem compositional_batch (hops : ∀ target, P _ (ops.pair target)) (picks : ℕ → List ℕ)
    (options : PairOptions) (concurrency left : ℕ) (order : List DeviceId) (results : ResultMap) :
    P _ (roundsLoop ops { options with spoofLocal := none } concurrency picks left 0 order
        results >>= fun results => return results.bind (drain order)) :=
  hP.bind (compositional_roundsLoop hP hops rfl concurrency picks left 0 order results)
    fun _ => hP.done _

end Compositional

/-! ### Indifference -/

section Indifferent

variable {I : Interface} {same : (c : I.Call) → I.Reply c → I.Reply c → Prop} {ops : PairingOps I}

/-- Both operations are indifferent to what the replies differ in. -/
structure Indifferent (same : (c : I.Call) → I.Reply c → I.Reply c → Prop) (ops : PairingOps I) :
    Prop where
  setLocalAddress : ∀ addr, (ops.setLocalAddress addr).Indifferent same
  pair : ∀ target, (ops.pair target).Indifferent same

theorem indifferent_pairDevice (hops : Indifferent same ops) (target : DeviceId)
    (options : PairOptions) : (pairDevice ops target options).Indifferent same := by
  have hP := Program.compositional_indifferent same
  refine (compositional_applySpoof hP hops.setLocalAddress options.spoofLocal).bind fun result => ?_
  cases result with
  | error e => trivial
  | ok u => exact compositional_pairFrom hP (hops.pair target) 0 _ _

/-- **A batch does not tell apart** what its calls of `pair` do not tell apart. -/
theorem indifferent_pairDevices (hops : Indifferent same ops) (picks : ℕ → List ℕ)
    (targets : List DeviceId) (options : BatchPairOptions) :
    (pairDevices ops picks targets options).Indifferent same := by
  have hP := Program.compositional_indifferent same
  refine (compositional_applySpoof hP hops.setLocalAddress _).bind fun result => ?_
  cases result with
  | error e => trivial
  | ok u => exact compositional_batch hP hops.pair picks _ _ _ _ _

end Indifferent

end Pairing
end Pax
