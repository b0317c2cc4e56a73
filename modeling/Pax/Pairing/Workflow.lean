import Pax.Framework.Retry
import Pax.Transport.Backend

/-!
# The pairing workflow

`pax-pairing/src/workflow.rs`: `pair_device`, a bounded retry around the backend's `pair`, and
`pair_devices`, which goes over many devices in rounds.

Within a round the devices are paired concurrently, by `futures`' `buffer_unordered`. Its model is
`roundLoop`: at most `active` calls of `pair_device` are in flight, a schedule picks which of them
makes its next `pair` call, and a call that is over hands out its result and makes room for the next
device. So every interleaving of the `pair` calls and every order of completion is a schedule. The
results are taken in in any order.

A panic of the batch (a key that is missing from the result map, a count that overflows) is `none`.

The ready-made agents of `pax-pairing/src/agents.rs` come first, each as the policy by which it
answers: none of them looks at what was asked before. `CallbackAgent` is its closure, and so any
policy.

* `pairDevice` and `pairFrom` are the retry loop, an instance of `Pax.Framework.Retry`.
* `RoundState` is a round in progress, with its steps `RoundState.start` and `RoundState.advanceAt`.
* `Intake.take`, `roundsLoop` and `drain` are what the batch does with the results of its rounds.
-/

namespace Pax

/-! ### Ready-made agents -/

/-- Accepts every prompt: `AcceptAllAgent`, with the PIN and the passkey that it answers with. -/
structure AcceptAllAgent where
  pin : String
  passkey : UInt32

namespace AcceptAllAgent

def new : AcceptAllAgent := { pin := "0000", passkey := 0 }

def withPin (agent : AcceptAllAgent) (pin : String) : AcceptAllAgent := { agent with pin }

def withPasskey (agent : AcceptAllAgent) (passkey : UInt32) : AcceptAllAgent :=
  { agent with passkey }

def respond (agent : AcceptAllAgent) : PairingRequest → PairingResponse
  | .confirmJustWorks => .confirm true
  | .confirmPasskey _ => .confirm true
  | .requestPinCode => .pin agent.pin
  | .requestPasskey => .passkey agent.passkey
  | .displayPasskey _ => .acknowledged

end AcceptAllAgent

/-- Rejects every prompt: confirmations are denied, and whatever asks for a value is cancelled. -/
def RejectAllAgent.respond : PairingRequest → PairingResponse
  | .confirmJustWorks => .confirm false
  | .confirmPasskey _ => .confirm false
  | _ => .cancel

/-- Supplies a fixed PIN and confirms simple prompts; any other prompt for a value is cancelled. -/
structure FixedPinAgent where
  pin : String

def FixedPinAgent.respond (agent : FixedPinAgent) : PairingRequest → PairingResponse
  | .requestPinCode => .pin agent.pin
  | .confirmJustWorks => .confirm true
  | .confirmPasskey _ => .confirm true
  | .displayPasskey _ => .acknowledged
  -- it has no passkey to supply
  | .requestPasskey => .cancel

/-! ### Pairing one device -/

/-- Tunables for pairing one device: how often to retry, and which address to pair under. -/
structure PairOptions where
  retries : UInt32
  spoofLocal : Option BdAddr
  deriving DecidableEq, Repr

/-- The outcome of a pairing run that succeeded, with the attempts that it took. -/
structure PairReport where
  outcome : PairingOutcome
  /-- How many attempts were made. -/
  attempts : ℕ
  deriving DecidableEq, Repr

/-- A failure is final if the agent or peer refused or the device is unknown. -/
def isFinal : TransportError → Bool
  | .pairingRejected _ => true
  | .deviceNotFound _ => true
  | _ => false

/-- What `pair_device` returns if its loop ends without an error on record. -/
def exhaustedRetries : TransportError :=
  .pairingFailed "exhausted retries with no error recorded"

section Workflow

variable {σ : Type} (backend : BluetoothBackend σ)

/-- Pair with a device, retrying transient failures, after the address is set. -/
def pairDevice (target : DeviceId) (agent : PairingAgent) (options : PairOptions) :
    EStateM TransportError σ PairReport := do
  -- a failure to set the address fails the call before any attempt
  applySpoof backend options.spoofLocal
  let (outcome, attempts) ← Retry.retryFrom (backend.pair target agent) isFinal 0
    (saturatingSucc options.retries) exhaustedRetries
  return { outcome, attempts }

/-! ### A round -/

/-- A call of `pair_device` in flight: the attempts it made and has left. -/
structure Flight where
  id : DeviceId
  made : ℕ
  left : ℕ
  deriving DecidableEq, Repr

/-- A result that a round hands out, with the device that it is for. -/
abbrev RoundResult := DeviceId × Except TransportError PairReport

/-- The next attempt of a call in flight: the call goes on, or is over with its result. -/
def Flight.advance (agent : PairingAgent) (flight : Flight) (s : σ) :
    (Flight ⊕ RoundResult) × σ :=
  match Retry.attemptOnce (backend.pair flight.id agent) isFinal s with
  | (.stop (.ok outcome), s') =>
    (.inr (flight.id, .ok { outcome, attempts := flight.made + 1 }), s')
  | (.stop (.error e), s') => (.inr (flight.id, .error e), s')
  | (.again e, s') =>
    -- the last attempt's error is the call's, even if it is worth a retry
    if flight.left ≤ 1 then (.inr (flight.id, .error e), s')
    else (.inl { flight with made := flight.made + 1, left := flight.left - 1 }, s')

/-- A round underway: the devices whose call has not started, the calls in flight, and the results
handed out, in order. -/
structure RoundState where
  waiting : List DeviceId
  running : List Flight
  done : List RoundResult

/-- Every call has handed out its result: none is waiting, and none is in flight. -/
def RoundState.Complete (st : RoundState) : Prop := st.waiting = [] ∧ st.running = []

instance (st : RoundState) : Decidable st.Complete := inferInstanceAs (Decidable (_ ∧ _))

/-- The `i`-th call in flight makes its next attempt, and leaves the flight if it is over. -/
def RoundState.advanceAt (agent : PairingAgent) (i : ℕ) (st : RoundState) (s : σ) :
    RoundState × σ :=
  match st.running[i]? with
  -- no step of a round picks a call that is not in flight
  | none => (st, s)
  | some flight =>
    match flight.advance backend agent s with
    | (.inl flight', s') => ({ st with running := st.running.set i flight' }, s')
    | (.inr result, s') =>
      ({ st with running := st.running.eraseIdx i, done := st.done ++ [result] }, s')

/-- One step of a round. While there is room for another call, the next device's call starts;
otherwise the call that is picked makes its next attempt. -/
def RoundState.step (agent : PairingAgent) (attempts active pick : ℕ) (st : RoundState) (s : σ) :
    RoundState × σ :=
  match st.waiting, decide (st.running.length < active) with
  -- `buffer_unordered` polls its stream for more futures before it polls those it has
  | id :: waiting, true =>
    ({ st with waiting, running := st.running ++ [{ id, made := 0, left := attempts }] }, s)
  | _, _ => st.advanceAt backend agent (pick % st.running.length) s

/-- How a round runs: which call in flight is picked at each step, and in which order the results
are yielded (nothing is assumed of that order, the order of completion being one). -/
structure Schedule where
  pick : ℕ → ℕ
  yield : List RoundResult → List RoundResult
  yield_perm : ∀ results, (yield results).Perm results

/-- The steps of a round, until it is complete or the fuel is used up; `Pax.Pairing.Rounds` has
enough fuel for it. -/
def roundLoop (agent : PairingAgent) (attempts active : ℕ) (schedule : Schedule) :
    (fuel step : ℕ) → RoundState → σ → RoundState × σ
  | 0, _, st, s => (st, s)
  | fuel + 1, step, st, s =>
    if st.Complete then (st, s)
    else
      let (st', s') := st.step backend agent attempts active (schedule.pick step) s
      roundLoop agent attempts active schedule fuel (step + 1) st' s'

/-- The steps a round of `pending` devices takes at most: each call starts once and makes at most
`attempts` attempts. -/
def roundFuel (pending : List DeviceId) (attempts : ℕ) : ℕ := pending.length * (attempts + 1)

/-- One round over the pending devices: the results, in the order they are yielded. -/
def runRound (agent : PairingAgent) (attempts active : ℕ) (schedule : Schedule)
    (pending : List DeviceId) (s : σ) : List RoundResult × σ :=
  let (st, s') := roundLoop backend agent attempts active schedule (roundFuel pending attempts) 0
    { waiting := pending, running := [], done := [] } s
  (schedule.yield st.done, s')

/-! ### The batch -/

/-- Tunables for a batch: those of each device, how many devices at a time, and how many rounds. -/
structure BatchPairOptions where
  concurrency : Option ℕ
  rounds : UInt32
  perDevice : PairOptions
  deriving DecidableEq, Repr

/-- The outcome of pairing one device within a batch, with the rounds in which it was attempted. -/
structure PairItem where
  id : DeviceId
  outcome : Except TransportError PairReport
  attempts : ℕ

/-- The result map of a batch, by device. -/
abbrev ResultMap := DeviceId → Option PairItem

/-- The item of a device before it is attempted: what is in the map from the start. -/
def notAttempted (id : DeviceId) : PairItem :=
  { id, outcome := .error (.pairingFailed "not attempted"), attempts := 0 }

/-- De-duplicate the targets, preserving first-seen order, and enter each in the result map. -/
def dedupe (targets : List DeviceId) : List DeviceId × ResultMap :=
  targets.foldl
    (fun (order, results) id =>
      if (results id).isSome then (order, results)
      else (order ++ [id], Function.update results id (some (notAttempted id))))
    ([], fun _ => none)

/-- The result map while a round's results are taken in, and the devices of the next round. -/
structure Intake where
  results : ResultMap
  next : List DeviceId

/-- Whether a result is worth another round: a failure that `pair_device` would retry. -/
def retryable : Except TransportError PairReport → Bool
  | .ok _ => false
  | .error e => !isFinal e

/-- The item after one more round with its outcome. -/
def PairItem.record (item : PairItem) (outcome : Except TransportError PairReport) : PairItem :=
  { item with outcome, attempts := item.attempts + 1 }

/-- Take in one result: its item is recorded, and its device is pending again if it is worth it.
`none` is a panic. -/
def Intake.take (acc : Intake) (result : RoundResult) : Option Intake := do
  let item ← acc.results result.1
  -- the count is a `u32`, and its overflow panics
  if 2 ^ 32 ≤ item.attempts + 1 then
    none
  else
    return {
      results := Function.update acc.results result.1 (some (item.record result.2))
      next := if retryable result.2 then acc.next ++ [result.1] else acc.next }

/-- The rounds over the still-pending devices. -/
def roundsLoop (agent : PairingAgent) (attempts concurrency : ℕ) (schedules : ℕ → Schedule) :
    (left round : ℕ) → (pending : List DeviceId) → ResultMap → σ → Option ResultMap × σ
  | 0, _, _, results, s => (some results, s)
  | left + 1, round, pending, results, s =>
    if pending = [] then (some results, s)
    else
      -- a buffer of zero would never yield anything
      let active := max (min concurrency pending.length) 1
      let (done, s') := runRound backend agent attempts active (schedules round) pending s
      match done.foldlM Intake.take { results, next := [] } with
      | none => (none, s')
      | some acc =>
        roundsLoop agent attempts concurrency schedules left (round + 1) acc.next acc.results s'

/-- Take the items out of the map, in order; `none` is a panic. -/
def drain : List DeviceId → ResultMap → Option (List PairItem)
  | [], _ => some []
  | id :: order, results => do
    let item ← results id
    let items ← drain order (Function.update results id none)
    return item :: items

/-- Pair with many devices, in rounds: a schedule for each round, and `none` for a panic. -/
def pairDevices (schedules : ℕ → Schedule) (targets : List DeviceId) (agent : PairingAgent)
    (options : BatchPairOptions) (s : σ) : Option (List PairItem) × σ :=
  let concurrency := max (options.concurrency.getD backend.capabilities.maxConcurrentPairings) 1
  let (order, results) := dedupe targets
  match (applySpoof backend options.perDevice.spoofLocal).run s with
  | .error e s' =>
    -- the one error is copied into every item, as text
    (some (order.map fun id => { id, outcome := .error (.localAddress e.display), attempts := 0 }),
      s')
  | .ok () s' =>
    let (results, s'') := roundsLoop backend agent (saturatingSucc options.perDevice.retries)
      concurrency schedules (max options.rounds.toNat 1) 0 order results s'
    (results.bind (drain order), s'')

end Workflow

end Pax
