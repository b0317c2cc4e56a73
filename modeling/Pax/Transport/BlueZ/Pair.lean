import Pax.Transport.Backend
import Pax.Transport.BlueZ.Address

/-!
# Pairing on BlueZ

`BlueZBackend::pair` and `build_bluer_agent` of `pax-transport/src/bluez.rs`. A call registers a
D-Bus agent whose callbacks ask the `PairingAgent`, and then has `bluetoothd` pair with the device.

What `bluetoothd` does in one such call is a tree (`DevicePair`): it raises prompts, each depending
on the answers before, and comes back with a result. It is assumed to come back with an error once a
callback has (`DevicePair.FailsOnError`), and nothing else is assumed. The tree is run against an
agent, which may answer by all that it was ever asked (`DevicePair.run`).

The state keeps, beside the adapter and the events, what the agent was asked and what it answered,
and a log of the calls. `pair_spec` is what the workflows use of a call: it is logged once, and it
fails if the agent has refused.
-/

namespace Pax
namespace BlueZ

open Hci

/-! ### The bridged agent -/

/-- `bluer`'s `ReqError`: how a callback declines. -/
inductive ReqError where
  | rejected
  | canceled
  deriving DecidableEq, Repr

/-- What a callback hands to `bluetoothd` if it does not refuse. -/
inductive AgentReply where
  | unit
  | pin (pin : String)
  | passkey (passkey : UInt32)
  deriving DecidableEq, Repr

/-- A callback of the bridged agent: the method it records, what it asks the `PairingAgent`, and
which answers it takes. -/
structure Callback where
  method : PairingMethodHint
  request : PairingRequest
  accept : PairingResponse → Option AgentReply

/-- The callback's reply to an answer: `Cancel` is passed on, every other answer it does not take
is a rejection. -/
def Callback.reply (callback : Callback) (response : PairingResponse) :
    Except ReqError AgentReply :=
  match callback.accept response with
  | some reply => .ok reply
  | none =>
    match response with
    | .cancel => .error .canceled
    | _ => .error .rejected

/-- `Confirm(true)` is taken, with nothing to hand on. -/
def acceptConfirm : PairingResponse → Option AgentReply
  | .confirm true => some .unit
  | _ => none

/-- `request_confirmation`: a number is to be compared. -/
def requestConfirmation (passkey : UInt32) : Callback :=
  { method := .numericComparison, request := .confirmPasskey passkey, accept := acceptConfirm }

/-- `request_pin_code`: a PIN is handed on as the agent has given it. -/
def requestPinCode : Callback where
  method := .pinCode
  request := .requestPinCode
  accept
    | .pin pin => some (.pin pin)
    | _ => none

/-- `request_passkey`: a passkey is handed on as the agent has given it. -/
def requestPasskey : Callback where
  method := .passkeyEntry
  request := .requestPasskey
  accept
    | .passkey passkey => some (.passkey passkey)
    | _ => none

/-- `request_authorization`: the agent is asked as for Just Works. -/
def requestAuthorization : Callback :=
  { method := .justWorks, request := .confirmJustWorks, accept := acceptConfirm }

/-- A prompt of `bluetoothd`, which one of the callbacks of the agent answers. -/
inductive Prompt where
  | confirmation (passkey : UInt32)
  | pinCode
  | passkey
  | authorization
  deriving DecidableEq, Repr

/-- The callback that is registered for a prompt. -/
def Prompt.callback : Prompt → Callback
  | .confirmation n => requestConfirmation n
  | .pinCode => requestPinCode
  | .passkey => requestPasskey
  | .authorization => requestAuthorization

/-- No callback takes a refusal for an answer. -/
theorem Prompt.reply_of_isRefusal (prompt : Prompt) {response : PairingResponse}
    (h : response.IsRefusal) : ∃ e, prompt.callback.reply response = .error e := by
  rcases h with rfl | rfl <;> cases prompt <;> exact ⟨_, rfl⟩

/-! ### `Device::pair` -/

/-- What `bluetoothd` does in one `Device::pair`. -/
inductive DevicePair where
  | finish (result : Except String Unit)
  | ask (prompt : Prompt) (next : Except ReqError AgentReply → DevicePair)

/-- It comes back with an error, whatever it is answered. -/
def DevicePair.Fails : DevicePair → Prop
  | .finish result => ∃ reason, result = .error reason
  | .ask _ next => ∀ reply, (next reply).Fails

/-- It comes back with an error once a callback has failed. -/
def DevicePair.FailsOnError : DevicePair → Prop
  | .finish _ => True
  | .ask _ next => (∀ reply, (next (.ok reply)).FailsOnError) ∧ ∀ e, (next (.error e)).Fails

/-- What came of a `Device::pair`: the prompts with the agent's answers, the method the last
callback recorded, and the result. -/
structure Dialogue where
  answers : PromptHistory
  methodSeen : Option PairingMethodHint
  result : Except String Unit

/-- The dialogue with an agent that has the history `history`. -/
def DevicePair.run (agent : PairingAgent) :
    DevicePair → (history : PromptHistory) → (methodSeen : Option PairingMethodHint) → Dialogue
  | .finish result, _, methodSeen => { answers := [], methodSeen, result }
  | .ask prompt next, history, _ =>
    let callback := prompt.callback
    -- the agent may answer by what it was asked before, in this call or in an earlier one
    let response := agent.respond history callback.request
    let dialogue := (next (callback.reply response)).run agent
      (history ++ [(callback.request, response)]) (some callback.method)
    { dialogue with answers := (callback.request, response) :: dialogue.answers }

theorem DevicePair.Fails.run {tree : DevicePair} (h : tree.Fails) (agent : PairingAgent)
    (history : PromptHistory) (methodSeen : Option PairingMethodHint) :
    ∃ reason, (tree.run agent history methodSeen).result = .error reason := by
  induction tree generalizing history methodSeen with
  -- no prompt is left, and the tree has its result
  | finish result => exact h
  | ask prompt next ih => exact ih _ (h _) _ _

/-- A prompt that was refused makes the pairing fail, since the callback of the prompt has
failed. -/
theorem DevicePair.run_refused {tree : DevicePair} (h : tree.FailsOnError) (agent : PairingAgent)
    (history : PromptHistory) (methodSeen : Option PairingMethodHint)
    (hrefused : ∃ answer ∈ (tree.run agent history methodSeen).answers, answer.2.IsRefusal) :
    ∃ reason, (tree.run agent history methodSeen).result = .error reason := by
  induction tree generalizing history methodSeen with
  | finish result =>
    obtain ⟨answer, hmem, -⟩ := hrefused
    exact absurd hmem List.not_mem_nil
  | ask prompt next ih =>
    obtain ⟨answer, hmem, hrefusal⟩ := hrefused
    set response := agent.respond history prompt.callback.request with hresponse
    cases hreply : prompt.callback.reply response with
    | error e =>
      -- This answer was no acceptance: the rest of the dialogue fails by assumption.
      have hfails : (next (prompt.callback.reply response)).Fails := by
        rw [hreply]
        exact h.2 e
      exact hfails.run agent _ _
    | ok reply =>
      -- This answer was taken, so the refusal comes later.
      have hhonest : (next (prompt.callback.reply response)).FailsOnError := by
        rw [hreply]
        exact h.1 reply
      refine ih _ hhonest _ _ ⟨answer, ?_, hrefusal⟩
      rcases List.mem_cons.mp hmem with rfl | hlater
      · obtain ⟨e, he⟩ := prompt.reply_of_isRefusal hrefusal
        rw [hreply] at he
        cases he
      · exact hlater

/-! ### The backend -/

/-- The environment's side of one `pair` call: what registering the agent and looking up the device
come to, and what `Device::pair` does. -/
structure PairAttempt where
  registerAgent : Except String Unit
  device : Except String Unit
  devicePair : DevicePair

/-- What a backend was built with, and what the world around it does. The `n`-th `pair` call of all
meets `attempt n`. -/
structure Environment where
  controller : ControllerModel
  spec : SpecContext
  resolve : DeviceId → StandardsProfile
  clock : ℕ → Timestamp
  kernel : Kernel
  adapter : Adapter
  attempt : ℕ → BdAddr → PairAttempt

/-- A `pair` call, as the environment saw it. -/
structure PairCall where
  target : DeviceId
  answers : PromptHistory

/-- In this call, the agent has refused some prompt. -/
def PairCall.Refused (call : PairCall) : Prop := ∃ answer ∈ call.answers, answer.2.IsRefusal

instance (call : PairCall) : Decidable call.Refused := inferInstanceAs (Decidable (∃ _ ∈ _, _))

/-- The state of a backend and its surroundings: the controllers, the events that were emitted,
what the agents were asked in all calls, and the calls. -/
structure State where
  mgmt : MgmtState
  seq : UInt64
  events : List TransitEvent
  history : PromptHistory
  calls : List PairCall

/-- Send an event to the observer. -/
def State.emit (env : Environment) (peer : DeviceId) (kind : TransitEventKind) (s : State) :
    State :=
  { s with
    seq := s.seq + 1
    events := s.events ++ [{
      seq := s.seq
      at' := env.clock s.events.length
      origin := { local' := env.controller, peer, spec := env.spec, standards := env.resolve peer }
      kind }] }

/-- Log a call and what the agent was asked in it. -/
def State.log (target : DeviceId) (answers : PromptHistory) (s : State) : State :=
  { s with history := s.history ++ answers, calls := s.calls ++ [{ target, answers }] }

@[simp] theorem State.emit_calls (env : Environment) (peer : DeviceId) (kind : TransitEventKind)
    (s : State) : (s.emit env peer kind).calls = s.calls := rfl

@[simp] theorem State.log_calls (target : DeviceId) (answers : PromptHistory) (s : State) :
    (s.log target answers).calls = s.calls ++ [⟨target, answers⟩] := rfl

/-- Pair with a device. -/
def pair (env : Environment) (target : DeviceId) (agent : PairingAgent) :
    EStateM TransportError State PairingOutcome := fun s =>
  let attempt := env.attempt s.calls.length target.addr
  match attempt.registerAgent with
  | .error e => .error (.backend e) (s.log target [])
  | .ok () =>
    match attempt.device with
    | .error e => .error (.backend e) (s.log target [])
    | .ok () =>
      let dialogue := attempt.devicePair.run agent s.history none
      -- no prompt was raised, or the last one says which method it was
      let method := dialogue.methodSeen.getD .justWorks
      let s := (s.log target dialogue.answers).emit env target (.pairingStarted method)
      match dialogue.result with
      | .ok () => .ok (.ofBond method) (s.emit env target .pairingCompleted)
      -- every error of `Device::pair` becomes `PairingFailed`, a refusal too
      | .error reason =>
        .error (.pairingFailed reason) (s.emit env target (.pairingFailed reason))

/-- The BlueZ backend. Connections and transfers, which pairing does not use, are taken from
`transfers`. -/
def backend (env : Environment) (transfers : BluetoothBackend State) : BluetoothBackend State :=
  { transfers with
    capabilities := { kind := .bluez, maxConcurrentPairings := 1, canSpoofAddress := true }
    setLocalAddress := fun addr s =>
      match (setLocalAddress env.kernel env.adapter addr).run s.mgmt with
      | .ok () mgmt => .ok () { s with mgmt }
      | .error e mgmt => .error e { s with mgmt }
    pair := pair env }

/-- In every `pair` call, `bluetoothd` fails once a callback has. -/
def Environment.FailsOnError (env : Environment) : Prop :=
  ∀ n addr, (env.attempt n addr).devicePair.FailsOnError

/-- **One `pair` call.** It is logged once; it fails with a backend error or with `PairingFailed`
and with nothing else; and it does fail if the agent refused. -/
theorem pair_spec (env : Environment) (target : DeviceId) (agent : PairingAgent) (s : State) :
    ∃ call s', s'.calls = s.calls ++ [call] ∧ call.target = target ∧
      ((∃ outcome, (pair env target agent).run s = .ok outcome s' ∧
          (env.FailsOnError → ¬ call.Refused)) ∨
        ∃ e, (pair env target agent).run s = .error e s' ∧
          ∃ detail, e = .backend detail ∨ e = .pairingFailed detail) := by
  set attempt := env.attempt s.calls.length target.addr with hattempt
  -- Registering the agent and finding the device come first, and are errors of the backend.
  cases hregister : attempt.registerAgent with
  | error e =>
    refine ⟨⟨target, []⟩, s.log target [], rfl, rfl, .inr ⟨.backend e, ?_, e, .inl rfl⟩⟩
    unfold pair EStateM.run
    simp only [← hattempt, hregister]
  | ok u =>
    cases hdevice : attempt.device with
    | error e =>
      refine ⟨⟨target, []⟩, s.log target [], rfl, rfl, .inr ⟨.backend e, ?_, e, .inl rfl⟩⟩
      unfold pair EStateM.run
      simp only [← hattempt, hregister, hdevice]
    | ok u =>
      set dialogue := attempt.devicePair.run agent s.history none with hdialogue
      set started := (s.log target dialogue.answers).emit env target
        (.pairingStarted (dialogue.methodSeen.getD .justWorks)) with hstarted
      cases hresult : dialogue.result with
      | ok u =>
        refine ⟨⟨target, dialogue.answers⟩, started.emit env target .pairingCompleted, rfl, rfl,
          .inl ⟨.ofBond (dialogue.methodSeen.getD .justWorks), ?_, ?_⟩⟩
        · unfold pair EStateM.run
          simp only [← hattempt, hregister, hdevice, ← hdialogue, hresult, hstarted]
        -- an agent that refused has made the dialogue fail, so it cannot have succeeded
        · intro hfaithful hrefused
          obtain ⟨reason, hreason⟩ :=
            DevicePair.run_refused (hfaithful _ _) agent s.history none hrefused
          rw [← hattempt, ← hdialogue, hresult] at hreason
          cases hreason
      | error reason =>
        refine ⟨⟨target, dialogue.answers⟩, started.emit env target (.pairingFailed reason), rfl,
          rfl, .inr ⟨.pairingFailed reason, ?_, reason, .inr rfl⟩⟩
        unfold pair EStateM.run
        simp only [← hattempt, hregister, hdevice, ← hdialogue, hresult, hstarted]

end BlueZ
end Pax
