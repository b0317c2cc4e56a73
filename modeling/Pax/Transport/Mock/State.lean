import Mathlib.Data.List.AList
import Pax.Core.UuidText
import Pax.Framework.Pool
import Pax.Transport.Backend

/-!
# The state of the mock backend

`pax-transport/src/mock.rs`: the scripted devices, the state behind the mutex, and what is done to
it in one hold of the lock. An operation of the mock is a program (`Pax.Transport.Mock.Operations`)
whose calls are these holds of the lock (`MockCall`), the calls of the observer, and the question to
the pairing agent, during which the lock is not held. `MockBackend.serve` answers the calls. The
agent may answer anything: its answer is the environment's choice.

Integers wrap as they do without overflow checks: the sequence numbers and the tokens at `2 ^ 64`,
the virtual clock at `2 ^ 128`.
-/

namespace Pax

/-- A GATT table, keyed by service and characteristic. -/
abbrev GattTable (α : Type) := AList fun _ : Uuid × Uuid => α

/-- A scripted device: what it is, how it pairs, how it takes files, and what its characteristics
hold. -/
structure MockDevice where
  info : DeviceInfo
  spec : SpecContext
  standards : StandardsProfile
  pairingMethod : PairingMethodHint
  /-- If set, pairing reaches the agent and then fails with this reason. -/
  pairingFailure : Option String
  chunkSize : UInt64
  perChunkLatency : Duration
  /-- If set, a transfer aborts before it exceeds this many bytes. -/
  transferFailureAfter : Option UInt64
  gatt : GattTable (List UInt8)
  gattNotifications : GattTable (List (List UInt8))
  deriving DecidableEq

/-- The origin of the device's events. -/
def MockDevice.origin (device : MockDevice) (controller : ControllerModel) : EventOrigin :=
  { local' := controller, peer := device.info.id, spec := device.spec,
    standards := device.standards }

/-- The passkey of the flows that have one. It is the same for all devices. -/
def mockPasskey : UInt32 := 123456

/-- The prompt an association model raises. -/
def requestFor : PairingMethodHint → PairingRequest
  | .justWorks => .confirmJustWorks
  | .numericComparison => .confirmPasskey mockPasskey
  | .pinCode => .requestPinCode
  | .passkeyEntry => .requestPasskey
  | .passkeyDisplay => .displayPasskey mockPasskey
  | .outOfBand => .confirmJustWorks

/-- What is behind the mutex, and the events the observer was handed so far. -/
structure MockState where
  devices : List MockDevice
  seq : UInt64
  clockNs : ℕ
  connections : AList fun _ : UInt64 => DeviceId
  nextToken : UInt64
  paired : Finset DeviceId
  observed : List TransitEvent

/-- The state of a new backend, before any operation. -/
def MockState.init (devices : List MockDevice) : MockState :=
  { devices, seq := 0, clockNs := 0, connections := ∅, nextToken := 1, paired := ∅, observed := [] }

namespace MockState

/-- The virtual clock goes forward, and comes round at `2 ^ 128` nanoseconds. -/
def advance (dt : Duration) (s : MockState) : MockState :=
  { s with clockNs := (s.clockNs + dt.nanos) % 2 ^ 128 }

/-- The first device of that id, which is the one that an operation looks up. -/
def find (s : MockState) (id : DeviceId) : Option MockDevice :=
  s.devices.find? fun device => device.info.id = id

end MockState

/-- An operation of the backend, with its arguments. -/
inductive MockOp where
  | discover (filter : DiscoveryFilter)
  | pair (target : DeviceId)
  | connect (target : DeviceId)
  | disconnect (conn : Connection)
  | pushFile (conn : Connection) (file : OutboundFile)
  | acceptPairings (opts : InboundPairing)
  | gattRead (conn : Connection) (service characteristic : Uuid)
  | gattWrite (conn : Connection) (service characteristic : Uuid) (data : List UInt8)
    (withResponse : Bool)
  | gattSubscribe (conn : Connection) (service characteristic : Uuid)

/-- What an operation returns if it succeeds. -/
def MockOp.Value : MockOp → Type
  | .discover _ => List DeviceInfo
  | .pair _ => PairingOutcome
  | .connect _ => Connection
  | .disconnect _ => Unit
  | .pushFile _ _ => TransferReceipt
  | .acceptPairings _ => List DeviceId
  | .gattRead .. => List UInt8
  | .gattWrite .. => Unit
  | .gattSubscribe .. => List (Uuid × List UInt8)

abbrev MockOp.Result (op : MockOp) : Type := Except TransportError op.Value

/-- An atomic step of an operation: what is done in one hold of the lock, a call of the observer,
or a question to the agent. -/
inductive MockCall where
  /-- `emit`, as far as it holds the lock. -/
  | stamp (origin : EventOrigin) (kind : TransitEventKind) (dt : Duration)
  /-- The observer is handed an event. -/
  | onEvent (event : TransitEvent)
  | now
  | lookup (id : DeviceId)
  /-- `discover` copies the device list. -/
  | snapshot
  /-- `connect` takes a token and enters it. -/
  | openLink (target : DeviceId)
  /-- `disconnect` takes a token out. -/
  | closeLink (token : UInt64)
  /-- `push_file` checks that the connection is live and looks the device up. -/
  | checkLink (conn : Connection)
  | insertPaired (id : DeviceId)
  /-- The agent answers a prompt, raised in pairing with the device. -/
  | respond (device : MockDevice) (request : PairingRequest)
  /-- `accept_pairings` advances the clock by its window. -/
  | advance (window : Duration)
  | gattGet (peer : DeviceId) (service characteristic : Uuid)
  | gattInsert (peer : DeviceId) (service characteristic : Uuid) (data : List UInt8)
  | gattQueue (peer : DeviceId) (service characteristic : Uuid)
  /-- An operation returns to its caller. Nothing happens in the backend. -/
  | returned (op : MockOp) (result : op.Result)

/-- The reply to a step, which is read off the state and changes with the kind of step. -/
def MockCall.Reply : MockCall → Type
  | .stamp .. => TransitEvent
  | .onEvent _ => Unit
  | .now => Timestamp
  | .lookup _ => Option MockDevice
  | .snapshot => List MockDevice
  | .openLink _ => UInt64
  | .closeLink _ => Bool
  | .checkLink _ => Except TransportError MockDevice
  | .insertPaired _ => Unit
  | .respond .. => PairingResponse
  | .advance _ => Unit
  | .gattGet .. => Except TransportError (List UInt8)
  | .gattInsert .. => Except TransportError Unit
  | .gattQueue .. => Except TransportError (List (List UInt8))
  | .returned .. => Unit

/-- The steps of the operations, as calls whose replies the shared state gives. -/
abbrev mockSteps : Interface := { Call := MockCall, Reply := MockCall.Reply }

/-- The error of a read of an unknown characteristic. -/
def noCharacteristic (characteristic : Uuid) (peer : DeviceId) : TransportError :=
  .backend ("no characteristic " ++ characteristic.display ++ " on " ++ peer.display)

/-- How a step is answered, and what it does to the state. `answer` is what the agent says, if it is
asked. -/
def serve : Handler mockSteps PairingResponse MockState
  | .stamp origin kind dt, _, s =>
    ({ seq := s.seq, at' := ⟨s.clockNs⟩, origin, kind }, { s with seq := s.seq + 1 }.advance dt)
  | .onEvent event, _, s => ((), { s with observed := s.observed ++ [event] })
  | .now, _, s => (⟨s.clockNs⟩, s)
  | .lookup id, _, s => (s.find id, s)
  | .snapshot, _, s => (s.devices, s)
  | .openLink target, _, s =>
    let token := s.nextToken
    (token, { s with
      nextToken := token + 1
      connections := s.connections.insert token target })
  | .closeLink token, _, s =>
    -- `remove(..).is_some()`
    ((s.connections.lookup token).isSome, { s with connections := s.connections.erase token })
  | .checkLink conn, _, s =>
    match s.connections.lookup conn.token with
    | none => (.error (.notConnected conn.peer), s)
    | some _ =>
      match s.find conn.peer with
      | none => (.error (.deviceNotFound conn.peer), s)
      | some device => (.ok device, s)
  | .insertPaired id, _, s => ((), { s with paired := insert id s.paired })
  | .respond _ _, answer, s => (answer, s)
  | .advance window, _, s => ((), s.advance window)
  | .gattGet peer service characteristic, _, s =>
    match s.find peer with
    | none => (.error (.deviceNotFound peer), s)
    | some device =>
      match device.gatt.lookup (service, characteristic) with
      | none => (.error (noCharacteristic characteristic peer), s)
      | some value => (.ok value, s)
  | .gattInsert peer service characteristic data, _, s =>
    match s.find peer with
    | none => (.error (.deviceNotFound peer), s)
    | some _ =>
      -- the value is written in the first device of that id
      let write (device : MockDevice) : MockDevice :=
        { device with gatt := device.gatt.insert (service, characteristic) data }
      let index := s.devices.findIdx fun device => device.info.id = peer
      (.ok (), { s with devices := s.devices.modify index write })
  | .gattQueue peer service characteristic, _, s =>
    match s.find peer with
    | none => (.error (.deviceNotFound peer), s)
    | some device => (.ok ((device.gattNotifications.lookup (service, characteristic)).getD []), s)
  | .returned _ _, _, s => ((), s)

/-- The parts of a backend that do not change. `toLowercase` is `str::to_lowercase`, by which the
name filter of a discovery compares. -/
structure MockBackend where
  controller : ControllerModel
  spec : SpecContext
  /-- The devices that will pair during `accept_pairings`. -/
  incoming : List MockDevice
  toLowercase : String → String

end Pax
