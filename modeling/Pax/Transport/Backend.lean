import Pax.Core.Event

/-!
# The backend abstraction

What the workflows know of Bluetooth: `pax-transport/src/backend.rs`, with `error.rs`, `pairing.rs`
and `transfer.rs` next to it.

* `TransportError` is what an operation may fail with, and the text it prints as. The retry loops of
  the workflows look at the constructor, and the BlueZ and Android backends choose it, so the
  constructor is what most of this development is about.
* `PairingRequest` and `PairingResponse` are what a backend asks during pairing and what may be
  answered. A `PairingAgent` answers. It may keep state of its own, so it is any function of the
  prompts it was shown, the answers it gave to them, and the prompt at hand.
* `OutboundFile` is the object of a single push, and `TransferReceipt` the receipt of a completed
  one.
* `BluetoothBackend` is the trait every implementation satisfies, as far as the pairing and upload
  workflows call it. A backend has a state of its own, which stands for everything outside the
  workflow as well: the adapter, the peers, and how they will behave. A call is a computation on it
  that may fail with a `TransportError`.
-/

namespace Pax

/-! ### Errors -/

/-- Anything that can go wrong while talking to a controller. The texts are those of the
platform, and are passed on. -/
inductive TransportError where
  | core (e : CoreError)
  | unavailable (detail : String)
  | deviceNotFound (id : DeviceId)
  | notConnected (id : DeviceId)
  /-- The pairing agent (or the peer) declined to pair. -/
  | pairingRejected (reason : String)
  /-- Pairing started but failed (timeout, mismatch, auth error). -/
  | pairingFailed (reason : String)
  /-- A transfer aborted partway through. -/
  | transferFailed (transferred : UInt64) (reason : String)
  | unsupported (backend operation : String)
  | localAddress (detail : String)
  | backend (detail : String)
  | timeout (detail : String)
  deriving DecidableEq, Repr

def TransportError.display : TransportError → String
  | .core e => e.display
  | .unavailable d => "backend unavailable: " ++ d
  | .deviceNotFound id => "device not found: " ++ id.display
  | .notConnected id => "not connected: " ++ id.display
  | .pairingRejected r => "pairing rejected: " ++ r
  | .pairingFailed r => "pairing failed: " ++ r
  | .transferFailed transferred reason =>
    "transfer failed after " ++ toString transferred.toNat ++ " bytes: " ++ reason
  | .unsupported name operation =>
    "operation `" ++ operation ++ "` not supported by the " ++ name ++ " backend"
  | .localAddress d => "could not set local address: " ++ d
  | .backend d => "backend error: " ++ d
  | .timeout d => "timed out: " ++ d

/-! ### Pairing prompts and outcomes -/

/-- A question the backend asks the agent during pairing. -/
inductive PairingRequest where
  | confirmJustWorks
  | confirmPasskey (passkey : UInt32)
  | requestPinCode
  | requestPasskey
  | displayPasskey (passkey : UInt32)
  deriving DecidableEq, Repr

/-- The association model a request corresponds to. -/
def PairingRequest.method : PairingRequest → PairingMethodHint
  | .confirmJustWorks => .justWorks
  | .confirmPasskey _ => .numericComparison
  | .requestPinCode => .pinCode
  | .requestPasskey => .passkeyEntry
  | .displayPasskey _ => .passkeyDisplay

/-- The agent's answer to a prompt. Which of them is a refusal is said by `IsRefusal`. -/
inductive PairingResponse where
  | confirm (yes : Bool)
  | pin (pin : String)
  | passkey (passkey : UInt32)
  | acknowledged
  /-- Abort the whole pairing. -/
  | cancel
  deriving DecidableEq, Repr

/-- An answer that refuses to pair. A missing PIN or passkey is not among them: a backend treats
that as an answer of the wrong kind. -/
def PairingResponse.IsRefusal (r : PairingResponse) : Prop := r = .confirm false ∨ r = .cancel

instance (r : PairingResponse) : Decidable r.IsRefusal := inferInstanceAs (Decidable (_ ∨ _))

/-- The prompts answered so far, with their answers, the oldest first. -/
abbrev PromptHistory := List (PairingRequest × PairingResponse)

/-- What answers the prompts. An agent with a state of its own is a function of what it was shown
and what it has answered. -/
structure PairingAgent where
  respond : PromptHistory → PairingRequest → PairingResponse

/-- The result of a pairing attempt. -/
structure PairingOutcome where
  paired : Bool
  bonded : Bool
  method : PairingMethodHint
  deriving DecidableEq, Repr

/-- The outcome of a successful bond, with the association model that was used. -/
def PairingOutcome.ofBond (method : PairingMethodHint) : PairingOutcome :=
  { paired := true, bonded := true, method }

/-! ### Files and receipts -/

/-- A file to push to a peer. -/
structure OutboundFile where
  name : String
  mimeType : Option String
  bytes : List UInt8
  deriving DecidableEq, Repr

/-- The size of the object in bytes. -/
def OutboundFile.len (file : OutboundFile) : UInt64 := UInt64.ofNat file.bytes.length

/-- Proof that a transfer completed: how many bytes there were, in how many chunks and for how
long. -/
structure TransferReceipt where
  objectName : String
  bytes : UInt64
  chunks : UInt64
  duration : Duration
  deriving DecidableEq, Repr

/-! ### Backends -/

/-- Which concrete backend produced a value. -/
inductive BackendKind where
  | mock
  | bluez
  | btleplug
  | android
  | ios
  deriving DecidableEq, Repr

def BackendKind.name : BackendKind → String
  | .mock => "mock"
  | .bluez => "bluez"
  | .btleplug => "btleplug"
  | .android => "android"
  | .ios => "ios"

/-- What a backend can do, as far as the workflows ask. -/
structure Capabilities where
  kind : BackendKind
  maxConcurrentPairings : ℕ
  canSpoofAddress : Bool
  deriving DecidableEq, Repr

/-- A connection to a peer. The token tells the connections of one backend apart, where it keeps
a table of them. -/
structure Connection where
  peer : DeviceId
  local' : ControllerModel
  spec : SpecContext
  standards : StandardsProfile
  token : UInt64
  deriving DecidableEq, Repr

/-- The origin of the events on a connection. -/
def Connection.origin (conn : Connection) : EventOrigin :=
  { local' := conn.local', peer := conn.peer, spec := conn.spec, standards := conn.standards }

/-- Criteria of a discovery. An empty filter matches every device. -/
structure DiscoveryFilter where
  transport : Option Transport
  nameContains : Option String
  minRssi : Option Int16
  limit : Option ℕ
  deriving DecidableEq, Repr

/-- Whether a device satisfies the filter, but for the transport, which the backend checks.
`toLowercase` is `str::to_lowercase`. -/
def DiscoveryFilter.accepts (toLowercase : String → String) (filter : DiscoveryFilter)
    (info : DeviceInfo) : Bool :=
  (match filter.minRssi with
    | none => true
    | some least =>
      match info.rssi with
      | some rssi => least ≤ rssi
      | none => false) &&
  match filter.nameContains with
    | none => true
    | some sub =>
      match info.name with
      | some name => decide ((toLowercase sub).toList <:+: (toLowercase name).toList)
      | none => false

/-- Settings of an inbound pairing window. -/
structure InboundPairing where
  window : Duration
  maxDevices : Option ℕ
  deriving DecidableEq, Repr

/-- A backend over states `σ`, as far as the workflows call it. -/
structure BluetoothBackend (σ : Type) where
  capabilities : Capabilities
  setLocalAddress : BdAddr → EStateM TransportError σ Unit
  pair : DeviceId → PairingAgent → EStateM TransportError σ PairingOutcome
  connect : DeviceId → EStateM TransportError σ Connection
  disconnect : Connection → EStateM TransportError σ Unit
  pushFile : Connection → OutboundFile → EStateM TransportError σ TransferReceipt

/-- Set the local address, if one is given and the backend can do it. This is what every
operation with a spoofed address begins with. -/
def applySpoof {σ : Type} (backend : BluetoothBackend σ) (spoof : Option BdAddr) :
    EStateM TransportError σ Unit :=
  match spoof with
  | none => pure ()
  | some addr =>
    if ¬ backend.capabilities.canSpoofAddress then
      throw (.unsupported backend.capabilities.kind.name "set_local_address")
    else backend.setLocalAddress addr

/-- Rust's `u32::saturating_add(1)`, which is the number of attempts that a retry count allows. -/
def saturatingSucc (n : UInt32) : ℕ := min (n.toNat + 1) (2 ^ 32 - 1)

theorem one_le_saturatingSucc (n : UInt32) : 1 ≤ saturatingSucc n :=
  le_min (Nat.le_add_left 1 _) (by norm_num)

end Pax
