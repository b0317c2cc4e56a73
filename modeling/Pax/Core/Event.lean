import Pax.Core.Hardware
import Pax.Core.Spec

/-!
# Transit events

The event vocabulary of `pax-core/src/event.rs` with the two time types of `pax-core/src/time.rs`. A
`TransitEvent` carries the context it was produced in (`EventOrigin`), so the diagnostics slice a
recorded stream without external state.

`TransitEventKind.payloadBytes`, `isFailure` and `label` are the three classifications the metrics
are built from. The pair of the peer and the kind (`Label`) is what the results about runs say of an
event, since its number and its time depend on what else is going on.
-/

namespace Pax

/-! ### Time -/

/-- A duration in nanoseconds, without a bound: no result depends on where the 64-bit count of
the source ends. -/
structure Duration where
  nanos : ℕ
  deriving DecidableEq, Repr

namespace Duration

/-- The zero-length duration. -/
def zero : Duration := ⟨0⟩

/-- Construct from whole milliseconds. -/
def fromMillis (millis : ℕ) : Duration := ⟨millis * 1000000⟩

/-- Construct from whole seconds. -/
def fromSecs (secs : ℕ) : Duration := ⟨secs * 1000000000⟩

/-- Total whole milliseconds, truncating. -/
def asMillis (d : Duration) : ℕ := d.nanos / 1000000

end Duration

/-- An absolute point in time, in nanoseconds since a fixed epoch. -/
structure Timestamp where
  nanos : ℕ
  deriving DecidableEq, Repr

namespace Timestamp

/-- Ordered by the nanoseconds since the epoch, as the derived `Ord`. -/
instance : LinearOrder Timestamp :=
  LinearOrder.lift' Timestamp.nanos fun a b h => by cases a; cases b; simpa using h

/-- Saturating difference: zero if `t` is the earlier of the two. -/
def saturatingSince (t earlier : Timestamp) : Duration := ⟨t.nanos - earlier.nanos⟩

end Timestamp

/-! ### Events -/

/-- The context shared by every event on a link: the controller it was seen at, the peer, and the
specification and standards that applied. -/
structure EventOrigin where
  local' : ControllerModel
  peer : DeviceId
  spec : SpecContext
  standards : StandardsProfile
  deriving DecidableEq, Repr

/-- The direction of a data chunk relative to the local device. -/
inductive Direction where
  | outbound
  | inbound
  deriving DecidableEq, Repr

/-- The Secure Simple Pairing association model in use. -/
inductive PairingMethodHint where
  | justWorks
  | pinCode
  | passkeyEntry
  | passkeyDisplay
  | numericComparison
  | outOfBand
  deriving DecidableEq, Repr

/-- What happened, with the data of the event. -/
inductive TransitEventKind where
  | discoveryStarted
  | deviceDiscovered (rssi : Option Int16)
  | pairingStarted (method : PairingMethodHint)
  | pairingCompleted
  | pairingFailed (reason : String)
  | connected
  | disconnected (reason : Option String)
  | transferStarted (name : String) (totalBytes : UInt64)
  | transferProgress (transferred total : UInt64)
  | transferCompleted (bytes : UInt64) (duration : Duration)
  | dataChunk (direction : Direction) (bytes : UInt64)
  | warning (code detail : String)
  | error (detail : String)
  deriving DecidableEq, Repr

namespace TransitEventKind

/-- The application bytes an event moved; zero for control events. -/
def payloadBytes : TransitEventKind → UInt64
  | .dataChunk _ bytes => bytes
  | _ => 0

/-- Whether the event represents a failure. -/
def isFailure : TransitEventKind → Bool
  | .error _ => true
  | .pairingFailed _ => true
  | _ => false

/-- A stable label for the kind. -/
def label : TransitEventKind → String
  | .discoveryStarted => "discovery-started"
  | .deviceDiscovered _ => "device-discovered"
  | .pairingStarted _ => "pairing-started"
  | .pairingCompleted => "pairing-completed"
  | .pairingFailed _ => "pairing-failed"
  | .connected => "connected"
  | .disconnected _ => "disconnected"
  | .transferStarted _ _ => "transfer-started"
  | .transferProgress _ _ => "transfer-progress"
  | .transferCompleted _ _ => "transfer-completed"
  | .dataChunk _ _ => "data-chunk"
  | .warning _ _ => "warning"
  | .error _ => "error"

end TransitEventKind

/-- A single observation from a link: the producer's sequence number and timestamp, the link's
context and what happened. -/
structure TransitEvent where
  seq : UInt64
  at' : Timestamp
  origin : EventOrigin
  kind : TransitEventKind
  deriving DecidableEq, Repr

/-- An event by its peer and its kind, without its number and its time. -/
abbrev Label := DeviceId × TransitEventKind

def TransitEvent.label (event : TransitEvent) : Label := (event.origin.peer, event.kind)

end Pax
