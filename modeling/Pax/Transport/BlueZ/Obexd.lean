import Pax.Core.Event
import Pax.Framework.Lts
import Pax.Transport.Backend

/-!
# Watching an `obexd` transfer

`run_transfer` and `current_status` of `pax-transport/src/bluez/obex.rs`, and the daemon at the
other end of the session bus. The client sends the file, subscribes to the transfer's property
changes, and then reads `Status` and waits for a signal by turns, until it sees a terminal status or
the overall deadline is past. The daemon advances the transfer, completes it, signals each change,
and removes the object.

The two parties are `Client` and `Daemon`, and `transfer` is the system of both, with time passing
in between. A signal is delivered to the client if it has subscribed when the signal is sent, and
signals are read in order. Reading the status of a removed object fails. A run is over when
`run_transfer` returns: `object_push` removes the session next.

Whether a completion is noticed is the subject of `Pax.Transport.BlueZ.Completion`, and what the
client tells of its progress that of `Pax.Transport.ProgressAccounting`.
-/

namespace Pax
namespace BlueZ
namespace Obexd

/-! ### Values on the bus -/

/-- A property value, as far as the client tells them apart. -/
inductive Value where
  | u64 (n : UInt64)
  | u32 (n : UInt32)
  | str (s : String)
  | other
  deriving DecidableEq, Repr

def asU64 : Value → Option UInt64
  | .u64 n => some n
  | .u32 n => some n.toUInt64
  | _ => none

/-- Properties by name, as a D-Bus reply or signal carries them. -/
abbrev Properties := List (String × Value)

/-- A `PropertiesChanged` signal: the changed properties, or `none` if its arguments cannot be
parsed. -/
abbrev Signal := Option Properties

/-- The text of `Status` in a signal. -/
def Signal.status (signal : Signal) : Option String :=
  match signal.bind (List.lookup "Status") with
  -- a `Status` of another type counts as none
  | some (.str status) => some status
  | _ => none

/-- The count in a signal, if there is one, and if it is of the type that is read. -/
def Signal.transferred (signal : Signal) : Option UInt64 :=
  (signal.bind (List.lookup "Transferred")).bind asU64

/-! ### The daemon -/

/-- A transfer that has not ended. -/
inductive Running where
  | queued
  | active
  | suspended
  deriving DecidableEq, Repr

def Running.text : Running → String
  | .queued => "queued"
  | .active => "active"
  | .suspended => "suspended"

/-- The daemon's side of the transfer; `present` says whether the object of an ended transfer is
still there. -/
inductive Daemon where
  /-- `SendFile` has not been handled yet. -/
  | listening
  | refused
  | running (status : Running)
  | complete (present : Bool)
  | failed (present : Bool)
  deriving DecidableEq, Repr

namespace Daemon

/-- What `current_status` reads; there is nothing to read without an object. -/
def status : Daemon → Option String
  | running status => some status.text
  | complete true => some "complete"
  | failed true => some "error"
  | _ => none

/-- The transfer reached the status `complete`. -/
def Completed : Daemon → Prop
  | complete _ => True
  | _ => False

inductive Step where
  | accept (props : Properties)
  | refuse (e : String)
  | advance (transferred : UInt64)
  | proceed (status : Running)
  /-- With the last change of `Transferred` in the same signal or without. -/
  | complete (transferred : Option UInt64)
  | fail
  /-- A signal that does not change the status. -/
  | other (signal : Signal)
  | remove
  deriving DecidableEq, Repr

/-- What the daemon sends to the client: the reply to `SendFile`, or a signal. -/
inductive Message where
  | reply (result : Except String Properties)
  | signal (signal : Signal)

def next : Daemon → Step → Option (Daemon × Option Message)
  | listening, .accept props => some (running .queued, some (.reply (.ok props)))
  | listening, .refuse e => some (refused, some (.reply (.error e)))
  | running status, .advance transferred =>
    some (running status, some (.signal (some [("Transferred", .u64 transferred)])))
  | running _, .proceed status =>
    some (running status, some (.signal (some [("Status", .str status.text)])))
  | running _, .complete transferred =>
    -- the properties of one signal come together, the count before the status
    let count := transferred.toList.map fun n => ("Transferred", Value.u64 n)
    some (complete true, some (.signal (some (count ++ [("Status", .str "complete")]))))
  | running _, .fail => some (failed true, some (.signal (some [("Status", .str "error")])))
  | complete true, .remove => some (complete false, none)
  | failed true, .remove => some (failed false, none)
  -- nothing is signalled about an object that is not there
  | daemon, .other signal =>
    if daemon.status.isSome ∧ signal.status = none then some (daemon, some (.signal signal))
    else none
  | _, _ => none

end Daemon

/-! ### The client -/

/-- The overall ceiling on a single push. -/
def overallDeadline : Duration := .fromSecs 300

/-- How long to wait for one signal before the status is read again. -/
def pollInterval : Duration := .fromSecs 15

def zerr (e : String) : TransportError := .backend ("obex: " ++ e)

/-- The variables of the loop of `run_transfer`. -/
structure Watch where
  total : UInt64
  transferred : UInt64
  started : Timestamp
  deriving DecidableEq, Repr

/-- Where `run_transfer` is. -/
inductive Client where
  /-- Waiting for the reply to `SendFile`. -/
  | sending
  /-- Building the proxies and subscribing. -/
  | subscribing (total : UInt64)
  /-- At the head of the loop. -/
  | reading (watch : Watch)
  /-- About to look at the deadline. -/
  | checking (watch : Watch)
  | waiting (watch : Watch) (since : Timestamp)
  | returned (result : Except TransportError UInt64)
  deriving DecidableEq, Repr

def Client.hasReturned : Client → Bool
  | returned _ => true
  | _ => false

inductive Client.Step where
  | sendReturns
  | setupFails (e : String)
  | subscribe
  | readStatus
  | checkDeadline
  | receive
  | pollTimeout
  | streamEnds
  deriving DecidableEq, Repr

/-! ### Both -/

/-- The two parties, and what is under way between them. `progress` are the calls of
`on_progress`. -/
structure State where
  clock : Timestamp
  daemon : Daemon
  client : Client
  reply : Option (Except String Properties)
  subscribed : Bool
  queue : List Signal
  progress : List UInt64

namespace State

/-- A transfer at its beginning: `SendFile` has been called, and nothing has come of it yet. -/
def start (clock : Timestamp) : State where
  clock
  daemon := .listening
  client := .sending
  reply := none
  subscribed := false
  queue := []
  progress := []

def deliver (s : State) : Option Daemon.Message → State
  | none => s
  | some (.reply result) => { s with reply := some result }
  -- a signal sent before the match rule is in place is not delivered later
  | some (.signal signal) => if s.subscribed then { s with queue := s.queue ++ [signal] } else s

/-- Look at a status: return if it is terminal, otherwise go on to `client`. -/
def look (s : State) (watch : Watch) (status : Option String) (client : Client) : State :=
  if status = some "complete" then
    -- the size announced by `SendFile` may exceed the last count, or have been missing
    let bytes := max watch.total watch.transferred
    { s with client := .returned (.ok bytes), progress := s.progress ++ [bytes] }
  else if status = some "error" then
    let e := .transferFailed watch.transferred "obexd reported transfer error"
    { s with client := .returned (.error e) }
  else { s with client }

/-- The client takes a signal: it reports the count, if there is one, and looks at the status. -/
def take (s : State) (watch : Watch) (signal : Signal) : State :=
  match signal.transferred with
  | some transferred =>
    -- the count is taken in before the status of the same signal is looked at
    let watch := { watch with transferred }
    { s with progress := s.progress ++ [transferred] }.look watch signal.status (.reading watch)
  | none => s.look watch signal.status (.reading watch)

def clientNext (s : State) : Client.Step → Option State
  | .sendReturns =>
    match s.client, s.reply with
    | .sending, some (.ok props) =>
      -- a reply without a size is not an error
      let total := ((props.lookup "Size").bind asU64).getD 0
      some { s with client := .subscribing total }
    | .sending, some (.error e) => some { s with client := .returned (.error (zerr e)) }
    | _, _ => none
  | .setupFails e =>
    match s.client with
    | .subscribing _ => some { s with client := .returned (.error (zerr e)) }
    | _ => none
  | .subscribe =>
    match s.client with
    | .subscribing total =>
      let watch := { total, transferred := 0, started := s.clock }
      some { s with client := .reading watch, subscribed := true }
    | _ => none
  | .readStatus =>
    match s.client with
    -- a failed read is no status, so the loop goes on
    | .reading watch => some (s.look watch s.daemon.status (.checking watch))
    | _ => none
  | .checkDeadline =>
    match s.client with
    | .checking watch =>
      -- the deadline is only looked at here, between a read and a wait
      if overallDeadline.nanos ≤ (s.clock.saturatingSince watch.started).nanos then
        let detail := "obex push exceeded " ++ toString (overallDeadline.asMillis / 1000) ++ "s"
        some { s with client := .returned (.error (.timeout detail)) }
      else some { s with client := .waiting watch s.clock }
    | _ => none
  | .receive =>
    match s.client, s.queue with
    | .waiting watch _, signal :: queue => some ({ s with queue }.take watch signal)
    | _, _ => none
  | .pollTimeout =>
    -- A signal that is there is taken, however late.
    match s.client, s.queue with
    | .waiting watch since, [] =>
      if pollInterval.nanos ≤ (s.clock.saturatingSince since).nanos then
        some { s with client := .reading watch }
      else none
    | _, _ => none
  | .streamEnds =>
    match s.client, s.queue with
    -- the end of the stream is not an error either
    | .waiting watch _, [] => some { s with client := .reading watch, subscribed := false }
    | _, _ => none

end State

/-- A step of either party, or time passing. -/
inductive Step where
  | daemon (step : Daemon.Step)
  | client (step : Client.Step)
  | tick (d : Duration)
  deriving DecidableEq, Repr

/-- A transfer, from the call of `SendFile` until `run_transfer` returns. -/
def transfer : Lts State Step where
  next s step :=
    if s.client.hasReturned then none
    else
      match step with
      | .daemon step =>
        (s.daemon.next step).map fun (daemon, message) => { s with daemon }.deliver message
      | .client step => s.clientNext step
      | .tick d => some { s with clock := ⟨s.clock.nanos + d.nanos⟩ }

end Obexd
end BlueZ
end Pax
