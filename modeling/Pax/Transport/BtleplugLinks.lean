import Pax.Core.UuidText
import Pax.Framework.Translate
import Pax.Transport.Backend
import Pax.Transport.Btleplug
import Pax.Transport.ObserverOrder

/-!
# Links and characteristics with btleplug

The rest of `BtleplugBackend` of `pax-transport/src/btleplug.rs`, as programs on the calls of
btleplug. A connection is no more than a peer: each operation goes through the peripherals that the
adapter knows at that time, and works on the first one whose properties show the address of the
peer.

`watch` says what the observer is told of links: a change is announced before anything else happens,
under the address that the peripheral was found by, and nothing else is announced. Every operation
conforms to it (`conforms_connect`, `conforms_disconnect`, `conforms_onCharacteristic`), whatever
the radio answers, and along a run what was announced is what has changed (`linkChanges_of_run`).
What an operation has done to a characteristic is in `Pax.Transport.BtleplugActs`.
-/

namespace Pax
namespace Btleplug

open Program (Returns)

/-- A characteristic, as far as it is looked at. -/
structure Characteristic where
  serviceUuid : Uuid
  uuid : Uuid
  deriving DecidableEq, Repr

inductive WriteType where
  | withResponse
  | withoutResponse
  deriving DecidableEq, Repr

/-- What is called: the radio, the observer, and what a client prints. A peripheral is a number. -/
inductive RadioCall where
  | peripherals
  | properties (p : ℕ)
  | connect (p : ℕ)
  | disconnect (p : ℕ)
  | discoverServices (p : ℕ)
  | characteristics (p : ℕ)
  | read (p : ℕ) (chr : Characteristic)
  | write (p : ℕ) (chr : Characteristic) (data : List UInt8) (kind : WriteType)
  | subscribe (p : ℕ) (chr : Characteristic)
  /-- The stream of notifications, as all that will come of it. -/
  | notifications (p : ℕ)
  | emit (step : EmitCall)
  | println (line : String)

def RadioCall.Reply : RadioCall → Type
  | .peripherals => Except String (List ℕ)
  | .properties _ => Except String (Option PeripheralProperties)
  | .connect _ => Except String Unit
  | .disconnect _ => Except String Unit
  | .discoverServices _ => Except String Unit
  | .characteristics _ => List Characteristic
  | .read .. => Except String (List UInt8)
  | .write .. => Except String Unit
  | .subscribe .. => Except String Unit
  | .notifications _ => Except String (List (Uuid × List UInt8))
  | .emit step => step.Reply
  | .println _ => Unit

abbrev radio : Interface := { Call := RadioCall, Reply := RadioCall.Reply }

def call (c : RadioCall) : Program radio c.Reply := Program.call (I := radio) c

/-! ### The operations -/

section Operations

variable {α : Type}

/-- Go on with the first of the peripherals that shows the address. -/
def among (addr : BdAddr) (found : ℕ → Program radio (Except TransportError α))
    (missing : TransportError) : List ℕ → Program radio (Except TransportError α)
  | [] => return .error missing
  | p :: ps => do
    match ← call (.properties p) with
    | .error e => return .error (mapErr e)
    | .ok none => among addr found missing ps
    | .ok (some props) =>
      if props.address = addr then found p else among addr found missing ps

/-- Go on with the first peripheral of the adapter that shows the address. -/
def firstWith (addr : BdAddr) (found : ℕ → Program radio (Except TransportError α))
    (missing : TransportError) : Program radio (Except TransportError α) := do
  match ← call .peripherals with
  | .error e => return .error (mapErr e)
  | .ok ps => among addr found missing ps

/-- `find_peripheral`, for an operation on a connection. -/
def findPeripheral (addr : BdAddr) : Program radio (Except TransportError ℕ) :=
  firstWith addr (fun p => return .ok p) (.notConnected (.pub addr))

/-- `find_characteristic`: the services are discovered again each time, and the first
characteristic with both UUIDs is taken. -/
def findCharacteristic (p : ℕ) (service characteristic : Uuid) :
    Program radio (Except TransportError Characteristic) := do
  match ← call (.discoverServices p) with
  | .error e => return .error (mapErr e)
  | .ok () =>
    let chrs ← call (.characteristics p)
    match chrs.find? fun c => c.serviceUuid = service ∧ c.uuid = characteristic with
    | some chr => return .ok chr
    | none =>
      return .error (.backend ("characteristic " ++ characteristic.display ++ " not found"))

/-- Find the peripheral of the connection, and the characteristic, and go on with them. -/
def onCharacteristic (conn : Connection) (service characteristic : Uuid)
    (operation : ℕ → Characteristic → Program radio (Except TransportError α)) :
    Program radio (Except TransportError α) := do
  match ← findPeripheral conn.peer.addr with
  | .error e => return .error e
  | .ok p =>
    match ← findCharacteristic p service characteristic with
    | .error e => return .error e
    | .ok chr => operation p chr

def gattRead (conn : Connection) (service characteristic : Uuid) :
    Program radio (Except TransportError (List UInt8)) :=
  onCharacteristic conn service characteristic fun p chr => do
    let value ← call (.read p chr)
    return value.mapError mapErr

def gattWrite (conn : Connection) (service characteristic : Uuid) (data : List UInt8)
    (withResponse : Bool) : Program radio (Except TransportError Unit) :=
  onCharacteristic conn service characteristic fun p chr => do
    let kind := if withResponse then .withResponse else .withoutResponse
    let written ← call (.write p chr data kind)
    return written.mapError mapErr

/-- The notifications of all characteristics of the peripheral come in one stream, of which those
with the UUID are kept. -/
def gattSubscribe (conn : Connection) (service characteristic : Uuid) :
    Program radio (Except TransportError (List (Uuid × List UInt8))) :=
  onCharacteristic conn service characteristic fun p chr => do
    match ← call (.subscribe p chr) with
    | .error e => return .error (mapErr e)
    | .ok () =>
      match ← call (.notifications p) with
      | .error e => return .error (mapErr e)
      | .ok stream => return .ok (stream.filter fun n => n.1 = characteristic)

variable (backend : RealBackend)

/-- `emit`, in the steps that it takes in every real backend. -/
def emit (peer : DeviceId) (kind : TransitEventKind) : Program radio Unit :=
  (backend.emit peer kind).translate (J := radio) RadioCall.emit fun _ reply => reply

/-- `connect`: the observer is told once the peripheral is connected, and not if that has failed. -/
def connect (target : DeviceId) : Program radio (Except TransportError Connection) :=
  firstWith target.addr (fun p => do
    match ← call (.connect p) with
    | .error e => return .error (mapErr e)
    | .ok () => do
      emit backend target .connected
      return .ok {
        peer := target, local' := backend.controller, spec := backend.spec
        standards := backend.standards target, token := 0 }) (.deviceNotFound target)

/-- `disconnect`, which needs no connection but a peripheral with the address. -/
def disconnect (conn : Connection) : Program radio (Except TransportError Unit) :=
  firstWith conn.peer.addr (fun p => do
    match ← call (.disconnect p) with
    | .error e => return .error (mapErr e)
    | .ok () => do
      emit backend conn.peer (.disconnected none)
      return .ok ()) (.notConnected conn.peer)

end Operations

/-! ### What the observer is told -/

/-- The peripheral that was identified last, with the address that it shows. -/
abbrev Seen := Option (ℕ × BdAddr)

/-- What an exchange does to what was identified last: other properties take its place, and
properties that cannot be read leave none. -/
def see (seen : Seen) : Exchange radio → Seen
  | ⟨.properties p, .ok (some props)⟩ => some (p, props.address)
  | ⟨.properties _, _⟩ => none
  | _ => seen

/-- The address that the peripheral shows, if it is the one identified last. -/
def addressOf (seen : Seen) (p : ℕ) : Option BdAddr :=
  seen.bind fun identified => if identified.1 = p then some identified.2 else none

/-- A change of a link, with the address at which it is. -/
abbrev Change := Option BdAddr × TransitEventKind

/-- The change that an exchange with the radio brings about; it has no address if the peripheral is
not the one identified last. -/
def change? (seen : Seen) : Exchange radio → Option Change
  | ⟨.connect p, .ok ()⟩ => some (addressOf seen p, .connected)
  | ⟨.disconnect p, .ok ()⟩ => some (addressOf seen p, .disconnected none)
  | _ => none

/-- The changes of links, in order. -/
def linkChanges (seen : Seen) : List (Exchange radio) → List Change
  | [] => []
  | e :: es => (change? seen e).toList ++ linkChanges (see seen e) es

/-- The change that the observer is told of with an exchange, if it is told of one. -/
def announcement? : Exchange radio → Option Change
  | ⟨.emit (.onEvent event), _⟩ => some (some event.origin.peer.addr, event.kind)
  | _ => none

def announced (es : List (Exchange radio)) : List Change := es.filterMap announcement?

/-- The peripheral identified last, and the change that the observer is still to be told of. -/
structure Watch where
  seen : Seen
  owed : Option Change

/-- Whether an exchange is part of telling the observer. -/
def tells : Exchange radio → Bool
  | ⟨.emit _, _⟩ => true
  | _ => false

/-- A change is announced before anything else happens, and nothing else is announced. -/
def watch : Lts Watch (Exchange radio) where
  next w e :=
    match announcement? e with
    | some change => if w.owed = some change then some { w with owed := none } else none
    | none =>
      if tells e then some w
      else if w.owed = none then some { seen := see w.seen e, owed := change? w.seen e } else none

/-- **Along a run**, the observer is told of the changes, but for the last one if that is owed. -/
theorem linkChanges_of_run {w w' : Watch} {es : List (Exchange radio)} (h : watch.Run w es w') :
    w.owed.toList ++ linkChanges w.seen es = announced es ++ w'.owed.toList := by
  -- On the exchanges: what is owed is announced before anything else happens to a link.
  induction es generalizing w with
  | nil =>
    obtain rfl := Lts.run_nil.mp h
    exact List.append_nil _
  | cons e es ih =>
    obtain ⟨w₁, hstep, hrest⟩ := Lts.run_cons.mp h
    have hes := ih hrest
    unfold watch at hstep
    dsimp only at hstep
    cases hannouncement : announcement? e with
    | some change =>
      rw [hannouncement] at hstep
      dsimp only at hstep
      split at hstep
      case isFalse => cases hstep
      case isTrue howed =>
        obtain rfl := Option.some.inj hstep
        -- an announcement is no change
        have hno : change? w.seen e = none ∧ see w.seen e = w.seen := by
          obtain ⟨call, reply⟩ := e
          cases call <;> first | exact ⟨rfl, rfl⟩ | cases hannouncement
        show _ = (List.filterMap announcement? (e :: es)) ++ _
        rw [List.filterMap_cons_some hannouncement, howed, linkChanges, hno.1, hno.2]
        exact congrArg (change :: ·) hes
    | none =>
      rw [hannouncement] at hstep
      dsimp only at hstep
      show _ = (List.filterMap announcement? (e :: es)) ++ _
      rw [List.filterMap_cons_none hannouncement, linkChanges]
      split at hstep
      case isTrue htells =>
        obtain rfl := Option.some.inj hstep
        have hno : change? w.seen e = none ∧ see w.seen e = w.seen := by
          obtain ⟨call, reply⟩ := e
          cases call <;> first | exact ⟨rfl, rfl⟩ | cases htells
        rw [hno.1, hno.2]
        exact hes
      case isFalse =>
        split at hstep
        case isFalse => cases hstep
        case isTrue howed =>
          obtain rfl := Option.some.inj hstep
          rw [howed]
          exact hes

/-- Nothing is owed to the observer. -/
def Watch.Free (w : Watch) : Prop := w.owed = none

section Conforms

variable {α : Type} {w : Watch} {backend : RealBackend}

/-- If nothing is owed, any exchange but one with the observer may follow, and a change is owed
if it is one. -/
theorem next_of_free {e : Exchange radio} (h : w.Free) (htells : tells e = false) :
    watch.next w e = some { seen := see w.seen e, owed := change? w.seen e } := by
  have hnone : announcement? e = none := by
    obtain ⟨call, reply⟩ := e
    cases call <;> first | rfl | cases htells
  unfold watch
  dsimp only
  rw [hnone, htells]
  exact if_pos h

/-- The observer is told of the change that is owed, and nothing is owed after that. -/
theorem conforms_emit {peer : DeviceId} {kind : TransitEventKind}
    (howed : w.owed = some (some peer.addr, kind)) :
    (emit backend peer kind).Conforms watch (fun _ w' => w'.Free) w := by
  intro seq
  refine ⟨w, rfl, fun time => ⟨w, rfl, fun u => ⟨{ w with owed := none }, ?_, rfl⟩⟩⟩
  exact if_pos howed

/-- The search for the peripheral announces nothing, and goes on with the one that was identified
last. -/
theorem conforms_among {addr : BdAddr} {found : ℕ → Program radio (Except TransportError α)}
    {missing : TransportError}
    (hfound : ∀ p w, w.Free → w.seen = some (p, addr) →
      (found p).Conforms watch (fun _ w' => w'.Free) w) (ps : List ℕ) (h : w.Free) :
    (among addr found missing ps).Conforms watch (fun _ w' => w'.Free) w := by
  -- On the peripherals, each of which is seen with its address before it is used.
  induction ps generalizing w with
  | nil => exact h
  | cons p ps ih =>
    intro reply
    rcases reply with e | _ | props
    · exact ⟨_, next_of_free h rfl, rfl⟩
    · exact ⟨_, next_of_free h rfl, ih rfl⟩
    · refine ⟨_, next_of_free h rfl, ?_⟩
      show Program.Conforms _ _ (if props.address = addr then _ else _) _
      by_cases haddr : props.address = addr
      · rw [if_pos haddr]
        exact hfound p _ rfl (haddr ▸ rfl)
      · rw [if_neg haddr]
        exact ih rfl

theorem conforms_firstWith {addr : BdAddr} {found : ℕ → Program radio (Except TransportError α)}
    {missing : TransportError}
    (hfound : ∀ p w, w.Free → w.seen = some (p, addr) →
      (found p).Conforms watch (fun _ w' => w'.Free) w) (h : w.Free) :
    (firstWith addr found missing).Conforms watch (fun _ w' => w'.Free) w := by
  intro reply
  rcases reply with e | ps
  · exact ⟨_, next_of_free h rfl, rfl⟩
  · exact ⟨_, next_of_free h rfl, conforms_among hfound ps rfl⟩

/-- A change of a link to the peripheral identified last is one at the address that it was found
by. -/
theorem conforms_changed {p : ℕ} {peer : DeviceId} (hseen : w.seen = some (p, peer.addr)) :
    change? w.seen ⟨.connect p, .ok ()⟩ = some (some peer.addr, .connected) ∧
      change? w.seen ⟨.disconnect p, .ok ()⟩ = some (some peer.addr, .disconnected none) := by
  rw [hseen]
  show some (addressOf (some (p, peer.addr)) p, _) = _ ∧
    some (addressOf (some (p, peer.addr)) p, _) = _
  rw [addressOf, Option.bind_some, if_pos rfl]
  exact ⟨rfl, rfl⟩

theorem conforms_connect (backend : RealBackend) (target : DeviceId) (h : w.Free) :
    (connect backend target).Conforms watch (fun _ w' => w'.Free) w := by
  refine conforms_firstWith (fun p w hfree hseen reply => ?_) h
  rcases reply with e | ⟨⟩
  · exact ⟨_, next_of_free hfree rfl, rfl⟩
  · refine ⟨_, next_of_free hfree rfl, Program.conforms_bind.mpr ?_⟩
    exact (conforms_emit (conforms_changed hseen).1).mono fun _ w' hw' => hw'

theorem conforms_disconnect (backend : RealBackend) (conn : Connection) (h : w.Free) :
    (disconnect backend conn).Conforms watch (fun _ w' => w'.Free) w := by
  refine conforms_firstWith (fun p w hfree hseen reply => ?_) h
  rcases reply with e | ⟨⟩
  · exact ⟨_, next_of_free hfree rfl, rfl⟩
  · refine ⟨_, next_of_free hfree rfl, Program.conforms_bind.mpr ?_⟩
    exact (conforms_emit (conforms_changed hseen).2).mono fun _ w' hw' => hw'

theorem conforms_onCharacteristic {conn : Connection} {service characteristic : Uuid}
    {operation : ℕ → Characteristic → Program radio (Except TransportError α)}
    (hoperation : ∀ p chr w, w.Free →
      (operation p chr).Conforms watch (fun _ w' => w'.Free) w) (h : w.Free) :
    (onCharacteristic conn service characteristic operation).Conforms watch
      (fun _ w' => w'.Free) w := by
  -- The search for the peripheral and for the characteristic tells nothing that is owed.
  have hfind : (findPeripheral conn.peer.addr).Conforms watch (fun _ w' => w'.Free) w :=
    conforms_firstWith (fun p w hfree _ => hfree) h
  refine Program.conforms_bind.mpr (hfind.mono fun found w' hfree => ?_)
  rcases found with e | p
  · exact hfree
  have hresolve : (findCharacteristic p service characteristic).Conforms watch
      (fun _ w' => w'.Free) w' := by
    intro reply
    rcases reply with e | ⟨⟩
    · exact ⟨_, next_of_free hfree rfl, rfl⟩
    refine ⟨_, next_of_free hfree rfl, fun chrs => ⟨_, next_of_free rfl rfl, ?_⟩⟩
    dsimp only [Program.bind]
    split <;> rfl
  refine Program.conforms_bind.mpr (hresolve.mono fun found w'' hfree => ?_)
  rcases found with e | chr
  · exact hfree
  · exact hoperation p chr w'' hfree

end Conforms

end Btleplug
end Pax
