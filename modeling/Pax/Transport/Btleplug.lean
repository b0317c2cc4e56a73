import Pax.Transport.Discovery

/-!
# Discovery with btleplug

`BtleplugBackend::discover` of `pax-transport/src/btleplug.rs`: scan for a while, then go through
the peripherals that the adapter knows. A peripheral whose properties cannot be read is skipped, and
one whose connection cannot be read counts as not connected.

The operations on links and characteristics are programs on the calls of btleplug, in
`Pax.Transport.BtleplugLinks`.
-/

namespace Pax
namespace Btleplug

/-- What the properties of a peripheral say, as far as a discovery looks at them. -/
structure PeripheralProperties where
  address : BdAddr
  addressType : Option AddressType
  localName : Option String
  rssi : Option Int16
  deriving DecidableEq, Repr

/-- A peripheral: what reading its properties and its connection comes to. -/
structure Peripheral where
  properties : Except String (Option PeripheralProperties)
  isConnected : Except String Bool

/-- What a backend was built with: the fields that go into its events. -/
structure Environment where
  controller : ControllerModel
  spec : SpecContext
  resolve : DeviceId → StandardsProfile
  clock : ℕ → Timestamp
  toLowercase : String → String

/-- What the adapter comes to in a discovery. That the scan cannot be stopped is ignored. -/
structure Scan where
  startScan : Except String Unit
  peripherals : Except String (List Peripheral)

structure State where
  seq : UInt64
  events : List TransitEvent

def mapErr (e : String) : TransportError := .backend e

section Backend

variable (env : Environment)

/-- Send an event to the observer. -/
def State.emit (peer : DeviceId) (kind : TransitEventKind) (s : State) : State where
  seq := s.seq + 1
  events := s.events ++ [{
    seq := s.seq
    at' := env.clock s.events.length
    origin := { local' := env.controller, peer, spec := env.spec, standards := env.resolve peer }
    kind }]

/-- What is read of a peripheral; `none` if it is skipped. -/
def readPeripheral (p : Peripheral) : Option DeviceInfo :=
  match p.properties with
  | .ok (some props) =>
    let addrType := match props.addressType with
      | some .pub => .pub
      | _ => .random
    some {
      id := ⟨props.address, addrType⟩
      name := props.localName
      rssi := props.rssi
      -- btleplug does not say whether a peripheral is bonded
      paired := false
      connected := match p.isConnected with
        | .ok connected => connected
        | .error _ => false }
  | .ok none => none
  | .error _ => none

/-- A device that the filter has accepted is reported. -/
def reportDiscovered (info : DeviceInfo) (s : State) : State :=
  s.emit env info.id (.deviceDiscovered info.rssi)

/-- The loop over the peripherals that can be read. -/
def selectPeripherals (filter : DiscoveryFilter) (peripherals : List Peripheral) (s : State) :
    List DeviceInfo × State :=
  discoverLoop (filter.accepts env.toLowercase) filter.limit (reportDiscovered env)
    (peripherals.filterMap readPeripheral) [] s

/-- `discover`: that the scan has begun is reported first, and then each device that is kept. -/
def discover (scan : Scan) (filter : DiscoveryFilter) :
    EStateM TransportError State (List DeviceInfo) := fun s =>
  let s := s.emit env default .discoveryStarted
  match scan.startScan with
  | .error e => .error (mapErr e) s
  | .ok () =>
    match scan.peripherals with
    | .error e => .error (mapErr e) s
    | .ok peripherals =>
      let (out, s) := selectPeripherals env filter peripherals s
      .ok out s

end Backend

theorem label_reportDiscovered (env : Environment) (info : DeviceInfo) (s : State) :
    (reportDiscovered env info s).events.map TransitEvent.label
      = s.events.map TransitEvent.label ++ [info.discovered] :=
  List.map_append

/-- What the loop keeps and what it reports: the selection of `discoverLoop_spec`. -/
theorem run_selectPeripherals (env : Environment) (filter : DiscoveryFilter)
    (peripherals : List Peripheral) (s : State) :
    let kept := Selection.keepAfter (filter.accepts env.toLowercase) filter.limit
      (peripherals.filterMap readPeripheral) []
    ∃ s', selectPeripherals env filter peripherals s = (kept, s') ∧
      s'.events.map TransitEvent.label
        = s.events.map TransitEvent.label ++ kept.map DeviceInfo.discovered :=
  discoverLoop_nil (fun s : State => s.events.map TransitEvent.label) DeviceInfo.discovered
    (label_reportDiscovered env) _ s

end Btleplug
end Pax
