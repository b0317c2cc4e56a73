import Pax.Transport.BlueZ.Pair
import Pax.Transport.Discovery

/-!
# Discovery on BlueZ

`BlueZBackend::discover` and `device_info` of `pax-transport/src/bluez.rs`. The devices come as
events of the adapter, until the window is over or the stream ends, and each is read when its event
is taken. A device that cannot be read fails the discovery, with an error for whichever of its
properties could not be read (`deviceInfo`).

Where all devices can be read (`readings`), this is the loop of `Pax.Transport.Discovery` over them
(`run_selectEvents_loop`), so that what is kept and reported is known from there.
-/

namespace Pax
namespace BlueZ

open Selection (full keepAfter)

/-- What reading a device comes to, property by property. -/
structure DeviceProperties where
  device : Except String Unit
  name : Except String (Option String)
  rssi : Except String (Option Int16)
  isPaired : Except String Bool
  isConnected : Except String Bool
  /-- The class of device, if it has one. -/
  class' : Except String (Option UInt32)

/-- An event of the adapter, as the stream of a discovery yields it. -/
inductive AdapterEvent where
  | deviceAdded (addr : BdAddr) (properties : DeviceProperties)
  /-- A device is gone, or a property of the adapter has changed. -/
  | other

/-- What the adapter comes to in a discovery: the events are those that are taken within the
window. -/
structure Scan where
  discoverDevices : Except String Unit
  events : List AdapterEvent
  toLowercase : String → String

def mapErr (e : String) : TransportError := .backend e

/-- `device_info`. The class is read and may fail, but no filter and no event looks at it; the
service UUIDs are read after it, where a failure is ignored. -/
def deviceInfo (addr : BdAddr) (properties : DeviceProperties) :
    Except TransportError DeviceInfo := do
  properties.device.mapError mapErr
  let name ← properties.name.mapError mapErr
  let rssi ← properties.rssi.mapError mapErr
  let paired ← properties.isPaired.mapError mapErr
  let connected ← properties.isConnected.mapError mapErr
  let _ ← properties.class'.mapError mapErr
  return { id := .pub addr, name, rssi, paired, connected }

section Backend

variable (env : Environment) (scan : Scan)

/-- A device that the filter has accepted is reported. -/
def reportDiscovered (info : DeviceInfo) (s : State) : State :=
  s.emit env info.id (.deviceDiscovered info.rssi)

/-- The loop over the events, with what is kept so far. The transport that is asked for is not
looked at. -/
def selectEvents (filter : DiscoveryFilter) :
    List AdapterEvent → (out : List DeviceInfo) → EStateM TransportError State (List DeviceInfo)
  | [], out, s => .ok out s
  | .other :: events, out, s => selectEvents filter events out s
  | .deviceAdded addr properties :: events, out, s =>
    match deviceInfo addr properties with
    | .error e => .error e s
    | .ok info =>
      if ¬ filter.accepts scan.toLowercase info then selectEvents filter events out s
      else
        let s := reportDiscovered env info s
        let out := out ++ [info]
        if full filter.limit out then .ok out s else selectEvents filter events out s

/-- `discover`: that it has started is reported before the adapter is asked. -/
def discover (filter : DiscoveryFilter) : EStateM TransportError State (List DeviceInfo) := fun s =>
  let s := s.emit env default .discoveryStarted
  match scan.discoverDevices with
  | .error e => .error (mapErr e) s
  | .ok () => selectEvents env scan filter scan.events [] s

end Backend

/-- What the devices are read as, in the order of their events. -/
def readings (events : List AdapterEvent) : List (Except TransportError DeviceInfo) :=
  events.filterMap fun
    | .deviceAdded addr properties => some (deviceInfo addr properties)
    | .other => none

theorem label_reportDiscovered (env : Environment) (info : DeviceInfo) (s : State) :
    (reportDiscovered env info s).events.map TransitEvent.label
      = s.events.map TransitEvent.label ++ [info.discovered] :=
  List.map_append

/-- **Where all devices can be read, this is the loop over the devices**, in the order of their
events. -/
theorem run_selectEvents_loop {env : Environment} {scan : Scan} {filter : DiscoveryFilter}
    {events : List AdapterEvent} {infos : List DeviceInfo}
    (h : readings events = infos.map Except.ok) (out : List DeviceInfo) (s : State) :
    (selectEvents env scan filter events out).run s =
      let (out, s) := discoverLoop (filter.accepts scan.toLowercase) filter.limit
        (reportDiscovered env) infos out s
      .ok out s := by
  unfold EStateM.run
  -- On the events; only those of a device that was added reach the loop.
  induction events generalizing infos out s with
  | nil =>
    obtain rfl := List.map_eq_nil_iff.mp h.symm
    rfl
  | cons event events ih =>
    cases event with
    | other => exact ih h out s
    | deviceAdded addr properties =>
      cases infos with
      | nil => cases h
      | cons info infos =>
        obtain ⟨hinfo, hrest⟩ := List.cons_eq_cons.mp h
        -- both loops test the filter first, and the limit after a device is kept
        rw [selectEvents, hinfo, discoverLoop]
        dsimp only
        split
        · exact ih hrest out s
        · split
          · rfl
          · exact ih hrest _ _

/-- What the loop keeps and what it reports, where all devices can be read. -/
theorem run_selectEvents (env : Environment) (scan : Scan) (filter : DiscoveryFilter)
    {events : List AdapterEvent} {infos : List DeviceInfo}
    (h : readings events = infos.map Except.ok) (s : State) :
    let kept := keepAfter (filter.accepts scan.toLowercase) filter.limit infos []
    ∃ s', (selectEvents env scan filter events []).run s = .ok kept s' ∧
      s'.events.map TransitEvent.label
        = s.events.map TransitEvent.label ++ kept.map DeviceInfo.discovered := by
  obtain ⟨s', hloop, hlog⟩ := discoverLoop_nil (fun s : State => s.events.map TransitEvent.label)
    DeviceInfo.discovered (label_reportDiscovered env) infos s
  refine ⟨s', ?_, hlog⟩
  rw [run_selectEvents_loop h, hloop]

end BlueZ
end Pax
