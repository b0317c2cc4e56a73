import Pax.Transport.Android.Discover
import Pax.Transport.BlueZ.Discover
import Pax.Transport.Btleplug
import Pax.Transport.Mock.Discover

/-!
# Discovery on all backends

The loop that selects among the devices found is written four times. The mock stops before it keeps
a device that there is no room for; the others stop once they have kept a device and there is no
more room. With a limit of zero these return one device (`limit_zero_returns_one`).

`discoverAlike_iff` says that this is the only difference: for each backend there is a predicate
that it selects among candidates as it should (`MockSelects`, `AndroidSelects`, `BtleplugSelects`,
`BlueZSelects`), from any state and whatever else the platform says, and the four hold together for
every filter but one with a limit of zero.
-/

namespace Pax

open Program (Returns)
open Selection (firstAccepted keepAfter keepBefore)

/-- The accepted devices are returned up to the limit, and reported one by one. -/
def Selects (accepts : DeviceInfo → Bool) (limit : Option ℕ) (infos out : List DeviceInfo)
    (before after : List Label) : Prop :=
  out = firstAccepted accepts limit infos ∧ after = before ++ out.map DeviceInfo.discovered

section

variable (toLowercase : String → String) (filter : DiscoveryFilter) (infos : List DeviceInfo)

/-- The mock selects so, from devices that are scripted as these. -/
def MockSelects : Prop :=
  ∀ (backend : MockBackend) (devices : List MockDevice) (es : List (Exchange mockSteps))
    (out : List DeviceInfo), backend.toLowercase = toLowercase →
    devices.map MockDevice.info = infos →
    Returns (backend.discoverFrom filter devices []) es out →
      Selects (filter.accepts toLowercase) filter.limit infos out [] (MockBackend.stamped es)

/-- Android selects so, among the devices that are bonded or were found by an inquiry. -/
def AndroidSelects : Prop :=
  ∀ (env : Android.Environment) (scan : Android.Scan) (s s' : Android.State)
    (out : List DeviceInfo), scan.toLowercase = toLowercase →
    Android.selectDevices env scan filter infos s = (out, s') →
      Selects (filter.accepts toLowercase) filter.limit infos out
        (s.events.map TransitEvent.label) (s'.events.map TransitEvent.label)

/-- btleplug selects so, among peripherals that are read as these devices. -/
def BtleplugSelects : Prop :=
  ∀ (env : Btleplug.Environment) (peripherals : List Btleplug.Peripheral) (s s' : Btleplug.State)
    (out : List DeviceInfo), env.toLowercase = toLowercase →
    peripherals.filterMap Btleplug.readPeripheral = infos →
    Btleplug.selectPeripherals env filter peripherals s = (out, s') →
      Selects (filter.accepts toLowercase) filter.limit infos out
        (s.events.map TransitEvent.label) (s'.events.map TransitEvent.label)

/-- BlueZ selects so, among events of devices that are read as these. -/
def BlueZSelects : Prop :=
  ∀ (env : BlueZ.Environment) (scan : BlueZ.Scan) (events : List BlueZ.AdapterEvent)
    (s : BlueZ.State), scan.toLowercase = toLowercase →
    BlueZ.readings events = infos.map Except.ok →
      ∃ out s', (BlueZ.selectEvents env scan filter events []).run s = .ok out s' ∧
        Selects (filter.accepts toLowercase) filter.limit infos out
          (s.events.map TransitEvent.label) (s'.events.map TransitEvent.label)

end

variable {toLowercase : String → String} {filter : DiscoveryFilter} {infos : List DeviceInfo}

/-- The mock selects so with every limit. -/
theorem mockSelects (htransport : filter.transport = none) :
    MockSelects toLowercase filter infos := by
  rintro backend devices es out rfl rfl h
  obtain ⟨hout, kept, hkept, hstamped⟩ := MockBackend.returns_discoverFrom h
  rw [List.nil_append] at hkept
  subst hkept
  -- without a transport the mock leaves no device out
  rw [MockBackend.inReach_of_none htransport, Selection.keepBefore_eq] at hout
  refine ⟨?_, hstamped⟩
  rw [hout]
  cases filter.limit <;> rfl

/-- The loop of the others selects so if it keeps what it should: with a limit of zero, it does
if nothing is accepted. -/
theorem selects_keepAfter {limit : Option ℕ} {accepts : DeviceInfo → Bool} {before : List Label} :
    Selects accepts limit infos (keepAfter accepts limit infos [])
        before (before ++ (keepAfter accepts limit infos []).map DeviceInfo.discovered)
      ↔ (limit = some 0 → ∀ info ∈ infos, ¬ accepts info = true) := by
  rw [Selects, ← Selection.keepAfter_eq_iff]
  exact and_iff_left rfl

/-- **When all backends apply a filter alike**: its limit is not zero, or it accepts no device. -/
theorem discoverAlike_iff (toLowercase : String → String) (filter : DiscoveryFilter)
    (infos : List DeviceInfo) (htransport : filter.transport = none) :
    (MockSelects toLowercase filter infos ∧ AndroidSelects toLowercase filter infos ∧
      BtleplugSelects toLowercase filter infos ∧ BlueZSelects toLowercase filter infos) ↔
    (filter.limit = some 0 → ∀ info ∈ infos, ¬ filter.accepts toLowercase info = true) := by
  constructor
  · rintro ⟨-, handroid, -⟩
    -- one of the loops that look afterwards is enough: any state and log will do
    let scan : Android.Scan := { Android.speakerScan with toLowercase }
    let s : Android.State := ⟨0, 0, [], []⟩
    obtain ⟨s', hrun, hlog⟩ := Android.run_selectDevices Android.scanEnv scan filter infos s
    have hselects := handroid Android.scanEnv scan s s' _ rfl hrun
    rw [hlog] at hselects
    exact selects_keepAfter.mp hselects
  -- The three backends that look at the limit afterwards all run the one loop.
  · intro h
    refine ⟨mockSelects htransport, ?_, ?_, ?_⟩
    · rintro env scan s s' out rfl hrun
      obtain ⟨s₁, hrun₁, hlog⟩ := Android.run_selectDevices env scan filter infos s
      cases hrun.symm.trans hrun₁
      rw [hlog]
      exact selects_keepAfter.mpr h
    · rintro env peripherals s s' out rfl rfl hrun
      obtain ⟨s₁, hrun₁, hlog⟩ := Btleplug.run_selectPeripherals env filter peripherals s
      cases hrun.symm.trans hrun₁
      rw [hlog]
      exact selects_keepAfter.mpr h
    · rintro env scan events s rfl hreadings
      obtain ⟨s', hrun, hlog⟩ := BlueZ.run_selectEvents env scan filter hreadings s
      refine ⟨_, s', hrun, ?_⟩
      rw [hlog]
      exact selects_keepAfter.mpr h

/-- A candidate that is not bonded, with an address of six `n`s. -/
def heard (n : UInt8) (name : String) (rssi : Option Int16) : DeviceInfo :=
  { id := .pub ⟨.replicate 6 n⟩, name := some name, rssi, paired := false, connected := false }

/-- Five candidates. The television is too far away and the bonded mouse was not heard. -/
def fiveHeard : List DeviceInfo :=
  [heard 1 "Phone" (some (-57)), heard 2 "Television" (some (-90)), heard 3 "Mouse" none,
    heard 4 "Laptop" (some (-60)), heard 5 "Watch" (some (-50))]

/-- With a limit of two, all backends return the phone and the laptop, in that order: the two
candidates between them are rejected, and the watch, which the filter accepts, is one too many. -/
theorem discoverAlike_iff_five :
    let filter := { Android.inRange with limit := some 2 }
    firstAccepted (filter.accepts id) filter.limit fiveHeard
        = [heard 1 "Phone" (some (-57)), heard 4 "Laptop" (some (-60))] ∧
      MockSelects id filter fiveHeard ∧ AndroidSelects id filter fiveHeard ∧
      BtleplugSelects id filter fiveHeard ∧ BlueZSelects id filter fiveHeard := by
  refine ⟨by decide, ?_⟩
  refine (discoverAlike_iff id { Android.inRange with limit := some 2 } fiveHeard rfl).mpr ?_
  -- the limit is not zero
  exact fun hzero => absurd hzero (by decide)

/-- With a limit of zero, one device is returned by three of the backends, and none by the mock. -/
theorem limit_zero_returns_one :
    let filter := { Android.anyDevice with limit := some 0 }
    (∃ s', Android.selectDevices Android.scanEnv Android.speakerScan filter
      [Android.bondedSpeaker] ⟨0, 0, [], []⟩ = ([Android.bondedSpeaker], s')) ∧
    ¬ AndroidSelects id filter [Android.bondedSpeaker] := by
  obtain ⟨s', hrun, hlog⟩ := Android.run_selectDevices Android.scanEnv Android.speakerScan
    { Android.anyDevice with limit := some 0 } [Android.bondedSpeaker] ⟨0, 0, [], []⟩
  have hkept : keepAfter (DiscoveryFilter.accepts id { Android.anyDevice with limit := some 0 })
      (some 0) [Android.bondedSpeaker] [] = [Android.bondedSpeaker] := rfl
  refine ⟨⟨s', hrun.trans (congrArg (·, s') hkept)⟩, fun h => ?_⟩
  have hout := (h Android.scanEnv Android.speakerScan _ s' _ rfl hrun).1
  cases hkept.symm.trans hout

end Pax
