import Pax.Framework.Merging
import Pax.Transport.Android.Push
import Pax.Transport.Android.ScanLine
import Pax.Transport.Discovery

/-!
# Discovery on Android

`AndroidBackend::discover` and `read_bonded` of `pax-transport/src/android.rs`. The bonded devices
come first, and what a live inquiry finds is added unless its id is there. A bonded device has no
RSSI, so with a filter by RSSI a device in range is lost that is bonded (`bonded_in_range_lost`).

`noMatchLost_iff` says when no device is lost: of each id, only the first record is looked at
(`mem_ids_iff`), so that an id with a record that the filter accepts is returned if and only if its
first record is accepted (`NoneShadowed`). Later records do not matter, whether they are accepted or
not.
-/

namespace Pax
namespace Android

open Merging (mergeFirst firstOf)

/-- A `BluetoothDevice` of the set of bonded devices: what `getAddress` and `getName` give. -/
structure BondedDevice where
  address : Option JString
  name : Option JString
  deriving DecidableEq, Repr

/-- The part of the environment that a discovery meets. -/
structure Scan where
  /-- `getBondedDevices`, and all that is read of the set. No set is an empty one. -/
  bonded : Except String (List BondedDevice)
  /-- What `live_discover` comes to; `none` without a context. -/
  live : Option (Except TransportError (List DeviceInfo))
  getString : JString → Option String
  toLowercase : String → String

namespace Scan

variable (scan : Scan)

/-- One turn of the loop over the bonded devices; `none` if it is skipped. -/
def readDevice (dev : BondedDevice) : Option DeviceInfo :=
  match jstringOpt scan.getString dev.address with
  | none => none
  | some addr =>
    match BdAddr.fromStr addr with
    | .error _ => none
    | .ok addr => some {
        id := .pub addr
        name := jstringOpt scan.getString dev.name
        rssi := none
        paired := true
        connected := false }

/-- `read_bonded`: the devices of the set that have an address, in the order in which the set is
read. -/
def readBonded : Except TransportError (List DeviceInfo) :=
  match scan.bonded with
  | .error e => .error (jerr e)
  | .ok set => .ok (set.filterMap scan.readDevice)

/-- What a live inquiry has found. Without a context there is none, and a failed one found
nothing. -/
def found : List DeviceInfo :=
  match scan.live with
  | some (.ok live) => live
  | some (.error _) => []
  | none => []

/-- All devices, of each id the first record. -/
def merged (bonded : List DeviceInfo) : List DeviceInfo :=
  mergeFirst DeviceInfo.id bonded scan.found

end Scan

variable (env : Environment) (scan : Scan)

/-- A device that the filter has accepted is reported. -/
def reportDiscovered (info : DeviceInfo) (s : State) : State :=
  s.emit env info.id (.deviceDiscovered info.rssi)

/-- The loop over the devices, with the filter and its limit. -/
def selectDevices (filter : DiscoveryFilter) (devices : List DeviceInfo) (s : State) :
    List DeviceInfo × State :=
  discoverLoop (filter.accepts scan.toLowercase) filter.limit (reportDiscovered env) devices [] s

/-- `discover`: an inquiry that has failed is no failure of the discovery, but a set that cannot
be read is. -/
def discover (filter : DiscoveryFilter) : EStateM TransportError State (List DeviceInfo) := fun s =>
  let s := s.emit env default .discoveryStarted
  match scan.readBonded with
  | .error e => .error e s
  | .ok bonded =>
    let (out, s) := selectDevices env scan filter (scan.merged bonded) s
    .ok out s

/-- **No match is lost**: no id is returned twice, and each is that has a record, bonded or live,
which the filter accepts. -/
def NoMatchLost (filter : DiscoveryFilter) (bonded out : List DeviceInfo) : Prop :=
  (out.map DeviceInfo.id).Nodup ∧ ∀ info ∈ bonded ++ scan.found,
    filter.accepts scan.toLowercase info = true → info.id ∈ out.map DeviceInfo.id

/-- Of each id that has a record which the filter accepts, the first record is accepted: the bonded
one, if the device is bonded, and the first live one otherwise. Records after the first do not
matter, since the merging drops them whether the filter accepts them or not. -/
def NoneShadowed (filter : DiscoveryFilter) (bonded : List DeviceInfo) : Prop :=
  ∀ info ∈ bonded ++ scan.found, filter.accepts scan.toLowercase info = true →
    ∀ first, firstOf DeviceInfo.id info.id (bonded ++ scan.found) = some first →
      filter.accepts scan.toLowercase first = true

variable {env scan} {filter : DiscoveryFilter} {bonded out : List DeviceInfo} {s s' : State}

/-- A bonded device has no RSSI, as it was not heard but looked up. -/
theorem rssi_of_mem_readBonded (h : scan.readBonded = .ok bonded) :
    ∀ info ∈ bonded, info.rssi = none := by
  intro info hinfo
  rw [Scan.readBonded] at h
  split at h
  · cases h
  · cases h
    -- A bonded device is read with its address and name, and without a signal strength.
    obtain ⟨dev, -, hdev⟩ := List.mem_filterMap.mp hinfo
    rw [Scan.readDevice] at hdev
    split at hdev
    · cases hdev
    · split at hdev
      · cases hdev
      · cases hdev
        rfl

theorem label_reportDiscovered (env : Environment) (info : DeviceInfo) (s : State) :
    (reportDiscovered env info s).events.map TransitEvent.label
      = s.events.map TransitEvent.label ++ [info.discovered] :=
  List.map_append

/-- What the loop keeps and what it reports: the selection of `discoverLoop_spec`. -/
theorem run_selectDevices (env : Environment) (scan : Scan) (filter : DiscoveryFilter)
    (devices : List DeviceInfo) (s : State) :
    let kept := Selection.keepAfter (filter.accepts scan.toLowercase) filter.limit devices []
    ∃ s', selectDevices env scan filter devices s = (kept, s') ∧
      s'.events.map TransitEvent.label
        = s.events.map TransitEvent.label ++ kept.map DeviceInfo.discovered :=
  discoverLoop_nil (fun s : State => s.events.map TransitEvent.label) DeviceInfo.discovered
    (label_reportDiscovered env) devices s

/-- Without a limit a discovery returns the devices that the filter accepts. -/
theorem run_discover (hlimit : filter.limit = none) (hbonded : scan.readBonded = .ok bonded)
    (h : (discover env scan filter).run s = .ok out s') :
    out = (scan.merged bonded).filter (filter.accepts scan.toLowercase) := by
  obtain ⟨s₁, hselected, -⟩ := run_selectDevices env scan filter (scan.merged bonded)
    (s.emit env default .discoveryStarted)
  unfold discover EStateM.run at h
  simp only [hbonded, hselected] at h
  cases h
  rw [hlimit]
  exact Selection.keepAfter_nil (Option.some_ne_none 0).symm

/-- An id is returned if and only if its first record is accepted, whatever the other records of
it are. -/
theorem mem_ids_iff (hlimit : filter.limit = none) (hbonded : scan.readBonded = .ok bonded)
    (hids : (bonded.map DeviceInfo.id).Nodup)
    (h : (discover env scan filter).run s = .ok out s') (id : DeviceId) :
    id ∈ out.map DeviceInfo.id ↔
      ∃ first, firstOf DeviceInfo.id id (bonded ++ scan.found) = some first ∧
        filter.accepts scan.toLowercase first = true := by
  have hout := run_discover hlimit hbonded h
  rw [← Merging.exists_mem_mergeFirst_iff hids, hout, List.mem_map]
  simp only [List.mem_filter, Scan.merged, and_assoc, and_comm (a := _ = id)]

/-- **When no match is lost**: the first record of each id that has an accepted record is
accepted itself. Both sides are about all ids that a record was read or heard for. -/
theorem noMatchLost_iff (hlimit : filter.limit = none) (hbonded : scan.readBonded = .ok bonded)
    (hids : (bonded.map DeviceInfo.id).Nodup)
    (h : (discover env scan filter).run s = .ok out s') :
    NoMatchLost scan filter bonded out ↔ NoneShadowed scan filter bonded := by
  have hmem := mem_ids_iff hlimit hbonded hids h
  have hnodup : (out.map DeviceInfo.id).Nodup := by
    rw [run_discover hlimit hbonded h]
    exact (Merging.nodup_mergeFirst hids).sublist (List.filter_sublist.map _)
  constructor
  · rintro ⟨-, hall⟩ info hinfo haccepts first hfirst
    obtain ⟨first', hfirst', haccepts'⟩ := (hmem info.id).mp (hall info hinfo haccepts)
    -- the record that was returned under this id is the first one
    cases hfirst.symm.trans hfirst'
    exact haccepts'
  · intro hnone
    refine ⟨hnodup, fun info hinfo haccepts => ?_⟩
    obtain ⟨first, hfirst⟩ : ∃ first,
        firstOf DeviceInfo.id info.id (bonded ++ scan.found) = some first :=
      Merging.exists_firstOf hinfo
    exact (hmem info.id).mpr ⟨first, hfirst, hnone info hinfo haccepts first hfirst⟩

/-- With a bound on the RSSI no bonded device is returned, however near it was found: the record
that is looked at is the bonded one. -/
theorem not_mem_ids_of_bonded (hlimit : filter.limit = none) (hrssi : filter.minRssi ≠ none)
    (hbonded : scan.readBonded = .ok bonded) (hids : (bonded.map DeviceInfo.id).Nodup)
    (h : (discover env scan filter).run s = .ok out s') {dev : DeviceInfo} (hdev : dev ∈ bonded) :
    dev.id ∉ out.map DeviceInfo.id := by
  intro hmem
  obtain ⟨first, hfirst, haccepts⟩ := (mem_ids_iff hlimit hbonded hids h dev.id).mp hmem
  have hbehind : firstOf DeviceInfo.id dev.id (bonded ++ scan.found) = some dev := by
    rw [firstOf, List.find?_append, ← firstOf, Merging.firstOf_of_mem hids hdev]
    rfl
  cases hbehind.symm.trans hfirst
  obtain ⟨least, hleast⟩ := Option.ne_none_iff_exists'.mp hrssi
  rw [DiscoveryFilter.accepts, hleast, rssi_of_mem_readBonded hbonded dev hdev] at haccepts
  cases haccepts

/-! ### A bonded device in range -/

def scanEnv : Environment where
  controller := .virtualModel "android"
  spec := ⟨.v5_0, .dual⟩
  resolve _ := .bredrDefault
  clock n := ⟨n⟩
  remoteDevice _ := .ok ()
  createBond _ := .ok true
  attempt _ := { openSocket := .error "not available", incoming := [] }

/-- A speaker is bonded, and is found as well. -/
def speakerScan : Scan where
  bonded := .ok [⟨some (units BdAddr.nil.display), some (units "Speaker")⟩]
  live := some (.ok [found BdAddr.nil (some "Speaker") (-57)])
  getString := ofUnits
  toLowercase := id

def bondedSpeaker : DeviceInfo :=
  { id := .pub .nil, name := some "Speaker", rssi := none, paired := true, connected := false }

theorem readBonded_speakerScan : speakerScan.readBonded = .ok [bondedSpeaker] := by
  have hread : speakerScan.readDevice ⟨some (units BdAddr.nil.display), some (units "Speaker")⟩
      = some bondedSpeaker := by
    decide
  show Except.ok ([_].filterMap speakerScan.readDevice) = _
  rw [List.filterMap_cons, hread]
  rfl

/-- The filter that every device satisfies. -/
def anyDevice : DiscoveryFilter :=
  { transport := none, nameContains := none, minRssi := none, limit := none }

/-- The filter for devices in range. -/
def inRange : DiscoveryFilter := { anyDevice with minRssi := some (-70) }

theorem run_discover_speakerScan (filter : DiscoveryFilter) : ∃ out s',
    (discover scanEnv speakerScan filter).run ⟨0, 0, [], []⟩ = .ok out s' := by
  unfold discover EStateM.run
  simp only [readBonded_speakerScan]
  exact ⟨_, _, rfl⟩

/-- A tag and a keyboard that an inquiry finds next to the bonded speaker. -/
def tagAddr : BdAddr := ⟨.replicate 6 1⟩
def keyboardAddr : BdAddr := ⟨.replicate 6 2⟩

/-- The speaker is bonded and out of range. The tag is found three times, once too far away, and the
keyboard once, too far away. -/
def tagScan : Scan where
  bonded := speakerScan.bonded
  live := some (.ok [found tagAddr (some "Tag") (-50), found keyboardAddr none (-95),
    found tagAddr (some "Tag") (-90), found tagAddr (some "Tag") (-50)])
  getString := ofUnits
  toLowercase := id

/-- The tag is returned, once: a record of it that the filter rejects stands before one that it
accepts, and behind the first, which it accepts. The bonded speaker and the keyboard, of which the
filter rejects every record, are not returned. -/
theorem noMatchLost_iff_tag : ∃ s',
    (discover scanEnv tagScan inRange).run ⟨0, 0, [], []⟩
      = .ok [found tagAddr (some "Tag") (-50)] s' ∧
    NoMatchLost tagScan inRange [bondedSpeaker] [found tagAddr (some "Tag") (-50)] := by
  have hbonded : tagScan.readBonded = .ok [bondedSpeaker] := readBonded_speakerScan
  obtain ⟨s', hrun⟩ : ∃ s', (discover scanEnv tagScan inRange).run ⟨0, 0, [], []⟩
      = .ok [found tagAddr (some "Tag") (-50)] s' := by
    obtain ⟨out, s', hrun⟩ : ∃ out s',
        (discover scanEnv tagScan inRange).run ⟨0, 0, [], []⟩ = .ok out s' := by
      unfold discover EStateM.run
      simp only [hbonded]
      exact ⟨_, _, rfl⟩
    have hout : out = [found tagAddr (some "Tag") (-50)] :=
      (run_discover rfl hbonded hrun).trans (by decide)
    exact ⟨s', hout ▸ hrun⟩
  refine ⟨s', hrun, (noMatchLost_iff rfl hbonded (List.nodup_singleton _) hrun).mpr ?_⟩
  -- one record after the other: the accepted ones are the tag's, whose first record is accepted
  unfold NoneShadowed
  decide

/-- With a filter by RSSI the speaker is lost: its bonded record has none. -/
theorem bonded_in_range_lost : ∃ out s',
    (discover scanEnv speakerScan inRange).run ⟨0, 0, [], []⟩ = .ok out s' ∧
    ¬ NoMatchLost speakerScan inRange [bondedSpeaker] out := by
  obtain ⟨out, s', hrun⟩ := run_discover_speakerScan inRange
  refine ⟨out, s', hrun, fun h => ?_⟩
  have hmem := h.2 (found BdAddr.nil (some "Speaker") (-57)) (by decide) (by decide)
  exact not_mem_ids_of_bonded rfl (Option.some_ne_none _) readBonded_speakerScan
    (List.nodup_singleton _) hrun (List.mem_singleton_self bondedSpeaker) hmem

end Android
end Pax
