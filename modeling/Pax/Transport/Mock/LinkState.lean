import Pax.Transport.Mock.Discover
import Pax.Transport.Mock.Links

/-!
# What a discovery says about the links

`DeviceInfo` has a flag for a device that is bonded and one for a device that is connected. The mock
records bonds in its paired set and links in its connection table, but `discover` returns the infos
as they were scripted.

A discovery is truthful if the two flags say what was scripted or recorded (`Reports`).
`discover_truthful_iff` has two parts. In a state that is reached, every discovery is truthful if
and only if what is bonded and linked there was scripted so (`AsScripted`). And a run all of whose
steps bond and link only what was scripted so (`ForeseenStep`) reaches no other states.

The first part needs a discovery that returns all devices, which is the one without a filter
(`exists_discover_all`). The second part is an invariant of the steps.
-/

namespace Pax
namespace MockBackend

open Program (Returns returns_done)

/-- The infos of the devices that the backend knows, as they were scripted. -/
def infos (s : MockState) : List DeviceInfo := s.devices.map MockDevice.info

/-- A link to that device is in the connection table, under some token. -/
def Live (s : MockState) (id : DeviceId) : Prop := ∃ token, s.connections.lookup token = some id

/-- The flags say what was scripted and what has been recorded: a device is bonded, or connected,
if it was to be so from the start or has become so since. -/
structure Reports (s : MockState) (scripted : MockDevice) (info : DeviceInfo) : Prop where
  id : info.id = scripted.info.id
  paired : info.paired = true ↔ scripted.info.paired = true ∨ info.id ∈ s.paired
  connected : info.connected = true ↔ scripted.info.connected = true ∨ Live s info.id

/-- A discovery that is made now reports so on every device that it returns. -/
def Truthful (backend : MockBackend) (devices : List MockDevice) (s : MockState) : Prop :=
  ∀ filter es s' out, Served serve s es s' → Returns (backend.discover filter) es (.ok out) →
    ∃ picked : List MockDevice, picked.Sublist devices ∧ List.Forall₂ (Reports s) picked out

/-- Bonded and linked are only devices that were scripted so, so that the scripted flags are
right. -/
def AsScripted (devices : List MockDevice) (s : MockState) : Prop :=
  ∀ device ∈ devices, (device.info.id ∈ s.paired → device.info.paired = true) ∧
    (Live s device.info.id → device.info.connected = true)

/-- The step bonds a device, or links to one, only if it was scripted so. -/
def Foreseen (devices : List MockDevice) : MockCall → Prop
  | .insertPaired id => ∀ device ∈ devices, device.info.id = id → device.info.paired = true
  | .openLink id => ∀ device ∈ devices, device.info.id = id → device.info.connected = true
  | _ => True

/-- The step that a task takes next bonds a device, or links to one, only if it was scripted so. -/
def ForeseenStep {ι : Type} {α : ι → Type} (devices : List MockDevice)
    (w : Pool mockSteps MockState α) (step : ι × PairingResponse) : Prop :=
  ∀ c next, w.task step.1 = .ask c next → Foreseen devices c

variable {backend : MockBackend} {devices : List MockDevice} {s s' : MockState}
  {es : List (Exchange mockSteps)}

/-! ### What a discovery returns -/

/-- No step changes what was scripted of a device, apart from its characteristics. -/
theorem infos_serve (c : MockCall) (answer : PairingResponse) (s : MockState) :
    infos (serve c answer s).2 = infos s :=
  map_devices_serve (fun _ _ => rfl) c answer s

theorem infos_of_served (h : Served serve s es s') : infos s' = infos s :=
  h.invariant (P := fun _ s' => infos s' = infos s) rfl fun _ s' c answer hs =>
    (infos_serve c answer s').trans hs

/-- A discovery returns infos as they were scripted, up to its limit. -/
theorem discover_returns {filter : DiscoveryFilter} {r : Except TransportError (List DeviceInfo)}
    (hserved : Served serve s es s') (h : Returns (backend.discover filter) es r) :
    ∃ found : List MockDevice, found.map MockDevice.info = infos s ∧
      r = .ok (Selection.firstAccepted (filter.accepts backend.toLowercase) filter.limit
        (inReach filter found)) := by
  obtain ⟨event, es₁, rfl, hstarted⟩ := returns_emit_bind h
  obtain ⟨found, es₂, rfl, hfound⟩ := Program.returns_call_bind hstarted
  obtain ⟨es₃, out, es₄, rfl, hloop, hend⟩ := Program.returns_bind.mp hfound
  obtain ⟨rfl, rfl⟩ := returns_done.mp hend
  -- the state at the snapshot has the same infos
  have hsnapshot : Served serve s ([⟨.stamp backend.adapterOrigin .discoveryStarted step, event⟩,
      ⟨.onEvent event, ()⟩] ++ ⟨.snapshot, found⟩ :: (es₃ ++ [])) s' := hserved
  obtain ⟨s₁, answer, hbefore, hreply, -⟩ := hsnapshot.at_exchange
  have hdevices : s₁.devices = found := hreply
  refine ⟨found, ?_, ?_⟩
  · rw [← infos_of_served hbefore, infos, hdevices]
  · rw [(returns_discoverFrom hloop).1, Selection.keepBefore_eq, List.nil_append]
    cases filter.limit <;> rfl

/-- A discovery of everything returns all infos. -/
theorem exists_discover_all (backend : MockBackend) (s : MockState) : ∃ filter es s',
    Served serve s es s' ∧ Returns (backend.discover filter) es (.ok (infos s)) := by
  let filter : DiscoveryFilter :=
    { transport := none, nameContains := none, minRssi := none, limit := none }
  obtain ⟨es, r, s', hreturns, hserved⟩ := exists_served_returns serve (backend.discover filter) s
  refine ⟨filter, es, s', hserved, ?_⟩
  obtain ⟨found, hfound, rfl⟩ := discover_returns hserved hreturns
  have hall : Selection.firstAccepted (filter.accepts backend.toLowercase) filter.limit
      (inReach filter found) = infos s := by
    rw [inReach_of_none rfl, hfound]
    exact List.filter_eq_self.mpr fun _ _ => rfl
  rwa [hall] at hreturns

/-- **When a discovery reports the truth**: the flags are those of the script, so what is bonded
and linked must be what was scripted so. -/
theorem truthful_iff_asScripted (hinfos : infos s = devices.map MockDevice.info) :
    Truthful backend devices s ↔ AsScripted devices s := by
  constructor
  · intro h
    obtain ⟨filter, es, s', hserved, hreturns⟩ := exists_discover_all backend s
    obtain ⟨picked, hpicked, hreports⟩ := h filter es s' _ hserved hreturns
    have hlength := hreports.length_eq
    rw [hinfos, List.length_map] at hlength
    -- everything is returned, so what was picked are all devices
    obtain rfl := hpicked.eq_of_length hlength
    rw [hinfos, List.forall₂_map_right_iff, List.forall₂_same] at hreports
    intro device hdevice
    have hreport := hreports device hdevice
    exact ⟨fun hmem => hreport.paired.mpr (.inr hmem),
      fun hlive => hreport.connected.mpr (.inr hlive)⟩
  · intro h filter es s' out hserved hreturns
    obtain ⟨found, hfound, hout⟩ := discover_returns hserved hreturns
    cases hout
    -- What is returned are infos of some of the devices, in order.
    have hsub : (Selection.firstAccepted (filter.accepts backend.toLowercase) filter.limit
        (inReach filter found)).Sublist (devices.map MockDevice.info) := by
      rw [← hinfos, ← hfound]
      exact Selection.firstAccepted_sublist.trans (List.filter_sublist.map _)
    obtain ⟨picked, hpicked, heq⟩ := List.sublist_map_iff.mp hsub
    refine ⟨picked, hpicked, ?_⟩
    rw [heq, List.forall₂_map_right_iff, List.forall₂_same]
    intro device hdevice
    obtain ⟨hpaired, hconnected⟩ := h device (hpicked.subset hdevice)
    exact ⟨rfl, ⟨.inl, fun h => h.elim id hpaired⟩, ⟨.inl, fun h => h.elim id hconnected⟩⟩

/-! ### In a run -/

/-- A foreseen step bonds no further device, and links to none, that was not scripted so. -/
theorem AsScripted.serve (h : AsScripted devices s) {c : MockCall} (hc : Foreseen devices c)
    (answer : PairingResponse) : AsScripted devices (serve c answer s).2 := by
  intro device hdevice
  obtain ⟨hpaired, hconnected⟩ := h device hdevice
  -- the other steps leave bonds and links as they are
  cases hchanges : changes c with
  | false =>
    obtain ⟨devices', hs⟩ := serve_of_changes hchanges answer s
    rw [hs]
    exact ⟨hpaired, hconnected⟩
  | true =>
    cases c with
    | insertPaired id =>
      refine ⟨fun hmem => ?_, hconnected⟩
      rcases Finset.mem_insert.mp hmem with hid | hmem
      · exact hc device hdevice hid
      · exact hpaired hmem
    | openLink target =>
      refine ⟨hpaired, ?_⟩
      rintro ⟨token, hlookup⟩
      change (s.connections.insert s.nextToken target).lookup token = _ at hlookup
      -- the new link is under a new token
      by_cases htoken : token = s.nextToken
      · rw [htoken, AList.lookup_insert] at hlookup
        exact hc device hdevice (Option.some.inj hlookup).symm
      · rw [AList.lookup_insert_ne htoken] at hlookup
        exact hconnected ⟨token, hlookup⟩
    | closeLink token' =>
      refine ⟨hpaired, ?_⟩
      rintro ⟨token, hlookup⟩
      change (s.connections.erase token').lookup token = _ at hlookup
      by_cases htoken : token = token'
      · rw [htoken, AList.lookup_erase] at hlookup
        cases hlookup
      · rw [AList.lookup_erase_ne htoken] at hlookup
        exact hconnected ⟨token, hlookup⟩
    | _ => first | exact ⟨hpaired, hconnected⟩ | cases hchanges

theorem asScripted_init (devices : List MockDevice) : AsScripted devices (.init devices) := by
  intro device _
  refine ⟨fun hmem => absurd hmem (Finset.notMem_empty _), ?_⟩
  rintro ⟨token, hlookup⟩
  cases hlookup

variable {ι : Type} [DecidableEq ι] {ops : ι → MockOp} {steps : List (ι × PairingResponse)}
  {w : Pool mockSteps MockState fun i => (ops i).Result}

/-- **When discoveries report the truth.** After a run of interleaved operations they do if and only
if what is bonded and linked then was scripted so; and in a run whose steps bond and link only what
was scripted so, they always do. -/
theorem discover_truthful_iff (hrun : (system ops).Run (backend.start devices ops) steps w) :
    (Truthful backend devices w.shared ↔ AsScripted devices w.shared) ∧
      ((system ops).Meets (ForeseenStep devices) (backend.start devices ops) steps →
        Truthful backend devices w.shared) := by
  have hiff := @truthful_iff_asScripted backend devices w.shared
    (infos_of_served (reached hrun).served)
  refine ⟨hiff, fun hmeets => hiff.mpr ?_⟩
  refine hrun.invariant_of_meets (I := fun w => AsScripted devices w.shared) ?_ hmeets
    (asScripted_init devices)
  rintro w ⟨i, answer⟩ w' h hforeseen hnext
  obtain ⟨c, next, htask, rfl⟩ := Pool.next_eq_some.mp hnext
  exact h.serve (hforeseen c next htask) answer

/-! ### A bond that is not reported -/

/-- An operation that pairs with the phone, after which its flag is right or not, depending on
its script. -/
def pairPhone : Unit → MockOp := fun _ => .pair phone.info.id

/-- A phone, and what its script says about the bond. -/
def scriptedPhone (paired : Bool) : MockDevice := { phone with info := { phone.info with paired } }

theorem exists_run_pairPhone (paired : Bool) : ∃ w,
    (system pairPhone).Run (quietBackend.start [scriptedPhone paired] pairPhone)
      (.replicate 7 ((), .confirm true)) w ∧
      phone.info.id ∈ w.shared.paired ∧ w.shared.connections.entries = [] := by
  let p (w : Pool mockSteps MockState fun i => (pairPhone i).Result) : Bool :=
    decide (phone.info.id ∈ w.shared.paired ∧ w.shared.connections.entries = [])
  have hcomputed : ((system pairPhone).exec (quietBackend.start [scriptedPhone paired] pairPhone)
      (.replicate 7 ((), .confirm true))).any p = true := by
    cases paired <;> decide
  obtain ⟨w, hrun, hp⟩ := Lts.exists_run_of_any hcomputed
  exact ⟨w, hrun, of_decide_eq_true hp⟩

/-- A phone is paired. If its script said that it was not, then a discovery says the same still, and
is wrong; if the script said that it was, then the discovery has come to be right. -/
theorem discover_truthful_iff_phone :
    (∃ w, (system pairPhone).Run (quietBackend.start [scriptedPhone false] pairPhone)
        (.replicate 7 ((), .confirm true)) w ∧
      ¬ Truthful quietBackend [scriptedPhone false] w.shared) ∧
    ∃ w, (system pairPhone).Run (quietBackend.start [scriptedPhone true] pairPhone)
        (.replicate 7 ((), .confirm true)) w ∧
      phone.info.id ∈ w.shared.paired ∧ Truthful quietBackend [scriptedPhone true] w.shared := by
  constructor
  · obtain ⟨w, hrun, hpaired, -⟩ := exists_run_pairPhone false
    refine ⟨w, hrun, fun h => ?_⟩
    have hscripted := (discover_truthful_iff hrun).1.mp h
    have hflag : (scriptedPhone false).info.paired = true :=
      (hscripted _ (List.mem_singleton_self _)).1 hpaired
    cases hflag
  · obtain ⟨w, hrun, hpaired, hlinks⟩ := exists_run_pairPhone true
    refine ⟨w, hrun, hpaired, (discover_truthful_iff hrun).1.mpr fun device hdevice => ?_⟩
    obtain rfl := List.mem_singleton.mp hdevice
    refine ⟨fun _ => rfl, ?_⟩
    -- there is no link
    rintro ⟨token, hlookup⟩
    have hmem := AList.mem_lookup_iff.mp hlookup
    rw [hlinks] at hmem
    cases hmem

/-- After it is paired, a discovery still reports that it is not. -/
theorem bond_not_reported : ∃ w,
    (system pairPhone).Run (quietBackend.start [phone] pairPhone) (.replicate 7 ((), .confirm true))
      w ∧ phone.info.id ∈ w.shared.paired ∧ ¬ Truthful quietBackend [phone] w.shared := by
  obtain ⟨w, hrun, hpaired, -⟩ := exists_run_pairPhone false
  refine ⟨w, hrun, hpaired, fun h => ?_⟩
  have hscripted := (truthful_iff_asScripted (infos_of_served (reached hrun).served)).mp h
  have hflag : phone.info.paired = true :=
    (hscripted phone (List.mem_singleton_self phone)).1 hpaired
  cases hflag

end MockBackend
end Pax
