import Pax.Transport.Mock.Operations

/-!
# Runs of the mock backend

Operations of the mock interleaved, and what can be said of every run before anything is said of
events or links: which devices are known never changes. `exists_connects` is a run of any number of
`connect` calls, one after the other, for what happens when a counter comes round.
-/

namespace Pax
namespace MockBackend

/-- The step stamps an event of that sort. -/
def stamps (p : EventOrigin → TransitEventKind → Bool) : Exchange mockSteps → Bool
  | ⟨.stamp origin kind _, _⟩ => p origin kind
  | _ => false

/-- The step hands a token out. -/
def opensLink : Exchange mockSteps → Bool
  | ⟨.openLink _, _⟩ => true
  | _ => false

section Run

variable {backend : MockBackend} {devices : List MockDevice} {ι : Type} [DecidableEq ι]
  (ops : ι → MockOp)

/-- The operations of a mock, interleaved. -/
abbrev system : Lts (Pool mockSteps MockState fun i => (ops i).Result) (ι × PairingResponse) :=
  Pool.system serve

variable {ops} {steps : List (ι × PairingResponse)}
  {w : Pool mockSteps MockState fun i => (ops i).Result}

theorem reached (hrun : (system ops).Run (backend.start devices ops) steps w) :
    Pool.Reached serve (.init devices) (fun i => backend.run (ops i)) w :=
  Pool.reached_of_run hrun

end Run

/-! ### The devices -/

/-- The ids of the devices that the backend knows. -/
def ids (s : MockState) : List DeviceId :=
  s.devices.map fun device => device.info.id

theorem find_eq_none {s : MockState} {id : DeviceId} : s.find id = none ↔ id ∉ ids s := by
  rw [MockState.find, List.find?_eq_none, ids, List.mem_map]
  constructor
  · rintro hnone ⟨device, hmem, hid⟩
    exact hnone device hmem (decide_eq_true hid)
  · intro hnot device hmem hid
    exact hnot ⟨device, hmem, of_decide_eq_true hid⟩

theorem id_of_find {s : MockState} {id : DeviceId} {device : MockDevice}
    (h : s.find id = some device) : device.info.id = id := by
  have hid := List.find?_some h
  exact of_decide_eq_true hid

/-- Changing an entry keeps what is read of the entries, if it is the same of the changed one. -/
theorem map_modify_of_eq {α β : Type} {f : α → β} {g : α → α} (h : ∀ a, f (g a) = f a)
    (l : List α) (k : ℕ) : (l.modify k g).map f = l.map f := by
  induction l generalizing k with
  | nil => cases k <;> rfl
  | cons a l ih =>
    cases k with
    | zero => rw [List.modify_zero_cons, List.map_cons, List.map_cons, h]
    | succ k => rw [List.modify_succ_cons, List.map_cons, List.map_cons, ih]

/-- The steps that change more than a characteristic. -/
def changes : MockCall → Bool
  | .stamp .. => true
  | .onEvent _ => true
  | .openLink _ => true
  | .closeLink _ => true
  | .insertPaired _ => true
  | .advance _ => true
  | _ => false

/-- Every other step leaves all as it is, except for what the devices hold. -/
theorem serve_of_changes {c : MockCall} (h : changes c = false) (answer : PairingResponse)
    (s : MockState) : ∃ devices : List MockDevice, (serve c answer s).2 = { s with devices } := by
  cases c with
  | checkLink conn =>
    refine ⟨s.devices, ?_⟩
    simp only [serve]
    split <;> [skip; split] <;> rfl
  | gattGet peer service characteristic =>
    refine ⟨s.devices, ?_⟩
    simp only [serve]
    split <;> [skip; split] <;> rfl
  | gattInsert peer service characteristic data =>
    simp only [serve]
    split
    · exact ⟨s.devices, rfl⟩
    · exact ⟨_, rfl⟩
  | gattQueue peer service characteristic =>
    refine ⟨s.devices, ?_⟩
    simp only [serve]
    split <;> rfl
  | _ => first | exact ⟨s.devices, rfl⟩ | cases h

/-- **No step changes a device**, apart from the values of its characteristics: what does not depend
on these stays, device by device. -/
theorem map_devices_serve {β : Type} {f : MockDevice → β}
    (hf : ∀ (device : MockDevice) gatt, f { device with gatt } = f device) (c : MockCall)
    (answer : PairingResponse) (s : MockState) :
    (serve c answer s).2.devices.map f = s.devices.map f := by
  cases c with
  | checkLink conn =>
    simp only [serve]
    split <;> [skip; split] <;> rfl
  | gattGet peer service characteristic =>
    simp only [serve]
    split <;> [skip; split] <;> rfl
  | gattInsert peer service characteristic data =>
    -- the only step by which a device changes
    simp only [serve]
    split
    · rfl
    · exact map_modify_of_eq (fun device => hf device _) _ _
  | gattQueue peer service characteristic =>
    simp only [serve]
    split <;> rfl
  | _ => rfl

/-- No step adds a device, or takes one away. -/
theorem ids_serve (c : MockCall) (answer : PairingResponse) (s : MockState) :
    ids (serve c answer s).2 = ids s :=
  map_devices_serve (fun _ _ => rfl) c answer s

theorem ids_of_served {s s' : MockState} {es : List (Exchange mockSteps)}
    (h : Served serve s es s') : ids s' = ids s :=
  h.invariant (P := fun _ s' => ids s' = ids s) rfl fun _ s' c answer hs =>
    (ids_serve c answer s').trans hs

/-! ### A small backend -/

/-- A phone that pairs and takes files without failure. -/
def phone : MockDevice :=
  { info := { id := .pub .nil, name := some "Phone", rssi := none, paired := false,
              connected := false }
    spec := ⟨.v5_2, .brEdr⟩
    standards := .bredrDefault
    pairingMethod := .justWorks
    pairingFailure := none
    chunkSize := 1024
    perChunkLatency := .fromMillis 1
    transferFailureAfter := none
    gatt := ∅
    gattNotifications := ∅ }

/-- A backend that no device pairs to on its own account. -/
def quietBackend : MockBackend :=
  { controller := .virtualModel "pax-mock-0", spec := ⟨.v5_2, .brEdr⟩, incoming := []
    toLowercase := id }

/-- A discovery of everything: no filter, and no limit. -/
def discoverAll : MockOp :=
  .discover { transport := none, nameContains := none, minRssi := none, limit := none }

/-- A UUID of zeros, where it does not matter which service or characteristic it is. -/
def zeroUuid : Uuid := ⟨.replicate 16 0⟩

/-- Two discoveries of all devices, one for each task. -/
def discoveries : Bool → MockOp := fun _ => discoverAll

/-- The two begin together, the second one is first to call the observer, and both go on to their
ends. -/
def overlap : List (Bool × PairingResponse) :=
  [false, true, true, false, true, true, true, false, false, false].map fun i => (i, .cancel)

/-- Any number of connections to the phone. -/
def connects : ℕ → MockOp := fun _ => .connect phone.info.id

instance : Nonempty PairingResponse := ⟨.cancel⟩

/-- There are `2 ^ 64` values of a counter, so that some value occurs twice among more than
these. -/
theorem not_nodup_of_length {l : List UInt64} (h : 2 ^ 64 < l.length) : ¬ l.Nodup := by
  intro hnodup
  have hsub : (l.map UInt64.toNat).Nodup :=
    hnodup.map fun a b hab => UInt64.toNat_inj.mp hab
  have hle : (l.map UInt64.toNat).toFinset ⊆ Finset.range (2 ^ 64) := by
    intro n hn
    obtain ⟨a, -, rfl⟩ := List.mem_map.mp (List.mem_toFinset.mp hn)
    exact Finset.mem_range.mpr a.toNat_lt
  have hcard := Finset.card_le_card hle
  rw [List.toFinset_card_of_nodup hsub, List.length_map, Finset.card_range] at hcard
  omega

/-- Each connection made in turn hands one token out and stamps one event. -/
theorem exists_connects (n : ℕ) : ∃ steps w,
    (system connects).Run (quietBackend.start [phone] connects) steps w ∧
      (w.trace.map Prod.snd).countP opensLink = n ∧
      (w.trace.map Prod.snd).countP (stamps fun _ _ => true) = n ∧
      ∀ i, n ≤ i → w.task i = quietBackend.run (connects i) := by
  induction n with
  | zero => exact ⟨[], _, .nil _, rfl, rfl, fun i _ => rfl⟩
  | succ n ih =>
    obtain ⟨steps, w, hrun, hopens, hstamps, hrest⟩ := ih
    obtain ⟨steps', w', es, r, hrun', htask, htrace, hreturns, hserved⟩ :=
      Pool.exists_run_done (H := serve) w n
    rw [hrest n le_rfl] at hreturns
    refine ⟨steps ++ steps', w', hrun.append hrun', ?_⟩
    have hone : es.countP opensLink = 1 ∧ es.countP (stamps fun _ _ => true) = 1 := by
      obtain ⟨hes, -⟩ | ⟨device, token, dt, event, hes, -⟩ := returns_connect hreturns
      · -- the phone is always found
        exfalso
        rw [hes] at hserved
        obtain ⟨answer, hreply, -⟩ := hserved.of_singleton
        have hids : ids w.shared = [phone.info.id] := ids_of_served (reached hrun).served
        have hnone : w.shared.find phone.info.id = none := hreply
        rw [find_eq_none, hids] at hnone
        exact hnone List.mem_cons_self
      · rw [hes]
        exact ⟨rfl, rfl⟩
    -- The exchanges of the new operation come behind those of the others.
    have hmap : es.map (Prod.snd ∘ Prod.mk n) = es := List.map_id _
    rw [htrace, List.map_append, List.map_map, List.countP_append, List.countP_append, hopens,
      hstamps, hmap, hone.1, hone.2]
    refine ⟨rfl, rfl, fun i hi => ?_⟩
    rw [htask, Function.update_of_ne (by omega)]
    exact hrest i (by omega)

end MockBackend
end Pax
