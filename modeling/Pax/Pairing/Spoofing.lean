import Pax.Pairing.Session

/-!
# The address is set once and first

The workflows that take an address to impersonate: `pair_device`, `pair_devices` and
`pair_discovered` of `pax-pairing/src/workflow.rs`, and `discover_as` and `connect_as` of
`pax-transport/src/backend.rs`. They hand the option on to each other, each after it has set the
address and cleared the option.

All of them are `apply_spoof` with a rest that does not set an address, and that fails at once if
setting it did (`program_eq`). So the address is set once, and before everything else, or not at
all; and nothing else is done under an address that could not be set.
-/

namespace Pax
namespace Pairing

open Program (Returns)

/-- What a backend does for the workflows that set an address: to pair, to scan and to connect. -/
structure WorkflowOps (I : Interface) extends PairingOps I where
  discover : DiscoveryFilter → Program I (Except TransportError (List DeviceInfo))
  connect : DeviceId → Program I (Except TransportError Connection)

section Workflows

variable {I : Interface} (ops : WorkflowOps I)

/-- Scan under an optional local identity, which is set first. -/
def discoverAs (spoof : Option BdAddr) (filter : DiscoveryFilter) :
    Program I (Except TransportError (List DeviceInfo)) := do
  match ← applySpoof ops.toPairingOps spoof with
  | .error e => return .error e
  | .ok () => ops.discover filter

/-- Connect under an optional local identity, which is set first. -/
def connectAs (spoof : Option BdAddr) (target : DeviceId) :
    Program I (Except TransportError Connection) := do
  match ← applySpoof ops.toPairingOps spoof with
  | .error e => return .error e
  | .ok () => ops.connect target

/-- Discover devices that match, then pair with all of them. `none` is a panic of the batch. -/
def pairDiscovered (picks : ℕ → List ℕ) (filter : DiscoveryFilter) (options : BatchPairOptions) :
    Program I (Option (Except TransportError (List PairItem))) := do
  -- the address is set before the scan, and then cleared for the batch
  match ← applySpoof ops.toPairingOps options.perDevice.spoofLocal with
  | .error e => return some (.error e)
  | .ok () =>
    match ← ops.discover filter with
    | .error e => return some (.error e)
    | .ok found =>
      let targets := found.map DeviceInfo.id
      let items ← pairDevices ops.toPairingOps picks targets
        { options with perDevice := { options.perDevice with spoofLocal := none } }
      return items.map .ok

end Workflows

/-! ### What they call -/

/-- The operations of the backend that these workflows use. -/
inductive WorkflowCall where
  | setLocalAddress (addr : BdAddr)
  | discover (filter : DiscoveryFilter)
  | pair (target : DeviceId)
  | connect (target : DeviceId)

def WorkflowCall.Reply : WorkflowCall → Type
  | .setLocalAddress _ => Except TransportError Unit
  | .discover _ => Except TransportError (List DeviceInfo)
  | .pair _ => Except TransportError PairingOutcome
  | .connect _ => Except TransportError Connection

abbrev workflowCalls : Interface := { Call := WorkflowCall, Reply := WorkflowCall.Reply }

/-- The operations as calls: each of them is one call. -/
def workflowOps (capabilities : Capabilities) : WorkflowOps workflowCalls where
  capabilities
  setLocalAddress addr := Program.call (I := workflowCalls) (.setLocalAddress addr)
  pair target := Program.call (I := workflowCalls) (.pair target)
  discover filter := Program.call (I := workflowCalls) (.discover filter)
  connect target := Program.call (I := workflowCalls) (.connect target)

/-- A call of one of the workflows, with its arguments. -/
inductive Workflow where
  | pairDevice (target : DeviceId) (options : PairOptions)
  | pairDevices (picks : ℕ → List ℕ) (targets : List DeviceId) (options : BatchPairOptions)
  | pairDiscovered (picks : ℕ → List ℕ) (filter : DiscoveryFilter) (options : BatchPairOptions)
  | discoverAs (spoof : Option BdAddr) (filter : DiscoveryFilter)
  | connectAs (spoof : Option BdAddr) (target : DeviceId)

namespace Workflow

/-- What the call comes to; for the batches, `none` is a panic. -/
def Result : Workflow → Type
  | .pairDevice .. => Except TransportError PairReport
  | .pairDevices .. => Option (List PairItem)
  | .pairDiscovered .. => Option (Except TransportError (List PairItem))
  | .discoverAs .. => Except TransportError (List DeviceInfo)
  | .connectAs .. => Except TransportError Connection

/-- The address to impersonate, if one is given. -/
def spoof : Workflow → Option BdAddr
  | .pairDevice _ options => options.spoofLocal
  | .pairDevices _ _ options => options.perDevice.spoofLocal
  | .pairDiscovered _ _ options => options.perDevice.spoofLocal
  | .discoverAs spoof _ => spoof
  | .connectAs spoof _ => spoof

/-- The call as a program, on a backend with these capabilities. -/
def program (capabilities : Capabilities) : (w : Workflow) → Program workflowCalls w.Result
  | .pairDevice target options =>
    Pairing.pairDevice (workflowOps capabilities).toPairingOps target options
  | .pairDevices picks targets options =>
    Pairing.pairDevices (workflowOps capabilities).toPairingOps picks targets options
  | .pairDiscovered picks filter options =>
    Pairing.pairDiscovered (workflowOps capabilities) picks filter options
  | .discoverAs spoof filter => Pairing.discoverAs (workflowOps capabilities) spoof filter
  | .connectAs spoof target => Pairing.connectAs (workflowOps capabilities) spoof target

/-- The call reports failure; a batch does for every one of its targets, after no attempt. -/
def Failed : (w : Workflow) → w.Result → Prop
  | .pairDevice .., r => ∃ e, r = .error e
  | .pairDevices _ targets _, r => ∃ items, r = some items ∧
    items.map PairItem.id = targets.eraseDups ∧
    ∀ item ∈ items, (∃ e, item.outcome = .error e) ∧ item.attempts = 0
  | .pairDiscovered .., r => ∃ e, r = some (.error e)
  | .discoverAs .., r => ∃ e, r = .error e
  | .connectAs .., r => ∃ e, r = .error e

/-- The call is the one that sets the local address. -/
def sets : WorkflowCall → Bool
  | .setLocalAddress _ => true
  | _ => false

variable {capabilities : Capabilities}

theorem not_sets_pair (target : DeviceId) :
    ((workflowOps capabilities).pair target).Uses fun c => sets c = false :=
  ⟨rfl, fun _ => trivial⟩

/-- **Every workflow sets the address first**; what follows does not set it, and there is nothing
but a failure if that failed. -/
theorem program_eq (w : Workflow) :
    ∃ rest : Except TransportError Unit → Program workflowCalls w.Result,
      w.program capabilities
          = applySpoof (workflowOps capabilities).toPairingOps w.spoof >>= rest ∧
        (∀ e, ∃ r, rest (.error e) = .done r ∧ w.Failed r) ∧
        (rest (.ok ())).Uses fun c => sets c = false := by
  -- Each workflow sets the address first, and goes on without setting it.
  cases w with
  | pairDevice target options =>
    refine ⟨_, rfl, fun e => ⟨_, rfl, e, rfl⟩, ?_⟩
    exact compositional_pairFrom (Program.compositional_uses _) (not_sets_pair target) 0 _ _
  | pairDevices picks targets options =>
    refine ⟨_, rfl, fun e => ⟨_, rfl, _, rfl, ?_, ?_⟩, ?_⟩
    · rw [List.map_map]
      exact (List.map_id _).trans (congrArg Prod.fst (dedupe_eq targets))
    · intro item hitem
      obtain ⟨id, -, rfl⟩ := List.mem_map.mp hitem
      exact ⟨⟨_, rfl⟩, rfl⟩
    · exact compositional_batch (Program.compositional_uses _) not_sets_pair picks _ _ _ _ _
  | pairDiscovered picks filter options =>
    refine ⟨_, rfl, fun e => ⟨_, rfl, e, rfl⟩, ?_⟩
    refine ⟨rfl, fun found => ?_⟩
    cases found with
    | error e => trivial
    | ok found =>
      -- the batch is given no address, so that it goes straight to its rounds
      have hP := Program.compositional_uses (I := workflowCalls) fun c => sets c = false
      exact (compositional_batch hP not_sets_pair picks _ _ _ _ _).bind fun _ => trivial
  | discoverAs spoof filter =>
    exact ⟨_, rfl, fun e => ⟨_, rfl, e, rfl⟩, rfl, fun _ => trivial⟩
  | connectAs spoof target =>
    exact ⟨_, rfl, fun e => ⟨_, rfl, e, rfl⟩, rfl, fun _ => trivial⟩

theorem countP_sets_eq_zero {α : Type} {p : Program workflowCalls α}
    {es : List (Exchange workflowCalls)} {a : α} (hp : p.Uses fun c => sets c = false)
    (h : Returns p es a) :
    es.countP (fun e => sets e.call) = 0 := by
  refine List.countP_eq_zero.mpr fun e he => ?_
  rw [hp.path h e he]
  exact Bool.false_ne_true

/-- **The address is set once and first.** If one is given and the backend can set it, the first
call is to set it and there is no other such call; if that fails, there is no other call at all, and
the workflow fails. If the backend cannot set it, the workflow fails without a call. If none is
given, no call sets it. -/
theorem spoof_once_and_first (capabilities : Capabilities) (w : Workflow)
    (es : List (Exchange workflowCalls)) (r : w.Result)
    (h : Returns (w.program capabilities) es r) :
    es.countP (fun e => sets e.call)
        = (if w.spoof.isSome ∧ capabilities.canSpoofAddress = true then 1 else 0) ∧
      (∀ addr, w.spoof = some addr → capabilities.canSpoofAddress = true →
        ∃ (result : Except TransportError Unit) (rest : List (Exchange workflowCalls)),
          es = ⟨.setLocalAddress addr, result⟩ :: rest ∧
            ∀ e, result = .error e → rest = [] ∧ w.Failed r) ∧
      ∀ addr, w.spoof = some addr → capabilities.canSpoofAddress = false →
        es = [] ∧ w.Failed r := by
  obtain ⟨rest, hprogram, herror, huses⟩ := w.program_eq
  rw [hprogram] at h
  have hcapabilities : (workflowOps capabilities).capabilities = capabilities := rfl
  -- After an error nothing more is called, and the workflow fails with it.
  have hstop {e : TransportError} {es' : List (Exchange workflowCalls)}
      (hrest : Returns (rest (.error e)) es' r) : es' = [] ∧ w.Failed r := by
    obtain ⟨r', hdone, hfailed⟩ := herror e
    rw [hdone] at hrest
    obtain ⟨rfl, rfl⟩ := Program.returns_done.mp hrest
    exact ⟨rfl, hfailed⟩
  cases hspoof : w.spoof with
  | none =>
    rw [hspoof] at h
    exact ⟨by simpa using countP_sets_eq_zero huses h, by simp, by simp⟩
  | some addr =>
    rw [hspoof, applySpoof, hcapabilities] at h
    cases hcan : capabilities.canSpoofAddress with
    | false =>
      rw [if_pos (by simp [hcan])] at h
      obtain ⟨rfl, hfailed⟩ := hstop h
      exact ⟨by simp, by simp, fun _ _ _ => ⟨rfl, hfailed⟩⟩
    | true =>
      rw [if_neg (by simp [hcan])] at h
      obtain ⟨result, es', rfl, hnext⟩ := Program.returns_call_bind h
      change Except TransportError Unit at result
      -- What follows never sets the address.
      have hzero : es'.countP (fun e => sets e.call) = 0 := by
        cases result with
        | error e => rw [(hstop hnext).1, List.countP_nil]
        | ok u => exact countP_sets_eq_zero huses hnext
      refine ⟨?_, ?_, by simp⟩
      · rw [List.countP_cons, hzero]
        rfl
      · rintro _ ⟨⟩ -
        refine ⟨result, es', rfl, ?_⟩
        rintro e rfl
        exact hstop hnext

/-- A headset and a keyboard, as a scan finds them. -/
def headset : DeviceInfo :=
  { id := .pub ⟨.replicate 6 3⟩, name := some "Headset", rssi := some (-50), paired := false
    connected := false }
def keyboard : DeviceInfo :=
  { id := .pub ⟨.replicate 6 4⟩, name := some "Keyboard", rssi := some (-60), paired := false
    connected := false }

def disguise : BdAddr := ⟨.replicate 6 9⟩

/-- Pair with what a scan finds, under another address, in up to two rounds. -/
def disguised : Workflow :=
  .pairDiscovered (fun _ => [0, 0, 0, 0]) ⟨none, none, none, none⟩ ⟨none, 2, ⟨0, some disguise⟩⟩

/-- The address is set, both devices are found, and the headset bonds in the second round. -/
def disguisedCalls : List (Exchange workflowCalls) :=
  [⟨.setLocalAddress disguise, .ok ()⟩,
    ⟨.discover ⟨none, none, none, none⟩, .ok [headset, keyboard]⟩,
    ⟨.pair headset.id, .error (.timeout "page")⟩, ⟨.pair keyboard.id, .ok ⟨true, true, .justWorks⟩⟩,
    ⟨.pair headset.id, .ok ⟨true, true, .justWorks⟩⟩]

/-- One workflow on three backends. Where the address is set, that is the first of five calls and no
other one sets it; where setting it is refused, that is the one call, and the workflow fails; and
where the backend cannot set it, there is no call, and the workflow fails. -/
theorem spoof_once_and_first_discovered :
    (∃ r, Returns (disguised.program ⟨.mock, 2, true⟩) disguisedCalls r ∧
      disguisedCalls.countP (fun e => sets e.call) = 1 ∧
      ∃ (result : Except TransportError Unit) (rest : List (Exchange workflowCalls)),
        disguisedCalls = ⟨.setLocalAddress disguise, result⟩ :: rest) ∧
    (∃ r, Returns (disguised.program ⟨.mock, 2, true⟩)
        [⟨.setLocalAddress disguise, .error (.backend "busy")⟩] r ∧ disguised.Failed r) ∧
    ∃ r, Returns (disguised.program ⟨.btleplug, 2, false⟩) [] r ∧ disguised.Failed r := by
  obtain ⟨r, hset⟩ : ∃ r, Returns (disguised.program ⟨.mock, 2, true⟩) disguisedCalls r :=
    ⟨_, .cons _ (.cons _ (.cons _ (.cons _ (.cons _ (.nil _)))))⟩
  obtain ⟨r', hrefused⟩ : ∃ r, Returns (disguised.program ⟨.mock, 2, true⟩)
      [⟨.setLocalAddress disguise, .error (.backend "busy")⟩] r := ⟨_, .cons _ (.nil _)⟩
  obtain ⟨r'', hunable⟩ : ∃ r, Returns (disguised.program ⟨.btleplug, 2, false⟩) [] r :=
    ⟨_, .nil _⟩
  refine ⟨⟨r, hset, ?_⟩, ⟨r', hrefused, ?_⟩, r'', hunable, ?_⟩
  · obtain ⟨hcount, hfirst, -⟩ := spoof_once_and_first _ disguised _ _ hset
    obtain ⟨result, rest, hcalls, -⟩ := hfirst disguise rfl rfl
    exact ⟨hcount, result, rest, hcalls⟩
  · obtain ⟨-, hfirst, -⟩ := spoof_once_and_first _ disguised _ _ hrefused
    obtain ⟨result, rest, hcalls, hfails⟩ := hfirst disguise rfl rfl
    cases hcalls
    exact (hfails _ rfl).2
  · obtain ⟨-, -, hnone⟩ := spoof_once_and_first _ disguised _ _ hunable
    exact (hnone disguise rfl rfl).2

end Workflow

end Pairing
end Pax
