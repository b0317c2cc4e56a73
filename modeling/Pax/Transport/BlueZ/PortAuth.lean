import Mathlib.Data.List.AList
import Pax.Core.AddressText
import Pax.Core.Spec
import Pax.Framework.Ensures
import Pax.Framework.Linearizable
import Pax.Transport.Backend

/-!
# Port authentication from NetworkManager

`NetworkManagerStandards` of `pax-transport/src/bluez/port_auth.rs`. A refresh asks NetworkManager
for its devices, reads the properties of each in calls of their own, and then puts what it has
collected in the place of the cache. `resolve` looks a peer up. Any number of refreshes and resolves
may be in progress, and NetworkManager may change between any two calls.

All the same, the table of states that is resolved from is that of one refresh as a whole, and it
changes at once (`refresh_linearizable`). The specification of a refresh that is done at once
(`Op.atomic`) is about the calls that this refresh has made itself: the device list that it was
answered, and for each device on it the exchanges in which it read that device (`ReadAs`). So a
table that is made of readings of two refreshes, or of none, does not meet it.

If the devices of NetworkManager stand still, then the table is up to date as soon as one refresh
has succeeded, however many others fail because NetworkManager is not reached or does not list its
devices (`resolve_of_still`).

## How the proof goes

Each operation has one step at which it takes effect (`commits`, `commits_once`), which is its last
one (`eq_nil_of_commits`): a refresh stores what it has collected or fails, and a resolve reads. At
this step, what the operation does is what its specification says (`atomic_of_returns`). The order
in which the operations take effect is then a linearization, by the rule for pools of programs with
such steps.
-/

namespace Pax
namespace PortAuth

open Program (Ensures Path Returns call returns_done)

/-! ### NetworkManager -/

def NM_DEVICE_TYPE_BT : UInt32 := 5
def NM_STATE_NEED_AUTH : UInt32 := 60
def NM_STATE_ACTIVATED : UInt32 := 100
def NM_STATE_FAILED : UInt32 := 120

/-- `map_state`: three states of NetworkManager have a meaning of their own, and in all others the
device is not authenticated. -/
def mapState (nmState : UInt32) : PortAuthState :=
  if nmState = NM_STATE_NEED_AUTH then .authenticating
  else if nmState = NM_STATE_ACTIVATED then .authenticated
  else if nmState = NM_STATE_FAILED then .failed
  else .unauthenticated

/-- What can be read of a device; `none` is a failure. -/
@[ext]
structure Device where
  /-- Whether its proxy can be built. -/
  proxy : Bool
  deviceType : Option UInt32
  hwAddress : Option String
  state : Option UInt32
  deriving DecidableEq, Repr

/-- NetworkManager, as it is at some time. -/
structure Daemon where
  /-- Whether its own proxy can be built. -/
  proxy : Except String Unit
  devices : Except String (List String)
  /-- The device at a path. -/
  device : String → Device

/-! ### The resolver -/

abbrev Cache := AList fun _ : DeviceId => PortAuthState

inductive Call where
  | newProxy
  | getDevices
  | newDeviceProxy (path : String)
  | deviceType (path : String)
  | hwAddress (path : String)
  | state (path : String)
  /-- Replace the cache, under the lock. -/
  | store (fresh : Cache)
  /-- Look a peer up, under the lock. -/
  | get (peer : DeviceId)

def Call.Reply : Call → Type
  | .newProxy => Except String Unit
  | .getDevices => Except String (List String)
  | .newDeviceProxy _ => Bool
  | .deviceType _ => Option UInt32
  | .hwAddress _ => Option String
  | .state _ => Option UInt32
  | .store _ => Unit
  | .get _ => Option PortAuthState

abbrev calls : Interface := { Call := Call, Reply := Call.Reply }

instance (c : Call) : Nonempty (calls.Reply c) := by
  cases c <;> first | exact ⟨none⟩ | exact ⟨()⟩ | exact ⟨true⟩ | exact ⟨.error ""⟩

/-- Each call finds NetworkManager as it is then, in one of the states of `S`. -/
def serve (S : Set Daemon) : Handler calls S Cache
  | .newProxy, nm, cache => (nm.1.proxy, cache)
  | .getDevices, nm, cache => (nm.1.devices, cache)
  | .newDeviceProxy path, nm, cache => ((nm.1.device path).proxy, cache)
  | .deviceType path, nm, cache => ((nm.1.device path).deviceType, cache)
  | .hwAddress path, nm, cache => ((nm.1.device path).hwAddress, cache)
  | .state path, nm, cache => ((nm.1.device path).state, cache)
  | .store fresh, _, _ => ((), fresh)
  | .get peer, _, cache => (cache.lookup peer, cache)

/-- The error of a call to NetworkManager that has failed. -/
def zerr (e : String) : TransportError := .backend ("networkmanager: " ++ e)

/-- What the loop of `refresh` inserts for a device, unless it goes on to the next one. -/
def readDevice (path : String) : Program calls (Option (DeviceId × PortAuthState)) := do
  let proxy ← call (I := calls) (.newDeviceProxy path)
  match proxy with
  | false => return none
  | true =>
    let dtype ← call (I := calls) (.deviceType path)
    if Option.getD dtype 0 ≠ NM_DEVICE_TYPE_BT then return none
    else
      let hw ← call (I := calls) (.hwAddress path)
      match hw with
      | none => return none
      | some hw =>
        let state ← call (I := calls) (.state path)
        match BdAddr.fromStr hw with
        | .error _ => return none
        | .ok addr => return some (.pub addr, mapState (Option.getD state 0))

/-- The loop of `refresh` over the paths; a device that cannot be read is left out. -/
def readDevices : List String → (fresh : Cache) → Program calls Cache
  | [], fresh => return fresh
  | path :: paths, fresh => do
    match ← readDevice path with
    | none => readDevices paths fresh
    | some (id, state) => readDevices paths (fresh.insert id state)

/-- `refresh`: the cache is replaced once all devices have been read. A device that cannot be
read is left out. -/
def refresh : Program calls (Except TransportError Unit) := do
  let nm ← call (I := calls) .newProxy
  match nm with
  | .error e => return .error (zerr e)
  | .ok () =>
    let devices ← call (I := calls) .getDevices
    match devices with
    | .error e => return .error (zerr e)
    | .ok devices =>
      let fresh ← readDevices devices ∅
      call (I := calls) (.store fresh)
      return .ok ()

/-- `resolve`: a peer that is not in the cache has no port to be authenticated at. -/
def resolve (peer : DeviceId) : Program calls StandardsProfile := do
  let state ← call (I := calls) (.get peer)
  return { StandardsProfile.bredrDefault with portAuth := Option.getD state .notApplicable }

inductive Op where
  /-- Also each round of `spawn_auto_refresh`. -/
  | refresh
  | resolve (peer : DeviceId)
  deriving DecidableEq

def Op.Result : Op → Type
  | .refresh => Except TransportError Unit
  | .resolve _ => StandardsProfile

def Op.run : (op : Op) → Program calls op.Result
  | .refresh => PortAuth.refresh
  | .resolve peer => PortAuth.resolve peer

/-! ### What it is for -/

/-- What the loop takes from a device: its address and its state, if it is a Bluetooth device
with an address that can be read. -/
def Device.entry (d : Device) : Option (DeviceId × PortAuthState) :=
  if d.proxy ∧ d.deviceType.getD 0 = NM_DEVICE_TYPE_BT then
    d.hwAddress.bind fun hw =>
      (BdAddr.fromStr hw).toOption.map fun addr => (.pub addr, mapState (d.state.getD 0))
  else none

/-- The states of all peers, as a refresh replaces them and a resolve reads them. -/
abbrev Table := DeviceId → PortAuthState

/-- The table that a list of entries makes. If a peer has several of them, the last one counts. -/
def tableOf (entries : List (DeviceId × PortAuthState)) : Table := fun peer =>
  ((entries.reverse.find? fun entry => entry.1 = peer).map Prod.snd).getD .notApplicable

/-- The table of a cache. A peer that is not in the cache has no port authentication. -/
def Cache.table (cache : Cache) : Table := fun peer => (cache.lookup peer).getD .notApplicable

/-- The exchanges in which one turn of the loop reads the device at `path`, and the device that
these answers describe. What is not asked for any more, once the turn is over, is left open. -/
inductive ReadAs (path : String) : List (Exchange calls) → Device → Prop
  | noProxy {d : Device} (hproxy : d.proxy = false) :
    ReadAs path [⟨.newDeviceProxy path, d.proxy⟩] d
  | otherType {d : Device} (hproxy : d.proxy = true)
    (htype : d.deviceType.getD 0 ≠ NM_DEVICE_TYPE_BT) :
    ReadAs path [⟨.newDeviceProxy path, d.proxy⟩, ⟨.deviceType path, d.deviceType⟩] d
  | noAddress {d : Device} (hproxy : d.proxy = true)
    (htype : d.deviceType.getD 0 = NM_DEVICE_TYPE_BT) (haddr : d.hwAddress = none) :
    ReadAs path [⟨.newDeviceProxy path, d.proxy⟩, ⟨.deviceType path, d.deviceType⟩,
      ⟨.hwAddress path, d.hwAddress⟩] d
  | whole {d : Device} (hproxy : d.proxy = true)
    (htype : d.deviceType.getD 0 = NM_DEVICE_TYPE_BT) :
    ReadAs path [⟨.newDeviceProxy path, d.proxy⟩, ⟨.deviceType path, d.deviceType⟩,
      ⟨.hwAddress path, d.hwAddress⟩, ⟨.state path, d.state⟩] d

/-- What an operation does if it is done at once, `own` being all exchanges that it has itself. A
refresh that was not answered leaves the table. One that was answered a list of paths reads the
devices at these paths, one after the other, and replaces the table by the entries of what it has
read. -/
def Op.atomic (own : List (Exchange calls)) :
    (op : Op) → (a : Table) → (r : op.Result) → (a' : Table) → Prop
  | .refresh, a, r, a' =>
    (∃ e, (own = [⟨.newProxy, .error e⟩] ∨
        own = [⟨.newProxy, .ok ()⟩, ⟨.getDevices, .error e⟩]) ∧ r = .error (zerr e) ∧ a' = a) ∨
      ∃ (paths : List String) (reads : List (List (Exchange calls) × Device)) (fresh : Cache),
        own = ⟨.newProxy, .ok ()⟩ :: ⟨.getDevices, .ok paths⟩
          :: ((reads.map Prod.fst).flatten ++ [⟨.store fresh, ()⟩]) ∧
        List.Forall₂ (fun path read => ReadAs path read.1 read.2) paths reads ∧
        r = .ok () ∧ a' = tableOf ((reads.map Prod.snd).filterMap Device.entry)
  | .resolve peer, a, r, a' =>
    r = { StandardsProfile.bredrDefault with portAuth := a peer } ∧ a' = a

variable {S : Set Daemon} {path : String} {paths : List String} {fresh cache : Cache}
  {es : List (Exchange calls)} {e : Exchange calls} {op : Op}

/-! ### One refresh -/

theorem table_foldl_insert (entries : List (DeviceId × PortAuthState)) :
    Cache.table (entries.foldl (fun cache entry => cache.insert entry.1 entry.2) ∅)
      = tableOf entries := by
  -- On the entries from the last, which is the one that counts for its peer.
  induction entries using List.reverseRecOn with
  | nil => rfl
  | append_singleton entries entry ih =>
    funext peer
    rw [List.foldl_append, List.foldl_cons, List.foldl_nil, Cache.table, tableOf,
      List.reverse_append, List.reverse_singleton, List.singleton_append]
    by_cases hpeer : entry.1 = peer
    · subst hpeer
      rw [AList.lookup_insert, List.find?_cons_of_pos (by simp)]
      rfl
    · rw [AList.lookup_insert_ne (Ne.symm hpeer), List.find?_cons_of_neg (by simpa using hpeer)]
      exact congrFun ih peer

/-- What one turn of the loop collects is the entry of the device that it has read. -/
theorem returns_readDevice {r : Option (DeviceId × PortAuthState)}
    (h : Returns (readDevice path) es r) : ∃ d, ReadAs path es d ∧ d.entry = r := by
  obtain ⟨proxy, es₁, rfl, hproxied⟩ := Program.returns_call_bind h
  change Bool at proxy
  cases proxy with
  | false =>
    obtain ⟨rfl, rfl⟩ := returns_done.mp hproxied
    exact ⟨⟨false, none, none, none⟩, .noProxy (d := ⟨false, none, none, none⟩) rfl, rfl⟩
  | true =>
    obtain ⟨dtype, es₂, rfl, htyped⟩ := Program.returns_call_bind hproxied
    change Option UInt32 at dtype
    change Returns (if dtype.getD 0 ≠ NM_DEVICE_TYPE_BT then _ else _) es₂ r at htyped
    -- A device of another type is left out after its type was read.
    split_ifs at htyped with htype
    · obtain ⟨rfl, rfl⟩ := returns_done.mp htyped
      refine ⟨_, .otherType (d := ⟨true, dtype, none, none⟩) rfl htype, ?_⟩
      rw [Device.entry, if_neg fun hbt => htype hbt.2]
    · rw [not_not] at htype
      obtain ⟨hw, es₃, rfl, haddressed⟩ := Program.returns_call_bind htyped
      change Option String at hw
      cases hw with
      | none =>
        obtain ⟨rfl, rfl⟩ := returns_done.mp haddressed
        refine ⟨_, .noAddress (d := ⟨true, dtype, none, none⟩) rfl htype rfl, ?_⟩
        rw [Device.entry, if_pos ⟨rfl, htype⟩]
        rfl
      | some hw =>
        obtain ⟨state, es₄, rfl, hread⟩ := Program.returns_call_bind haddressed
        change Option UInt32 at state
        -- An address that is no address is left out as well, after everything was read.
        cases haddr : BdAddr.fromStr hw with
        | error e =>
          rw [haddr] at hread
          obtain ⟨rfl, rfl⟩ := returns_done.mp hread
          refine ⟨_, .whole (d := ⟨true, dtype, some hw, state⟩) rfl htype, ?_⟩
          rw [Device.entry, if_pos ⟨rfl, htype⟩]
          simp [haddr, Except.toOption]
        | ok addr =>
          rw [haddr] at hread
          obtain ⟨rfl, rfl⟩ := returns_done.mp hread
          refine ⟨_, .whole (d := ⟨true, dtype, some hw, state⟩) rfl htype, ?_⟩
          rw [Device.entry, if_pos ⟨rfl, htype⟩]
          simp [haddr, Except.toOption]

/-- What the loop collects: the entries of the devices that it reads, one after the other. -/
theorem returns_readDevices (h : Returns (readDevices paths fresh) es cache) :
    ∃ reads : List (List (Exchange calls) × Device),
      es = (reads.map Prod.fst).flatten ∧
      List.Forall₂ (fun path read => ReadAs path read.1 read.2) paths reads ∧
      cache = ((reads.map Prod.snd).filterMap Device.entry).foldl
        (fun cache entry => cache.insert entry.1 entry.2) fresh := by
  -- On the paths: each device is read, and what it says is entered.
  induction paths generalizing fresh es with
  | nil =>
    obtain ⟨rfl, rfl⟩ := returns_done.mp h
    exact ⟨[], rfl, .nil, rfl⟩
  | cons path paths ih =>
    obtain ⟨es₁, r, es₂, rfl, hfirst, hrest⟩ := Program.returns_bind.mp h
    obtain ⟨d, hread, hentry⟩ := returns_readDevice hfirst
    cases r with
    | none =>
      obtain ⟨reads, rfl, hreads, rfl⟩ := ih hrest
      refine ⟨(es₁, d) :: reads, rfl, .cons hread hreads, ?_⟩
      rw [List.map_cons, List.filterMap_cons_none hentry]
    | some entry =>
      obtain ⟨reads, rfl, hreads, rfl⟩ := ih hrest
      refine ⟨(es₁, d) :: reads, rfl, .cons hread hreads, ?_⟩
      rw [List.map_cons, List.filterMap_cons_some hentry, List.foldl_cons]

/-! ### Commits -/

/-- The step at which an operation takes effect: where the cache is replaced, or it is found that
there is nothing to replace it with. -/
def commits : Op → Exchange calls → Bool
  | .refresh, ⟨.newProxy, nm⟩ => !(Except.toOption (ε := String) (α := Unit) nm).isSome
  | .refresh, ⟨.getDevices, devices⟩ =>
    !(Except.toOption (ε := String) (α := List String) devices).isSome
  | .refresh, ⟨.store _, _⟩ => true
  | .resolve _, ⟨.get _, _⟩ => true
  | _, _ => false

/-- What a refresh does until it returns. -/
theorem returns_refresh {r : Except TransportError Unit} (h : Returns refresh es r) :
    (∃ e, es = [⟨.newProxy, .error e⟩] ∧ r = .error (zerr e)) ∨
      (∃ e, es = [⟨.newProxy, .ok ()⟩, ⟨.getDevices, .error e⟩] ∧ r = .error (zerr e)) ∨
      ∃ paths es' fresh, es = ⟨.newProxy, .ok ()⟩ :: ⟨.getDevices, .ok paths⟩ ::
          (es' ++ [⟨.store fresh, ()⟩]) ∧
        Returns (readDevices paths ∅) es' fresh ∧ r = .ok () := by
  obtain ⟨nm, es₁, rfl, hnm⟩ := Program.returns_call_bind h
  -- The refresh ends at the proxy, at the list of devices, or with the table stored.
  cases nm with
  | error e =>
    obtain ⟨rfl, rfl⟩ := returns_done.mp hnm
    exact .inl ⟨e, rfl, rfl⟩
  | ok u =>
    obtain ⟨devices, es₂, rfl, hdevices⟩ := Program.returns_call_bind hnm
    cases devices with
    | error e =>
      obtain ⟨rfl, rfl⟩ := returns_done.mp hdevices
      exact .inr (.inl ⟨e, rfl, rfl⟩)
    | ok paths =>
      obtain ⟨es₃, fresh, es₄, rfl, hread, hend⟩ := Program.returns_bind.mp hdevices
      obtain ⟨u, es₅, rfl, hlast⟩ := Program.returns_call_bind hend
      obtain ⟨rfl, rfl⟩ := returns_done.mp hlast
      exact .inr (.inr ⟨paths, es₃, fresh, rfl, hread, rfl⟩)

/-- The loop that reads the devices takes no effect. -/
theorem uses_readDevices (paths : List String) (fresh : Cache) :
    (readDevices paths fresh).Uses fun c => ∀ reply, commits .refresh ⟨c, reply⟩ = false := by
  have hread (path : String) :
      (readDevice path).Uses fun c => ∀ reply, commits .refresh ⟨c, reply⟩ = false := by
    refine ⟨fun _ => rfl, fun (proxy : Bool) => ?_⟩
    cases proxy with
    | false => trivial
    | true =>
      refine ⟨fun _ => rfl, fun (dtype : Option UInt32) => ?_⟩
      show Program.Uses _ (if dtype.getD 0 ≠ NM_DEVICE_TYPE_BT then _ else _)
      split_ifs
      · trivial
      · refine ⟨fun _ => rfl, fun (hw : Option String) => ?_⟩
        cases hw with
        | none => trivial
        | some hw =>
          refine ⟨fun _ => rfl, fun state => ?_⟩
          cases BdAddr.fromStr hw <;> trivial
  -- The table is stored after all devices were read, and none of their exchanges is that.
  induction paths generalizing fresh with
  | nil => trivial
  | cons path paths ih =>
    refine (hread path).bind fun r => ?_
    cases r with
    | none => exact ih fresh
    | some entry => exact ih _

theorem countP_readDevices (h : Returns (readDevices paths fresh) es cache) :
    es.countP (commits .refresh) = 0 :=
  List.countP_eq_zero.mpr fun e he => by
    rw [(uses_readDevices paths fresh).path h e he e.reply]
    exact Bool.false_ne_true

/-- **An operation takes effect once** before it returns. -/
theorem commits_once {r : op.Result} (h : Returns op.run es r) : es.countP (commits op) = 1 := by
  cases op with
  | refresh =>
    obtain ⟨e, rfl, -⟩ | ⟨e, rfl, -⟩ | ⟨paths, es', fresh, rfl, hread, -⟩ := returns_refresh h
    · rfl
    · rfl
    · rw [List.countP_cons, List.countP_cons, List.countP_append, countP_readDevices hread]
      rfl
  | resolve peer =>
    obtain ⟨state, es', rfl, hstate⟩ := Program.returns_call_bind h
    obtain ⟨rfl, -⟩ := returns_done.mp hstate
    rfl

/-- The calls that change the cache. -/
def stores : Call → Bool
  | .store _ => true
  | _ => false

theorem serve_of_stores {c : Call} (h : stores c = false) (nm : S) (cache : Cache) :
    (serve S c nm cache).2 = cache := by
  cases c <;> first | rfl | cases h

/-- Only a refresh changes the cache, and only at the step at which it takes effect. -/
theorem commits_of_stores {r : op.Result} (h : Returns op.run es r) (he : e ∈ es)
    (hstores : stores e.call = true) : commits op e = true := by
  obtain ⟨c, reply⟩ := e
  cases c with
  | store fresh =>
    cases op with
    | refresh => rfl
    | resolve peer =>
      obtain ⟨state, es', rfl, hstate⟩ := Program.returns_call_bind h
      obtain ⟨rfl, -⟩ := returns_done.mp hstate
      cases List.mem_singleton.mp he
  | _ => cases hstores

variable {es₁ es₂ : List (Exchange calls)}

/-- The step at which an operation takes effect is its last one. -/
theorem eq_nil_of_commits {r : op.Result} (h : Returns op.run (es₁ ++ e :: es₂) r)
    (he : commits op e = true) : es₂ = [] := by
  -- Of exchanges of which only the last one commits, nothing comes after that.
  have hlast (m₁ : List (Exchange calls)) {b : Exchange calls}
      (hes : es₁ ++ e :: es₂ = m₁ ++ [b]) (hquiet : m₁.countP (commits op) = 0) : es₂ = [] := by
    obtain ⟨rfl, rfl⟩ := eq_of_append_cons m₁ hes he hquiet rfl
    exact (List.cons.inj (List.append_cancel_left hes)).2
  cases op with
  | resolve peer =>
    obtain ⟨state, es', hes, hstate⟩ := Program.returns_call_bind h
    obtain ⟨rfl, -⟩ := returns_done.mp hstate
    exact hlast [] hes rfl
  | refresh =>
    obtain ⟨error, hes, -⟩ | ⟨error, hes, -⟩ | ⟨paths, es', fresh, hes, hread, -⟩ :=
      returns_refresh h
    · exact hlast [] hes rfl
    · exact hlast [⟨.newProxy, .ok ()⟩] hes rfl
    · refine hlast (⟨.newProxy, .ok ()⟩ :: ⟨.getDevices, .ok paths⟩ :: es') hes ?_
      rw [List.countP_cons, List.countP_cons, countP_readDevices hread]
      rfl

/-- **What an operation does if it is done at once** when it commits. -/
theorem atomic_of_returns {r : op.Result} {nm : S} (h : Returns op.run (es₁ ++ e :: es₂) r)
    (hreply : (serve S e.call nm cache).1 = e.reply) (he : commits op e = true) :
    op.atomic (es₁ ++ e :: es₂) (Cache.table cache) r
      (Cache.table (serve S e.call nm cache).2) := by
  cases op with
  | resolve peer =>
    obtain ⟨state, es', hes, hstate⟩ := Program.returns_call_bind h
    obtain ⟨rfl, rfl⟩ := returns_done.mp hstate
    obtain ⟨rfl, rfl⟩ := eq_of_append_cons [] hes he rfl rfl
    obtain rfl : cache.lookup peer = state := hreply
    exact ⟨rfl, rfl⟩
  | refresh =>
    obtain ⟨error, hes, rfl⟩ | ⟨error, hes, rfl⟩ | ⟨paths, es', fresh, hes, hread, rfl⟩ :=
      returns_refresh h
    · obtain ⟨rfl, rfl⟩ := eq_of_append_cons [] hes he rfl rfl
      exact .inl ⟨error, .inl hes, rfl, rfl⟩
    · obtain ⟨rfl, rfl⟩ := eq_of_append_cons [⟨.newProxy, .ok ()⟩] hes he rfl rfl
      exact .inl ⟨error, .inr hes, rfl, rfl⟩
    -- What is stored is the table of the devices as they were read, whatever was there before.
    · have hquiet : List.countP (commits .refresh)
          (⟨.newProxy, .ok ()⟩ :: ⟨.getDevices, .ok paths⟩ :: es') = 0 := by
        rw [List.countP_cons, List.countP_cons, countP_readDevices hread]
        rfl
      obtain ⟨rfl, rfl⟩ := eq_of_append_cons _ hes he hquiet rfl
      obtain ⟨reads, rfl, hreads, rfl⟩ := returns_readDevices hread
      exact .inr ⟨paths, reads, _, hes, hreads, rfl, table_foldl_insert _⟩

/-! ### Any number of them -/

section Run

variable {ι : Type} [DecidableEq ι] {ops : ι → Op} {steps : List (ι × S)}
  {w : Pool calls Cache fun i => (ops i).Result} {i j : ι}

/-- The operations on a resolver that has just been made, before any has begun. -/
def start (ops : ι → Op) : Pool calls Cache fun i => (ops i).Result :=
  .start ∅ fun i => (ops i).run

/-- The order in which the operations take effect. -/
def inEffect (w : Pool calls Cache fun i => (ops i).Result) : List ι :=
  Pool.commitOrder (fun i => commits (ops i)) w.trace

/-- An operation that has taken effect has returned. -/
theorem returned_of_mem_inEffect (hrun : (Pool.system (serve S)).Run (start ops) steps w)
    (hi : i ∈ inEffect w) {r : (ops i).Result} (h : Returns (w.task i) es r) : es = [] := by
  obtain ⟨e, he, hcommits⟩ := Pool.mem_commitOrder.mp hi
  obtain ⟨before, after, hown⟩ := List.append_of_mem he
  have hwhole := ((Pool.reached_of_run hrun).path i).append h
  rw [hown, List.append_assoc, List.cons_append] at hwhole
  exact (List.append_eq_nil_iff.mp (eq_nil_of_commits hwhole hcommits)).2

/-- The order in which the operations take effect explains what they return. -/
theorem linearizes_inEffect (hrun : (Pool.system (serve S)).Run (start ops) steps w) :
    Pool.Linearizes (fun i => (ops i).atomic (own w.trace i)) w (fun _ => .notApplicable)
      (Cache.table w.shared) (inEffect w) := by
  obtain ⟨a, rfl, hlegal⟩ := Pool.legal_commitOrder
    (fun i a p a' => (ops i).atomic p.1 a p.2 a') (fun i => commits (ops i))
    (fun _ cache a => a = Cache.table cache) rfl
    (fun trace cache a i c nm hserved ha ⟨next, hpath⟩ hc => by
      cases hstores : stores c with
      | false => rw [ha, serve_of_stores hstores]
      | true =>
        -- it would be a commit
        obtain ⟨es, r, hreturns⟩ := Program.exists_returns (next (serve S c nm cache).1)
        have hwhole := (hpath.snoc (serve S c nm cache).1).append hreturns
        have hcommits := commits_of_stores hwhole
          (List.mem_append_left _ (List.mem_append_right _ List.mem_cons_self)) hstores
        rw [hc] at hcommits
        cases hcommits)
    (fun trace cache a i c nm hserved ha _ hc => by
      refine ⟨_, rfl, fun es r hreturns => ?_⟩
      rw [ha]
      exact atomic_of_returns hreturns rfl hc)
    hrun
  refine Pool.linearizes_commitOrder (Pool.reached_of_run hrun) (fun i es r h => commits_once h) ?_
  refine hlegal.imp fun i hi r hr => ?_
  -- what it has done so far is all that it does
  obtain ⟨es, hes⟩ := hr
  obtain rfl := returned_of_mem_inEffect hrun hi hes
  exact ⟨(own w.trace i, r), ⟨[], hes, (List.append_nil _).symm⟩, fun _ _ h => h⟩

/-- **The resolver is linearizable.** In any run of interleaved refreshes and resolves, while
NetworkManager changes from call to call among the states of `S`, those that have taken effect can
be put in an order in which a refresh puts what it has read itself, in its own exchanges, all at
once in the place of the table, or leaves the table as it is if it fails, and a resolve reads the
table. One that was over before another one began comes first. -/
theorem refresh_linearizable (hrun : (Pool.system (serve S)).Run (start ops) steps w) :
    ∃ order, Pool.Linearizes (fun i => (ops i).atomic (own w.trace i)) w (fun _ => .notApplicable)
      (Cache.table w.shared) order :=
  ⟨_, linearizes_inEffect hrun⟩

/-! ### If the devices do not change -/

/-- The devices of NetworkManager stand still: whenever it lists them, it lists `paths`, and they
are as in `device` all the time. It may still not be reached at times, or not list them. -/
structure Still (S : Set Daemon) (paths : List String) (device : String → Device) : Prop where
  devices : ∀ nm ∈ S, ∀ listed, nm.devices = .ok listed → listed = paths
  device : ∀ nm ∈ S, nm.device = device

/-- What NetworkManager has to say of its devices. -/
def tableFrom (paths : List String) (device : String → Device) : Table :=
  tableOf ((paths.map device).filterMap Device.entry)

/-- The exchange is one that NetworkManager may have had. -/
def Answered (S : Set Daemon) (e : Exchange calls) : Prop :=
  ∃ cache nm, (serve S e.call nm cache).1 = e.reply

/-- The operation is a refresh that has succeeded. -/
def Op.Refreshed : (op : Op) → op.Result → Prop
  | .refresh, r => r = .ok ()
  | .resolve _, _ => False

/-- The operation has resolved its peer from this table, if it is one that resolves. -/
def Op.ResolvedFrom (a : Table) : (op : Op) → op.Result → Prop
  | .refresh, _ => True
  | .resolve peer, r => r = { StandardsProfile.bredrDefault with portAuth := a peer }

section Still

variable {device : String → Device} (hstill : Still S paths device)
include hstill

/-- A device that stands still is read as what it is. -/
theorem entry_of_readAs {d : Device} (h : ReadAs path es d) (hanswered : ∀ e ∈ es, Answered S e) :
    d.entry = (device path).entry := by
  -- Each property that was read is that of the state that does not change.
  have hproxy (hmem : ⟨.newDeviceProxy path, d.proxy⟩ ∈ es) : (device path).proxy = d.proxy := by
    obtain ⟨_, nm, hreply⟩ := hanswered _ hmem
    rw [← hstill.device nm nm.2]
    exact hreply
  have htype (hmem : ⟨.deviceType path, d.deviceType⟩ ∈ es) :
      (device path).deviceType = d.deviceType := by
    obtain ⟨_, nm, hreply⟩ := hanswered _ hmem
    rw [← hstill.device nm nm.2]
    exact hreply
  have haddress (hmem : ⟨.hwAddress path, d.hwAddress⟩ ∈ es) :
      (device path).hwAddress = d.hwAddress := by
    obtain ⟨_, nm, hreply⟩ := hanswered _ hmem
    rw [← hstill.device nm nm.2]
    exact hreply
  have hstate (hmem : ⟨.state path, d.state⟩ ∈ es) : (device path).state = d.state := by
    obtain ⟨_, nm, hreply⟩ := hanswered _ hmem
    rw [← hstill.device nm nm.2]
    exact hreply
  unfold Device.entry
  -- The entry depends on what was read, and on nothing that was not.
  cases h with
  | noProxy hno => rw [hproxy (by simp), hno, if_neg (by simp), if_neg (by simp)]
  | otherType hyes hother =>
    rw [hproxy (by simp), htype (by simp), if_neg (by simp [hother]), if_neg (by simp [hother])]
  | noAddress hyes hbt hnone =>
    rw [hproxy (by simp), htype (by simp), haddress (by simp), hnone]
    rfl
  | whole hyes hbt =>
    rw [hproxy (by simp), htype (by simp), haddress (by simp), hstate (by simp)]

/-- A list of devices that stand still is read as what they are. -/
theorem entries_of_reads {reads : List (List (Exchange calls) × Device)} {listed : List String}
    (h : List.Forall₂ (fun path read => ReadAs path read.1 read.2) listed reads)
    (hanswered : ∀ e ∈ (reads.map Prod.fst).flatten, Answered S e) :
    (reads.map Prod.snd).filterMap Device.entry = (listed.map device).filterMap Device.entry := by
  induction h with
  | nil => rfl
  | @cons path read listed reads hread _ ih =>
    have hfirst := entry_of_readAs hstill hread fun e he =>
      hanswered e (List.mem_append_left _ he)
    have hrest := ih fun e he => hanswered e (List.mem_append_right _ he)
    rw [List.map_cons, List.map_cons, List.filterMap_cons, List.filterMap_cons, hfirst, hrest]

variable {a a' : Table} {r : op.Result} (hanswered : ∀ e ∈ es, Answered S e)
include hanswered

/-- A refresh that succeeds brings the table up to date. -/
theorem Op.Refreshed.atomic (h : op.Refreshed r) (hatomic : op.atomic es a r a') :
    a' = tableFrom paths device := by
  cases op with
  | resolve peer => exact h.elim
  | refresh =>
    obtain ⟨e, -, rfl, -⟩ | ⟨listed, reads, fresh, rfl, hreads, -, rfl⟩ := hatomic
    · cases h
    -- The paths are those of the list, and each is read as the device that it is.
    · obtain ⟨_, nm, hlisted⟩ := hanswered ⟨.getDevices, .ok listed⟩
        (List.mem_cons_of_mem _ List.mem_cons_self)
      obtain rfl := hstill.devices nm nm.2 listed hlisted
      rw [entries_of_reads hstill hreads, tableFrom]
      intro e he
      exact hanswered e
        (List.mem_cons_of_mem _ (List.mem_cons_of_mem _ (List.mem_append_left _ he)))

/-- Nothing puts it out of date: a refresh that fails leaves it, and one that succeeds finds the
same. -/
theorem table_of_atomic (ha : a = tableFrom paths device) (hatomic : op.atomic es a r a') :
    a' = tableFrom paths device := by
  cases op with
  | resolve peer => exact hatomic.2.trans ha
  | refresh =>
    obtain ⟨e, -, -, rfl⟩ | ⟨-, -, -, -, -, hr, -⟩ := id hatomic
    · exact ha
    · have hrefreshed : Op.Refreshed .refresh r := hr
      exact hrefreshed.atomic hstill hanswered hatomic

end Still

theorem resolvedFrom_of_atomic {a a' : Table} {r : op.Result} (h : op.atomic es a r a') :
    op.ResolvedFrom a r := by
  cases op with
  | refresh => trivial
  | resolve peer => exact h.1

/-- **The table is up to date** once one refresh has succeeded, as long as the devices of
NetworkManager stand still: what begins to resolve after that resolves from what NetworkManager has
to say of them, whatever other refreshes are in progress, and although some of these may fail. -/
theorem resolve_of_still {device : String → Device} (hstill : Still S paths device)
    (hrun : (Pool.system (serve S)).Run (start ops) steps w)
    {before after : List (ι × Exchange calls)} (htrace : w.trace = before ++ after)
    (hover : own after i = []) (hbegins : own before j = []) {ri : (ops i).Result}
    (hi : w.task i = .done ri) (hrefreshed : (ops i).Refreshed ri) {rj : (ops j).Result}
    (hj : w.task j = .done rj) : (ops j).ResolvedFrom (tableFrom paths device) rj := by
  have horder := linearizes_inEffect hrun
  have hreturns (k : ι) : ∃ r, ∃ es, Returns (w.task k) es r := by
    obtain ⟨es, r, h⟩ := Program.exists_returns (w.task k)
    exact ⟨r, es, h⟩
  -- Everything an operation was answered comes from one of the states that agree.
  have hanswered (k : ι) : ∀ e ∈ own w.trace k, Answered S e := fun e he =>
    (Pool.reached_of_run hrun).served.answered e (List.mem_map.mpr ⟨_, mem_own.mp he, rfl⟩)
  -- After the refresh in the order, the table stays the one that it has stored.
  obtain ⟨-, hlater⟩ := horder.legal.later (P := fun a => a = tableFrom paths device) (i := i)
    hreturns
    (fun r b b' ⟨es, hr⟩ hatomic => by
      rw [hi] at hr
      obtain ⟨-, rfl⟩ := returns_done.mp hr
      exact hrefreshed.atomic hstill (hanswered i) hatomic)
    (fun k r b b' hb hatomic => table_of_atomic hstill (hanswered k) hb hatomic)
  obtain ⟨b, b', rfl, hatomic⟩ := hlater j
    (horder.realTime before after i j htrace hover hbegins (horder.returned i _ hi)
      (horder.returned j _ hj))
  exact resolvedFrom_of_atomic (hatomic rj ⟨[], hj ▸ .nil _⟩)

end Run

/-- A laptop that wants to be let in. -/
def laptop : DeviceId := .pub ⟨#v[0x11, 0x22, 0x33, 0x44, 0x55, 0x66]⟩

/-- NetworkManager has a network card, and the laptop, which is in this state. -/
def lobby (nmState : UInt32) : Daemon where
  proxy := .ok ()
  devices := .ok ["/Devices/3", "/Devices/7"]
  device path :=
    { proxy := true
      deviceType := if path = "/Devices/7" then some NM_DEVICE_TYPE_BT else some 1
      hwAddress := some "11:22:33:44:55:66"
      state := some nmState }

/-- The same, while it does not list its devices. -/
def lobbyBusy : Daemon := { lobby NM_STATE_ACTIVATED with devices := .error "busy" }

/-- Who comes by: three that refresh, and one that wants to know of the laptop. -/
inductive Visitor where
  | slow
  | quick
  | refused
  | curious
  deriving DecidableEq

def visits : Visitor → Op
  | .curious => .resolve laptop
  | _ => .refresh

/-- The slow refresh reads the laptop while it is asked for its key, the quick one after it has been
let in, and both go on by turns until they have read everything. The quick one stores first, the
third one is not answered, and then the slow one stores what it has read long ago. -/
def overtaken : List (Visitor × (Set.univ : Set Daemon)) :=
  (List.replicate 8 [(.slow, ⟨lobby NM_STATE_NEED_AUTH, trivial⟩),
      (.quick, ⟨lobby NM_STATE_ACTIVATED, trivial⟩)]).flatten ++
    [(.quick, ⟨lobby NM_STATE_ACTIVATED, trivial⟩), (.refused, ⟨lobbyBusy, trivial⟩),
      (.refused, ⟨lobbyBusy, trivial⟩), (.slow, ⟨lobbyBusy, trivial⟩),
      (.curious, ⟨lobbyBusy, trivial⟩)]

theorem exists_overtaken : ∃ w,
    (Pool.system (serve Set.univ)).Run (start visits) overtaken w ∧ w.task .slow = .done (.ok ()) ∧
      w.task .quick = .done (.ok ()) ∧ w.task .refused = .done (.error (zerr "busy")) ∧
      w.task .curious = .done { StandardsProfile.bredrDefault with portAuth := .authenticating } :=
  ⟨_, rfl, rfl, rfl, rfl, rfl⟩

/-- The run in which one refresh overtakes another, and a third one fails. All four operations have
their place in the order, and the laptop is found as the slow refresh has read it, since that one
was the last to store. -/
theorem refresh_linearizable_overtaken : ∃ w order,
    (Pool.system (serve Set.univ)).Run (start visits) overtaken w ∧
      Pool.Linearizes (fun i => (visits i).atomic (own w.trace i)) w (fun _ => .notApplicable)
        (Cache.table w.shared) order ∧
      (∀ i, i ∈ order) ∧ w.task .refused = .done (.error (zerr "busy")) ∧
      w.task .curious =
        .done { StandardsProfile.bredrDefault with portAuth := .authenticating } := by
  obtain ⟨w, hrun, hfirst, hsecond, hthird, hlast⟩ := exists_overtaken
  obtain ⟨order, horder⟩ := refresh_linearizable hrun
  -- All four operations have returned, and so all are in the order.
  refine ⟨w, order, hrun, horder, fun i => ?_, hthird, hlast⟩
  cases i with
  | slow => exact horder.returned .slow _ hfirst
  | quick => exact horder.returned .quick _ hsecond
  | refused => exact horder.returned .refused _ hthird
  | curious => exact horder.returned .curious _ hlast

/-- The laptop has been let in and stays; NetworkManager does not always list it. -/
def settled : Set Daemon := {lobby NM_STATE_ACTIVATED, lobbyBusy}

theorem still_settled :
    Still settled ["/Devices/3", "/Devices/7"] (lobby NM_STATE_ACTIVATED).device where
  devices := by
    rintro nm (rfl | rfl) listed hlisted
    · exact (Except.ok.inj hlisted).symm
    · cases hlisted
  device := by
    rintro nm (rfl | rfl)
    · rfl
    · rfl

/-- One refresh begins, another one succeeds, and then the first one fails before the laptop is
resolved. -/
def failsAfter : List (Visitor × settled) :=
  (.refused, ⟨lobby NM_STATE_ACTIVATED, .inl rfl⟩) ::
    List.replicate 9 (.quick, ⟨lobby NM_STATE_ACTIVATED, .inl rfl⟩) ++
    [(.refused, ⟨lobbyBusy, .inr rfl⟩), (.curious, ⟨lobbyBusy, .inr rfl⟩)]

theorem exists_failsAfter : ∃ w,
    (Pool.system (serve settled)).Run (start visits) failsAfter w ∧
      w.task .quick = .done (.ok ()) ∧ w.task .refused = .done (.error (zerr "busy")) ∧
      (∃ r : StandardsProfile, w.task .curious = .done r) ∧ ∃ before after,
        w.trace = before ++ after ∧ own after .quick = [] ∧ own before .curious = [] :=
  ⟨_, rfl, rfl, rfl, ⟨_, rfl⟩, List.take 11 _, List.drop 11 _, (List.take_append_drop 11 _).symm,
    rfl, rfl⟩

/-- The laptop is found authenticated, although a refresh has failed since the one that read it. -/
theorem resolve_of_still_laptop : ∃ w,
    (Pool.system (serve settled)).Run (start visits) failsAfter w ∧
      w.task .refused = .done (.error (zerr "busy")) ∧
      w.task .curious =
        .done { StandardsProfile.bredrDefault with portAuth := .authenticated } := by
  obtain ⟨w, hrun, hfirst, hsecond, ⟨r, hlast⟩, before, after, htrace, hover, hbegins⟩ :=
    exists_failsAfter
  -- The refresh of another visitor fails in between, and the table stays.
  have hresolved : r = { StandardsProfile.bredrDefault with
      portAuth := tableFrom ["/Devices/3", "/Devices/7"] (lobby NM_STATE_ACTIVATED).device
        laptop } :=
    resolve_of_still still_settled hrun htrace hover hbegins hfirst rfl hlast
  refine ⟨w, hrun, hsecond, ?_⟩
  rw [hlast, hresolved]
  rfl

end PortAuth
end Pax
