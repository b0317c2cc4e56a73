import Pax.Core.Device
import Pax.Core.Spec
import Pax.Framework.Lts
import Pax.Transport.Backend

/-!
# Port authentication from wpa_supplicant

`WpaSupplicantStandards` of `pax-transport/src/bluez/wpa.rs`. A resolver keeps one state for all
peers: that of the interface it is pinned to, or the most authenticated of all if it is not pinned.
`for_interface` pins it and takes the state over, whichever interface that is from, and it stands
until the next refresh that gets through.

`keepsApart_iff` says in which histories no resolver ever reports another interface's state. A
history is a sequence of calls on any number of resolvers (`system`), and each resolver is kept with
what has been read for it (`Tracked`). The condition on the calls (`Fine`) is exact: a fine call
keeps the resolvers apart (`keepsApart_next`), and any other one does not (`not_keepsApart_next`).
`borrowed` is the shortest history in which a state is borrowed.
-/

namespace Pax
namespace Wpa

/-! ### States of an interface -/

/-- `map_state`: the states of `wpa_supplicant` that are done, under way, or neither. -/
def mapState (state : String) : PortAuthState :=
  if state = "completed" then .authenticated
  else if state ∈ ["authenticating", "associating", "associated", "4way_handshake",
      "group_handshake"] then .authenticating
  -- also where it is disconnected, inactive, scanning or disabled
  else .unauthenticated

/-- Precedence: the most authenticated interface wins. -/
def rank : PortAuthState → ℕ
  | .authenticated => 4
  | .authenticating => 3
  | .failed => 2
  | .unauthenticated => 1
  | .notApplicable => 0

/-- What a refresh finds at the path of an interface. -/
structure Interface where
  /-- Whether its proxy can be built. -/
  proxy : Bool
  /-- The name it has. -/
  ifname : String
  /-- Whether the name can be read. -/
  named : Bool
  /-- `State`, unless it cannot be read. -/
  state : Option String
  deriving DecidableEq, Repr

/-- `Ifname` as it is read: empty if it cannot be. -/
def Interface.name (i : Interface) : String := if i.named then i.ifname else ""

/-! ### The resolver -/

/-- `WpaSupplicantStandards`, without its connection. -/
structure Resolver where
  /-- Restrict to one interface, or aggregate across all. -/
  ifname : Option String
  state : PortAuthState
  deriving DecidableEq, Repr

namespace Resolver

/-- `connect`: a resolver for all interfaces, before any refresh. -/
def connect : Resolver := ⟨none, .notApplicable⟩

/-- `for_interface`: a resolver for one interface, which starts with the state of this one. -/
def forInterface (r : Resolver) (ifname : String) : Resolver := ⟨some ifname, r.state⟩

/-- The state that the loop reads at an interface, unless it goes on to the next one. -/
def readState (r : Resolver) (i : Interface) : Option String :=
  if i.proxy then
    match r.ifname with
    | some want => if i.name ≠ want then none else i.state
    | none => i.state
  else none

/-- The loop of `refresh`: the best state of the interfaces that the resolver is for. -/
def best (r : Resolver) : PortAuthState → List Interface → PortAuthState
  | best', [] => best'
  | best', i :: interfaces =>
    match r.readState i with
    | none => best r best' interfaces
    | some state =>
      best r (if rank (mapState state) > rank best' then mapState state else best') interfaces

/-- `refresh`, with what the property `Interfaces` comes to. -/
def refresh (r : Resolver) (interfaces : Except String (List Interface)) :
    Except TransportError Unit × Resolver :=
  match interfaces with
  | .error e => (.error (.backend ("wpa_supplicant: " ++ e)), r)
  | .ok interfaces => (.ok (), { r with state := r.best .notApplicable interfaces })

/-- `resolve`: the same profile for every peer, with the state of the last refresh. -/
def resolve (r : Resolver) (_peer : DeviceId) : StandardsProfile :=
  { StandardsProfile.bredrDefault with portAuth := r.state }

end Resolver

variable {r : Resolver} {state : String} {interfaces : List Interface} {i : Interface}

theorem mapState_eq_authenticated : mapState state = .authenticated ↔ state = "completed" := by
  rw [mapState]
  split_ifs with hcompleted
  · exact iff_of_true rfl hcompleted
  · exact iff_of_false nofun hcompleted
  · exact iff_of_false nofun hcompleted

/-- Nothing outranks an authenticated interface. -/
theorem eq_authenticated_of_rank {p q : PortAuthState} (h : rank p ≤ rank q)
    (hp : p = .authenticated) : q = .authenticated := by
  subst hp
  cases q <;> first | rfl | exact absurd h (by decide)

/-- The best state is authenticated if and only if some interface is, or the one to begin with
was. -/
theorem best_eq_authenticated {best : PortAuthState} :
    r.best best interfaces = .authenticated ↔
      best = .authenticated ∨ ∃ i ∈ interfaces, r.readState i = some "completed" := by
  -- On the interfaces: the best of all is `Authenticated` if that of one is.
  induction interfaces generalizing best with
  | nil => simp [Resolver.best]
  | cons i interfaces ih =>
    rw [Resolver.best]
    cases hread : r.readState i with
    | none => simp [ih, hread]
    | some state =>
      have hmax : (if rank (mapState state) > rank best then mapState state else best)
            = .authenticated ↔ best = .authenticated ∨ state = "completed" := by
        rw [← mapState_eq_authenticated]
        split_ifs with hrank
        · refine ⟨.inr, fun h => h.elim (fun hbest => ?_) id⟩
          exact eq_authenticated_of_rank hrank.le hbest
        · refine ⟨.inl, fun h => h.elim id fun hstate => ?_⟩
          exact eq_authenticated_of_rank (not_lt.mp hrank) hstate
      simp only [ih, hmax, List.exists_mem_cons_iff, hread, Option.some.injEq, or_assoc]

/-- What is read at an interface: its own state, unless the resolver is pinned to another one. -/
theorem readState_eq_some : r.readState i = some state ↔
    i.proxy ∧ i.state = some state ∧ ∀ want, r.ifname = some want → i.name = want := by
  rw [Resolver.readState]
  cases hproxy : i.proxy with
  | false => simp
  | true =>
    cases hname : r.ifname with
    | none => simp
    | some want =>
      by_cases heq : i.name = want
      · simp [heq]
      · simp [heq]

/-! ### Histories -/

/-- A state that a refresh has read, and the interface it is the state of. -/
structure Read where
  ifname : String
  state : String
  deriving DecidableEq, Repr

/-- A resolver, and what has been read for it: by itself, and by what it was made from until
then. -/
structure Tracked where
  resolver : Resolver
  history : List Read
  deriving DecidableEq, Repr

namespace Tracked

/-- What a refresh reads, interface by interface. -/
def reads (t : Tracked) (interfaces : List Interface) : List Read :=
  interfaces.filterMap fun i => (t.resolver.readState i).map fun state => ⟨i.ifname, state⟩

def connect : Tracked := ⟨.connect, []⟩

def forInterface (t : Tracked) (ifname : String) : Tracked :=
  { t with resolver := t.resolver.forInterface ifname }

def refresh (t : Tracked) (interfaces : Except String (List Interface)) : Tracked where
  resolver := (t.resolver.refresh interfaces).2
  history := match interfaces with
    | .error _ => t.history
    | .ok interfaces => t.history ++ t.reads interfaces

/-- A refresh has read that the interface is authenticated. -/
def Completed (t : Tracked) (ifname : String) : Prop := ⟨ifname, "completed"⟩ ∈ t.history

/-- **Pinned to an interface, the resolver does not borrow another one's state**: it reports a peer
authenticated only if the interface has been found to be. -/
def KeepsApart (t : Tracked) : Prop :=
  ∀ ifname peer, t.resolver.ifname = some ifname →
    (t.resolver.resolve peer).portAuth = .authenticated → t.Completed ifname

instance (t : Tracked) (ifname : String) : Decidable (t.Completed ifname) :=
  inferInstanceAs (Decidable (_ ∈ _))

end Tracked

/-- A call on one of the resolvers there are. -/
inductive Call where
  | connect
  | forInterface (k : ℕ) (ifname : String)
  | refresh (k : ℕ) (interfaces : Except String (List Interface))
  | resolve (k : ℕ) (peer : DeviceId)

/-- The resolvers of a process. Calls on a resolver that there is not cannot be made; a refresh
takes effect when it stores the state. -/
def system : Lts (List Tracked) Call where
  next s
    | .connect => some (s ++ [.connect])
    | .forInterface k ifname => s[k]?.map fun t => s ++ [t.forInterface ifname]
    | .refresh k interfaces => s[k]?.map fun t => s.set k (t.refresh interfaces)
    | .resolve k _ => s[k]?.map fun _ => s

/-- The call does not let another interface's state in: a resolver whose state is authenticated is
pinned to an interface only if that has been found authenticated; and one that is pinned to the
empty name, which an interface has that does not tell its own, is not refreshed from such an
interface. -/
def Fine (s : List Tracked) : Call → Prop
  | .forInterface k ifname => ∀ t, s[k]? = some t →
      t.resolver.state = .authenticated → t.Completed ifname
  | .refresh k (.ok interfaces) => ∀ t, s[k]? = some t → t.resolver.ifname = some "" →
      (∃ i ∈ interfaces, i.proxy ∧ i.named = false ∧ i.state = some "completed") →
        t.Completed "" ∨ ∃ i ∈ interfaces, i.proxy ∧ i.ifname = "" ∧ i.state = some "completed"
  | _ => True

/-- All resolvers keep interfaces apart. -/
def KeepsApart (s : List Tracked) : Prop := ∀ t ∈ s, t.KeepsApart

variable {t : Tracked} {s s' : List Tracked} {c : Call} {ifname : String}

theorem keepsApart_iff_state : t.KeepsApart ↔ ∀ ifname, t.resolver.ifname = some ifname →
    t.resolver.state = .authenticated → t.Completed ifname := by
  constructor
  · exact fun h ifname hname hstate => h ifname default hname hstate
  · exact fun h ifname _ hname hstate => h ifname hname hstate

theorem mem_reads {read : Read} : read ∈ t.reads interfaces ↔
    ∃ i ∈ interfaces, t.resolver.readState i = some read.state ∧ i.ifname = read.ifname := by
  rw [Tracked.reads, List.mem_filterMap]
  refine exists_congr fun i => and_congr_right fun _ => ?_
  rw [Option.map_eq_some_iff]
  constructor
  · rintro ⟨state, hread, rfl⟩
    exact ⟨hread, rfl⟩
  · rintro ⟨hread, hname⟩
    exact ⟨read.state, hread, hname ▸ rfl⟩

/-- What has been found of an interface, after one more refresh. -/
theorem completed_refresh : (t.refresh (.ok interfaces)).Completed ifname ↔ t.Completed ifname ∨
    ∃ i ∈ interfaces, t.resolver.readState i = some "completed" ∧ i.ifname = ifname := by
  rw [Tracked.Completed, Tracked.refresh, List.mem_append, mem_reads]
  rfl

theorem state_refresh : (t.refresh (.ok interfaces)).resolver.state = .authenticated ↔
    ∃ i ∈ interfaces, t.resolver.readState i = some "completed" := by
  rw [Tracked.refresh, Resolver.refresh, best_eq_authenticated]
  exact or_iff_right nofun

/-- An interface is taken for another one only if its name cannot be read. -/
theorem named_of_name {want : String} (h : i.name = want) (hne : i.ifname ≠ want) :
    i.named = false ∧ want = "" := by
  rw [Interface.name] at h
  split_ifs at h with hnamed
  · exact absurd h hne
  · exact ⟨Bool.eq_false_of_not_eq_true hnamed, h.symm⟩

/-- The condition for a refresh to keep interfaces apart. -/
theorem keepsApart_refresh :
    (t.refresh (.ok interfaces)).KeepsApart ↔ (t.resolver.ifname = some "" →
      (∃ i ∈ interfaces, i.proxy ∧ i.named = false ∧ i.state = some "completed") →
        t.Completed "" ∨
          ∃ i ∈ interfaces, i.proxy ∧ i.ifname = "" ∧ i.state = some "completed") := by
  have hread (hempty : t.resolver.ifname = some "") (i : Interface) (hname : i.name = "") :
      t.resolver.readState i = some "completed" ↔ i.proxy ∧ i.state = some "completed" := by
    rw [readState_eq_some]
    simp [hempty, hname]
  have hname (i : Interface) (hi : i.named = false ∨ i.ifname = "") : i.name = "" := by
    rw [Interface.name]
    split_ifs with hnamed
    · exact hi.resolve_left (by simp [hnamed])
    · rfl
  rw [keepsApart_iff_state]
  simp only [completed_refresh, state_refresh]
  constructor
  -- An interface without a name is taken for the one with the empty name, and for no other.
  · rintro hkeeps hempty ⟨i, hi, hproxy, hnamed, hstate⟩
    have hcompleted := (hread hempty i (hname i (.inl hnamed))).mpr ⟨hproxy, hstate⟩
    refine (hkeeps "" hempty ⟨i, hi, hcompleted⟩).imp_right ?_
    rintro ⟨j, hj, hj', hjname⟩
    obtain ⟨hjproxy, hjstate⟩ := (hread hempty j (hname j (.inr hjname))).mp hj'
    exact ⟨j, hj, hjproxy, hjname, hjstate⟩
  · rintro hfine ifname hpinned ⟨i, hi, hi'⟩
    obtain ⟨hproxy, hstate, hwant⟩ := readState_eq_some.mp hi'
    by_cases heq : i.ifname = ifname
    · exact .inr ⟨i, hi, hi', heq⟩
    -- another interface, that does not tell its name
    · obtain ⟨hnamed, rfl⟩ := named_of_name (hwant ifname hpinned) heq
      refine (hfine hpinned ⟨i, hi, hproxy, hnamed, hstate⟩).imp_right ?_
      rintro ⟨j, hj, hjproxy, hjname, hjstate⟩
      exact ⟨j, hj, (hread hpinned j (hname j (.inr hjname))).mpr ⟨hjproxy, hjstate⟩, hjname⟩

/-- The condition for pinning to keep interfaces apart. -/
theorem keepsApart_forInterface : (t.forInterface ifname).KeepsApart ↔
    (t.resolver.state = .authenticated → t.Completed ifname) := by
  rw [keepsApart_iff_state]
  constructor
  · exact fun h => h ifname rfl
  · rintro h ifname' hname
    obtain rfl := Option.some.inj hname
    exact h

/-- **A fine call keeps the resolvers apart.** -/
theorem keepsApart_next (h : KeepsApart s) (hfine : Fine s c) (hnext : system.next s c = some s') :
    KeepsApart s' := by
  intro u hu
  cases c with
  | connect =>
    obtain rfl := Option.some.inj hnext
    rcases List.mem_append.mp hu with hu | hu
    · exact h u hu
    · obtain rfl := List.mem_singleton.mp hu
      exact fun _ _ hname => nomatch hname
  | forInterface k ifname =>
    obtain ⟨t, ht, rfl⟩ := Option.map_eq_some_iff.mp hnext
    rcases List.mem_append.mp hu with hu | hu
    · exact h u hu
    · obtain rfl := List.mem_singleton.mp hu
      exact keepsApart_forInterface.mpr (hfine t ht)
  | refresh k interfaces =>
    obtain ⟨t, ht, rfl⟩ := Option.map_eq_some_iff.mp hnext
    have hkeeps := h t (List.mem_of_getElem? ht)
    -- Of the resolvers only the `k`-th is refreshed.
    rcases List.mem_or_eq_of_mem_set hu with hu | rfl
    · exact h u hu
    · cases interfaces with
      | error e => exact hkeeps
      | ok interfaces => exact keepsApart_refresh.mpr (hfine t ht)
  | resolve k peer =>
    obtain ⟨t, -, rfl⟩ := Option.map_eq_some_iff.mp hnext
    exact h u hu

/-- **Any other call does not**: after it, some resolver reports a state that its interface was
never found in. -/
theorem not_keepsApart_next (hfine : ¬ Fine s c) (hnext : system.next s c = some s') :
    ¬ KeepsApart s' := by
  intro h
  apply hfine
  -- The condition fails only for a copy or a refresh, whose resolver is then not kept apart.
  cases c with
  | connect => trivial
  | forInterface k ifname =>
    intro t ht
    obtain ⟨t', ht', rfl⟩ := Option.map_eq_some_iff.mp hnext
    obtain rfl := Option.some.inj (ht.symm.trans ht')
    exact keepsApart_forInterface.mp (h _ (List.mem_append_right s (List.mem_singleton_self _)))
  | refresh k interfaces =>
    cases interfaces with
    | error e => trivial
    | ok interfaces =>
      intro t ht
      obtain ⟨t', ht', rfl⟩ := Option.map_eq_some_iff.mp hnext
      obtain rfl := Option.some.inj (ht.symm.trans ht')
      obtain ⟨hk, -⟩ := List.getElem?_eq_some_iff.mp ht
      exact keepsApart_refresh.mp (h _ (List.mem_set hk _))
  | resolve k peer => trivial

/-- **When no pinned resolver borrows another interface's state**, in any state of a history of
calls: if and only if every call of the history is fine. -/
theorem keepsApart_iff {calls : List Call} (h : system.Run [] calls s) :
    system.Throughout KeepsApart [] calls ↔ system.Meets Fine [] calls :=
  h.throughout_iff_meets (J := fun _ => True) (fun _ _ _ _ _ => trivial)
    (fun _ _ _ _ => keepsApart_next) (fun _ _ _ _ => not_keepsApart_next) trivial nofun

/-- An interface of this name, whose state is `completed`. -/
def completed (ifname : String) : Interface := ⟨true, ifname, true, some "completed"⟩

/-- A resolver that is pinned to the interface that was found authenticated keeps its state,
rightly. -/
theorem keepsApart_iff_pan0 :
    (∃ s, system.Run [] [.connect, .refresh 0 (.ok [completed "pan0"]), .forInterface 0 "pan0"] s ∧
      s.length = 2) ∧
    system.Throughout KeepsApart []
      [.connect, .refresh 0 (.ok [completed "pan0"]), .forInterface 0 "pan0"] := by
  have hrun : system.Run []
      [.connect, .refresh 0 (.ok [completed "pan0"]), .forInterface 0 "pan0"]
      [⟨⟨none, .authenticated⟩, [⟨"pan0", "completed"⟩]⟩,
        ⟨⟨some "pan0", .authenticated⟩, [⟨"pan0", "completed"⟩]⟩] := by
    decide
  refine ⟨⟨_, hrun, rfl⟩, (keepsApart_iff hrun).mpr ?_⟩
  -- The condition is met step by step along the run.
  refine ⟨trivial, fun s hs => ?_⟩
  obtain rfl := Option.some.inj hs
  refine ⟨fun t ht hname => ?_, fun s hs => ?_⟩
  · obtain rfl := Option.some.inj ht
    cases hname
  · obtain rfl := Option.some.inj hs
    refine ⟨fun t ht _ => ?_, fun _ _ => trivial⟩
    obtain rfl := Option.some.inj ht
    decide

/-- Pinned to an interface, the resolver reports the state of another one. -/
theorem borrowed : system.Run []
      [.connect, .refresh 0 (.ok [completed "eth0"]), .forInterface 0 "pan0"]
      [⟨⟨none, .authenticated⟩, [⟨"eth0", "completed"⟩]⟩,
        ⟨⟨some "pan0", .authenticated⟩, [⟨"eth0", "completed"⟩]⟩] ∧
    ¬ ∀ calls s, system.Run [] calls s → KeepsApart s := by
  have hrun : system.Run []
      [.connect, .refresh 0 (.ok [completed "eth0"]), .forInterface 0 "pan0"]
      [⟨⟨none, .authenticated⟩, [⟨"eth0", "completed"⟩]⟩,
        ⟨⟨some "pan0", .authenticated⟩, [⟨"eth0", "completed"⟩]⟩] := by
    decide
  refine ⟨hrun, fun h => ?_⟩
  -- It would need a `completed` of pan0, and there was none.
  have hcompleted := keepsApart_iff_state.mp (h _ _ hrun _ (List.mem_cons_of_mem _
    List.mem_cons_self)) "pan0" rfl rfl
  revert hcompleted
  decide

end Wpa
end Pax
