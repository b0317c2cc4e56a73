import Pax.Framework.Lts
import Pax.Transport.BlueZ.Pair

/-!
# Inbound pairing on BlueZ

`BlueZBackend::accept_pairings` of `pax-transport/src/bluez.rs`, with what the callbacks of
`build_bluer_agent` do to the set that it reports. The call registers the agent, opens the window
and looks at the set every 250 ms, and meanwhile other devices pair: a callback has an answer of the
agent, or `bluetoothd` settles an attempt, as a bond or as a failure. The steps of all of them are
those of one system (`acceptPairings`), in any order.

A callback enters its device as soon as it takes the agent's answer, and nothing takes a device out
or tells the call how an attempt was settled. So what is reported are the devices that were
authorized (`Tracks`), and these are the ones that bonded only where the two agree (`reports_iff`).
The same goes for the limit of `max_devices`, which closes the window early (`stopsAt_iff`). A
device that fails to bond after it was authorized is in `unbonded_device_reported`.
-/

namespace Pax

/-- The window as `tokio` has it, in nanoseconds: `from_millis(opts.window.as_millis() as u64)`. -/
def InboundPairing.windowNanos (opts : InboundPairing) : ℕ :=
  opts.window.asMillis % 2 ^ 64 * 1000000

/-- The timeout that the adapter is given, in seconds. -/
def InboundPairing.timeoutSecs (opts : InboundPairing) : UInt32 :=
  max (UInt32.ofNat (opts.window.asMillis / 1000)) 1

namespace BlueZ

/-- A call to the adapter, as opening and closing the window make it. -/
inductive AdapterCall where
  | setPairableTimeout (secs : UInt32)
  | setDiscoverableTimeout (secs : UInt32)
  | setPairable (on : Bool)
  | setDiscoverable (on : Bool)
  deriving DecidableEq, Repr

/-- Where `accept_pairings` stands. -/
inductive Stage where
  | registering
  | calling (call : AdapterCall)
  /-- In the loop, asleep until `wake`. -/
  | looping (deadline wake : ℕ)
  | collecting
  | returned (result : Except TransportError (List DeviceId))
  deriving DecidableEq

/-- The agent is registered from the reply to `register_agent` until its handle is dropped. -/
def Stage.hasAgent : Stage → Bool
  | .registering => false
  | .returned _ => false
  | _ => true

/-- A call of `accept_pairings` under way, with the set that it shares with the callbacks. -/
structure Window where
  backend : State
  stage : Stage
  bonded : Finset DeviceId

/-- A call that has just been made. -/
def Window.init (backend : State) : Window := { backend, stage := .registering, bonded := ∅ }

/-- What happens in a window: a call comes back, a device is authorized or settled, or the loop
looks. -/
inductive InboundStep where
  /-- `register_agent` comes back. -/
  | registered (result : Except String Unit)
  /-- The adapter replies, at a time. -/
  | replied (result : Except String Unit) (now : ℕ)
  /-- The loop goes round. -/
  | look (now : ℕ)
  /-- The set is read out. A `HashSet` has no order of its own. -/
  | collect (ids : List DeviceId)
  /-- The agent's answer to a prompt reaches the callback. -/
  | answered (device : BdAddr) (prompt : Prompt) (response : PairingResponse)
  /-- `bluetoothd` ends an attempt of a device, with a bond or without. -/
  | settled (device : BdAddr) (bond : Except String Unit)

/-- The stage after a reply of the adapter. Timeouts are best effort, and so is switching off. -/
def Stage.afterReply (opts : InboundPairing) (result : Except String Unit) (now : ℕ) :
    AdapterCall → Stage
  | .setPairableTimeout _ => .calling (.setDiscoverableTimeout opts.timeoutSecs)
  | .setDiscoverableTimeout _ => .calling (.setPairable true)
  | .setPairable true =>
    match result with
    | .error e => .returned (.error (.backend e))
    | .ok () => .calling (.setDiscoverable true)
  | .setDiscoverable true =>
    match result with
    | .error e => .returned (.error (.backend e))
    | .ok () => .looping (now + opts.windowNanos) now
  | .setDiscoverable false => .calling (.setPairable false)
  | .setPairable false => .collecting

/-- The stage after a look at the set, of `size` devices. -/
def Stage.afterLook (opts : InboundPairing) (size deadline now : ℕ) : Stage :=
  if opts.maxDevices.any (· ≤ size) then .calling (.setDiscoverable false)
  else if deadline ≤ now then .calling (.setDiscoverable false)
  else .looping deadline (now + min (deadline - now) 250000000)

/-- Report the devices of the set, one event each. -/
def emitCompleted (env : Environment) (ids : List DeviceId) (backend : State) : State :=
  ids.foldl (fun backend id => backend.emit env id .pairingCompleted) backend

/-- A call of `accept_pairings`, and what goes on around it. -/
def acceptPairings (env : Environment) (opts : InboundPairing) : Lts Window InboundStep where
  next s
    | .registered result =>
      if s.stage = .registering then
        match result with
        | .error e => some { s with stage := .returned (.error (.backend e)) }
        | .ok () => some { s with stage := .calling (.setPairableTimeout opts.timeoutSecs) }
      else none
    | .replied result now =>
      match s.stage with
      | .calling call => some { s with stage := .afterReply opts result now call }
      | _ => none
    | .look now =>
      match s.stage with
      | .looping deadline wake =>
        if wake ≤ now then some { s with stage := .afterLook opts s.bonded.card deadline now }
        else none
      | _ => none
    | .collect ids =>
      if s.stage = .collecting ∧ ids.Nodup ∧ ids.toFinset = s.bonded then
        some { s with stage := .returned (.ok ids), backend := emitCompleted env ids s.backend }
      else none
    | .answered device prompt response =>
      if s.stage.hasAgent then
        match prompt.callback.reply response with
        | .ok _ => some { s with bonded := insert (.pub device) s.bonded }
        | .error _ => some s
      else none
    -- nobody is told how an attempt ends
    | .settled _ _ => if s.stage.hasAgent then some s else none

/-! ### Who authorized and who bonded -/

/-- The device that a callback enters into the set with a step. -/
def authorized? : InboundStep → Option DeviceId
  | .answered device prompt response =>
    match prompt.callback.reply response with
    | .ok _ => some (.pub device)
    | .error _ => none
  | _ => none

/-- The device that has bonded with a step. -/
def completed? : InboundStep → Option DeviceId
  | .settled device (.ok ()) => some (.pub device)
  | _ => none

/-- The devices with an answer that a callback took. -/
def authorized (steps : List InboundStep) : Finset DeviceId :=
  (steps.filterMap authorized?).toFinset

/-- The devices with a bond that was completed. -/
def completed (steps : List InboundStep) : Finset DeviceId := (steps.filterMap completed?).toFinset

theorem authorized_concat (steps : List InboundStep) (step : InboundStep) :
    authorized (steps ++ [step]) = authorized steps ∪ (authorized? step).toFinset := by
  rw [authorized, List.filterMap_append, List.toFinset_append, authorized]
  cases h : authorized? step with
  | none => rw [List.filterMap_cons_none h]; rfl
  | some id => rw [List.filterMap_cons_some h]; rfl

/-! ### What is reported -/

section Run

variable {env : Environment} {opts : InboundPairing} {backend : State} {steps : List InboundStep}
  {s s' : Window}

/-- The events say which devices are reported, in order. -/
theorem events_emitCompleted (env : Environment) (ids : List DeviceId) (backend : State) :
    ∃ new, (emitCompleted env ids backend).events = backend.events ++ new ∧
      new.map (fun event => (event.origin.peer, event.kind))
        = ids.map fun id => (id, .pairingCompleted) := by
  induction ids generalizing backend with
  | nil => exact ⟨[], (List.append_nil _).symm, rfl⟩
  | cons id ids ih =>
    obtain ⟨new, hevents, hnew⟩ := ih (backend.emit env id .pairingCompleted)
    refine ⟨_ :: new, hevents.trans (List.append_assoc _ _ _), ?_⟩
    rw [List.map_cons, hnew]
    rfl

/-- Only reading the set out makes the call return devices. -/
theorem Stage.afterReply_ne (result : Except String Unit) (now : ℕ) (call : AdapterCall)
    (ids : List DeviceId) : Stage.afterReply opts result now call ≠ .returned (.ok ids) := by
  rcases call with secs | secs | on | on
  · nofun
  · nofun
  · cases on
    · nofun
    · cases result <;> nofun
  · cases on
    · nofun
    · cases result <;> nofun

theorem Stage.afterLook_ne (size deadline now : ℕ) (ids : List DeviceId) :
    Stage.afterLook opts size deadline now ≠ .returned (.ok ids) := by
  unfold Stage.afterLook
  split
  · nofun
  · split <;> nofun

/-- **What a step can do**: the call goes on, it reads the set out, or something happens
around it. -/
theorem next_cases {step : InboundStep} (h : (acceptPairings env opts).next s step = some s') :
    (∃ stage, s' = { s with stage } ∧ authorized? step = none ∧
        (∀ ids, s.stage ≠ .returned (.ok ids)) ∧ ∀ ids, stage ≠ .returned (.ok ids)) ∨
      (∃ ids, s.stage = .collecting ∧ ids.Nodup ∧ ids.toFinset = s.bonded ∧
        authorized? step = none ∧ s' = { s with
          stage := .returned (.ok ids)
          backend := emitCompleted env ids s.backend }) ∨
      (s.stage.hasAgent = true ∧
        s' = { s with bonded := s.bonded ∪ (authorized? step).toFinset }) := by
  -- By the step. Those that are not of an agent change the stage only; the answers change the set
  -- of bonded devices only.
  cases step with
  | registered result =>
    simp only [acceptPairings] at h
    split at h
    next hstage =>
      have hbefore (ids : List DeviceId) : s.stage ≠ .returned (.ok ids) := by rw [hstage]; nofun
      cases result <;> cases h <;> exact .inl ⟨_, rfl, rfl, hbefore, nofun⟩
    next => cases h
  | replied result now =>
    simp only [acceptPairings] at h
    split at h
    next call hstage =>
      have hbefore (ids : List DeviceId) : s.stage ≠ .returned (.ok ids) := by rw [hstage]; nofun
      cases h
      exact .inl ⟨_, rfl, rfl, hbefore, Stage.afterReply_ne result now call⟩
    next => cases h
  | look now =>
    simp only [acceptPairings] at h
    split at h
    next deadline wake hstage =>
      have hbefore (ids : List DeviceId) : s.stage ≠ .returned (.ok ids) := by rw [hstage]; nofun
      split at h
      · cases h
        exact .inl ⟨_, rfl, rfl, hbefore, Stage.afterLook_ne _ deadline now⟩
      · cases h
    next => cases h
  | collect ids =>
    simp only [acceptPairings] at h
    split at h
    next hcollect =>
      cases h
      exact .inr (.inl ⟨ids, hcollect.1, hcollect.2.1, hcollect.2.2, rfl, rfl⟩)
    next => cases h
  | answered device prompt response =>
    simp only [acceptPairings] at h
    split at h
    next hagent =>
      refine .inr (.inr ⟨hagent, ?_⟩)
      -- The callback authorizes the device, or refuses.
      cases hreply : prompt.callback.reply response with
      | ok reply =>
        rw [hreply] at h
        cases h
        rw [authorized?, hreply, Option.toFinset_some, Finset.union_comm]
        rfl
      | error e =>
        rw [hreply] at h
        cases h
        rw [authorized?, hreply, Option.toFinset_none, Finset.union_empty]
    next => cases h
  | settled device bond =>
    simp only [acceptPairings] at h
    split at h
    next hagent =>
      cases h
      have hsame : s.bonded = s.bonded ∪ (authorized? (.settled device bond)).toFinset :=
        (Finset.union_empty _).symm
      refine .inr (.inr ⟨hagent, ?_⟩)
      rw [← hsame]
    next => cases h

/-- The state of a call goes with what has happened in it. -/
structure Tracks (env : Environment) (backend : State) (steps : List InboundStep) (s : Window) :
    Prop where
  bonded : s.bonded = authorized steps
  silent : (∀ ids, s.stage ≠ .returned (.ok ids)) → s.backend = backend
  reported : ∀ ids, s.stage = .returned (.ok ids) → ids.Nodup ∧ ids.toFinset = s.bonded ∧
    s.backend = emitCompleted env ids backend

theorem Tracks.step {step : InboundStep} (h : Tracks env backend steps s)
    (hnext : (acceptPairings env opts).next s step = some s') :
    Tracks env backend (steps ++ [step]) s' := by
  obtain ⟨stage, rfl, hnone, hbefore, hafter⟩ | ⟨ids, hstage, hnodup, hids, hnone, rfl⟩ |
    ⟨hagent, rfl⟩ := next_cases hnext
  · constructor
    · rw [authorized_concat, hnone]
      exact h.bonded.trans (Finset.union_empty _).symm
    · exact fun _ => h.silent hbefore
    · exact fun ids hids => absurd hids (hafter ids)
  -- The window returns: what it reports is what was authorized until then.
  · have hbackend : s.backend = backend := h.silent fun ids => by rw [hstage]; nofun
    constructor
    · rw [authorized_concat, hnone]
      exact h.bonded.trans (Finset.union_empty _).symm
    · exact fun hnot => absurd rfl (hnot ids)
    · rintro ids' ⟨⟩
      exact ⟨hnodup, hids, congrArg (emitCompleted env ids) hbackend⟩
  -- The agent answers, while the window is open.
  · have hopen (ids : List DeviceId) : s.stage ≠ .returned (.ok ids) := by
      intro hreturned
      rw [hreturned] at hagent
      cases hagent
    constructor
    · rw [authorized_concat, ← h.bonded]
    · exact fun _ => h.silent hopen
    · exact fun ids hids => absurd hids (hopen ids)

/-- **What is reported are the devices that were authorized**, whatever became of them. -/
theorem tracks_of_run (h : (acceptPairings env opts).Run (.init backend) steps s) :
    Tracks env backend steps s :=
  h.history ⟨rfl, fun _ => rfl, nofun⟩ fun _ _ _ _ htracks hnext => htracks.step hnext

end Run

/-! ### When the report is right -/

section Report

variable (env : Environment) (opts : InboundPairing) (backend : State) (steps : List InboundStep)

/-- The window stops early: a look before its deadline closes it. -/
def StopsAt (s : Window) (now : ℕ) : Prop :=
  ∃ deadline wake s', s.stage = .looping deadline wake ∧ now < deadline ∧
    (acceptPairings env opts).next s (.look now) = some s' ∧
    s'.stage = .calling (.setDiscoverable false)

/-- A call that returned `ids` has reported the bonds: these are the devices that bonded, there is
one event for each, and the window stopped early only once `max_devices` had bonded. -/
structure Reports (s : Window) (ids : List DeviceId) : Prop where
  returned : ids.Nodup ∧ ids.toFinset = completed steps
  announced : ∃ new, s.backend.events = backend.events ++ new ∧
    new.map (fun event => (event.origin.peer, event.kind))
      = ids.map fun id => (id, .pairingCompleted)
  early : ∀ pre now post s₁, steps = pre ++ .look now :: post →
    (acceptPairings env opts).Run (.init backend) pre s₁ → StopsAt env opts s₁ now →
    ∃ max, opts.maxDevices = some max ∧ max ≤ (completed pre).card

/-- The devices authorized are those that bonded, and if there are `max_devices` of the one sort
when the loop looks before its deadline, then there are `max_devices` of the other. -/
structure Settled : Prop where
  devices : authorized steps = completed steps
  early : ∀ pre now post s₁ deadline wake max, steps = pre ++ .look now :: post →
    (acceptPairings env opts).Run (.init backend) pre s₁ → s₁.stage = .looping deadline wake →
    now < deadline → opts.maxDevices = some max → max ≤ (authorized pre).card →
    max ≤ (completed pre).card

variable {env opts backend steps} {s : Window}

/-- A look before the deadline closes the window if the set has `max_devices`, and only then. -/
theorem stopsAt_iff {now : ℕ} : StopsAt env opts s now ↔
    ∃ deadline wake max, s.stage = .looping deadline wake ∧ wake ≤ now ∧ now < deadline ∧
      opts.maxDevices = some max ∧ max ≤ s.bonded.card := by
  constructor
  -- The loop ends before the deadline only at the cap.
  · rintro ⟨deadline, wake, s', hstage, hnow, hnext, hclosed⟩
    simp only [acceptPairings, hstage] at hnext
    split at hnext
    next hawake =>
      cases hnext
      have hlater : ¬ deadline ≤ now := not_le.mpr hnow
      simp only [Stage.afterLook, hlater, if_false] at hclosed
      split at hclosed
      next hmax =>
        obtain ⟨max, hsome, hle⟩ := (Option.any_eq_true _ _).mp hmax
        exact ⟨deadline, wake, max, hstage, hawake, hnow, hsome, of_decide_eq_true hle⟩
      next => cases hclosed
    next => cases hnext
  · rintro ⟨deadline, wake, max, hstage, hawake, hnow, hsome, hle⟩
    refine ⟨deadline, wake,
      { s with stage := .afterLook opts s.bonded.card deadline now }, hstage, hnow, ?_, ?_⟩
    · simp only [acceptPairings, hstage]
      exact if_pos hawake
    · have hmax : opts.maxDevices.any (· ≤ s.bonded.card) = true := by
        rw [hsome]
        exact decide_eq_true hle
      exact if_pos hmax

/-- The loop looks only when it is awake. -/
theorem wake_le_of_look {s' : Window} {deadline wake now : ℕ}
    (hstage : s.stage = .looping deadline wake)
    (h : (acceptPairings env opts).next s (.look now) = some s') : wake ≤ now := by
  simp only [acceptPairings, hstage] at h
  split at h
  next hawake => exact hawake
  next => cases h

/-- **Inbound bonds are reported** by a call that returns if and only if the devices authorized are
those that bonded, at the end and, as far as `max_devices` goes, at each look. -/
theorem reports_iff {ids : List DeviceId}
    (hrun : (acceptPairings env opts).Run (.init backend) steps s)
    (hreturned : s.stage = .returned (.ok ids)) :
    Reports env opts backend steps s ids ↔ Settled env opts backend steps := by
  have htracks := tracks_of_run hrun
  obtain ⟨hnodup, hids, hbackend⟩ := htracks.reported ids hreturned
  have hauthorized : ids.toFinset = authorized steps := hids.trans htracks.bonded
  constructor
  · intro h
    refine ⟨hauthorized.symm.trans h.returned.2, ?_⟩
    intro pre now post s₁ deadline wake max hsteps hpre hstage hnow hsome hle
    -- A look before the time to wake up is no step, so the loop was to wake.
    have hawake : wake ≤ now := by
      rw [hsteps] at hrun
      obtain ⟨s₂, hpre', hrest⟩ := Lts.run_append.mp hrun
      obtain ⟨s₃, hnext, -⟩ := Lts.run_cons.mp hrest
      obtain rfl : s₁ = s₂ := Option.some.inj (hpre.symm.trans hpre')
      exact wake_le_of_look hstage hnext
    have hstops : StopsAt env opts s₁ now := by
      rw [← (tracks_of_run hpre).bonded] at hle
      exact stopsAt_iff.mpr ⟨deadline, wake, max, hstage, hawake, hnow, hsome, hle⟩
    obtain ⟨max', hsome', hle'⟩ := h.early pre now post s₁ hsteps hpre hstops
    rw [hsome] at hsome'
    cases hsome'
    exact hle'
  -- What was authorized are the bonds that were completed, at the end and at every early look.
  · intro h
    constructor
    · exact ⟨hnodup, hauthorized.trans h.devices⟩
    · rw [hbackend]
      exact events_emitCompleted env ids backend
    · intro pre now post s₁ hsteps hpre hstops
      obtain ⟨deadline, wake, max, hstage, -, hnow, hsome, hle⟩ := stopsAt_iff.mp hstops
      rw [(tracks_of_run hpre).bonded] at hle
      exact ⟨max, hsome,
        h.early pre now post s₁ deadline wake max hsteps hpre hstage hnow hsome hle⟩

end Report

/-! ### A bond that fails after it was authorized -/

/-- A backend that other devices pair to. -/
def inboundEnv : Environment where
  controller := .virtualModel "hci0"
  spec := ⟨.v5_0, .dual⟩
  resolve _ := .bredrDefault
  clock n := ⟨n⟩
  kernel := Hci.notSupportedKernel
  adapter := ⟨"hci0", .ok ()⟩
  attempt _ _ := { registerAgent := .ok (), device := .ok (), devicePair := .finish (.ok ()) }

/-- A backend before any call. -/
def inboundState : State :=
  { mgmt := poweredState, seq := 0, events := [], history := [], calls := [] }

/-- The window opens, and the loop looks once. -/
def openWindow : List InboundStep :=
  .registered (.ok ()) :: List.replicate 4 (.replied (.ok ()) 0) ++ [.look 0]

/-- The agent says yes to a device that asks to be authorized. -/
def sayYes : InboundStep := .answered .nil .authorization (.confirm true)

/-- The loop looks again at `now`, the window closes, and a device is reported. -/
def closeWindow (now : ℕ) : List InboundStep :=
  [.look now, .replied (.ok ()) now, .replied (.ok ()) now, .collect [.pub .nil]]

/-- A device bonds: the agent says yes, and `bluetoothd` ends the attempt with success. -/
def bondedSteps : List InboundStep :=
  openWindow ++ [sayYes, .settled .nil (.ok ())] ++ closeWindow 1000000000

/-- The device that has bonded is reported when the window closes after a second, and it is the
only one. -/
theorem reports_bonded : ∃ s, (acceptPairings inboundEnv ⟨.fromMillis 1000, none⟩).Run
      (.init inboundState) bondedSteps s ∧ s.stage = .returned (.ok [.pub .nil]) ∧
    Reports inboundEnv ⟨.fromMillis 1000, none⟩ inboundState bondedSteps s [.pub .nil] := by
  have hcomputed : ((acceptPairings inboundEnv ⟨.fromMillis 1000, none⟩).exec
      (.init inboundState) bondedSteps).any
        (fun s => s.stage = .returned (.ok [.pub .nil])) = true := by decide
  obtain ⟨s, hrun, hreturned⟩ := Lts.exists_run_of_any hcomputed
  refine ⟨s, hrun, of_decide_eq_true hreturned, ?_⟩
  refine (reports_iff hrun (of_decide_eq_true hreturned)).mpr ⟨by decide, ?_⟩
  intro pre now post s₁ deadline wake max _ _ _ _ hmax
  cases hmax

/-- A device fails to bond after the agent has said yes. -/
def failedSteps : List InboundStep :=
  openWindow ++ [sayYes, .settled .nil (.error "Authentication Failed")]

/-- The window for one device stops early for it, and it is reported, although nothing
has bonded. -/
theorem unbonded_device_reported : ∃ s₁ s,
    (acceptPairings inboundEnv ⟨.fromMillis 1000, some 1⟩).Run (.init inboundState) failedSteps s₁ ∧
    StopsAt inboundEnv ⟨.fromMillis 1000, some 1⟩ s₁ 250000000 ∧
    (acceptPairings inboundEnv ⟨.fromMillis 1000, some 1⟩).Run s₁ (closeWindow 250000000) s ∧
    s.stage = .returned (.ok [.pub .nil]) ∧
    completed (failedSteps ++ closeWindow 250000000) = ∅ ∧
    ¬ Reports inboundEnv ⟨.fromMillis 1000, some 1⟩ inboundState
      (failedSteps ++ closeWindow 250000000) s [.pub .nil] := by
  let L := acceptPairings inboundEnv ⟨.fromMillis 1000, some 1⟩
  let p (s₁ : Window) : Bool :=
    decide (s₁.stage = .looping 1000000000 250000000 ∧ 1 ≤ s₁.bonded.card ∧
      (L.exec s₁ (closeWindow 250000000)).any
        (fun s => s.stage = .returned (.ok [.pub .nil])) = true)
  -- The run is computed in two parts, up to the look that ends the loop, and from there.
  have hcomputed : (L.exec (.init inboundState) failedSteps).any p = true := by decide
  obtain ⟨s₁, hopen, hp⟩ := Lts.exists_run_of_any hcomputed
  obtain ⟨hstage, hcard, hclose⟩ := of_decide_eq_true hp
  obtain ⟨s, hrun, hreturned⟩ := Lts.exists_run_of_any hclose
  have hnone : completed (failedSteps ++ closeWindow 250000000) = ∅ := by decide
  refine ⟨s₁, s, hopen, ?_, hrun, of_decide_eq_true hreturned, hnone, ?_⟩
  · exact stopsAt_iff.mpr
      ⟨1000000000, 250000000, 1, hstage, le_refl _, by norm_num, rfl, hcard⟩
  · intro hreports
    have hids : [DeviceId.pub .nil].toFinset = ∅ := hreports.returned.2.trans hnone
    exact absurd hids (by decide)

end BlueZ
end Pax
