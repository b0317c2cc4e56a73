import Pax.Pairing.Items
import Pax.Transport.BlueZ.Pair

/-!
# What becomes of a refusal on BlueZ

The retry loop and the batch rounds stop at `PairingRejected`. A refusal of the agent reaches
`BlueZBackend::pair` as an error of `Device::pair` like any other, and `pair` reports it as
`PairingFailed`; so the loops go on, and the agent is asked again while attempts are left.

A refusal is final if the operation ends with it: it is reported as rejected, and no attempt follows
it on the same device (`NeverReasked`). `refusal_final_iff` says, for every agent and every
behaviour of `bluetoothd`, that this is so in a call of `pair_device` or in a batch only where there
was no refusal at all.

The states keep the `pair` calls that were made, with what the agent has answered, so that both
sides are about what has happened between two states (`callsSince`).
-/

namespace Pax
namespace BlueZ

/-- The operation was reported as rejected, with the error for it. -/
def IsRejected {α : Type} (result : Except TransportError α) : Prop :=
  ∃ reason, result = .error (.pairingRejected reason)

@[simp] theorem not_isRejected_ok {α : Type} (a : α) : ¬ IsRejected (.ok a) := by
  rintro ⟨reason, h⟩
  cases h

theorem not_isRejected_error {α : Type} {e : TransportError}
    (h : ∀ reason, e ≠ .pairingRejected reason) : ¬ IsRejected (.error e : Except _ α) := by
  rintro ⟨reason, hreason⟩
  exact h reason (Except.error.inj hreason)

/-- The `pair` calls that were made between two states, in order. -/
def callsSince (s s' : State) : List PairCall := s'.calls.drop s.calls.length

/-- No attempt follows a refused one on the same device: who has refused is not asked again. -/
def NeverReasked (calls : List PairCall) : Prop :=
  calls.Pairwise fun call later => call.Refused → later.target ≠ call.target

/-- In a call of `pair_device`, a refusal is the end of it, and is reported. -/
def RefusalFinal (calls : List PairCall) (result : Except TransportError PairReport) : Prop :=
  NeverReasked calls ∧ ∀ call ∈ calls, call.Refused → IsRejected result

/-- In a batch, a device that was refused is not attempted again, and its item says so. -/
def BatchRefusalFinal (calls : List PairCall) (items : List PairItem) : Prop :=
  NeverReasked calls ∧ ∀ call ∈ calls, call.Refused →
    ∃ item ∈ items, item.id = call.target ∧ IsRejected item.outcome

theorem neverReasked_of_not_refused {calls : List PairCall} (h : ∀ call ∈ calls, ¬ call.Refused) :
    NeverReasked calls :=
  List.pairwise_of_forall_mem_list fun call hcall _ _ hrefused => absurd hrefused (h call hcall)

theorem callsSince_of_append {s s' : State} {calls : List PairCall}
    (h : s'.calls = s.calls ++ calls) : callsSince s s' = calls := by
  rw [callsSince, h, List.drop_left]

section Refusal

variable {env : Environment} {transfers : BluetoothBackend State} {agent : PairingAgent}

/-! ### The spoof -/

/-- Setting the address fails with an error about the address or about `bluetoothd`. -/
theorem run_setLocalAddress_error {kernel : Hci.Kernel} {adapter : Adapter} {addr : BdAddr}
    {mgmt mgmt' : Hci.MgmtState} {e : TransportError}
    (h : (setLocalAddress kernel adapter addr).run mgmt = .error e mgmt') :
    ∃ detail, e = .localAddress detail ∨ e = .backend detail := by
  unfold setLocalAddress EStateM.run at h
  -- The only errors are an adapter without an index, a kernel that refuses, and a failed power-on.
  cases hindex : adapter.hciIndex with
  | none =>
    rw [hindex] at h
    cases h
    exact ⟨_, .inl rfl⟩
  | some index =>
    rw [hindex] at h
    dsimp only at h
    split at h
    · cases h
      exact ⟨_, .inl rfl⟩
    · cases h
      exact ⟨_, .inl rfl⟩
    · split at h
      · cases h
        exact ⟨_, .inr rfl⟩
      · cases h

variable (env transfers) in
theorem run_applySpoof_some (addr : BdAddr) (s : State) :
    (applySpoof (backend env transfers) (some addr)).run s
      = (backend env transfers).setLocalAddress addr s := rfl

variable (env transfers) in
/-- Setting the address logs no `pair` call, and is never reported as a rejection. -/
theorem applySpoof_spec (spoof : Option BdAddr) (s : State) :
    ∃ r s', Outcome.split ((applySpoof (backend env transfers) spoof).run s) = (r, s') ∧
      s'.calls = s.calls ∧ ¬ IsRejected r := by
  -- It prompts nobody, so no call is added, and none of its errors is a rejection.
  cases spoof with
  | none => exact ⟨.ok (), s, rfl, rfl, not_isRejected_ok _⟩
  | some addr =>
    cases h : (setLocalAddress env.kernel env.adapter addr).run s.mgmt with
    | ok u mgmt =>
      have hrun : (applySpoof (backend env transfers) (some addr)).run s
          = .ok () { s with mgmt } := by
        rw [run_applySpoof_some]
        simp only [backend, h]
      exact ⟨.ok (), { s with mgmt }, by rw [hrun]; rfl, rfl, not_isRejected_ok _⟩
    | error e mgmt =>
      have hrun : (applySpoof (backend env transfers) (some addr)).run s
          = .error e { s with mgmt } := by
        rw [run_applySpoof_some]
        simp only [backend, h]
      refine ⟨.error e, { s with mgmt }, by rw [hrun]; rfl, rfl,
        not_isRejected_error ?_⟩
      intro reason
      obtain ⟨detail, rfl | rfl⟩ := run_setLocalAddress_error h <;> exact TransportError.noConfusion

/-! ### A call of `pair_device` -/

variable (env agent) in
/-- The retry loop logs its attempts. It never ends with a rejection, and if an attempt was refused
while there was another one left, that one follows. -/
theorem pairFrom_calls (target : DeviceId) (made left : ℕ) (s : State) :
    ∃ calls r s',
      Outcome.split ((pairFrom (pair env target agent) made (left + 1)).run s) = (r, s') ∧
      s'.calls = s.calls ++ calls ∧ calls ≠ [] ∧ (∀ call ∈ calls, call.target = target) ∧
      ¬ IsRejected r ∧
      (env.FailsOnError → ∀ i, ∀ h : i < calls.length, calls[i].Refused → i < left →
        i + 1 < calls.length) := by
  induction left generalizing made s with
  | zero =>
    obtain ⟨call, s', hcalls, htarget, hresult⟩ := pair_spec env target agent s
    rw [run_pairFrom_succ, Retry.attemptOnce]
    obtain ⟨outcome, hrun, -⟩ | ⟨e, hrun, detail, he⟩ := hresult
    · rw [hrun]
      exact ⟨[call], _, s', rfl, hcalls, by simp, by simpa using htarget, not_isRejected_ok _,
        by simp⟩
    -- `pair` reports every failure as `PairingFailed` or `Backend`, and neither is final
    · have hfinal : isFinal e = false := by rcases he with rfl | rfl <;> rfl
      refine ⟨[call], .error e, s', by simp [hrun, hfinal, Outcome.split], hcalls, by simp,
        by simpa using htarget, not_isRejected_error ?_, by simp⟩
      intro reason
      rcases he with rfl | rfl <;> exact TransportError.noConfusion
  | succ left ih =>
    obtain ⟨call, s', hcalls, htarget, hresult⟩ := pair_spec env target agent s
    rw [run_pairFrom_succ, Retry.attemptOnce]
    obtain ⟨outcome, hrun, hnot⟩ | ⟨e, hrun, detail, he⟩ := hresult
    · -- The attempt succeeded, so it was not refused, and there is no other.
      rw [hrun]
      refine ⟨[call], _, s', rfl, hcalls, by simp, by simpa using htarget, not_isRejected_ok _, ?_⟩
      intro hfaithful i hi hrefused _
      obtain rfl : i = 0 := by simpa using hi
      exact absurd hrefused (hnot hfaithful)
    · have hfinal : isFinal e = false := by rcases he with rfl | rfl <;> rfl
      -- the loop goes on, whatever made the attempt fail; a refusal is no exception
      obtain ⟨calls, r, s'', hloop, hcalls', hne, htargets, hrejected, hreask⟩ := ih (made + 1) s'
      refine ⟨call :: calls, r, s'', ?_, by rw [hcalls', hcalls, List.append_assoc]; rfl, by simp,
        by simpa using ⟨htarget, htargets⟩, hrejected, ?_⟩
      · simp only [hrun, hfinal]
        exact hloop
      · intro hfaithful i hi hrefused hleft
        cases i with
        -- this attempt was refused; the next one is the first of those that follow
        | zero =>
          have := List.length_pos_of_ne_nil hne
          simp only [List.length_cons]
          omega
        | succ i =>
          have := hreask hfaithful i (by simpa using hi) hrefused (by omega)
          simp only [List.length_cons]
          omega

variable (env transfers agent) in
/-- A call logs its attempts on the target, and no other call of `pair`. -/
theorem pairDevice_calls (target : DeviceId) (options : PairOptions) (s : State) :
    ∃ calls r s', Outcome.split ((pairDevice (backend env transfers) target agent options).run s)
        = (r, s') ∧
      s'.calls = s.calls ++ calls ∧ (∀ call ∈ calls, call.target = target) ∧ ¬ IsRejected r ∧
      (env.FailsOnError → ∀ i, ∀ h : i < calls.length, calls[i].Refused →
        i + 1 < saturatingSucc options.retries → i + 1 < calls.length) := by
  obtain ⟨left, hleft⟩ := Nat.exists_eq_add_of_le' (one_le_saturatingSucc options.retries)
  obtain ⟨r, s₁, hspoof, hcalls₁, hrejected⟩ :=
    applySpoof_spec env transfers options.spoofLocal s
  rw [pairDevice, hleft]
  cases hrun : (applySpoof (backend env transfers) options.spoofLocal).run s with
  | error e s₂ =>
    -- The address could not be set: no attempt is made.
    rw [hrun] at hspoof
    obtain ⟨rfl, rfl⟩ := Prod.ext_iff.mp hspoof
    have hrejected' : ¬ IsRejected (.error e : Except TransportError PairReport) :=
      not_isRejected_error fun reason h => hrejected ⟨reason, by rw [h]; rfl⟩
    rw [Outcome.run_bind_error hrun]
    exact ⟨[], .error e, s₂, rfl, by simpa [Outcome.split] using hcalls₁, by simp, hrejected',
      by simp⟩
  | ok u s₂ =>
    rw [hrun] at hspoof
    obtain ⟨rfl, rfl⟩ := Prod.ext_iff.mp hspoof
    rw [Outcome.run_bind_ok hrun]
    obtain ⟨calls, r, s', hloop, hcalls, -, htargets, hrejected, hreask⟩ :=
      pairFrom_calls env agent target 0 left s₂
    refine ⟨calls, r, s', hloop, by rw [hcalls, show s₂.calls = s.calls from hcalls₁], htargets,
      hrejected, fun hfaithful i hi hrefused hlt => hreask hfaithful i hi hrefused (by omega)⟩

/-! ### A batch -/

variable (env transfers agent) in
/-- No attempt fails finally, and every attempt adds to the log. -/
theorem guarantees (s₀ : State) : Guarantees (backend env transfers) agent
    (fun r => ∀ e, r = .error e → isFinal e = false) (fun s => s₀.calls <+: s.calls) where
  outcome flight s result s' h e he := by
    obtain ⟨call, t, -, -, hresult⟩ := pair_spec env flight.id agent s
    -- the error of a call is that of its last attempt
    have hrun : (pair env flight.id agent).run s = .error e s' := Flight.run_pair_of_error h he
    obtain ⟨outcome, hok, -⟩ | ⟨e', herror, detail, hdetail⟩ := hresult
    · rw [hrun] at hok
      cases hok
    · rw [hrun] at herror
      cases herror
      rcases hdetail with rfl | rfl <;> rfl
  state id s hs := by
    obtain ⟨call, t, hcalls, -, hresult⟩ := pair_spec env id agent s
    have hpair : (backend env transfers).pair id agent = pair env id agent := rfl
    have ht : (Outcome.split ((pair env id agent).run s)).2 = t := by
      obtain ⟨outcome, hrun, -⟩ | ⟨e, hrun, -⟩ := hresult <;> rw [hrun] <;> rfl
    rw [hpair, ht, hcalls]
    exact hs.trans (List.prefix_append _ _)

variable (env transfers agent) in
/-- No item of a batch is reported as rejected, and one without a bond was attempted in every round,
unless the address could not be set. -/
theorem pairDevices_calls (schedules : ℕ → Schedule) (targets : List DeviceId)
    (options : BatchPairOptions) (s : State) :
    ∃ items s', pairDevices (backend env transfers) schedules targets agent options s
        = (some items, s') ∧
      s.calls <+: s'.calls ∧ (∀ item ∈ items, ¬ IsRejected item.outcome) ∧
      (options.perDevice.spoofLocal = none → ∀ item ∈ items, ∀ e, item.outcome = .error e →
        item.attempts = max options.rounds.toNat 1) := by
  obtain ⟨r, s₁, hspoof, hcalls, -⟩ := applySpoof_spec env transfers options.perDevice.spoofLocal s
  -- The address cannot be set, and every item says so; or it was, and the rounds follow.
  cases hrun : (applySpoof (backend env transfers) options.perDevice.spoofLocal).run s with
  | error e s₂ =>
    rw [hrun] at hspoof
    obtain ⟨rfl, rfl⟩ := Prod.ext_iff.mp hspoof
    refine ⟨targets.eraseDups.map fun id =>
      { id, outcome := .error (.localAddress e.display), attempts := 0 }, s₂, ?_, ?_, ?_, ?_⟩
    · simp only [pairDevices, dedupe_eq, hrun]
    · exact (show s₂.calls = s.calls from hcalls) ▸ List.prefix_rfl
    · intro item hitem
      obtain ⟨id, -, rfl⟩ := List.mem_map.mp hitem
      exact not_isRejected_error fun _ => TransportError.noConfusion
    · intro hnone
      rw [hnone] at hrun
      cases hrun
  | ok u s₂ =>
    rw [hrun] at hspoof
    obtain ⟨rfl, rfl⟩ := Prod.ext_iff.mp hspoof
    obtain ⟨items, s', hbatch, -, hprefix, hitems⟩ := pairDevices_items
      (guarantees env transfers agent s)
      (fun e he => by cases he; rfl) schedules targets options hrun
      ((show s₂.calls = s.calls from hcalls) ▸ List.prefix_rfl)
    refine ⟨items, s', hbatch, hprefix, ?_, ?_⟩
    -- a rejection would be final, and no outcome of this backend is
    · intro item hitem
      rintro ⟨reason, hreason⟩
      exact Bool.noConfusion ((hitems item hitem).1 _ hreason)
    · intro _ item hitem e he
      refine (hitems item hitem).2.2 ?_
      rw [he, retryable, (hitems item hitem).1 e he]
      rfl

/-! ### When a refusal is final -/

/-- **A refusal on BlueZ is final only where there is none.** For every agent, every behaviour of
`bluetoothd` that fails a pairing after a callback failed, and all options:

* a call of `pair_device` makes no attempt after a refused one and reports the rejection if and only
  if no attempt was refused, and a refused attempt is followed by another as long as there is one
  left;
* a batch makes no attempt on a device after a refused one and reports the rejection in its item if
  and only if no attempt was refused, and an item without a bond has used up all the rounds. -/
theorem refusal_final_iff (env : Environment) (hfails : env.FailsOnError)
    (transfers : BluetoothBackend State) (agent : PairingAgent) (s : State) :
    (∀ target options, ∃ r s',
      Outcome.split ((pairDevice (backend env transfers) target agent options).run s) = (r, s') ∧
      s.calls <+: s'.calls ∧ (∀ call ∈ callsSince s s', call.target = target) ∧
      (RefusalFinal (callsSince s s') r ↔ ∀ call ∈ callsSince s s', ¬ call.Refused) ∧
      ∀ i, ∀ h : i < (callsSince s s').length, (callsSince s s')[i].Refused →
        i + 1 < saturatingSucc options.retries → i + 1 < (callsSince s s').length) ∧
    ∀ schedules targets options, ∃ items s',
      pairDevices (backend env transfers) schedules targets agent options s = (some items, s') ∧
      s.calls <+: s'.calls ∧
      (BatchRefusalFinal (callsSince s s') items ↔ ∀ call ∈ callsSince s s', ¬ call.Refused) ∧
      (options.perDevice.spoofLocal = none → ∀ item ∈ items, ∀ e, item.outcome = .error e →
        item.attempts = max options.rounds.toNat 1) := by
  constructor
  · intro target options
    obtain ⟨calls, r, s', hrun, hcalls, htargets, hrejected, hreask⟩ :=
      pairDevice_calls env transfers agent target options s
    rw [← callsSince_of_append hcalls] at htargets hreask
    refine ⟨r, s', hrun, ⟨calls, hcalls.symm⟩, htargets, ⟨?_, ?_⟩, hreask hfails⟩
    -- a rejection is never reported, so if a refusal were final there would be none
    · exact fun h call hcall hrefused => hrejected (h.2 call hcall hrefused)
    · exact fun h => ⟨neverReasked_of_not_refused h,
        fun call hcall hrefused => absurd hrefused (h call hcall)⟩
  · intro schedules targets options
    obtain ⟨items, s', hrun, hprefix, hrejected, hrounds⟩ :=
      pairDevices_calls env transfers agent schedules targets options s
    refine ⟨items, s', hrun, hprefix, ⟨?_, ?_⟩, hrounds⟩
    · intro h call hcall hrefused
      obtain ⟨item, hitem, -, hreport⟩ := h.2 call hcall hrefused
      exact hrejected item hitem hreport
    · exact fun h => ⟨neverReasked_of_not_refused h,
        fun call hcall hrefused => absurd hrefused (h call hcall)⟩

end Refusal

/-- Two attempts in a row on one device, the first of them refused. -/
theorem not_neverReasked {call : PairCall} (h : call.Refused) : ¬ NeverReasked [call, call] :=
  fun hnever => List.rel_of_pairwise_cons hnever (List.mem_singleton_self _) h rfl

/-! ### A refusal that is asked again -/

/-- `bluetoothd` asks for a numeric comparison in every attempt, and fails if it is rejected. -/
def comparisonEnv : Environment where
  controller := .virtualModel "hci0"
  spec := ⟨.v5_0, .dual⟩
  resolve _ := .bredrDefault
  clock n := ⟨n⟩
  kernel := Hci.notSupportedKernel
  adapter := ⟨"hci0", .ok ()⟩
  attempt _ _ :=
    { registerAgent := .ok ()
      device := .ok ()
      devicePair := .ask (.confirmation 123456) fun reply =>
        match reply with
        | .ok _ => .finish (.ok ())
        | .error _ => .finish (.error "Authentication Rejected") }

theorem comparisonEnv_failsOnError : comparisonEnv.FailsOnError :=
  fun _ _ => ⟨fun _ => trivial, fun _ => ⟨_, rfl⟩⟩

/-- A BlueZ backend that is only used for pairing. -/
def noTransfers : BluetoothBackend State where
  capabilities := { kind := .bluez, maxConcurrentPairings := 1, canSpoofAddress := true }
  setLocalAddress _ := pure ()
  pair _ _ := throw (.unsupported "bluez" "pair")
  connect _ := throw (.unsupported "bluez" "connect")
  disconnect _ := pure ()
  pushFile _ _ := throw (.unsupported "bluez" "push_file")

/-- An agent that refuses every prompt, by denying the confirmation. -/
def refusingAgent : PairingAgent := ⟨fun _ _ => .confirm false⟩

/-- An agent that agrees to every prompt, by confirming. -/
def agreeingAgent : PairingAgent := ⟨fun _ _ => .confirm true⟩

def idleState : State :=
  { mgmt := poweredState, seq := 0, events := [], history := [], calls := [] }

/-- Rounds that always pick the first call in flight, and take results in as they come. -/
def firstFirst : Schedule := ⟨fun _ => 0, id, List.Perm.refl⟩

/-- The refusal is not final: `pair_device` returns an error that it may retry. If the agent agrees,
then there is no refusal, and all is as it should be. -/
theorem refusal_final_iff_comparison :
    (∃ r s', Outcome.split ((pairDevice (backend comparisonEnv noTransfers) (DeviceId.pub .nil)
        refusingAgent ⟨1, none⟩).run idleState) = (r, s') ∧
      ¬ RefusalFinal (callsSince idleState s') r) ∧
    ∃ r s', Outcome.split ((pairDevice (backend comparisonEnv noTransfers) (DeviceId.pub .nil)
        agreeingAgent ⟨1, none⟩).run idleState) = (r, s') ∧
      (callsSince idleState s').length = 1 ∧ RefusalFinal (callsSince idleState s') r := by
  -- A refused comparison is asked again, and one that is agreed to is not.
  constructor
  · obtain ⟨r, s', hrun, -, -, hiff, -⟩ := (refusal_final_iff comparisonEnv
      comparisonEnv_failsOnError noTransfers refusingAgent idleState).1 (DeviceId.pub .nil)
      ⟨1, none⟩
    have hcalls : callsSince idleState s' = [⟨DeviceId.pub .nil, [(.confirmPasskey 123456,
        .confirm false)]⟩, ⟨DeviceId.pub .nil, [(.confirmPasskey 123456, .confirm false)]⟩] := by
      obtain rfl : _ = s' := congrArg Prod.snd hrun
      rfl
    refine ⟨r, s', hrun, fun h => absurd (hiff.mp h) ?_⟩
    rw [hcalls]
    decide
  · obtain ⟨r, s', hrun, -, -, hiff, -⟩ := (refusal_final_iff comparisonEnv
      comparisonEnv_failsOnError noTransfers agreeingAgent idleState).1 (DeviceId.pub .nil)
      ⟨1, none⟩
    have hcalls : callsSince idleState s' =
        [⟨DeviceId.pub .nil, [(.confirmPasskey 123456, .confirm true)]⟩] := by
      obtain rfl : _ = s' := congrArg Prod.snd hrun
      rfl
    refine ⟨r, s', hrun, congrArg List.length hcalls, hiff.mpr ?_⟩
    rw [hcalls]
    decide

/-- One call of `pair_device` with one retry: the agent refuses, is asked the same again, refuses
again, and the call reports `PairingFailed`. One call of `pair_devices` with two rounds does the
same. -/
theorem refusal_is_asked_again :
    let target := DeviceId.pub .nil
    let refused : PairCall := ⟨target, [(.confirmPasskey 123456, .confirm false)]⟩
    comparisonEnv.FailsOnError ∧
    (∃ r s', Outcome.split ((pairDevice (backend comparisonEnv noTransfers) target refusingAgent
        ⟨1, none⟩).run idleState) = (r, s') ∧
      r = .error (.pairingFailed "Authentication Rejected") ∧
      callsSince idleState s' = [refused, refused] ∧ ¬ RefusalFinal (callsSince idleState s') r) ∧
    ∃ items s', pairDevices (backend comparisonEnv noTransfers) (fun _ => firstFirst) [target]
        refusingAgent ⟨none, 2, ⟨0, none⟩⟩ idleState = (some items, s') ∧
      callsSince idleState s' = [refused, refused] ∧
      ¬ BatchRefusalFinal (callsSince idleState s') items := by
  have hrefused :
      PairCall.Refused ⟨DeviceId.pub .nil, [(.confirmPasskey 123456, .confirm false)]⟩ :=
    ⟨_, List.mem_singleton_self _, .inl rfl⟩
  refine ⟨comparisonEnv_failsOnError, ⟨_, _, rfl, rfl, rfl, ?_⟩, _, _, rfl, rfl, ?_⟩
  · exact fun h => not_neverReasked hrefused h.1
  · exact fun h => not_neverReasked hrefused h.1

end BlueZ
end Pax
