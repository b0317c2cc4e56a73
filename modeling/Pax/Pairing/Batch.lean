import Pax.Pairing.DeviceLocal
import Pax.Pairing.Items

/-!
# A batch, device by device

On a device-local backend `pair_devices` gives every device what it would get if it were the only
one: its item is that of calling `pair_device` on it again and again, with nothing in between, until
a call ends with a result that is not worth another round, or the rounds are used up (`soloItem`).
How the calls of a round are interleaved, and in which order their results come in, changes nothing
(`pairDevices_eq_solo`).

The proof goes along the rounds with `BatchInv`, which ties the pending devices, the result map and
the attempts made to the calls made alone. It holds before the first round, a round keeps it
(`BatchInv.round`), and so do all of them (`BatchInv.rounds`); that no step panics comes with it, as
the counts stay small enough.
-/

namespace Pax

/-! ### The first round that settles a device -/

/-- The number of rounds, up to `rounds`, until the first one for which `settled` holds, that one
included. -/
def roundsNeeded (settled : ℕ → Bool) (rounds : ℕ) : ℕ :=
  (((List.range rounds).find? settled).map (· + 1)).getD rounds

theorem find?_range_of_unsettled {settled : ℕ → Bool} {n : ℕ} (h : ∀ k < n, settled k = false) :
    (List.range n).find? settled = none := by
  rw [List.find?_range_eq_none]
  exact fun k hk => by simp [h k hk]

theorem roundsNeeded_of_unsettled {settled : ℕ → Bool} {n : ℕ} (h : ∀ k < n, settled k = false) :
    roundsNeeded settled n = n := by
  rw [roundsNeeded, find?_range_of_unsettled h]
  rfl

/-- The round after is needed, whether it settles anything or not. -/
theorem roundsNeeded_succ_of_unsettled {settled : ℕ → Bool} {n : ℕ}
    (h : ∀ k < n, settled k = false) : roundsNeeded settled (n + 1) = n + 1 := by
  rw [roundsNeeded, List.range_succ, List.find?_append, find?_range_of_unsettled h]
  cases hn : settled n <;> simp [hn]

theorem roundsNeeded_succ_of_settled {settled : ℕ → Bool} {n k : ℕ} (hk : k < n)
    (h : settled k = true) : roundsNeeded settled (n + 1) = roundsNeeded settled n := by
  have hsome : ((List.range n).find? settled).isSome := by
    rw [List.find?_isSome]
    exact ⟨k, List.mem_range.mpr hk, h⟩
  -- the first round that settles is within the first `n`, so one more round is not looked at
  obtain ⟨m, hm⟩ := Option.isSome_iff_exists.mp hsome
  rw [roundsNeeded, roundsNeeded, List.range_succ, List.find?_append, hm]
  rfl

/-! ### A device on its own -/

section Solo

variable {σ : Type} (backend : BluetoothBackend σ) (agent : PairingAgent) (options : PairOptions)
  (id : DeviceId) (s : σ)

/-- The state after `k` calls of `pair_device` on the device, one after another. -/
def soloState : ℕ → σ
  | 0 => s
  | k + 1 => (Outcome.split ((pairDevice backend id agent options).run (soloState k))).2

/-- The result of a call of `pair_device` that is made alone, after `k` earlier ones. -/
def soloResult (k : ℕ) : Except TransportError PairReport :=
  (Outcome.split ((pairDevice backend id agent options).run
    (soloState backend agent options id s k))).1

/-- The calls made within `rounds` rounds: none after a result not worth another round. -/
def soloAttempts (rounds : ℕ) : ℕ :=
  roundsNeeded (fun k => !retryable (soloResult backend agent options id s k)) rounds

/-- The item of the device after `rounds` rounds: the result of its last call. -/
def soloItem (rounds : ℕ) : PairItem :=
  match soloAttempts backend agent options id s rounds with
  | 0 => notAttempted id
  | k + 1 => { id, outcome := soloResult backend agent options id s k, attempts := k + 1 }

/-- No call within `n` rounds settled the device, so that it is in the next round as well. -/
def SoloPending (n : ℕ) : Prop :=
  ∀ k < n, retryable (soloResult backend agent options id s k) = true

end Solo

section Solo

variable {σ : Type} {backend : BluetoothBackend σ} {agent : PairingAgent} {options : PairOptions}
  {id : DeviceId} {s : σ}

theorem soloPending_succ {n : ℕ} : SoloPending backend agent options id s (n + 1) ↔
    SoloPending backend agent options id s n ∧
      retryable (soloResult backend agent options id s n) = true :=
  Nat.forall_lt_succ_right

theorem SoloPending.attempts {n : ℕ} (h : SoloPending backend agent options id s n) :
    soloAttempts backend agent options id s n = n :=
  roundsNeeded_of_unsettled fun k hk => by simp [h k hk]

/-- A round in which the device is still pending adds one to its calls. -/
theorem SoloPending.attempts_succ {n : ℕ} (h : SoloPending backend agent options id s n) :
    soloAttempts backend agent options id s (n + 1) = n + 1 :=
  roundsNeeded_succ_of_unsettled fun k hk => by simp [h k hk]

/-- A device that is settled gets no more calls, so that their number stays. -/
theorem soloAttempts_succ_of_settled {n : ℕ} (h : ¬ SoloPending backend agent options id s n) :
    soloAttempts backend agent options id s (n + 1)
      = soloAttempts backend agent options id s n := by
  simp only [SoloPending, not_forall, Bool.not_eq_true] at h
  obtain ⟨k, hk, hsettled⟩ := h
  exact roundsNeeded_succ_of_settled hk (by simp [hsettled])

theorem SoloPending.item_succ {n : ℕ} (h : SoloPending backend agent options id s n) :
    soloItem backend agent options id s (n + 1)
      = { id, outcome := soloResult backend agent options id s n, attempts := n + 1 } := by
  rw [soloItem, h.attempts_succ]

theorem soloItem_attempts (n : ℕ) : (soloItem backend agent options id s n).attempts
    = soloAttempts backend agent options id s n := by
  rw [soloItem]
  cases soloAttempts backend agent options id s n <;> rfl

theorem soloItem_id (n : ℕ) : (soloItem backend agent options id s n).id = id := by
  rw [soloItem]
  cases soloAttempts backend agent options id s n <;> rfl

theorem soloItem_succ_of_settled {n : ℕ} (h : ¬ SoloPending backend agent options id s n) :
    soloItem backend agent options id s (n + 1) = soloItem backend agent options id s n := by
  rw [soloItem, soloItem, soloAttempts_succ_of_settled h]

end Solo

/-! ### The batch -/

section Batch

variable {σ : Type} {backend : BluetoothBackend σ} {agent : PairingAgent}
  (hlocal : DeviceLocal backend agent)

/-- A device's calls made alone leave its script alone, and come to whole calls. -/
theorem solo_step {options : PairOptions} (hspoof : options.spoofLocal = none) (id : DeviceId)
    (s : σ) (n : ℕ) :
    hlocal.script (soloState backend agent options id s n) = hlocal.script s ∧
      soloResult backend agent options id s n
        = (hlocal.whole (saturatingSucc options.retries)
            (soloState backend agent options id s n) id).1 ∧
      hlocal.attemptsOf (soloState backend agent options id s (n + 1)) id
        = (hlocal.whole (saturatingSucc options.retries)
            (soloState backend agent options id s n) id).2 := by
  -- a call of `pair_device` without a spoof is a whole call, from any state
  have hcall (t : σ) : ∃ t', Outcome.split ((pairDevice backend id agent options).run t)
      = ((hlocal.whole (saturatingSucc options.retries) t id).1, t') ∧
      hlocal.Tracks id t t' (hlocal.whole (saturatingSucc options.retries) t id).2 := by
    rw [pairDevice_eq id options hspoof]
    exact hlocal.run_pairFrom { id, made := 0, left := saturatingSucc options.retries } t
  -- The script never changes, whatever is called in between.
  have hscript : hlocal.script (soloState backend agent options id s n) = hlocal.script s := by
    induction n with
    | zero => rfl
    | succ n ih =>
      obtain ⟨t, hrun, htracks⟩ := hcall (soloState backend agent options id s n)
      rw [soloState, hrun]
      exact htracks.script.trans ih
  obtain ⟨t, hrun, htracks⟩ := hcall (soloState backend agent options id s n)
  refine ⟨hscript, ?_, ?_⟩
  · rw [soloResult, hrun]
  · rw [soloState, hrun, htracks.attempts, Function.update_self]

/-- **The invariant of the rounds.** After `n` of them, the pending devices are the targets that no
call made alone would have settled, each item is that of a device alone, and so are the attempts
made on it. -/
structure BatchInv (options : PairOptions) (order : List DeviceId) (s : σ) (n : ℕ)
    (pending : List DeviceId) (results : ResultMap) (t : σ) : Prop where
  nodup : pending.Nodup
  pending_iff : ∀ id, id ∈ pending ↔ id ∈ order ∧ SoloPending backend agent options id s n
  results_eq : ∀ id ∈ order, results id = some (soloItem backend agent options id s n)
  script_eq : hlocal.script t = hlocal.script s
  attempts_eq : ∀ id, hlocal.attemptsOf t id
    = if id ∈ order then hlocal.attemptsOf (soloState backend agent options id s
        (soloAttempts backend agent options id s n)) id
      else hlocal.attemptsOf s id

variable {hlocal} {options : PairOptions} {order : List DeviceId} {s : σ}

/-- A target that is not pending was settled by an earlier call of its own. -/
theorem BatchInv.not_soloPending {n : ℕ} {pending : List DeviceId} {results : ResultMap} {t : σ}
    (h : BatchInv hlocal options order s n pending results t) {id : DeviceId} (horder : id ∈ order)
    (hid : id ∉ pending) : ¬ SoloPending backend agent options id s n :=
  fun hp => hid ((h.pending_iff id).mpr ⟨horder, hp⟩)

/-- The call that a round makes on a pending device is its next call alone. -/
theorem BatchInv.whole_eq (hspoof : options.spoofLocal = none) {n : ℕ} {pending : List DeviceId}
    {results : ResultMap} {t : σ} (h : BatchInv hlocal options order s n pending results t)
    {id : DeviceId} (hid : id ∈ pending) :
    hlocal.whole (saturatingSucc options.retries) t id
      = hlocal.whole (saturatingSucc options.retries)
          (soloState backend agent options id s n) id := by
  obtain ⟨horder, hpending⟩ := (h.pending_iff id).mp hid
  refine hlocal.promise_congr _ (h.script_eq.trans (solo_step hlocal hspoof id s n).1.symm) ?_
  rw [h.attempts_eq, if_pos horder, hpending.attempts]

/-- So the results of a round are those of the next calls alone, one for each pending device. -/
theorem BatchInv.mem_done_iff (hspoof : options.spoofLocal = none) {n : ℕ}
    {pending : List DeviceId} {results : ResultMap} {t : σ}
    (h : BatchInv hlocal options order s n pending results t) {done : List RoundResult}
    (hdone : done.Perm (pending.map fun id =>
      (id, (hlocal.whole (saturatingSucc options.retries) t id).1))) (result : RoundResult) :
    result ∈ done ↔ result.1 ∈ pending ∧
      result.2 = soloResult backend agent options result.1 s n := by
  rw [hdone.mem_iff, List.mem_map]
  constructor
  · rintro ⟨id, hid, rfl⟩
    exact ⟨hid, by rw [h.whole_eq hspoof hid, (solo_step hlocal hspoof id s n).2.1]⟩
  · rintro ⟨hid, hresult⟩
    refine ⟨result.1, hid, Prod.ext rfl ?_⟩
    rw [h.whole_eq hspoof hid, hresult, (solo_step hlocal hspoof _ s n).2.1]

/-- **One round keeps the invariant**, under every schedule, and its results are taken in without
a panic. -/
theorem BatchInv.round (hspoof : options.spoofLocal = none) {n : ℕ} (hn : n + 1 < 2 ^ 32)
    {pending : List DeviceId} {results : ResultMap} {t : σ}
    (h : BatchInv hlocal options order s n pending results t) {active : ℕ} (hactive : 1 ≤ active)
    (schedule : Schedule) :
    ∃ done t' acc,
      runRound backend agent (saturatingSucc options.retries) active schedule pending t
        = (done, t') ∧
      done.foldlM Intake.take { results, next := [] } = some acc ∧
      BatchInv hlocal options order s (n + 1) acc.next acc.results t' := by
  obtain ⟨done, t', hrun, hdone, hscript, hattempts⟩ := hlocal.runRound_eq
    (one_le_saturatingSucc options.retries) hactive schedule h.nodup t
  have hmem := h.mem_done_iff hspoof hdone
  have hkeys : (done.map Prod.fst).Perm pending := by
    simpa [Function.comp_def] using hdone.map Prod.fst
  obtain ⟨acc, hfold, hnext, hin, hout⟩ := foldlM_take
    (fun id => soloItem backend agent options id s n) done { results, next := [] }
    (hkeys.nodup_iff.mpr h.nodup) (fun result hresult => by
      obtain ⟨horder, hpending⟩ := (h.pending_iff _).mp ((hmem result).mp hresult).1
      refine ⟨h.results_eq _ horder, ?_⟩
      rw [soloItem_attempts, hpending.attempts]
      exact hn)
  refine ⟨done, t', acc, hrun, hfold, ?_, ?_, ?_, hscript.trans h.script_eq, ?_⟩
  · rw [hnext, List.nil_append]
    exact (hkeys.nodup_iff.mpr h.nodup).sublist (List.filter_sublist.map _)
  · intro id
    rw [hnext, List.nil_append, List.mem_map, soloPending_succ, ← and_assoc, ← h.pending_iff]
    constructor
    -- pending again: its result is worth another round
    · rintro ⟨result, hresult, rfl⟩
      obtain ⟨hdone', hretry⟩ := List.mem_filter.mp hresult
      obtain ⟨hid, heq⟩ := (hmem result).mp hdone'
      exact ⟨hid, by rw [← heq]; exact hretry⟩
    · rintro ⟨hid, hretry⟩
      exact ⟨(id, soloResult backend agent options id s n),
        List.mem_filter.mpr ⟨(hmem _).mpr ⟨hid, rfl⟩, hretry⟩, rfl⟩
  · intro id hid
    by_cases hp : id ∈ pending
    -- the item of this round counts one call more than the one before
    · have hpending := ((h.pending_iff id).mp hp).2
      rw [hin (id, soloResult backend agent options id s n) ((hmem _).mpr ⟨hp, rfl⟩),
        hpending.item_succ, PairItem.record, soloItem_attempts, hpending.attempts, soloItem_id]
    · rw [hout id (by rwa [hkeys.mem_iff]), soloItem_succ_of_settled (h.not_soloPending hid hp)]
      exact h.results_eq id hid
  · intro id
    rw [hattempts]
    by_cases hp : id ∈ pending
    · obtain ⟨horder, hpending⟩ := (h.pending_iff id).mp hp
      -- its attempts are those of the call it just had
      rw [if_pos hp, if_pos horder, h.whole_eq hspoof hp, hpending.attempts_succ,
        (solo_step hlocal hspoof id s n).2.2]
    -- no call was made on it
    · rw [if_neg hp, h.attempts_eq]
      by_cases horder : id ∈ order
      · rw [if_pos horder, if_pos horder,
          soloAttempts_succ_of_settled (h.not_soloPending horder hp)]
      · rw [if_neg horder, if_neg horder]

/-- With no device pending, further rounds have nothing to do, and change nothing. -/
theorem BatchInv.settled {n : ℕ} {results : ResultMap} {t : σ}
    (h : BatchInv hlocal options order s n [] results t) (m : ℕ) :
    BatchInv hlocal options order s (n + m) [] results t := by
  induction m with
  | zero => exact h
  | succ m ih =>
    -- with nothing pending, every target is settled
    have hsettled (id : DeviceId) (hid : id ∈ order) :
        ¬ SoloPending backend agent options id s (n + m) :=
      ih.not_soloPending hid List.not_mem_nil
    refine ⟨List.nodup_nil, ?_, ?_, h.script_eq, ?_⟩
    · intro id
      simp only [List.not_mem_nil, false_iff, not_and]
      exact fun hid hp => hsettled id hid (soloPending_succ.mp hp).1
    · intro id hid
      rw [← Nat.add_assoc, soloItem_succ_of_settled (hsettled id hid)]
      exact ih.results_eq id hid
    · intro id
      rw [ih.attempts_eq]
      by_cases horder : id ∈ order
      · rw [if_pos horder, if_pos horder, ← Nat.add_assoc,
          soloAttempts_succ_of_settled (hsettled id horder)]
      · rw [if_neg horder, if_neg horder]

/-- All the rounds keep the invariant, and none of them panics. -/
theorem BatchInv.rounds (hspoof : options.spoofLocal = none) (concurrency : ℕ)
    (schedules : ℕ → Schedule) (left n : ℕ) (hleft : n + left < 2 ^ 32) {pending : List DeviceId}
    {results : ResultMap} {t : σ} (h : BatchInv hlocal options order s n pending results t) :
    ∃ pending' results' t',
      roundsLoop backend agent (saturatingSucc options.retries) concurrency schedules left n pending
        results t = (some results', t') ∧
      BatchInv hlocal options order s (n + left) pending' results' t' := by
  induction left generalizing n pending results t with
  | zero => exact ⟨pending, results, t, rfl, h⟩
  | succ left ih =>
    rw [roundsLoop]
    by_cases hp : pending = []
    · rw [if_pos hp]
      subst hp
      -- the loop leaves early; the rounds it skips would not have changed anything
      exact ⟨[], results, t, rfl, h.settled (left + 1)⟩
    · rw [if_neg hp]
      obtain ⟨done, t', acc, hrun, hfold, hinv⟩ := h.round hspoof (by omega)
        (le_max_right (min concurrency pending.length) 1) (schedules n)
      obtain ⟨pending', results', t'', hloop, hend⟩ := ih (n + 1) (by omega) hinv
      refine ⟨pending', results', t'', ?_, by rwa [Nat.add_right_comm] at hend⟩
      simp only [hrun, hfold]
      exact hloop

/-- **Batch pairing does not depend on the schedule.** On a device-local backend, without a spoof
address, a batch never panics, and under every schedule it returns the same items: one for each
distinct target, in the order of first occurrence, and each that of the device paired on its own.
The attempts made on a device are those of the calls that its item counts. -/
theorem pairDevices_eq_solo (hlocal : DeviceLocal backend agent) (schedules : ℕ → Schedule)
    (targets : List DeviceId) (options : BatchPairOptions)
    (hspoof : options.perDevice.spoofLocal = none) (s : σ) :
    ∃ s', pairDevices backend schedules targets agent options s
        = (some (targets.eraseDups.map fun id =>
            soloItem backend agent options.perDevice id s (max options.rounds.toNat 1)), s') ∧
      ∀ id, hlocal.attemptsOf s' id
        = if id ∈ targets then
            hlocal.attemptsOf (soloState backend agent options.perDevice id s
              (soloAttempts backend agent options.perDevice id s (max options.rounds.toNat 1))) id
          else hlocal.attemptsOf s id := by
  -- At the start every distinct target is pending, with the placeholder as its item.
  have hstart : BatchInv hlocal options.perDevice targets.eraseDups s 0 targets.eraseDups
      (fun id => if id ∈ targets then some (notAttempted id) else none) s := by
    refine ⟨nodup_eraseDups targets, ?_, ?_, rfl, ?_⟩
    · intro id
      simp [SoloPending]
    · intro id hid
      rw [if_pos (List.mem_eraseDups.mp hid)]
      rfl
    · intro id
      split_ifs <;> rfl
  have hrounds : max options.rounds.toNat 1 < 2 ^ 32 :=
    max_lt options.rounds.toNat_lt (by norm_num)
  obtain ⟨pending, results, s', hloop, hend⟩ := hstart.rounds hspoof
    (max (options.concurrency.getD backend.capabilities.maxConcurrentPairings) 1) schedules
    (max options.rounds.toNat 1) 0 (by rwa [Nat.zero_add])
  rw [Nat.zero_add] at hend
  -- Without an address to set the state is as before.
  have hspoofed : (applySpoof backend options.perDevice.spoofLocal).run s = .ok () s := by
    rw [hspoof]
    rfl
  refine ⟨s', ?_, ?_⟩
  · simp only [pairDevices, dedupe_eq, hspoofed, hloop, Option.bind_some]
    rw [drain_eq _ (nodup_eraseDups targets) results hend.results_eq]
  · intro id
    rw [hend.attempts_eq]
    simp only [List.mem_eraseDups]

end Batch

/-- Two devices: the one with the nil address times out once and then bonds, the other refuses. -/
def flakyScript (id : DeviceId) (n : ℕ) : Except TransportError PairingOutcome :=
  if id = DeviceId.pub .nil then
    if n = 0 then .error (.timeout "pair") else .ok (.ofBond .justWorks)
  else .error (.pairingRejected "refused")

/-- A schedule in which the results of each round come in backwards. -/
def backwards : Schedule := ⟨id, List.reverse, List.reverse_perm⟩

theorem pairDevices_eq_solo_flaky :
    let other : DeviceId := ⟨.nil, .random⟩
    ∃ s', pairDevices (scriptBackend flakyScript) (fun _ => backwards)
        [DeviceId.pub .nil, other, DeviceId.pub .nil] ⟨fun _ _ => .acknowledged⟩
        ⟨none, 3, ⟨0, none⟩⟩ (fun _ => 0)
      = (some [⟨DeviceId.pub .nil, .ok ⟨.ofBond .justWorks, 1⟩, 2⟩,
          ⟨other, .error (.pairingRejected "refused"), 1⟩], s') := by
  obtain ⟨s', h, -⟩ := pairDevices_eq_solo (scriptBackend_deviceLocal flakyScript
    ⟨fun _ _ => .acknowledged⟩) (fun _ => backwards)
    [DeviceId.pub .nil, ⟨.nil, .random⟩, DeviceId.pub .nil] ⟨none, 3, ⟨0, none⟩⟩ rfl (fun _ => 0)
  exact ⟨s', h⟩

end Pax
