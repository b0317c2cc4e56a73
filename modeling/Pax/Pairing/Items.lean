import Pax.Pairing.Rounds

/-!
# The items of a batch, on any backend

`pair_devices` returns one item for each distinct target, in the order of first occurrence, and
never panics, whatever the backend answers and however its calls are interleaved
(`pairDevices_items`). An item whose outcome is worth another round has been attempted in every
round.

The invariant of the rounds is `RoundsInv`. It takes a property of outcomes that the backend's
answers have, and a property of states that its calls keep, and carries both through the batch.
-/

namespace Pax

/-! ### Targets, results, items -/

theorem eraseDups_concat (targets : List DeviceId) (id : DeviceId) :
    (targets ++ [id]).eraseDups
      = if id ∈ targets then targets.eraseDups else targets.eraseDups ++ [id] := by
  rw [List.eraseDups_append]
  by_cases hid : id ∈ targets <;> simp [List.removeAll, List.eraseDups_cons, hid]

theorem nodup_eraseDups (targets : List DeviceId) : targets.eraseDups.Nodup := by
  induction targets using List.reverseRecOn with
  | nil => exact List.nodup_nil
  | append_singleton targets id ih =>
    rw [eraseDups_concat]
    split_ifs with hid
    · exact ih
    · refine List.nodup_append.mpr ⟨ih, List.nodup_singleton id, ?_⟩
      intro a ha b hb
      rw [List.mem_singleton.mp hb]
      exact ne_of_mem_of_not_mem (List.mem_eraseDups.mp ha) hid

/-- De-duplication keeps the first occurrence of each target, and the map has an item for each. -/
theorem dedupe_eq (targets : List DeviceId) :
    dedupe targets
      = (targets.eraseDups, fun id => if id ∈ targets then some (notAttempted id) else none) := by
  -- Target by target, as the loop of the source takes them: a repeated one adds nothing.
  induction targets using List.reverseRecOn with
  | nil => rfl
  | append_singleton targets id ih =>
    rw [dedupe] at ih ⊢
    rw [List.foldl_append, ih, List.foldl_cons, List.foldl_nil, eraseDups_concat]
    by_cases hid : id ∈ targets
    · simp only [hid, if_true, Option.isSome_some, List.mem_append, List.mem_singleton]
      congr 1
      ext1 id'
      by_cases h : id' = id <;> simp [h, hid]
    · simp only [hid, if_false, Option.isSome_none, List.mem_append, List.mem_singleton,
        Bool.false_eq_true]
      congr 1
      ext1 id'
      by_cases h : id' = id <;> simp [h]

/-- A round's results are taken in: those worth another round are pending again, in the order they
came, and each device's item has its result, counted. -/
theorem foldlM_take (item : DeviceId → PairItem) (results : List RoundResult) (acc : Intake)
    (hnodup : (results.map Prod.fst).Nodup)
    (hitem : ∀ result ∈ results, acc.results result.1 = some (item result.1) ∧
      (item result.1).attempts + 1 < 2 ^ 32) :
    ∃ acc', results.foldlM Intake.take acc = some acc' ∧
      acc'.next = acc.next ++ (results.filter fun result => retryable result.2).map Prod.fst ∧
      (∀ result ∈ results, acc'.results result.1 = some ((item result.1).record result.2)) ∧
      ∀ id ∉ results.map Prod.fst, acc'.results id = acc.results id := by
  induction results generalizing acc with
  | nil => exact ⟨acc, rfl, by simp, by simp, by simp⟩
  | cons result results ih =>
    obtain ⟨hnot, hnodup⟩ := List.nodup_cons.mp hnodup
    obtain ⟨hmap, hcount⟩ := hitem result List.mem_cons_self
    have hne (id : DeviceId) (hid : id ∈ results.map Prod.fst) : id ≠ result.1 :=
      ne_of_mem_of_not_mem hid hnot
    -- the state after the first result; the others do not touch its device's item
    set acc₁ : Intake := {
      results := Function.update acc.results result.1 (some ((item result.1).record result.2))
      next := if retryable result.2 then acc.next ++ [result.1] else acc.next } with hacc₁
    have htake : acc.take result = some acc₁ := by
      have hlt : (item result.1).attempts < 4294967295 := by omega
      simp [Intake.take, hmap, hlt, hacc₁]
    have hkept (id : DeviceId) (hid : id ≠ result.1) : acc₁.results id = acc.results id :=
      Function.update_of_ne hid _ _
    obtain ⟨acc', hfold, hnext, hmem, hothers⟩ := ih acc₁ hnodup fun r hr => by
      rw [hkept r.1 (hne r.1 (List.mem_map_of_mem hr))]
      exact hitem r (List.mem_cons_of_mem _ hr)
    refine ⟨acc', by rw [List.foldlM_cons, htake]; exact hfold, ?_, ?_, ?_⟩
    · rw [hnext, List.filter_cons, hacc₁]
      split_ifs <;> simp
    -- the first result's item stays, for no later result is about its device
    · intro r hr
      rcases List.mem_cons.mp hr with rfl | hr
      · rw [hothers r.1 hnot]
        exact Function.update_self ..
      · exact hmem r hr
    · intro id hid
      rw [List.map_cons, List.mem_cons, not_or] at hid
      rw [hothers id hid.2, hkept id hid.1]

/-- The items come out of the map in order, one for each device, as long as no device occurs
twice. -/
theorem drain_eq (item : DeviceId → PairItem) {order : List DeviceId} (horder : order.Nodup)
    (results : ResultMap) (h : ∀ id ∈ order, results id = some (item id)) :
    drain order results = some (order.map item) := by
  induction order generalizing results with
  | nil => rfl
  | cons id order ih =>
    obtain ⟨hnot, horder⟩ := List.nodup_cons.mp horder
    -- a device occurs once, so removing its item leaves the others' in place
    have hrest : ∀ id' ∈ order, Function.update results id none id' = some (item id') := by
      intro id' hid'
      rw [Function.update_of_ne (ne_of_mem_of_not_mem hid' hnot)]
      exact h id' (List.mem_cons_of_mem _ hid')
    rw [drain, h id List.mem_cons_self, ih horder _ hrest]
    rfl

/-! ### The rounds -/

section Rounds

variable {σ : Type} {backend : BluetoothBackend σ} {agent : PairingAgent}

variable (backend agent) in
/-- What the backend's answers have, and what its calls keep: the property of outcomes and the
property of states that are carried through a batch. -/
structure Guarantees (P : Except TransportError PairReport → Prop) (J : σ → Prop) : Prop where
  outcome : ∀ flight s result s', Flight.advance backend agent flight s = (.inr result, s') →
    P result.2
  state : ∀ id s, J s → J (Outcome.split ((backend.pair id agent).run s)).2

/-- **The invariant of the rounds.** After `n` of them, the pending devices are those whose outcome
is worth another round; they were attempted in every round so far. -/
structure RoundsInv (P : Except TransportError PairReport → Prop) (order : List DeviceId) (n : ℕ)
    (pending : List DeviceId) (results : ResultMap) : Prop where
  nodup : pending.Nodup
  subset : ∀ id ∈ pending, id ∈ order
  items : ∀ id ∈ order, ∃ item, results id = some item ∧ item.id = id ∧ P item.outcome ∧
    item.attempts ≤ n ∧ (id ∈ pending → item.attempts = n) ∧
    (id ∈ pending ↔ retryable item.outcome = true)

variable {P : Except TransportError PairReport → Prop} {J : σ → Prop} {order : List DeviceId}

/-- A round hands out outcomes with the property, and keeps what the calls keep. -/
theorem Guarantees.round (h : Guarantees backend agent P J) {attempts active : ℕ}
    (hattempts : 1 ≤ attempts) (hactive : 1 ≤ active) (schedule : Schedule)
    (pending : List DeviceId) {s : σ} (hs : J s) :
    ∃ done s', runRound backend agent attempts active schedule pending s = (done, s') ∧
      (done.map Prod.fst).Perm pending ∧ (∀ result ∈ done, P result.2) ∧ J s' := by
  have hstep (p q : RoundState × σ) (hpq : RoundStep backend agent attempts p q)
      (hp : J p.2 ∧ ∀ result ∈ p.1.done, P result.2) : J q.2 ∧ ∀ result ∈ q.1.done, P result.2 := by
    -- a step changes the backend's state at most by one call of `pair`
    have hadvance {flight : Flight} {s s' : σ} {x : Flight ⊕ RoundResult} (hs : J s)
        (hx : flight.advance backend agent s = (x, s')) : J s' := by
      have hsnd : (flight.advance backend agent s).2 = s' := by rw [hx]
      rw [← hsnd, Flight.advance_snd]
      exact h.state flight.id s hs
    obtain ⟨hJ, hdone⟩ := hp
    cases hpq with
    | start id waiting running done s => exact ⟨hJ, hdone⟩
    | goOn hx => exact ⟨hadvance hJ hx, hdone⟩
    | finish hx =>
      refine ⟨hadvance hJ hx, ?_⟩
      intro result hresult
      rcases List.mem_append.mp hresult with hold | hnew
      · exact hdone result hold
      · rw [List.mem_singleton.mp hnew]
        exact h.outcome _ _ _ _ hx
  obtain ⟨done, s', ⟨hJ, hP⟩, hids, hrun⟩ :=
    runRound_invariant hattempts hactive schedule hstep pending s ⟨hs, by simp⟩
  -- the order in which the results are yielded does not matter for what they have
  have hperm := schedule.yield_perm done
  exact ⟨schedule.yield done, s', hrun, (hperm.map Prod.fst).trans hids,
    fun result hresult => hP result (hperm.mem_iff.mp hresult), hJ⟩

/-- Taking in a round's results keeps the invariant, for one more round. -/
theorem RoundsInv.take {n : ℕ} (hn : n + 1 < 2 ^ 32) {pending : List DeviceId}
    {results : ResultMap} (h : RoundsInv P order n pending results) {done : List RoundResult}
    (hids : (done.map Prod.fst).Perm pending) (hdone : ∀ result ∈ done, P result.2) :
    ∃ acc, done.foldlM Intake.take { results, next := [] } = some acc ∧
      RoundsInv P order (n + 1) acc.next acc.results := by
  -- every target has an item, so no lookup panics
  have hitem (id : DeviceId) (hid : id ∈ order) :
      results id = some ((results id).getD (notAttempted id)) := by
    obtain ⟨item, hitem, -⟩ := h.items id hid
    rw [hitem]
    rfl
  have hkey (result : RoundResult) (hresult : result ∈ done) : result.1 ∈ pending :=
    hids.mem_iff.mp (List.mem_map_of_mem hresult)
  have hnodup : (done.map Prod.fst).Nodup := hids.nodup_iff.mpr h.nodup
  obtain ⟨acc, hfold, hnext, hin, hout⟩ := foldlM_take
    (fun id => (results id).getD (notAttempted id)) done { results, next := [] } hnodup
    (fun result hresult => by
      have horder := h.subset _ (hkey result hresult)
      obtain ⟨item, hmap, -, -, -, hattempts, -⟩ := h.items _ horder
      refine ⟨hitem _ horder, ?_⟩
      rw [hmap, Option.getD_some, hattempts (hkey result hresult)]
      exact hn)
  refine ⟨acc, hfold, ?_, ?_, ?_⟩
  · rw [hnext, List.nil_append]
    exact hnodup.sublist (List.filter_sublist.map _)
  · intro id hid
    rw [hnext, List.nil_append] at hid
    obtain ⟨result, hresult, rfl⟩ := List.mem_map.mp hid
    exact h.subset _ (hkey result (List.mem_of_mem_filter hresult))
  · intro id hid
    obtain ⟨item, hmap, hid', hP, hle, hattempts, hpending⟩ := h.items id hid
    by_cases hp : id ∈ pending
    · -- The device was attempted: its item has the result of this round.
      obtain ⟨result, hresult, rfl⟩ := List.mem_map.mp (hids.mem_iff.mpr hp)
      refine ⟨item.record result.2, ?_, hid', hdone result hresult, ?_, ?_, ?_⟩
      · rw [hin result hresult, hmap, Option.getD_some]
      · rw [PairItem.record, hattempts hp]
      · intro _
        rw [PairItem.record, hattempts hp]
      · rw [hnext, List.nil_append, List.mem_map]
        constructor
        -- pending again iff its own result, the only one about it, is worth another round
        · rintro ⟨result', hresult', heq⟩
          obtain ⟨hmem, hretry⟩ := List.mem_filter.mp hresult'
          rw [List.inj_on_of_nodup_map hnodup hmem hresult heq] at hretry
          exact hretry
        · exact fun hretry => ⟨result, List.mem_filter.mpr ⟨hresult, hretry⟩, rfl⟩
    · -- It was settled before: nothing changes.
      have hnot : id ∉ acc.next := by
        rw [hnext, List.nil_append, List.mem_map]
        rintro ⟨result, hresult, rfl⟩
        exact hp (hkey result (List.mem_of_mem_filter hresult))
      refine ⟨item, ?_, hid', hP, Nat.le_succ_of_le hle, fun hin' => absurd hin' hnot, ?_⟩
      · rw [hout id (by rwa [hids.mem_iff])]
        exact hmap
      · rw [← hpending]
        exact iff_of_false hnot hp

/-- The rounds keep the invariant; if they end early, nothing is pending. -/
theorem RoundsInv.rounds (hback : Guarantees backend agent P J) {attempts : ℕ}
    (hattempts : 1 ≤ attempts) (concurrency : ℕ) (schedules : ℕ → Schedule) (left n : ℕ)
    (hleft : n + left < 2 ^ 32) {pending : List DeviceId} {results : ResultMap} {s : σ}
    (h : RoundsInv P order n pending results) (hs : J s) :
    ∃ pending' results' s', roundsLoop backend agent attempts concurrency schedules left n pending
        results s = (some results', s') ∧ J s' ∧
      ∃ m ≤ n + left, RoundsInv P order m pending' results' ∧ (m = n + left ∨ pending' = []) := by
  -- On the rounds that are left; the loop also ends as soon as nothing is pending.
  induction left generalizing n pending results s with
  | zero => exact ⟨pending, results, s, rfl, hs, n, le_rfl, h, .inl rfl⟩
  | succ left ih =>
    rw [roundsLoop]
    by_cases hp : pending = []
    · rw [if_pos hp]
      exact ⟨pending, results, s, rfl, hs, n, by omega, h, .inr hp⟩
    · rw [if_neg hp]
      obtain ⟨done, s', hrun, hids, hdone, hs'⟩ := hback.round hattempts
        (le_max_right (min concurrency pending.length) 1) (schedules n) pending hs
      obtain ⟨acc, hfold, hinv⟩ := h.take (by omega) hids hdone
      obtain ⟨pending', results', s'', hloop, hs'', m, hm, hend⟩ := ih (n + 1) (by omega) hinv hs'
      -- the remaining rounds continue from what this round left pending
      refine ⟨pending', results', s'', ?_, hs'', m, by omega, hend.1,
        hend.2.imp_left fun h => by omega⟩
      simp only [hrun, hfold]
      exact hloop

/-- **The items of a batch.** Whatever the backend and the schedules: there is one item for each
distinct target, in the order of first occurrence, counting at most `max rounds 1` attempts, and
exactly that many if its outcome is worth another round. -/
theorem pairDevices_items (hback : Guarantees backend agent P J)
    (hP : P (.error (.pairingFailed "not attempted"))) (schedules : ℕ → Schedule)
    (targets : List DeviceId) (options : BatchPairOptions) {s s₁ : σ}
    (hspoof : (applySpoof backend options.perDevice.spoofLocal).run s = .ok () s₁) (hs₁ : J s₁) :
    ∃ items s', pairDevices backend schedules targets agent options s = (some items, s') ∧
      items.map PairItem.id = targets.eraseDups ∧ J s' ∧
      ∀ item ∈ items, P item.outcome ∧ item.attempts ≤ max options.rounds.toNat 1 ∧
        (retryable item.outcome = true → item.attempts = max options.rounds.toNat 1) := by
  have hstart : RoundsInv P targets.eraseDups 0 targets.eraseDups
      (fun id => if id ∈ targets then some (notAttempted id) else none) := by
    refine ⟨nodup_eraseDups targets, fun _ hid => hid, fun id hid => ⟨notAttempted id, ?_, rfl, hP,
      le_rfl, fun _ => rfl, iff_of_true hid rfl⟩⟩
    rw [if_pos (List.mem_eraseDups.mp hid)]
  have hrounds : max options.rounds.toNat 1 < 2 ^ 32 := max_lt options.rounds.toNat_lt (by norm_num)
  obtain ⟨pending, results, s', hloop, hs', m, hm, hend, hstop⟩ := hstart.rounds hback
    (one_le_saturatingSucc options.perDevice.retries)
    (max (options.concurrency.getD backend.capabilities.maxConcurrentPairings) 1) schedules
    (max options.rounds.toNat 1) 0 (by rwa [Nat.zero_add]) hs₁
  rw [Nat.zero_add] at hm hstop
  -- `results.remove` finds an item for each target.
  have hget (id : DeviceId) (hid : id ∈ targets.eraseDups) :
      results id = some ((results id).getD (notAttempted id)) := by
    obtain ⟨item, hmap, -⟩ := hend.items id hid
    rw [hmap]
    rfl
  refine ⟨targets.eraseDups.map fun id => (results id).getD (notAttempted id), s', ?_, ?_, hs', ?_⟩
  · simp only [pairDevices, dedupe_eq, hspoof, hloop, Option.bind_some]
    rw [drain_eq _ (nodup_eraseDups targets) results hget]
  · rw [List.map_map]
    refine (List.map_congr_left ?_).trans (List.map_id _)
    intro id hid
    obtain ⟨item, hmap, hid', -⟩ := hend.items id hid
    rw [Function.comp_apply, hmap, Option.getD_some, hid', id_eq]
  · intro item hitem
    obtain ⟨id, hid, rfl⟩ := List.mem_map.mp hitem
    obtain ⟨item, hmap, -, hPitem, hle, hattempts, hpending⟩ := hend.items id hid
    rw [hmap, Option.getD_some]
    refine ⟨hPitem, hle.trans hm, ?_⟩
    intro hretry
    -- still pending at the end, so the rounds did not end early
    have hp := hpending.mpr hretry
    rw [hattempts hp]
    exact hstop.resolve_right (List.ne_nil_of_mem hp)

end Rounds

end Pax
