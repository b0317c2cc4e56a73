import Pax.Framework.Ensures
import Pax.Pairing.Session

/-!
# Pairing when each device has its verdict

If every attempt to pair with a device comes to the same, its verdict, then so does each workflow
around it: `pair_device` reports the verdict, and `pair_devices` has one item for each distinct
target with the verdict of that device, whatever the concurrency, and whichever calls go on first
(`ensures_pairDevices`). Only a failure that is worth a retry is tried in all rounds.

What the attempts are to come to is assumed of the operations (`Determined`), with the exchanges
they make being as they should (`ok`), so that it can be had for operations that are themselves
programs on a shared state. Which devices are entered along the way is kept track of as well:
exactly those that are asked for and whose verdict is a bond.

The proofs go from the inside out, with the rules of `Program.Ensures`: the attempts of one call,
one call, the calls of a round side by side, the rounds, and the batch.
-/

namespace Pax

/-- The item of a device after these many further rounds, the first of which it is in. -/
def PairItem.after (item : PairItem) (outcome : Except TransportError PairReport) (rounds : ℕ) :
    PairItem :=
  { item with outcome, attempts := item.attempts + if retryable outcome then rounds else 1 }

namespace Pairing

open Program (Returns)

variable {I : Interface} {ops : PairingOps I} {ok : Exchange I → Prop}
  {enters : Exchange I → DeviceId → Prop}
  {verdict : DeviceId → Except TransportError PairingOutcome}

/-- The device is entered, as one that has bonded, in one of the exchanges. -/
def Entered (enters : Exchange I → DeviceId → Prop) (es : List (Exchange I)) (id : DeviceId) :
    Prop :=
  ∃ e ∈ es, enters e id

theorem entered_append {es es' : List (Exchange I)} {id : DeviceId} :
    Entered enters (es ++ es') id ↔ Entered enters es id ∨ Entered enters es' id := by
  simp only [Entered, List.mem_append, or_and_right, exists_or]

theorem not_entered_nil {id : DeviceId} : ¬ Entered enters [] id := by
  rintro ⟨e, he, -⟩
  cases he

/-- Every attempt comes to the verdict, and enters the device if that is a bond. -/
structure Determined (ops : PairingOps I) (ok : Exchange I → Prop)
    (enters : Exchange I → DeviceId → Prop)
    (verdict : DeviceId → Except TransportError PairingOutcome) : Prop where
  pair : ∀ target, (ops.pair target).Ensures ok fun es r =>
    r = verdict target ∧ ∀ id, Entered enters es id ↔ id = target ∧ (verdict target).isOk
  setLocalAddress : ∀ addr, (ops.setLocalAddress addr).Ensures ok fun es r =>
    r = .ok () ∧ ∀ id, ¬ Entered enters es id
  canSpoof : ops.capabilities.canSpoofAddress = true

/-- What `pair_device` reports, if the attempts before the last one failed. -/
def reported (verdict : DeviceId → Except TransportError PairingOutcome) (made : ℕ)
    (id : DeviceId) : Except TransportError PairReport :=
  (verdict id).map fun outcome => { outcome, attempts := made + 1 }

/-- The item of a device after these many rounds: one attempt was enough unless the verdict is a
failure that is tried again. -/
def itemOf (verdict : DeviceId → Except TransportError PairingOutcome) (rounds : ℕ)
    (id : DeviceId) : PairItem :=
  { id, outcome := reported verdict 0 id
    attempts := if retryable (reported verdict 0 id) then rounds else 1 }

/-! ### One round of results -/

/-- The results of a round are taken in: the devices whose verdict is worth another round are
pending, and the items have the outcome. -/
theorem take_round {pending : List DeviceId} {out : List RoundResult} {results : ResultMap}
    {item : DeviceId → PairItem} (hnodup : pending.Nodup)
    (hout : out.Perm (pending.map fun id => (id, reported verdict 0 id)))
    (hitem : ∀ id ∈ pending, results id = some (item id) ∧ (item id).attempts + 1 < 2 ^ 32) :
    ∃ acc, out.foldlM Intake.take { results, next := [] } = some acc ∧
      acc.next.Perm (pending.filter fun id => retryable (reported verdict 0 id)) ∧
      (∀ id ∈ pending, acc.results id = some ((item id).record (reported verdict 0 id))) ∧
      ∀ id ∉ pending, acc.results id = results id := by
  -- The results come back in any order, one for each device that was pending.
  have hfst : (out.map Prod.fst).Perm pending := by
    have hmap := hout.map Prod.fst
    rwa [List.map_map, show Prod.fst ∘ (fun id => (id, reported verdict 0 id)) = id from rfl,
      List.map_id] at hmap
  have hmem (result : RoundResult) (hresult : result ∈ out) :
      result.1 ∈ pending ∧ result.2 = reported verdict 0 result.1 := by
    obtain ⟨id, hid, rfl⟩ := List.mem_map.mp (hout.mem_iff.mp hresult)
    exact ⟨hid, rfl⟩
  obtain ⟨acc, hfold, hnext, hdone, hothers⟩ := foldlM_take item out { results, next := [] }
    (hfst.nodup_iff.mpr hnodup) fun result hresult => hitem _ (hmem result hresult).1
  refine ⟨acc, hfold, ?_, fun id hid => ?_, fun id hid => ?_⟩
  · rw [hnext, List.nil_append]
    have hfilter := (hout.filter fun result => retryable result.2).map Prod.fst
    rwa [List.filter_map, List.map_map, show Prod.fst ∘ (fun id => (id, reported verdict 0 id)) = id
      from rfl, List.map_id] at hfilter
  · have hresult : (id, reported verdict 0 id) ∈ out :=
      hout.mem_iff.mpr (List.mem_map_of_mem hid)
    exact hdone _ hresult
  · exact hothers id fun hout => hid (hfst.mem_iff.mp hout)

namespace Determined

variable (h : Determined ops ok enters verdict)
include h

theorem ensures_applySpoof (spoof : Option BdAddr) :
    (applySpoof ops spoof).Ensures ok fun es r => r = .ok () ∧ ∀ id, ¬ Entered enters es id := by
  cases spoof with
  | none => exact .done ⟨rfl, fun _ => not_entered_nil⟩
  | some addr =>
    rw [applySpoof, if_neg (not_not_intro h.canSpoof)]
    exact h.setLocalAddress addr

theorem ensures_pairFrom (target : DeviceId) (made left : ℕ) (last : TransportError) :
    (pairFrom ops target made (left + 1) last).Ensures ok fun es r =>
      r = reported verdict made target ∧
        ∀ id, Entered enters es id ↔ id = target ∧ (verdict target).isOk := by
  -- On the calls that are left: a bond or a final error ends the loop, and each retry gets the same
  -- verdict.
  induction left generalizing made last with
  | zero =>
    refine (h.pair target).bind fun es r => ?_
    rintro ⟨rfl, hentered⟩
    cases hverdict : verdict target with
    | ok outcome =>
      refine .done ⟨by rw [reported, hverdict]; rfl, fun id => ?_⟩
      rw [List.append_nil, hentered, hverdict]
    | error e =>
      have hreport : reported verdict made target = .error e := by
        rw [reported, hverdict]
        rfl
      dsimp only
      split_ifs
      all_goals
        refine .done ⟨hreport.symm, fun id => ?_⟩
        rw [List.append_nil, hentered, hverdict]
  | succ left ih =>
    refine (h.pair target).bind fun es r => ?_
    rintro ⟨rfl, hentered⟩
    cases hverdict : verdict target with
    | ok outcome =>
      refine .done ⟨by rw [reported, hverdict]; rfl, fun id => ?_⟩
      rw [List.append_nil, hentered, hverdict]
    | error e =>
      have hreport (made : ℕ) : reported verdict made target = .error e := by
        rw [reported, hverdict]
        rfl
      dsimp only
      split_ifs with hfinal
      · refine .done ⟨(hreport made).symm, fun id => ?_⟩
        rw [List.append_nil, hentered, hverdict]
      · refine (ih (made + 1) e).mono fun es' r' => ?_
        rintro ⟨rfl, hentered'⟩
        refine ⟨by rw [hreport, hreport], fun id => ?_⟩
        rw [entered_append, hentered, hentered', hverdict, or_self]

/-- **One device**: the report says the verdict, whatever number of retries is allowed. -/
theorem ensures_pairDevice (target : DeviceId) (options : PairOptions) :
    (pairDevice ops target options).Ensures ok fun es r =>
      r = reported verdict 0 target ∧
        ∀ id, Entered enters es id ↔ id = target ∧ (verdict target).isOk := by
  refine (h.ensures_applySpoof options.spoofLocal).bind fun es r => ?_
  rintro ⟨rfl, hnothing⟩
  obtain ⟨left, hleft⟩ := Nat.exists_eq_add_of_le' (one_le_saturatingSucc options.retries)
  dsimp only
  rw [hleft]
  refine (h.ensures_pairFrom target 0 left exhaustedRetries).mono fun es' r' => ?_
  rintro ⟨rfl, hentered⟩
  refine ⟨rfl, fun id => ?_⟩
  rw [entered_append, hentered]
  exact or_iff_right (hnothing id)

/-- **One round**: there is one result for each pending device, in some order, with its verdict. -/
theorem ensures_runRound (options : PairOptions) (active : ℕ) (picks : List ℕ)
    (pending : List DeviceId) :
    (runRound ops options active picks pending).Ensures ok fun es out =>
      out.Perm (pending.map fun id => (id, reported verdict 0 id)) ∧
        ∀ id, Entered enters es id ↔ id ∈ pending ∧ (verdict id).isOk := by
  have hcall (target : DeviceId) : (roundCall ops options target).Ensures ok fun es r =>
      r = (target, reported verdict 0 target) ∧
        ∀ id, Entered enters es id ↔ id = target ∧ (verdict target).isOk := by
    refine (h.ensures_pairDevice target options).bind fun es r => ?_
    rintro ⟨rfl, hentered⟩
    refine .done ⟨rfl, fun id => ?_⟩
    rw [List.append_nil, hentered]
  refine (Program.Ensures.concurrently (fun target _ => hcall target) active picks).mono
    fun es out => ?_
  rintro ⟨runs, hjobs, hes, hout, hruns⟩
  constructor
  · refine hout.trans ?_
    have hvalue : runs.map (fun run => run.2.2)
        = (runs.map Prod.fst).map fun id => (id, reported verdict 0 id) := by
      rw [List.map_map]
      exact List.map_congr_left fun run hrun => (hruns run hrun).1
    rw [hvalue]
    exact hjobs.map _
  · intro id
    -- the device is entered in the call that is for it
    constructor
    · rintro ⟨e, he, hid⟩
      obtain ⟨run, hrun, he⟩ := List.mem_flatMap.mp (hes.mem_iff.mp he)
      obtain ⟨rfl, hbond⟩ := ((hruns run hrun).2 id).mp ⟨e, he, hid⟩
      exact ⟨hjobs.mem_iff.mp (List.mem_map_of_mem hrun), hbond⟩
    · rintro ⟨hpending, hbond⟩
      obtain ⟨run, hrun, rfl⟩ := List.mem_map.mp (hjobs.mem_iff.mpr hpending)
      obtain ⟨e, he, hid⟩ := ((hruns run hrun).2 run.1).mpr ⟨rfl, hbond⟩
      exact ⟨e, hes.mem_iff.mpr (List.mem_flatMap.mpr ⟨run, hrun, he⟩), hid⟩

/-- **The rounds**: in the end, each device that was pending has the item of its verdict, and the
others have what they had. -/
theorem ensures_roundsLoop (options : PairOptions) (concurrency : ℕ) (picks : ℕ → List ℕ)
    (left round : ℕ) {pending : List DeviceId} {results : ResultMap} (item : DeviceId → PairItem)
    (hnodup : pending.Nodup)
    (hitem : ∀ id ∈ pending, results id = some (item id) ∧
      (item id).attempts + (left + 1) < 2 ^ 32) :
    (roundsLoop ops options concurrency picks (left + 1) round pending results).Ensures ok
      fun es r => ∃ results', r = some results' ∧
        (∀ id ∈ pending,
          results' id = some ((item id).after (reported verdict 0 id) (left + 1))) ∧
        (∀ id ∉ pending, results' id = results id) ∧
        ∀ id, Entered enters es id ↔ id ∈ pending ∧ (verdict id).isOk := by
  -- On the rounds that are left: this round settles what is pending, and the others repeat it for
  -- what is worth another.
  induction left generalizing round pending results item with
  | zero =>
    rw [roundsLoop]
    split_ifs with hempty
    · subst hempty
      refine .done ⟨results, rfl, by simp, by simp, fun id => ?_⟩
      simp [not_entered_nil]
    · refine (h.ensures_runRound options _ (picks round) pending).bind fun es out => ?_
      rintro ⟨hout, hentered⟩
      obtain ⟨acc, hfold, -, hdone, hothers⟩ := take_round hnodup hout hitem
      rw [hfold]
      refine .done ⟨acc.results, rfl, fun id hid => ?_, hothers, fun id => ?_⟩
      · rw [hdone id hid, PairItem.after, ite_self]
        rfl
      · rw [List.append_nil, hentered]
  | succ left ih =>
    rw [roundsLoop]
    split_ifs with hempty
    · subst hempty
      refine .done ⟨results, rfl, by simp, by simp, fun id => ?_⟩
      simp [not_entered_nil]
    · refine (h.ensures_runRound options _ (picks round) pending).bind fun es out => ?_
      rintro ⟨hout, hentered⟩
      obtain ⟨acc, hfold, hnext, hdone, hothers⟩ := take_round hnodup hout fun id hid =>
        ⟨(hitem id hid).1, by have := (hitem id hid).2; omega⟩
      have hmem (id : DeviceId) :
          id ∈ acc.next ↔ id ∈ pending ∧ retryable (reported verdict 0 id) = true := by
        rw [hnext.mem_iff, List.mem_filter]
      rw [hfold]
      refine (ih (round + 1) (fun id => (item id).record (reported verdict 0 id))
        (hnext.nodup_iff.mpr (hnodup.filter _)) fun id hid => ?_).mono fun es' r => ?_
      · have hpending := ((hmem id).mp hid).1
        refine ⟨hdone id hpending, ?_⟩
        have hcount := (hitem id hpending).2
        simp only [PairItem.record]
        omega
      · rintro ⟨results', rfl, hagain, hkept, hentered'⟩
        refine ⟨results', rfl, fun id hid => ?_, fun id hid => ?_, fun id => ?_⟩
        -- The items of this round are recorded again in the next ones exactly where they are
        -- retryable.
        · by_cases hretry : retryable (reported verdict 0 id) = true
          · rw [hagain id ((hmem id).mpr ⟨hid, hretry⟩), PairItem.after, PairItem.after,
              if_pos hretry, if_pos hretry, PairItem.record]
            simp only [Option.some.injEq, PairItem.mk.injEq, true_and]
            omega
          · rw [hkept id fun hnext => hretry ((hmem id).mp hnext).2, hdone id hid, PairItem.after,
              if_neg hretry]
            rfl
        · rw [hkept id fun hnext => hid ((hmem id).mp hnext).1, hothers id hid]
        · rw [entered_append, hentered, hentered', hmem]
          tauto

/-- **A batch.** One item for each distinct target, with its verdict; it is tried in all rounds if
that is a failure that is worth a retry, and in one otherwise. -/
theorem ensures_pairDevices (picks : ℕ → List ℕ) (targets : List DeviceId)
    (options : BatchPairOptions) :
    (pairDevices ops picks targets options).Ensures ok fun es r =>
      r = some (targets.eraseDups.map (itemOf verdict (max options.rounds.toNat 1))) ∧
        ∀ id, Entered enters es id ↔ id ∈ targets ∧ (verdict id).isOk := by
  have hrounds : max options.rounds.toNat 1 < 2 ^ 32 :=
    max_lt options.rounds.toNat_lt (by norm_num)
  -- There is always a first round, also where zero are asked for.
  obtain ⟨left, hleft⟩ := Nat.exists_eq_add_of_le' (le_max_right options.rounds.toNat 1)
  rw [pairDevices, dedupe_eq]
  refine (h.ensures_applySpoof options.perDevice.spoofLocal).bind fun es r => ?_
  rintro ⟨rfl, hnothing⟩
  dsimp only
  rw [hleft]
  refine (h.ensures_roundsLoop _ _ picks left 0 notAttempted (nodup_eraseDups targets)
    fun id hid => ?_).bind fun es' r => ?_
  · rw [if_pos (List.mem_eraseDups.mp hid)]
    refine ⟨rfl, ?_⟩
    simp only [notAttempted]
    omega
  · rintro ⟨results, rfl, hdone, -, hentered⟩
    refine .done ⟨?_, fun id => ?_⟩
    · rw [Option.bind_some, drain_eq (fun id => (notAttempted id).after (reported verdict 0 id)
        (left + 1)) (nodup_eraseDups targets) results hdone]
      congr 2
      funext id
      simp [itemOf, PairItem.after, notAttempted]
    · rw [List.append_nil, entered_append, hentered, List.mem_eraseDups]
      exact or_iff_right (hnothing id)

end Determined
end Pairing
end Pax
