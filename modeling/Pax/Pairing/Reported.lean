import Pax.Framework.Apart
import Pax.Framework.Translate
import Pax.Pairing.Attempts

/-!
# What a batch reports

`pair_devices` has calls of `pair` for many devices in progress at a time, in several rounds. Those
for one device still come one after the other, and each after a transient failure of the one before,
so that no device is asked again once it has bonded, has refused or was not found; and the item of a
device says what the last of them came to (`pairDevices_reported`).

The replies of one device are read off the exchanges of all (`repliesOf`). In a round, calls that
are in progress at a time are for different devices, so that what one of them has been replied is
all that its device was replied (`Program.returns_concurrently_apart`). Over the rounds, `Asked`
keeps the replies of every device together with its entry in the result map: what is pending has had
nothing but transient failures.
-/

namespace Pax
namespace Pairing

open Program (Returns ofKey)

/-- The device that a call asks to pair, if it is one of `pair`. -/
def target? : Call → Option DeviceId
  | .setLocalAddress _ => none
  | .pair target => some target

/-- What an exchange tells about pairing with the device: the reply to a call of `pair` for it. -/
def reply? (id : DeviceId) : Exchange calls → Option PairResult
  | ⟨.pair target, r⟩ => if target = id then some r else none
  | ⟨.setLocalAddress _, _⟩ => none

/-- The replies to the calls of `pair` for the device, in order. -/
def repliesOf (id : DeviceId) (es : List (Exchange calls)) : List PairResult :=
  es.filterMap (reply? id)

/-- The last of the results is what is reported; every one before it is a transient failure. -/
def Reported (results : List PairResult) (outcome : Except TransportError PairReport) : Prop :=
  ∃ before last made, results = before ++ [last] ∧ (∀ r ∈ before, transient isFinal r = true) ∧
    outcome = report made last

variable {capabilities : Capabilities} {id target : DeviceId} {es es' : List (Exchange calls)}
  {retries : UInt32} {outcome : Except TransportError PairReport} {results : List PairResult}

theorem repliesOf_append : repliesOf id (es ++ es') = repliesOf id es ++ repliesOf id es' :=
  List.filterMap_append

/-- Only the calls for the device count for its replies. -/
theorem repliesOf_ofKey : repliesOf id (ofKey target? id es) = repliesOf id es := by
  unfold repliesOf ofKey
  rw [List.filterMap_filter]
  refine List.filterMap_congr fun e _ => ?_
  obtain ⟨call, r⟩ := e
  cases call with
  | setLocalAddress addr => rfl
  | pair target =>
    by_cases h : target = id
    · simp [target?, h]
    · simp [target?, reply?, h]

theorem repliesOf_paired (results : List PairResult) :
    repliesOf id (results.map (paired id)) = results := by
  rw [repliesOf, List.filterMap_map]
  have hreply : reply? id ∘ paired id = some := by
    funext r
    exact if_pos rfl
  rw [hreply, List.filterMap_some]

/-- Nothing is replied about a device that is not asked to pair. -/
theorem repliesOf_eq_nil (h : ∀ e ∈ es, target? e.call ≠ some id) : repliesOf id es = [] := by
  rw [← repliesOf_ofKey, Program.ofKey_eq_nil h]
  rfl

/-- A report is worth another round if the last result is a transient failure. -/
theorem retryable_report (made : ℕ) (last : PairResult) :
    retryable (report made last) = transient isFinal last := by
  cases last <;> rfl

/-- All results are transient failures if and only if the one that is reported is. -/
theorem Reported.retryable_iff (h : Reported results outcome) :
    retryable outcome = true ↔ ∀ r ∈ results, transient isFinal r = true := by
  obtain ⟨before, last, made, rfl, hbefore, rfl⟩ := h
  rw [retryable_report, List.forall_mem_append, List.forall_mem_singleton]
  exact (and_iff_right hbefore).symm

/-- A report stays one with more transient failures before its results. -/
theorem Reported.append {before : List PairResult}
    (hbefore : ∀ r ∈ before, transient isFinal r = true) (h : Reported results outcome) :
    Reported (before ++ results) outcome := by
  obtain ⟨before', last, made, rfl, hbefore', rfl⟩ := h
  exact ⟨before ++ before', last, made, (List.append_assoc ..).symm,
    List.forall_mem_append.mpr ⟨hbefore, hbefore'⟩, rfl⟩

/-! ### One round -/

/-- A call of `pair_device` within a round reports the last reply of its device. -/
theorem reported_roundCall {r : RoundResult}
    (h : Returns (roundCall (callOps capabilities) ⟨retries, none⟩ target) es r) :
    r.1 = target ∧ Reported (repliesOf target es) r.2 := by
  obtain ⟨es', outcome, _, rfl, hpair, hend⟩ := Program.returns_bind.mp h
  obtain ⟨rfl, rfl⟩ := Program.returns_done.mp hend
  obtain ⟨results, last, rfl, hattempts, rfl⟩ := returns_pairDevice.mp hpair
  refine ⟨rfl, results.dropLast, last, results.length, ?_, hattempts.retried, rfl⟩
  rw [List.append_nil, repliesOf_paired]
  exact (List.dropLast_append_getLast? last hattempts.getLast_eq).symm

theorem uses_roundCall (target : DeviceId) :
    (roundCall (callOps capabilities) ⟨retries, none⟩ target).Uses fun c =>
      target? c = some target := by
  have hP := Program.compositional_uses (I := calls) fun c => target? c = some target
  have hpair : ((callOps capabilities).pair target).Uses fun c => target? c = some target :=
    ⟨rfl, fun _ => trivial⟩
  exact (compositional_pairFrom hP hpair 0 _ _).bind fun _ => trivial

/-- **One round**, however its calls are interleaved: each device that is pending has a result,
which reports the last reply that it has had. -/
theorem reported_runRound {active : ℕ} {picks : List ℕ} {pending : List DeviceId}
    {outcomes : List RoundResult} (hnodup : pending.Nodup)
    (h : Returns (runRound (callOps capabilities) ⟨retries, none⟩ active picks pending) es
      outcomes) :
    (outcomes.map Prod.fst).Perm pending ∧
      (∀ e ∈ es, ∃ id ∈ pending, target? e.call = some id) ∧
      ∀ r ∈ outcomes, Reported (repliesOf r.1 es) r.2 := by
  obtain ⟨hwithin, owners, howners, hown⟩ :=
    Program.returns_concurrently_apart hnodup (fun id _ => uses_roundCall id) h
  -- Each result is reported from the replies of its own call.
  have hboth : List.Forall₂ (fun (r : RoundResult) id => Reported (repliesOf r.1 es) r.2 ∧
      r.1 = id) outcomes owners := by
    refine (hown.imp fun id r hr => ?_).flip
    obtain ⟨rfl, hreported⟩ := reported_roundCall hr
    rw [repliesOf_ofKey] at hreported
    exact ⟨hreported, rfl⟩
  obtain ⟨hreported, hids⟩ := (List.forall₂_and_left outcomes owners).mp hboth
  have hfst : outcomes.map Prod.fst = owners := by
    have heq := List.forall₂_map_left_iff.mpr hids
    rwa [List.forall₂_eq_eq_eq] at heq
  exact ⟨hfst ▸ howners, hwithin, hreported⟩

/-! ### The rounds -/

/-- **What is known after `n` rounds.** The devices that are pending are those that have failed
transiently all along, and the item of every other device has its report. -/
structure Asked (order : List DeviceId) (n : ℕ) (pending : List DeviceId) (results : ResultMap)
    (es : List (Exchange calls)) : Prop where
  nodup : pending.Nodup
  subset : ∀ id ∈ pending, id ∈ order
  within : ∀ e ∈ es, ∃ id ∈ order, target? e.call = some id
  items : ∀ id ∈ order, ∃ item, results id = some item ∧ item.id = id ∧ item.attempts ≤ n ∧
    (Reported (repliesOf id es) item.outcome ∨ n = 0 ∧ repliesOf id es = []) ∧
    (id ∈ pending ↔ ∀ r ∈ repliesOf id es, transient isFinal r = true)

variable {order pending : List DeviceId} {n : ℕ} {map : ResultMap}

/-- Before the first round no device has been asked, and each has the item of one that was not
attempted. -/
theorem asked_dedupe (targets : List DeviceId) :
    Asked (dedupe targets).1 0 (dedupe targets).1 (dedupe targets).2 [] := by
  rw [dedupe_eq]
  refine ⟨nodup_eraseDups targets, fun _ h => h, fun e he => absurd he List.not_mem_nil, ?_⟩
  intro id hid
  refine ⟨notAttempted id, if_pos (List.mem_eraseDups.mp hid), rfl, le_rfl, .inr ⟨rfl, rfl⟩, ?_⟩
  exact iff_of_true hid fun r hr => absurd hr List.not_mem_nil

/-- **One more round** is taken in: what is pending after it has had transient failures only. -/
theorem Asked.round (h : Asked order n pending map es) (hn : n + 1 < 2 ^ 32)
    {outcomes : List RoundResult} (hids : (outcomes.map Prod.fst).Perm pending)
    (hwithin : ∀ e ∈ es', ∃ id ∈ pending, target? e.call = some id)
    (hreported : ∀ r ∈ outcomes, Reported (repliesOf r.1 es') r.2) :
    ∃ acc, outcomes.foldlM Intake.take { results := map, next := [] } = some acc ∧
      Asked order (n + 1) acc.next acc.results (es ++ es') := by
  have houtcomes : (outcomes.map Prod.fst).Nodup := hids.nodup_iff.mpr h.nodup
  have hmem {r : RoundResult} (hr : r ∈ outcomes) : r.1 ∈ pending :=
    hids.mem_iff.mp (List.mem_map_of_mem hr)
  -- the item of each device, before the round
  let item (id : DeviceId) : PairItem := (map id).getD (notAttempted id)
  have hitem {id : DeviceId} (hid : id ∈ order) : map id = some (item id) ∧ (item id).id = id ∧
      (item id).attempts ≤ n ∧
      (Reported (repliesOf id es) (item id).outcome ∨ n = 0 ∧ repliesOf id es = []) ∧
      (id ∈ pending ↔ ∀ r ∈ repliesOf id es, transient isFinal r = true) := by
    obtain ⟨it, hmap, hrest⟩ := h.items id hid
    have heq : item id = it := by
      show (map id).getD _ = it
      rw [hmap, Option.getD_some]
    rw [heq]
    exact ⟨hmap, hrest⟩
  obtain ⟨acc, hfold, hnext, hdone, hothers⟩ := foldlM_take item outcomes
    { results := map, next := [] } houtcomes fun r hr => by
      obtain ⟨hmap, -, hcount, -⟩ := hitem (h.subset _ (hmem hr))
      exact ⟨hmap, by omega⟩
  rw [List.nil_append] at hnext
  have hnextMem {id : DeviceId} :
      id ∈ acc.next ↔ ∃ r ∈ outcomes, retryable r.2 = true ∧ r.1 = id := by
    rw [hnext, List.mem_map]
    simp only [List.mem_filter, and_assoc]
  refine ⟨acc, hfold, ?_, ?_, ?_, ?_⟩
  · rw [hnext]
    exact houtcomes.sublist (List.filter_sublist.map Prod.fst)
  · intro id hid
    obtain ⟨r, hr, -, rfl⟩ := hnextMem.mp hid
    exact h.subset _ (hmem hr)
  · intro e he
    rcases List.mem_append.mp he with he | he
    · exact h.within e he
    · obtain ⟨id, hid, htarget⟩ := hwithin e he
      exact ⟨id, h.subset id hid, htarget⟩
  · intro id hid
    obtain ⟨hmap, hitemId, hcount, hsofar, hpending⟩ := hitem hid
    by_cases hasked : id ∈ pending
    -- the device is asked in this round, and so far everything failed transiently
    · obtain ⟨r, hr, rfl⟩ := List.mem_map.mp (hids.mem_iff.mpr hasked)
      have hnow := (hreported r hr).append (hpending.mp hasked)
      rw [← repliesOf_append] at hnow
      refine ⟨(item r.1).record r.2, hdone r hr, hitemId, Nat.succ_le_succ hcount, .inl hnow, ?_⟩
      rw [← hnow.retryable_iff, hnextMem]
      constructor
      · rintro ⟨r', hr', hretry, hsame⟩
        have heq : r' = r := List.inj_on_of_nodup_map houtcomes hr' hr hsame
        rwa [heq] at hretry
      · exact fun hretry => ⟨r, hr, hretry, rfl⟩
    -- the device is not asked any more
    · have hnone : repliesOf id es' = [] := by
        refine repliesOf_eq_nil fun e he htarget => hasked ?_
        obtain ⟨id', hid', htarget'⟩ := hwithin e he
        exact Option.some.inj (htarget'.symm.trans htarget) ▸ hid'
      have hkept : acc.results id = some (item id) := by
        rw [hothers id fun hmem' => hasked (hids.mem_iff.mp hmem')]
        exact hmap
      rw [repliesOf_append, hnone, List.append_nil]
      refine ⟨item id, hkept, hitemId, Nat.le_succ_of_le hcount, .inl ?_, ?_⟩
      · rcases hsofar with hsofar | ⟨-, hnil⟩
        · exact hsofar
        · exact absurd (hpending.mpr fun r hr => by simp [hnil] at hr) hasked
      · rw [← hpending]
        refine iff_of_false (fun hid' => hasked ?_) hasked
        obtain ⟨r, hr, -, rfl⟩ := hnextMem.mp hid'
        exact hmem hr

/-- **The rounds**: in the end every device has its report. -/
theorem Asked.rounds {concurrency left round : ℕ} {picks : ℕ → List ℕ} {r : Option ResultMap}
    (h : Asked order n pending map es) (hbound : n + left < 2 ^ 32) (hsome : 1 ≤ n + left)
    (hreturns : Returns (roundsLoop (callOps capabilities) ⟨retries, none⟩ concurrency picks left
      round pending map) es' r) :
    ∃ map', r = some map' ∧ (∀ e ∈ es ++ es', ∃ id ∈ order, target? e.call = some id) ∧
      ∀ id ∈ order, ∃ item, map' id = some item ∧ item.id = id ∧
        Reported (repliesOf id (es ++ es')) item.outcome := by
  -- what is known is enough once there was a round, or there is nothing to ask
  have hover {n : ℕ} {pending : List DeviceId} {map : ResultMap} {es : List (Exchange calls)}
      (h : Asked order n pending map es) (hend : 1 ≤ n ∨ pending = []) :
      ∀ id ∈ order, ∃ item, map id = some item ∧ item.id = id ∧
        Reported (repliesOf id es) item.outcome := by
    intro id hid
    obtain ⟨item, hmap, hitem, -, hsofar, hpending⟩ := h.items id hid
    refine ⟨item, hmap, hitem, hsofar.resolve_right ?_⟩
    rintro ⟨hzero, hnil⟩
    have hmem : id ∈ pending := hpending.mpr fun r hr => by simp [hnil] at hr
    rcases hend with hend | rfl
    · omega
    · exact absurd hmem List.not_mem_nil
  -- On the rounds that are left, keeping what is known of every device that was ever pending.
  induction left generalizing n round pending map es es' with
  | zero =>
    obtain ⟨rfl, rfl⟩ := Program.returns_done.mp hreturns
    rw [List.append_nil]
    exact ⟨map, rfl, h.within, hover h (.inl hsome)⟩
  | succ left ih =>
    rw [roundsLoop] at hreturns
    by_cases hnil : pending = []
    · rw [if_pos hnil] at hreturns
      obtain ⟨rfl, rfl⟩ := Program.returns_done.mp hreturns
      rw [List.append_nil]
      exact ⟨map, rfl, h.within, hover h (.inr hnil)⟩
    · rw [if_neg hnil] at hreturns
      obtain ⟨es₁, outcomes, es₂, rfl, hround, hrest⟩ := Program.returns_bind.mp hreturns
      obtain ⟨hids, hwithin, hreported⟩ := reported_runRound h.nodup hround
      obtain ⟨acc, hfold, hnext⟩ := h.round (by omega) hids hwithin hreported
      rw [hfold] at hrest
      rw [← List.append_assoc]
      exact ih hnext (by omega) (by omega) hrest

/-! ### The batch -/

/-- A batch sets the address, and then asks every device, unless that failed. -/
theorem returns_pairDevices {picks : ℕ → List ℕ} {targets : List DeviceId}
    {options : BatchPairOptions} {r : Option (List PairItem)}
    (h : Returns (pairDevices (callOps capabilities) picks targets options) es r) :
    ∃ es₁ spoofed es₂ items, es = es₁ ++ es₂ ∧
      Returns (applySpoof (callOps capabilities) options.perDevice.spoofLocal) es₁ spoofed ∧
      r = some items ∧ items.map PairItem.id = targets.eraseDups ∧
      match spoofed with
      | .error e => es₂ = [] ∧ ∀ item ∈ items, item.outcome = .error (.localAddress e.display)
      | .ok () => (∀ e ∈ es₂, ∃ id ∈ targets.eraseDups, target? e.call = some id) ∧
        ∀ item ∈ items, Reported (repliesOf item.id es₂) item.outcome := by
  obtain ⟨es₁, spoofed, es₂, rfl, hspoof, hrest⟩ := Program.returns_bind.mp h
  have horder : (dedupe targets).1 = targets.eraseDups := by rw [dedupe_eq]
  -- Either the address was not set, and nobody is asked, or the rounds tell of every target.
  cases spoofed with
  | error e =>
    obtain ⟨rfl, rfl⟩ := Program.returns_done.mp hrest
    refine ⟨es₁, _, [], _, rfl, hspoof, rfl, ?_, rfl, ?_⟩
    · rw [List.map_map]
      exact (List.map_id (dedupe targets).1).trans horder
    · intro item hitem
      obtain ⟨id, -, rfl⟩ := List.mem_map.mp hitem
      rfl
  | ok u =>
    obtain ⟨es₃, map, _, rfl, hrounds, hend⟩ := Program.returns_bind.mp hrest
    obtain ⟨rfl, rfl⟩ := Program.returns_done.mp hend
    have hlt := options.rounds.toNat_lt
    obtain ⟨map, rfl, hwithin, hreports⟩ := (asked_dedupe targets).rounds (by omega) (by omega)
      hrounds
    rw [List.nil_append, horder] at hwithin hreports
    rw [List.append_nil]
    -- the item of each device, in the end
    let item (id : DeviceId) : PairItem := (map id).getD (notAttempted id)
    have hitem : ∀ id ∈ targets.eraseDups, map id = some (item id) ∧ (item id).id = id ∧
        Reported (repliesOf id es₃) (item id).outcome := by
      intro id hid
      obtain ⟨it, hmap, hreport⟩ := hreports id hid
      have heq : item id = it := by
        show (map id).getD _ = it
        rw [hmap, Option.getD_some]
      rw [heq]
      exact ⟨hmap, hreport⟩
    refine ⟨es₁, _, es₃, targets.eraseDups.map item, rfl, hspoof, ?_, ?_, hwithin, ?_⟩
    · have hdrain := drain_eq item (nodup_eraseDups targets) map fun id hid => (hitem id hid).1
      rw [← horder] at hdrain ⊢
      exact hdrain
    · rw [List.map_map]
      have hid := List.map_congr_left (f := PairItem.id ∘ item) fun id hid => (hitem id hid).2.1
      exact hid.trans (List.map_id' _)
    · intro it hit
      obtain ⟨id, hid, rfl⟩ := List.mem_map.mp hit
      obtain ⟨-, hitemId, hreport⟩ := hitem id hid
      rw [hitemId]
      exact hreport

/-- The address that was to be set was not: the backend can set none, and is not asked to, or it was
asked to and answered with the error `e`. There is no other exchange. -/
def SpoofFailed (capabilities : Capabilities) (spoof : Option BdAddr) (es : List (Exchange calls))
    (e : TransportError) : Prop :=
  ∃ addr, spoof = some addr ∧
    if capabilities.canSpoofAddress then es = [⟨.setLocalAddress addr, .error e⟩]
    else es = [] ∧ e = .unsupported capabilities.kind.name "set_local_address"

/-- The address that was to be set was set, in the one exchange that there is. There is none if no
address was to be set. -/
def SpoofDone : (spoof : Option BdAddr) → (es : List (Exchange calls)) → Prop
  | none, es => es = []
  | some addr, es => es = [⟨.setLocalAddress addr, .ok ()⟩]

/-- What comes before the rounds: the address, if there is one to set. -/
theorem returns_applySpoof {spoof : Option BdAddr} {spoofed : Except TransportError Unit}
    (h : Returns (applySpoof (callOps capabilities) spoof) es spoofed) :
    match spoofed with
    | .ok () => SpoofDone spoof es
    | .error e => SpoofFailed capabilities spoof es e := by
  cases spoof with
  | none =>
    obtain ⟨rfl, rfl⟩ := Program.returns_done.mp h
    exact rfl
  | some addr =>
    change Returns (if ¬ capabilities.canSpoofAddress then _ else _) es spoofed at h
    -- A backend that cannot set it is not called at all.
    by_cases hcan : capabilities.canSpoofAddress
    · rw [if_neg (not_not_intro hcan)] at h
      obtain rfl : es = [⟨.setLocalAddress addr, spoofed⟩] := Program.returns_call.mp h
      cases spoofed with
      | ok u => exact rfl
      | error e => exact ⟨addr, rfl, (if_pos hcan).mpr rfl⟩
    · rw [if_pos hcan] at h
      obtain ⟨rfl, rfl⟩ := Program.returns_done.mp h
      exact ⟨addr, rfl, (if_neg hcan).mpr ⟨rfl, rfl⟩⟩

/-- **What a batch reports.** However its calls are interleaved, and whatever the backend answers:
there is one item for each distinct target, in the order of the targets. If an address was to be set
and this failed, then nothing else is done, and every item carries the error. Otherwise it is set
before anything else, only the targets are asked to pair, each one again only after a transient
failure, and the item of each reports its last answer. -/
theorem pairDevices_reported (capabilities : Capabilities) (picks : ℕ → List ℕ)
    (targets : List DeviceId) (options : BatchPairOptions) (es : List (Exchange calls))
    (r : Option (List PairItem))
    (h : Returns (pairDevices (callOps capabilities) picks targets options) es r) :
    ∃ items, r = some items ∧ items.map PairItem.id = targets.eraseDups ∧
      ((∃ e, SpoofFailed capabilities options.perDevice.spoofLocal es e ∧
          ∀ item ∈ items, item.outcome = .error (.localAddress e.display)) ∨
        ∃ es₁ es₂, es = es₁ ++ es₂ ∧ SpoofDone options.perDevice.spoofLocal es₁ ∧
          (∀ e ∈ es₂, ∃ id ∈ targets, target? e.call = some id) ∧
          ∀ item ∈ items, Reported (repliesOf item.id es₂) item.outcome) := by
  obtain ⟨es₁, spoofed, es₂, items, rfl, hspoof, rfl, hids, hrest⟩ := returns_pairDevices h
  have hset := returns_applySpoof hspoof
  refine ⟨items, rfl, hids, ?_⟩
  cases spoofed with
  | error e =>
    obtain ⟨rfl, hitems⟩ := hrest
    rw [List.append_nil]
    exact .inl ⟨e, hset, hitems⟩
  | ok u =>
    obtain ⟨hwithin, hreported⟩ := hrest
    refine .inr ⟨es₁, es₂, rfl, hset, fun e he => ?_, hreported⟩
    obtain ⟨id, hid, htarget⟩ := hwithin e he
    exact ⟨id, List.mem_eraseDups.mp hid, htarget⟩

/-! ### Two devices at a time -/

def phoneId : DeviceId := .pub ⟨#v[0, 0, 0, 0, 0, 1]⟩

def watchId : DeviceId := .pub ⟨#v[0, 0, 0, 0, 0, 2]⟩

def spoofedId : BdAddr := ⟨#v[2, 0, 0, 0, 0, 3]⟩

/-- The phone fails at first, and is asked again after the watch, in a round of its own. -/
def phoneAndWatch : List (Exchange calls) :=
  [paired phoneId (.error (.timeout "page")), paired watchId (.ok ⟨true, true, .justWorks⟩),
    paired phoneId (.ok ⟨true, true, .justWorks⟩)]

/-- The phone and the watch under an address of their own, once with an adapter that takes it and
once with one that does not. -/
theorem pairDevices_reported_phone :
    (∃ items : List PairItem, items.map PairItem.id = [phoneId, watchId, phoneId].eraseDups ∧
      ∀ item ∈ items, Reported (repliesOf item.id phoneAndWatch) item.outcome) ∧
    ∃ items : List PairItem, items.map PairItem.id = [phoneId, watchId, phoneId].eraseDups ∧
      ∀ item ∈ items, item.outcome =
        .error (.localAddress (TransportError.localAddress "read-only").display) := by
  -- The address is set, and both devices are tried; and it cannot be set.
  constructor
  · obtain ⟨r, h⟩ : ∃ r, Returns (pairDevices (callOps ⟨.mock, 2, true⟩) (fun _ => [0, 0, 0, 0])
        [phoneId, watchId, phoneId] ⟨none, 2, ⟨0, some spoofedId⟩⟩)
        (⟨.setLocalAddress spoofedId, .ok ()⟩ :: phoneAndWatch) r :=
      ⟨_, .cons _ (.cons _ (.cons _ (.cons _ (.nil _))))⟩
    obtain ⟨items, -, hids, ⟨e, ⟨addr, -, hfailed⟩, -⟩ | ⟨es₁, es₂, hes, hset, -, hreported⟩⟩ :=
      pairDevices_reported _ _ _ _ _ _ h
    · cases hfailed
    · obtain rfl : es₁ = [⟨.setLocalAddress spoofedId, .ok ()⟩] := hset
      obtain rfl := (List.cons.inj hes).2
      exact ⟨items, hids, hreported⟩
  · obtain ⟨r, h⟩ : ∃ r, Returns (pairDevices (callOps ⟨.mock, 2, true⟩) (fun _ => [0, 0, 0, 0])
        [phoneId, watchId, phoneId] ⟨none, 2, ⟨0, some spoofedId⟩⟩)
        [⟨.setLocalAddress spoofedId, .error (.localAddress "read-only")⟩] r :=
      ⟨_, .cons _ (.nil _)⟩
    obtain ⟨items, -, hids, ⟨e, ⟨addr, -, hfailed⟩, hitems⟩ | ⟨es₁, es₂, hes, hset, -⟩⟩ :=
      pairDevices_reported _ _ _ _ _ _ h
    · cases hfailed
      exact ⟨items, hids, hitems⟩
    · obtain rfl : es₁ = [⟨.setLocalAddress spoofedId, .ok ()⟩] := hset
      cases (List.cons.inj hes).1

/-! ### On other operations -/

section Translate

variable {I J : Interface} {g : I.Call → J.Call} {back : (c : I.Call) → J.Reply (g c) → I.Reply c}

variable (ops : PairingOps I)

end Translate

end Pairing
end Pax
