import Pax.Framework.Attempts
import Pax.Pairing.Session

/-!
# How often a device is asked to pair

Each call of `pair` is another prompt. One call of `pair_device` makes them until one is settled or
the retries are used up, and what it returns is what the last of them did (`returns_pairDevice`). In
a batch a device is paired at most once in each round, so that the calls for it are at most as many
times that as there are rounds (`countP_pairDevices`).

* `Attempts` (of `Pax.Framework.Attempts`) describes the results of one call of `pair_device`, from
  the first attempt to the one that is reported.
* `pairs id` picks the calls of `pair` for a device from a list of exchanges, of which there may be
  many, for other devices, in between.

The bound on a batch holds for every interleaving: calls in progress at a time are for different
devices, so that the calls for one device in a round are those of one call of `pair_device`.
-/

namespace Pax
namespace Pairing

open Program (Returns)

/-- What a call of `pair` comes to: a bond, or the error with which it failed. -/
abbrev PairResult := Except TransportError PairingOutcome

/-- A call of `pair` for the device, with its result. -/
def paired (target : DeviceId) (result : PairResult) : Exchange calls := ⟨.pair target, result⟩

/-- What `pair_device` makes of the result of its last attempt: a report with the number of
attempts, or the error as it is. -/
def report (attempts : ℕ) (result : PairResult) : Except TransportError PairReport :=
  result.map fun outcome => { outcome, attempts }

/-- The exchange is a call of `pair`, and it is for the device. -/
def pairs (id : DeviceId) : Exchange calls → Bool
  | ⟨.pair target, _⟩ => target = id
  | _ => false

/-- The call is the one that sets an address, and not one of `pair`. -/
def SetsAddress : Call → Prop
  | .setLocalAddress _ => True
  | .pair _ => False

variable {capabilities : Capabilities}

/-! ### One device -/

theorem pairFrom_eq_attempt (target : DeviceId) (made left : ℕ) (last : TransportError) :
    pairFrom (callOps capabilities) target made left last
      = Program.attempt (I := calls) (.pair target) (transient isFinal) report made left
          (.error last) := by
  -- On the calls that are left: both make one, and go on with one fewer after a transient error.
  induction left generalizing made last with
  | zero => rfl
  | succ left ih =>
    rw [pairFrom]
    show Program.ask (I := calls) _ _ = Program.ask (I := calls) _ _
    congr 1
    funext result
    cases result with
    | ok outcome => rfl
    | error e =>
      show (if isFinal e then .done (.error e) else pairFrom _ target (made + 1) left e)
        = if (!isFinal e) = true then _ else _
      cases isFinal e with
      | true => rfl
      | false => exact ih (made + 1) e

/-- **The attempts of `pair_device`**, with no address to set: these are its runs, for all
replies of the backend. -/
theorem returns_pairDevice {target : DeviceId} {retries : UInt32} {es : List (Exchange calls)}
    {r : Except TransportError PairReport} :
    Returns (pairDevice (callOps capabilities) target ⟨retries, none⟩) es r ↔
      ∃ results last, es = results.map (paired target) ∧
        Attempts (transient isFinal) (saturatingSucc retries) results last ∧
        r = report results.length last := by
  have hprogram : pairDevice (callOps capabilities) target ⟨retries, none⟩
      = pairFrom (callOps capabilities) target 0 (saturatingSucc retries) exhaustedRetries := rfl
  rw [hprogram, pairFrom_eq_attempt]
  refine Program.returns_attempt.trans ?_
  constructor
  -- At least one call is made, however many retries are asked for.
  · rintro (⟨hzero, -⟩ | ⟨results, last, rfl, h, rfl⟩)
    · exact absurd hzero (by have := one_le_saturatingSucc retries; omega)
    · exact ⟨results, last, rfl, h,
        congrArg (report · last) (Nat.zero_add _)⟩
  · rintro ⟨results, last, rfl, h, rfl⟩
    exact .inr ⟨results, last, rfl, h, congrArg (report · last) (Nat.zero_add _).symm⟩

/-! ### A batch -/

theorem countP_paired (id target : DeviceId) (results : List PairResult) :
    (results.map (paired target)).countP (pairs id)
      = if target = id then results.length else 0 := by
  rw [List.countP_map]
  show results.countP (fun _ => decide (target = id)) = _
  split
  · next h => simp [h]
  · next h => simp [h]

/-- A call of `pair_device` in a round makes `pair` calls for its own device only, and returns with
it. -/
theorem returns_roundCall (id : DeviceId) {target : DeviceId} {retries : UInt32}
    {es : List (Exchange calls)} {r : RoundResult}
    (h : Returns (roundCall (callOps capabilities) ⟨retries, none⟩ target) es r) :
    r.1 = target ∧ es.countP (pairs id) ≤ if target = id then saturatingSucc retries else 0 := by
  obtain ⟨es', outcome, _, rfl, hpair, hend⟩ := Program.returns_bind.mp h
  obtain ⟨rfl, rfl⟩ := Program.returns_done.mp hend
  obtain ⟨results, last, rfl, hattempts, -⟩ := returns_pairDevice.mp hpair
  refine ⟨rfl, ?_⟩
  rw [List.append_nil, countP_paired]
  split
  · exact hattempts.length_le
  · exact le_rfl

/-- **One round**, over devices that may be there several times. -/
theorem returns_runRound (id : DeviceId) {retries : UInt32} {active : ℕ} {picks : List ℕ}
    {pending : List DeviceId} {es : List (Exchange calls)} {outcomes : List RoundResult}
    (h : Returns (runRound (callOps capabilities) ⟨retries, none⟩ active picks pending) es
      outcomes) :
    (outcomes.map Prod.fst).Perm pending ∧
      es.countP (pairs id) ≤ saturatingSucc retries * pending.count id := by
  obtain ⟨returned, hran, rfl⟩ := Program.returns_concurrently h
  obtain ⟨jobs, runs, hjobs, hruns, hes, hout⟩ := hran.jobs
  rw [hes.countP_eq, ← hjobs.count_eq]
  suffices hsum : (runs.map Program.Ran.value).map Prod.fst = jobs ∧
      (runs.flatMap Program.Ran.exchanges).countP (pairs id)
        ≤ saturatingSucc retries * jobs.count id by
    exact ⟨(hout.map Prod.fst).trans (hsum.1 ▸ hjobs), hsum.2⟩
  clear hjobs hes hout hran h
  -- one call after the other, each with its own device
  induction hruns with
  | nil => exact ⟨rfl, le_rfl⟩
  | @cons job run jobs runs hprogram _ ih =>
    obtain ⟨hkeys, hcount⟩ := ih
    obtain ⟨hkey, hown⟩ := returns_roundCall id (hprogram ▸ run.returns)
    constructor
    · rw [List.map_cons, List.map_cons, hkey, hkeys]
    · rw [List.flatMap_cons, List.countP_append, List.count_cons, Nat.mul_add, Nat.add_comm]
      refine Nat.add_le_add hcount (hown.trans ?_)
      simp only [beq_iff_eq]
      split
      · rw [Nat.mul_one]
      · exact Nat.zero_le _

/-- **The rounds**: each of them costs a device that is pending no more than one call of
`pair_device` does, and a device does not become pending twice. -/
theorem countP_roundsLoop {id : DeviceId} {retries : UInt32} {concurrency : ℕ} {picks : ℕ → List ℕ}
    {left round : ℕ} {pending : List DeviceId} {results : ResultMap} {es : List (Exchange calls)}
    {r : Option ResultMap}
    (h : Returns (roundsLoop (callOps capabilities) ⟨retries, none⟩ concurrency picks left round
      pending results) es r) :
    es.countP (pairs id) ≤ left * (saturatingSucc retries * pending.count id) := by
  -- On the rounds that are left; a device is pending in the next round at most as often as in this
  -- one.
  induction left generalizing round pending results es with
  | zero =>
    obtain ⟨rfl, -⟩ := Program.returns_done.mp h
    exact Nat.zero_le _
  | succ left ih =>
    rw [roundsLoop] at h
    split at h
    · obtain ⟨rfl, -⟩ := Program.returns_done.mp h
      exact Nat.zero_le _
    · obtain ⟨es₁, outcomes, es₂, rfl, hround, hrest⟩ := Program.returns_bind.mp h
      obtain ⟨hkeys, hfirst⟩ := returns_runRound id hround
      have hlater : es₂.countP (pairs id) ≤ left * (saturatingSucc retries * pending.count id) := by
        cases hfold : outcomes.foldlM Intake.take { results, next := [] } with
        | none =>
          rw [hfold] at hrest
          obtain ⟨rfl, -⟩ := Program.returns_done.mp hrest
          exact Nat.zero_le _
        | some acc =>
          rw [hfold] at hrest
          have hnext : acc.next.count id ≤ pending.count id :=
            ((sublist_next hfold).count_le id).trans (hkeys.count_eq id).le
          exact (ih hrest).trans (Nat.mul_le_mul_left _ (Nat.mul_le_mul_left _ hnext))
      rw [List.countP_append, Nat.succ_mul, Nat.add_comm]
      exact Nat.add_le_add hlater hfirst

/-- **In a batch** a device is asked to pair at most once for each attempt of each round. -/
theorem countP_pairDevices {picks : ℕ → List ℕ} {targets : List DeviceId}
    {options : BatchPairOptions} {es : List (Exchange calls)} {r : Option (List PairItem)}
    (h : Returns (pairDevices (callOps capabilities) picks targets options) es r) (id : DeviceId) :
    es.countP (pairs id)
      ≤ max options.rounds.toNat 1 * saturatingSucc options.perDevice.retries := by
  obtain ⟨es₁, spoofed, es₂, rfl, hspoof, hrest⟩ := Program.returns_bind.mp h
  -- Setting the local address is no pairing call.
  have hnone : es₁.countP (pairs id) = 0 := by
    have hops : ∀ addr, ((callOps capabilities).setLocalAddress addr).Uses SetsAddress :=
      fun _ => ⟨trivial, fun _ => trivial⟩
    refine List.countP_eq_zero.mpr fun e he => ?_
    have hP := Program.compositional_uses (I := calls) SetsAddress
    have hset := Program.Uses.path (compositional_applySpoof hP hops _) hspoof e he
    obtain ⟨call, result⟩ := e
    cases call with
    | setLocalAddress addr => exact Bool.false_ne_true
    | pair target => cases hset
  rw [List.countP_append, hnone, Nat.zero_add]
  cases spoofed with
  | error e =>
    obtain ⟨rfl, -⟩ := Program.returns_done.mp hrest
    exact Nat.zero_le _
  | ok u =>
    obtain ⟨es₃, results, _, rfl, hrounds, hend⟩ := Program.returns_bind.mp hrest
    obtain ⟨rfl, -⟩ := Program.returns_done.mp hend
    -- The targets are deduplicated, so each device is pending at most once.
    have honce : (dedupe targets).1.count id ≤ 1 := by
      rw [dedupe_eq]
      exact List.nodup_iff_count_le_one.mp (nodup_eraseDups targets) id
    rw [List.append_nil]
    refine (countP_roundsLoop hrounds).trans (Nat.mul_le_mul_left _ ?_)
    exact (Nat.mul_le_mul_left _ honce).trans (Nat.mul_one _).le

/-- **How often `pair` is called.** Without an address to set, `pair_device` pairs until a result is
a success, a rejection or a device that is not found, or until there are as many attempts as there
may be, and returns what the last attempt came to; an error that it returns is one that the backend
has returned. A batch calls `pair` for a device at most as often as one call of `pair_device` may,
in each round. -/
theorem pair_attempts (capabilities : Capabilities) (target : DeviceId) (retries : UInt32)
    (es : List (Exchange calls)) (r : Except TransportError PairReport) (picks : ℕ → List ℕ)
    (targets : List DeviceId) (options : BatchPairOptions) (batch : List (Exchange calls))
    (items : Option (List PairItem))
    (hbatch : Returns (pairDevices (callOps capabilities) picks targets options) batch items) :
    (Returns (pairDevice (callOps capabilities) target ⟨retries, none⟩) es r ↔
        ∃ results last, es = results.map (paired target) ∧
          Attempts (transient isFinal) (saturatingSucc retries) results last ∧
          r = report results.length last ∧
          ∀ e, r = .error e → .error e ∈ results) ∧
      ∀ id, batch.countP (pairs id)
        ≤ max options.rounds.toNat 1 * saturatingSucc options.perDevice.retries := by
  refine ⟨?_, countP_pairDevices hbatch⟩
  rw [returns_pairDevice]
  constructor
  · rintro ⟨results, last, rfl, h, rfl⟩
    refine ⟨results, last, rfl, h, rfl, fun e he => ?_⟩
    -- An error that is reported was the answer of the last call, and is not made up.
    cases last with
    | ok outcome => cases he
    | error e' =>
      cases he
      exact h.last_mem
  · rintro ⟨results, last, rfl, h, rfl, -⟩
    exact ⟨results, last, rfl, h, rfl⟩

/-- The exchanges of a batch for a phone that cannot be paired with at first. -/
def twoPrompts : List (Exchange calls) :=
  [paired (.pub .nil) (.error (.timeout "page")), paired (.pub .nil) (.ok ⟨true, true, .justWorks⟩)]

/-- The phone is paired with in the second of two rounds, with one attempt in each. -/
theorem pair_attempts_phone : twoPrompts.countP (pairs (.pub .nil)) ≤ 2 * saturatingSucc 0 := by
  have hbatch : ∃ items, Returns (pairDevices (callOps ⟨.mock, 1, false⟩) (fun _ => [])
      [.pub .nil] ⟨none, 2, ⟨0, none⟩⟩) twoPrompts items := ⟨_, .cons _ (.cons _ (.nil _))⟩
  obtain ⟨items, hbatch⟩ := hbatch
  exact (pair_attempts _ (.pub .nil) 0 [] (.error exhaustedRetries) _ _ _ _ _ hbatch).2 (.pub .nil)

end Pairing
end Pax
