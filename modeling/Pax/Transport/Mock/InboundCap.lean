import Pax.Framework.Selection
import Pax.Transport.Mock.Pairing

/-!
# The cap on inbound bonds

`max_devices` is to be the number of devices after whose bonds `accept_pairings` stops. The mock
takes that many of its incoming devices instead, whether they bond or not.

What was asked for is stated from the answers of the agent: the first `max_devices` of the incoming
devices that bond are returned, and no device is left out before that many have bonded
(`CapCountsBonds`). `capCountsBonds_iff` says when the mock does that: there is no cap, or all
incoming devices are within it, or those within it bond, every one.

In `cap_counts_attempts` the one device within the cap fails, and another one that would bond is
never tried.
-/

namespace Pax
namespace MockBackend

open Program (Returns)
open Selection (firstAccepted)

/-- The answers of the agent in a list of exchanges, in order. -/
def responses (es : List (Exchange mockSteps)) : List PairingResponse :=
  es.filterMap fun
    | ⟨.respond _ _, response⟩ => some response
    | _ => none

theorem responses_append (es es' : List (Exchange mockSteps)) :
    responses (es ++ es') = responses es ++ responses es' := List.filterMap_append

/-- The agent answers the prompts of a call in turn with `answer 0`, `answer 1`, and so on. -/
def AnsweredAs (answer : ℕ → PairingResponse) (es : List (Exchange mockSteps)) : Prop :=
  responses es = (List.range (responses es).length).map answer

instance (device : MockDevice) (response : PairingResponse) : Decidable (Bonds device response) :=
  inferInstanceAs (Decidable (_ ∧ _))

/-- A device bonds that is the `k`-th to be tried, so that the agent answers it with `answer k`. -/
def bondsAt (answer : ℕ → PairingResponse) (tried : MockDevice × ℕ) : Bool :=
  Bonds tried.1 (answer tried.2)

/-- The ids of devices that are listed with their positions. -/
def idsOf (devices : List (MockDevice × ℕ)) : List DeviceId := devices.map fun p => p.1.info.id

/-- The first `max_devices` of the incoming devices that bond are returned, and no further device is
tried only if that many have bonded or all have been tried. -/
def CapCountsBonds (backend : MockBackend) (opts : InboundPairing) (answer : ℕ → PairingResponse)
    (es : List (Exchange mockSteps)) (bonded : List DeviceId) : Prop :=
  bonded = idsOf (firstAccepted (bondsAt answer) opts.maxDevices backend.incoming.zipIdx) ∧
    ((responses es).length = backend.incoming.length ∨ opts.maxDevices = some bonded.length)

variable {backend : MockBackend} {es : List (Exchange mockSteps)}

/-- An attempt asks the agent once, and succeeds if the device bonds on the answer. -/
theorem Attempt.asks {device : MockDevice} {target : DeviceId} {r : Except TransportError Unit}
    (h : Attempt backend device target es r) :
    ∃ response, responses es = [response] ∧ (r = .ok () ↔ Bonds device response) := by
  cases h with
  | @declined response started failed hrefusal =>
    exact ⟨response, rfl, Iff.intro nofun fun hbonds => absurd hrefusal hbonds.1⟩
  | @failed response reason started failed haccepted hreason =>
    refine ⟨response, rfl, Iff.intro nofun fun hbonds => ?_⟩
    rw [hbonds.2] at hreason
    cases hreason
  | @completed response started completed haccepted hnone =>
    exact ⟨response, rfl, fun _ => ⟨haccepted, hnone⟩, fun _ => rfl⟩

/-- **Attempts in turn ask once for each device**, and those that bond are returned. -/
theorem Attempts.asks {devices : List MockDevice} {bonded : List DeviceId}
    (h : Attempts backend devices es bonded) :
    (responses es).length = devices.length ∧ ∀ answer k,
      responses es = (List.range' k devices.length).map answer →
        bonded = idsOf ((devices.zipIdx k).filter (bondsAt answer)) := by
  -- On the attempts, each of which takes the next answer.
  induction h with
  | nil => exact ⟨rfl, fun _ _ _ => rfl⟩
  | @failed device devices es es' bonded e hattempt _ ih =>
    obtain ⟨response, hasked, hbonds⟩ := hattempt.asks
    rw [responses_append, hasked]
    refine ⟨congrArg Nat.succ ih.1, fun answer k hanswers => ?_⟩
    obtain ⟨hfirst, hrest⟩ := List.cons_eq_cons.mp hanswers
    have hnot : ¬ bondsAt answer (device, k) = true := by
      intro hbondsAt
      have hok := hbonds.mpr (hfirst ▸ of_decide_eq_true hbondsAt)
      cases hok
    rw [List.zipIdx_cons, List.filter_cons_of_neg hnot]
    exact ih.2 answer (k + 1) hrest
  | @completed device devices es es' bonded hattempt _ ih =>
    obtain ⟨response, hasked, hbonds⟩ := hattempt.asks
    rw [responses_append, hasked]
    refine ⟨congrArg Nat.succ ih.1, fun answer k hanswers => ?_⟩
    obtain ⟨hfirst, hrest⟩ := List.cons_eq_cons.mp hanswers
    have hbond : bondsAt answer (device, k) = true := by
      refine decide_eq_true ?_
      rw [← hfirst]
      exact hbonds.mp rfl
    rw [List.zipIdx_cons, List.filter_cons_of_pos hbond]
    exact congrArg (device.info.id :: ·) (ih.2 answer (k + 1) hrest)

theorem take_zipIdx {α : Type} (l : List α) (n k : ℕ) :
    (l.take n).zipIdx k = (l.zipIdx k).take n := by
  induction l generalizing n k with
  | nil => rw [List.take_nil, List.zipIdx_nil, List.take_nil]
  | cons a l ih =>
    cases n with
    | zero => rfl
    | succ n =>
      rw [List.take_succ_cons, List.zipIdx_cons, List.zipIdx_cons, List.take_succ_cons, ih]

/-- **When the cap counts bonds**: there is none, or all incoming devices are within it, or as many
as it is bond at once. -/
theorem capCountsBonds_iff (backend : MockBackend) (opts : InboundPairing)
    (answer : ℕ → PairingResponse) (es : List (Exchange mockSteps)) (bonded : List DeviceId)
    (h : Returns (backend.acceptPairings opts) es (.ok bonded)) (hanswers : AnsweredAs answer es) :
    CapCountsBonds backend opts answer es bonded ↔ ∀ n, opts.maxDevices = some n →
      backend.incoming.length ≤ n ∨
        ∀ tried ∈ backend.incoming.zipIdx.take n, bondsAt answer tried = true := by
  obtain ⟨es', ids, rfl, hattempts, hok⟩ := returns_acceptPairings h
  cases hok
  obtain ⟨hlength, hbonded⟩ := hattempts.asks
  have hresponses : responses (es' ++ [⟨.advance opts.window, ()⟩]) = responses es' :=
    (responses_append es' _).trans (List.append_nil _)
  rw [AnsweredAs, hresponses, hlength, List.range_eq_range'] at hanswers
  have hbonded := hbonded answer 0 hanswers
  rw [CapCountsBonds, hresponses, hlength]
  cases hmax : opts.maxDevices with
  | none =>
    rw [tried, hmax] at hbonded ⊢
    exact iff_of_true ⟨hbonded, .inl rfl⟩ nofun
  | some n =>
    rw [tried, hmax] at hbonded ⊢
    dsimp only at hbonded ⊢
    rw [take_zipIdx] at hbonded
    rw [List.length_take]
    constructor
    -- The call has stopped after all devices, or at as many bonds as the cap.
    · rintro ⟨-, hstopped⟩ m hm
      obtain rfl := Option.some.inj hm
      rcases hstopped with hall | hmany
      · exact .inl (by omega)
      · by_cases hle : backend.incoming.length ≤ n
        · exact .inl hle
        -- of the first `n` as many have bonded, so all have
        have hlen : (backend.incoming.zipIdx.take n).length = n := by
          rw [List.length_take, List.length_zipIdx]
          omega
        have hn := Option.some.inj hmany
        rw [hbonded, idsOf, List.length_map] at hn
        exact .inr (List.length_filter_eq_length_iff.mp (hn.symm.trans hlen.symm))
    -- Conversely, the first devices to bond are those within the cap that bond.
    · intro hcond
      rcases hcond n rfl with hle | hbond
      · have hzip : backend.incoming.zipIdx.length ≤ n := by rwa [List.length_zipIdx]
        rw [List.take_of_length_le hzip] at hbonded
        refine ⟨?_, .inl (min_eq_right hle)⟩
        rw [Selection.firstAccepted_of_length_le hzip]
        exact hbonded
      · rw [List.filter_eq_self.mpr hbond] at hbonded
        refine ⟨by rw [Selection.firstAccepted_of_take hbond]; exact hbonded, ?_⟩
        have hlen : bonded.length = min n backend.incoming.length := by
          rw [hbonded, idsOf, List.length_map, List.length_take, List.length_zipIdx]
        rcases Nat.le_total backend.incoming.length n with hle | hle
        · exact .inl (min_eq_right hle)
        · exact .inr (by rw [hlen, min_eq_left hle])

/-! ### A device that does not bond -/

/-- A phone with which every pairing fails, whatever the agent answers. -/
def busyPhone : MockDevice :=
  { phone with
    info := { phone.info with id := ⟨.nil, .random⟩ }
    pairingFailure := some "busy" }

/-- Two incoming devices: the one that fails comes first, and then the other phone. -/
def twoPhones : MockBackend := { quietBackend with incoming := [busyPhone, phone] }

/-- An operation that accepts inbound bonds, with this number as its cap. -/
def acceptUpTo (n : ℕ) : Unit → MockOp :=
  fun _ => .acceptPairings { window := .zero, maxDevices := some n }

/-- The ids are the same, as a test that can be computed. -/
def sameIds (ids ids' : List DeviceId) : Bool := ids = ids'

theorem eq_of_sameIds {ids ids' : List DeviceId} (h : sameIds ids ids' = true) : ids = ids' :=
  of_decide_eq_true h

/-- It has returned these ids, the agent having said yes so often. -/
def hasAccepted (n asked : ℕ) (ids : List DeviceId)
    (w : Pool mockSteps MockState fun i => (acceptUpTo n i).Result) : Bool :=
  (match (w.task ()).value? with
    | some (.ok bonded) => sameIds bonded ids
    | _ => false) && decide (responses (own w.trace ()) = .replicate asked (.confirm true))

theorem of_hasAccepted {n asked : ℕ} {ids : List DeviceId}
    {w : Pool mockSteps MockState fun i => (acceptUpTo n i).Result}
    (h : hasAccepted n asked ids w = true) :
    w.task () = .done (.ok ids) ∧ AnsweredAs (fun _ => .confirm true) (own w.trace ()) := by
  obtain ⟨hdone, hasked⟩ := (Bool.and_eq_true _ _).mp h
  constructor
  · split at hdone
    · next bonded hvalue =>
      rw [eq_of_sameIds hdone] at hvalue
      exact Program.value?_eq_some.mp hvalue
    · cases hdone
  · rw [AnsweredAs, of_decide_eq_true hasked, List.map_const', List.length_range,
      List.length_replicate]

/-- Both phones are within the cap of two, so that it does not matter which of them bond. -/
theorem capCountsBonds_iff_both : ∃ w,
    (system (acceptUpTo 2)).Run (twoPhones.start [] (acceptUpTo 2))
      (.replicate 12 ((), .confirm true)) w ∧
      CapCountsBonds twoPhones { window := .zero, maxDevices := some 2 } (fun _ => .confirm true)
        (own w.trace ()) [phone.info.id] := by
  have hcomputed : ((system (acceptUpTo 2)).exec (twoPhones.start [] (acceptUpTo 2))
      (.replicate 12 ((), .confirm true))).any (hasAccepted 2 2 [phone.info.id]) = true := by decide
  obtain ⟨w, hrun, hp⟩ := Lts.exists_run_of_any hcomputed
  obtain ⟨hdone, hanswers⟩ := of_hasAccepted hp
  refine ⟨w, hrun, (capCountsBonds_iff twoPhones _ _ _ _ ((reached hrun).returns hdone)
    hanswers).mpr fun n hn => .inl (Option.some.inj hn).le⟩

/-- The one device within the cap does not bond, and the other one is not tried. -/
theorem cap_counts_attempts : ∃ w,
    (system (acceptUpTo 1)).Run (twoPhones.start [] (acceptUpTo 1))
      (.replicate 6 ((), .confirm true)) w ∧
      w.task () = .done (.ok []) ∧ AnsweredAs (fun _ => .confirm true) (own w.trace ()) ∧
      ¬ CapCountsBonds twoPhones { window := .zero, maxDevices := some 1 } (fun _ => .confirm true)
        (own w.trace ()) [] := by
  have hcomputed : ((system (acceptUpTo 1)).exec (twoPhones.start [] (acceptUpTo 1))
      (.replicate 6 ((), .confirm true))).any (hasAccepted 1 1 []) = true := by decide
  obtain ⟨w, hrun, hp⟩ := Lts.exists_run_of_any hcomputed
  obtain ⟨hdone, hanswers⟩ := of_hasAccepted hp
  refine ⟨w, hrun, hdone, hanswers, fun h => ?_⟩
  -- the other phone would have bonded
  have hbonded : [] = [phone.info.id] := h.1
  cases hbonded

end MockBackend
end Pax
