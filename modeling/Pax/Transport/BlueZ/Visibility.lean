import Pax.Framework.Program
import Pax.Transport.BlueZ.Inbound

/-!
# How long the adapter is visible

`set_discoverable`, `set_pairable` and `accept_pairings` of `pax-transport/src/bluez.rs` hand a
duration on to BlueZ as a number of seconds, for which 0 means no timeout. Each of them cuts it off
to whole seconds and then to 32 bits, and only `accept_pairings` sees to it that the number is not
0.

`Sent` says which number a call sends in some run of it, `sent_iff` that there is just one, and
`bounded_iff` for which durations this number is what the caller can have meant (`Bounded`): it is
not 0, it is less than a second away, and a longer duration does not get a smaller number.
-/

namespace Pax
namespace BlueZ

open Program (Path)

/-- The calls to the adapter, with what is replied. -/
abbrev adapterCalls : Interface := { Call := AdapterCall, Reply := fun _ => Except String Unit }

/-- `(t.as_millis() / 1000) as u32`: what is more than 32 bits of seconds is cut off. -/
def wholeSecs (t : Duration) : UInt32 := UInt32.ofNat (t.asMillis / 1000)

/-- Switch the adapter, after its timeout is set if one is given. -/
def setVisible (setTimeout : UInt32 → AdapterCall) (switch : Bool → AdapterCall) (on : Bool)
    (timeout : Option Duration) : Program adapterCalls (Except TransportError Unit) := do
  let timed ← match timeout with
    | some t => Program.call (I := adapterCalls) (setTimeout (wholeSecs t))
    | none => return .ok ()
  match timed with
  | .error e => return .error (.backend e)
  | .ok () =>
    match ← Program.call (I := adapterCalls) (switch on) with
    | .error e => return .error (.backend e)
    | .ok () => return .ok ()

/-- `set_discoverable`: first the timeout, if there is one, and then the switch. -/
def setDiscoverable (on : Bool) (timeout : Option Duration) :
    Program adapterCalls (Except TransportError Unit) :=
  setVisible .setDiscoverableTimeout .setDiscoverable on timeout

/-- `set_pairable`: first the timeout, if there is one, and then the switch. -/
def setPairable (on : Bool) (timeout : Option Duration) :
    Program adapterCalls (Except TransportError Unit) :=
  setVisible .setPairableTimeout .setPairable on timeout

/-- The number of seconds in a call that sets a timeout. -/
def AdapterCall.secs? : AdapterCall → Option UInt32
  | .setPairableTimeout secs => some secs
  | .setDiscoverableTimeout secs => some secs
  | _ => none

/-- The number in the call that `accept_pairings` is waiting for, if it is one of these. -/
def Stage.secs? : Stage → Option UInt32
  | .calling call => call.secs?
  | _ => none

/-- The calls that are given a duration. -/
inductive Place where
  | setDiscoverable
  | setPairable
  | acceptPairings
  deriving DecidableEq

/-- Given the duration `t`, the call sends BlueZ this number of seconds, in some run of it. -/
def Sent (env : Environment) (backend : State) (t : Duration) (secs : UInt32) : Place → Prop
  | .setDiscoverable => ∃ on es rest, Path (setDiscoverable on (some t)) es rest ∧
    ∃ e ∈ es, e.call.secs? = some secs
  | .setPairable => ∃ on es rest, Path (setPairable on (some t)) es rest ∧
    ∃ e ∈ es, e.call.secs? = some secs
  | .acceptPairings => ∃ opts steps s, opts.window = t ∧
    (acceptPairings env opts).Run (.init backend) steps s ∧ s.stage.secs? = some secs

/-! ### What is sent -/

/-- The number of seconds that the call sends. -/
def Place.secs (t : Duration) : Place → UInt32
  | .acceptPairings => max (wholeSecs t) 1
  | _ => wholeSecs t

section Sent

variable {env : Environment} {backend : State} {t : Duration} {secs : UInt32}

/-- Whatever the adapter replies, no other number is sent. -/
theorem uses_setVisible {setTimeout : UInt32 → AdapterCall} {switch : Bool → AdapterCall}
    (htimeout : ∀ secs, (setTimeout secs).secs? = some secs)
    (hswitch : ∀ on, (switch on).secs? = none) (on : Bool) :
    (setVisible setTimeout switch on (some t)).Uses fun c : AdapterCall =>
      ∀ secs, c.secs? = some secs → secs = wholeSecs t := by
  refine ⟨fun secs hsecs => Option.some.inj (hsecs.symm.trans (htimeout _)), fun timed => ?_⟩
  cases timed with
  | error e => trivial
  | ok u =>
    refine ⟨fun secs hsecs => ?_, fun switched => ?_⟩
    · rw [hswitch] at hsecs
      cases hsecs
    · cases switched <;> trivial

theorem sent_setVisible {setTimeout : UInt32 → AdapterCall} {switch : Bool → AdapterCall}
    (htimeout : ∀ secs, (setTimeout secs).secs? = some secs)
    (hswitch : ∀ on, (switch on).secs? = none) :
    (∃ on es rest, Path (setVisible setTimeout switch on (some t)) es rest ∧
      ∃ e ∈ es, e.call.secs? = some secs) ↔ secs = wholeSecs t := by
  constructor
  · rintro ⟨on, es, rest, hpath, e, he, hsecs⟩
    exact (uses_setVisible htimeout hswitch on).path hpath e he secs hsecs
  · rintro rfl
    exact ⟨true, [⟨setTimeout (wholeSecs t), .ok ()⟩], _, .cons _ (.nil _), _,
      List.mem_singleton_self _, htimeout _⟩

/-- The call of `accept_pairings` sets no other timeout than that of its window. -/
def Timed (opts : InboundPairing) (stage : Stage) : Prop :=
  ∀ secs, stage.secs? = some secs → secs = opts.timeoutSecs

theorem timed_afterReply (opts : InboundPairing) (result : Except String Unit) (now : ℕ)
    (call : AdapterCall) : Timed opts (.afterReply opts result now call) := by
  intro secs hsecs
  rcases call with _ | _ | on | on
  · exact (Option.some.inj hsecs).symm
  · cases hsecs
  · cases on
    · cases hsecs
    · cases result <;> cases hsecs
  · cases on
    · cases hsecs
    · cases result <;> cases hsecs

theorem timed_afterLook (opts : InboundPairing) (size deadline now : ℕ) :
    Timed opts (.afterLook opts size deadline now) := by
  intro secs hsecs
  unfold Stage.afterLook at hsecs
  split at hsecs
  · cases hsecs
  · split at hsecs <;> cases hsecs

theorem Timed.step {opts : InboundPairing} {s s' : Window} {step : InboundStep}
    (h : Timed opts s.stage) (hnext : (acceptPairings env opts).next s step = some s') :
    Timed opts s'.stage := by
  -- By the step: registering and the replies lead to the calls that set a timeout, and it is that
  -- of the window.
  cases step with
  | registered result =>
    simp only [acceptPairings] at hnext
    split at hnext
    · cases result with
      | error e =>
        cases hnext
        intro secs hsecs
        cases hsecs
      | ok u =>
        cases hnext
        intro secs hsecs
        exact (Option.some.inj hsecs).symm
    · cases hnext
  | replied result now =>
    simp only [acceptPairings] at hnext
    split at hnext
    · cases hnext
      exact timed_afterReply opts result now _
    · cases hnext
  | look now =>
    simp only [acceptPairings] at hnext
    split at hnext
    · split at hnext
      · cases hnext
        exact timed_afterLook opts _ _ now
      · cases hnext
    · cases hnext
  | collect ids =>
    simp only [acceptPairings] at hnext
    split at hnext
    · cases hnext
      intro secs hsecs
      cases hsecs
    · cases hnext
  | answered device prompt response =>
    simp only [acceptPairings] at hnext
    split at hnext
    · split at hnext <;> (cases hnext; exact h)
    · cases hnext
  | settled device bond =>
    simp only [acceptPairings] at hnext
    split at hnext
    · cases hnext
      exact h
    · cases hnext

theorem sent_acceptPairings :
    Sent env backend t secs .acceptPairings ↔ secs = max (wholeSecs t) 1 := by
  constructor
  · rintro ⟨opts, steps, s, rfl, hrun, hsecs⟩
    have htimed : Timed opts s.stage :=
      hrun.invariant (I := fun s => Timed opts s.stage) (fun _ _ _ h hnext => h.step hnext)
        fun secs hsecs => by cases hsecs
    exact htimed secs hsecs
  · rintro rfl
    exact ⟨⟨t, none⟩, [.registered (.ok ())], _, rfl, rfl, rfl⟩

/-- **There is one number that is sent** from each place, and it is `Place.secs` of the duration. -/
theorem sent_iff {place : Place} : Sent env backend t secs place ↔ secs = place.secs t := by
  cases place with
  | setDiscoverable => exact sent_setVisible (fun _ => rfl) fun _ => rfl
  | setPairable => exact sent_setVisible (fun _ => rfl) fun _ => rfl
  | acceptPairings => exact sent_acceptPairings

end Sent

/-! ### When it is right -/

/-- What a number of seconds for `t` shall be: not 0, less than a second away, and not less than
that for a shorter duration. -/
structure Bounded (env : Environment) (backend : State) (t : Duration) (place : Place) : Prop where
  positive : ∀ secs, Sent env backend t secs place → 1 ≤ secs.toNat
  close : (Duration.fromSecs 1).nanos ≤ t.nanos → t.nanos < (Duration.fromSecs (2 ^ 32)).nanos →
    ∀ secs, Sent env backend t secs place →
      (Duration.fromSecs secs.toNat).nanos < t.nanos + (Duration.fromSecs 1).nanos ∧
        t.nanos < (Duration.fromSecs secs.toNat).nanos + (Duration.fromSecs 1).nanos
  monotone : ∀ t' secs' secs, 0 < t'.nanos → t'.nanos ≤ t.nanos → Sent env backend t' secs' place →
    Sent env backend t secs place → secs'.toNat ≤ secs.toNat

theorem toNat_wholeSecs (t : Duration) : (wholeSecs t).toNat = t.nanos / 1000000000 % 2 ^ 32 := by
  rw [wholeSecs, UInt32.toNat_ofNat', Duration.asMillis, Nat.div_div_eq_div_mul]

theorem toNat_secs_acceptPairings (t : Duration) :
    (Place.secs t .acceptPairings).toNat = max (t.nanos / 1000000000 % 2 ^ 32) 1 := by
  rw [← toNat_wholeSecs]
  show (if wholeSecs t ≤ 1 then 1 else wholeSecs t).toNat = max (wholeSecs t).toNat 1
  by_cases hle : wholeSecs t ≤ 1
  · rw [if_pos hle]
    exact (max_eq_right (UInt32.le_iff_toNat_le.mp hle)).symm
  · rw [if_neg hle]
    rw [UInt32.le_iff_toNat_le, not_le] at hle
    exact (max_eq_left hle.le).symm

theorem toNat_secs (t : Duration) (place : Place) : (place.secs t).toNat
    = if place = .acceptPairings then max (t.nanos / 1000000000 % 2 ^ 32) 1
      else t.nanos / 1000000000 % 2 ^ 32 := by
  cases place with
  | acceptPairings => exact toNat_secs_acceptPairings t
  | _ => exact toNat_wholeSecs t

/-- **For which durations the timeout is bounded**: those of at least a second, and for
`accept_pairings` all, if they are below `2 ^ 32` seconds. Beyond that there are only those whose
seconds are cut off to the largest number. -/
theorem bounded_iff (env : Environment) (backend : State) (place : Place) (t : Duration)
    (hpos : 0 < t.nanos) :
    Bounded env backend t place ↔
      (place = .acceptPairings ∨ (Duration.fromSecs 1).nanos ≤ t.nanos) ∧
        (t.nanos < (Duration.fromSecs (2 ^ 32)).nanos ∨
          t.nanos / (Duration.fromSecs 1).nanos % 2 ^ 32 = 2 ^ 32 - 1) := by
  have hsent : Sent env backend t (place.secs t) place := sent_iff.mpr rfl
  have hsecs := toNat_secs t place
  constructor
  · intro h
    have hpositive := h.positive _ hsent
    constructor
    · by_contra hnot
      obtain ⟨hplace, hshort⟩ := not_or.mp hnot
      rw [hsecs, if_neg hplace] at hpositive
      dsimp only [Duration.fromSecs] at hshort
      omega
    · by_contra hnot
      obtain ⟨hlong, hcut⟩ := not_or.mp hnot
      dsimp only [Duration.fromSecs] at hlong hcut
      -- the longest duration that fits is shorter
      have hle := h.monotone (.fromSecs (2 ^ 32 - 1)) _ _ (by decide)
        (by dsimp only [Duration.fromSecs]; omega) (sent_iff.mpr rfl) hsent
      rw [hsecs, toNat_secs] at hle
      dsimp only [Duration.fromSecs] at hle
      split at hle <;> omega
  -- The number of seconds is the whole part, which fits, or the cut of it is the greatest number.
  · rintro ⟨hlong, hfits⟩
    dsimp only [Duration.fromSecs] at hlong hfits
    constructor
    · intro secs hsecs'
      rw [sent_iff.mp hsecs', hsecs]
      split
      · exact le_max_right _ _
      · next hplace =>
        have hsecond := hlong.resolve_left hplace
        omega
    · intro hmin hmax secs hsecs'
      rw [sent_iff.mp hsecs', hsecs]
      dsimp only [Duration.fromSecs] at hmin hmax ⊢
      split <;> omega
    · intro t' secs' secs hpos' hle hsecs' hsecs''
      rw [sent_iff.mp hsecs', sent_iff.mp hsecs'', hsecs, toNat_secs]
      split
      · omega
      · omega

/-- Ten minutes are bounded: BlueZ is sent 600 seconds. -/
theorem bounded_minutes :
    Bounded inboundEnv inboundState (.fromSecs 600) .setDiscoverable :=
  (bounded_iff _ _ .setDiscoverable (.fromSecs 600) (by decide)).mpr
    ⟨.inr (by decide), .inl (by decide)⟩

/-- Half a second is no timeout, and in `accept_pairings` `2 ^ 32` seconds are cut off to one. -/
theorem not_bounded : ¬ Bounded inboundEnv inboundState (.fromMillis 500) .setDiscoverable ∧
    ¬ Bounded inboundEnv inboundState (.fromMillis 500) .setPairable ∧
    ¬ Bounded inboundEnv inboundState (.fromSecs (2 ^ 32)) .acceptPairings := by
  refine ⟨fun h => ?_, fun h => ?_, fun h => ?_⟩
  · exact absurd (h.positive 0 (sent_iff.mpr (by decide))) (by decide)
  · exact absurd (h.positive 0 (sent_iff.mpr (by decide))) (by decide)
  · exact absurd (h.monotone (.fromSecs 2) 2 1 (by decide) (by decide) (sent_iff.mpr (by decide))
      (sent_iff.mpr (by decide))) (by decide)

end BlueZ
end Pax
