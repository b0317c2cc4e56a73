import Pax.Transfer.Upload
import Pax.Transport.Android.Push

/-!
# Delivery across retries on Android

Whether one upload delivers its object at most once, and says so. The peer accepts the object when
it answers the final PUT with SUCCESS. DISCONNECT comes after that, and if it fails, the push fails:
an answer with another code is even reported as an aborted transfer, which is retried.

`uploadFile_atMostOnce_iff` settles it from the peer's bytes. Attempts that are refused with a
response code do no harm. In the first attempt that is not, an accepted object has to be followed by
a SUCCESS for DISCONNECT.

The bytes of an attempt are judged by themselves (`judge`): they refuse the object, accept it, or do
neither. The retry loop is then gone through once (`run_retries`), with what it has sent and what it
returns given in terms of the verdicts (`Settles`).
-/

namespace Pax
namespace Android

open ObexOpp (WireStep Judgement acceptances Acknowledged)

/-- The wires of the pushes that were made between two states, in order. -/
def wiresSince (s s' : State) : List (List WireStep) := s'.pushes.drop s.pushes.length

/-- How often a final PUT was answered with SUCCESS, over several pushes. -/
def accepted (wires : List (List WireStep)) : ℕ := (wires.map acceptances).sum

/-- The object was accepted at most once, and if it was, the result says so. -/
def AtMostOnce (wires : List (List WireStep)) (r : Except TransportError TransferReceipt) : Prop :=
  accepted wires ≤ 1 ∧ (1 ≤ accepted wires → ∃ receipt, r = .ok receipt)

/-- In the first of `left` attempts from the `n`-th on that is not refused with a code, an accepted
object is followed by a SUCCESS for DISCONNECT. -/
def Released (env : Environment) (file : OutboundFile) (n left : ℕ) : Prop :=
  ∀ k < left, (∀ j < k, (env.attempt (n + j)).judge file = .refused) →
    ∀ tail, (env.attempt (n + k)).judge file = .accepted tail → Acknowledged tail

variable {env : Environment} {file : OutboundFile}

/-- A first attempt that is refused with a code can be left out. -/
theorem released_succ_of_refused {n left : ℕ} (h : (env.attempt n).judge file = .refused) :
    Released env file n (left + 1) ↔ Released env file (n + 1) left := by
  have hshift (j : ℕ) : n + (j + 1) = n + 1 + j := by omega
  constructor
  · intro hreleased k hk hrefused tail haccepted
    refine hreleased (k + 1) (by omega) ?_ tail ?_
    · intro j hj
      cases j with
      | zero => exact h
      | succ j =>
        rw [hshift]
        exact hrefused j (by omega)
    · rw [hshift]
      exact haccepted
  · intro hreleased k hk hrefused tail haccepted
    cases k with
    | zero =>
      rw [Nat.add_zero, h] at haccepted
      cases haccepted
    | succ k =>
      refine hreleased k (by omega) ?_ tail ?_
      · intro j hj
        rw [← hshift]
        exact hrefused (j + 1) (by omega)
      · rw [← hshift]
        exact haccepted

/-- The first attempt that is not refused with a code decides: what it accepts has to be
acknowledged. -/
theorem released_succ_of_ne {n left : ℕ} (h : (env.attempt n).judge file ≠ .refused) :
    Released env file n (left + 1) ↔
      ∀ tail, (env.attempt n).judge file = .accepted tail → Acknowledged tail := by
  constructor
  · exact fun hreleased => hreleased 0 (by omega) (fun j hj => absurd hj (Nat.not_lt_zero j))
  · intro hfirst k hk hrefused tail haccepted
    cases k with
    | zero => exact hfirst tail haccepted
    -- a later attempt counts only if this one was refused
    | succ k => exact absurd (hrefused 0 (by omega)) h

theorem accepted_cons (wire : List WireStep) (wires : List (List WireStep)) :
    accepted (wire :: wires) = acceptances wire + accepted wires := by
  rw [accepted, List.map_cons, List.sum_cons, accepted]

theorem accepted_singleton (wire : List WireStep) : accepted [wire] = acceptances wire := by
  rw [accepted_cons, accepted, List.map_nil, List.sum_nil, Nat.add_zero]

/-- A push that succeeded was accepted, and the acceptance released. -/
theorem Pushed.of_ok {α : Type} {judgement : Judgement} {wire : List WireStep} {a : α}
    (h : Pushed judgement wire (.ok a)) :
    ∃ tail, judgement = .accepted tail ∧ Acknowledged tail ∧ acceptances wire = 1 := by
  cases judgement with
  | refused =>
    obtain ⟨-, transferred, reason, hr⟩ := h
    cases hr
  | broken =>
    obtain ⟨-, detail, hr⟩ := h
    cases hr
  | accepted tail =>
    obtain ⟨hone, ⟨hack, -⟩ | ⟨-, e, hr⟩⟩ := h
    · exact ⟨tail, rfl, hack, hone⟩
    · cases hr

/-- A push that failed was refused, and is retried; or it broke off, and is not; or the object was
accepted all the same. -/
theorem Pushed.of_error {α : Type} {judgement : Judgement} {wire : List WireStep}
    {e : TransportError} (h : Pushed judgement wire (.error e : Except TransportError α)) :
    (judgement = .refused ∧ acceptances wire = 0 ∧ isFinalPush e = false) ∨
      (judgement = .broken ∧ acceptances wire = 0 ∧ isFinalPush e = true) ∨
      ∃ tail, judgement = .accepted tail ∧ ¬ Acknowledged tail ∧ acceptances wire = 1 := by
  cases judgement with
  | refused =>
    obtain ⟨hzero, transferred, reason, hr⟩ := h
    cases hr
    exact .inl ⟨rfl, hzero, rfl⟩
  | broken =>
    obtain ⟨hzero, detail, hr⟩ := h
    cases hr
    exact .inr (.inl ⟨rfl, hzero, rfl⟩)
  | accepted tail =>
    obtain ⟨hone, ⟨-, a, hr⟩ | ⟨hack, -⟩⟩ := h
    · cases hr
    · exact .inr (.inr ⟨tail, rfl, hack, hone⟩)

/-- What the loop makes of `left` attempts from the `n`-th on: a success means an acceptance, and
the object is delivered at most once and reported exactly if it is released. -/
def Settles {α : Type} (env : Environment) (file : OutboundFile) (n left : ℕ)
    (wires : List (List WireStep)) (r : Except TransportError α) : Prop :=
  ((∃ a, r = .ok a) → 1 ≤ accepted wires) ∧
    ((accepted wires ≤ 1 ∧ (1 ≤ accepted wires → ∃ a, r = .ok a)) ↔ Released env file n left)

section Settles

variable {α : Type} {n left : ℕ} {wire : List WireStep} {wires : List (List WireStep)}
  {r : Except TransportError α} {tail : List UInt8}

/-- Without attempts nothing is sent, and there is nothing to release. -/
theorem settles_zero (e : TransportError) :
    Settles env file n 0 [] (.error e : Except TransportError α) := by
  refine ⟨by simp, iff_of_true ⟨Nat.zero_le 1, fun h => absurd h (by decide)⟩ ?_⟩
  exact fun k hk => absurd hk (Nat.not_lt_zero k)

theorem settles_ok (hjudge : (env.attempt n).judge file = .accepted tail)
    (hack : Acknowledged tail) (hone : acceptances wire = 1) (a : α) :
    Settles env file n (left + 1) [wire] (.ok a) := by
  rw [Settles, accepted_singleton, hone, released_succ_of_ne (by simp [hjudge])]
  refine ⟨fun _ => le_rfl, iff_of_true ⟨le_rfl, fun _ => ⟨_, rfl⟩⟩ ?_⟩
  intro tail' htail'
  cases hjudge.symm.trans htail'
  exact hack

/-- A refused attempt delivers nothing, and those after it decide. -/
theorem settles_refused (hjudge : (env.attempt n).judge file = .refused)
    (hzero : acceptances wire = 0) (h : Settles env file (n + 1) left wires r) :
    Settles env file n (left + 1) (wire :: wires) r := by
  rw [Settles, accepted_cons, hzero, Nat.zero_add, released_succ_of_refused hjudge]
  exact h

/-- An attempt that breaks off delivers nothing, and its error is final. -/
theorem settles_broken (hjudge : (env.attempt n).judge file = .broken)
    (hzero : acceptances wire = 0) (e : TransportError) :
    Settles env file n (left + 1) [wire] (.error e : Except TransportError α) := by
  rw [Settles, accepted_singleton, hzero, released_succ_of_ne (by simp [hjudge])]
  refine ⟨by simp, iff_of_true ⟨Nat.zero_le 1, fun h => absurd h (by decide)⟩ ?_⟩
  intro tail htail
  cases hjudge.symm.trans htail

/-- If the object was delivered and the attempt failed, it is wrong whatever follows: a later
success would mean a second acceptance. -/
theorem settles_unreleased (hjudge : (env.attempt n).judge file = .accepted tail)
    (hack : ¬ Acknowledged tail) (hone : acceptances wire = 1)
    (hok : (∃ a, r = .ok a) → 1 ≤ accepted wires) :
    Settles env file n (left + 1) (wire :: wires) r := by
  rw [Settles, accepted_cons, hone, released_succ_of_ne (by simp [hjudge])]
  refine ⟨fun _ => Nat.le_add_right 1 _, iff_of_false ?_ fun h => hack (h tail hjudge)⟩
  rintro ⟨hle, hreported⟩
  have hmore := hok (hreported (Nat.le_add_right 1 _))
  omega

end Settles

/-- **The retry loop settles the object**: what was sent, and what is returned, is as the
verdicts on its attempts say. -/
theorem run_retries (env : Environment) (conn : Connection) (file : OutboundFile) (made left : ℕ)
    (last : TransportError) (s : State) :
    ∃ r s' wires, Outcome.split ((Retry.retryFrom (pushFile env conn file) isFinalPush made left
        last).run s) = (r, s') ∧ s'.pushes = s.pushes ++ wires ∧
      Settles env file s.pushes.length left wires r := by
  -- On the pushes that are left; the wire gets one more push each time.
  induction left generalizing made last s with
  | zero => exact ⟨.error last, s, [], rfl, by simp, settles_zero last⟩
  | succ left ih =>
    obtain ⟨r, s₁, wire, hrun, hpushes, hpushed⟩ := pushFile_spec env conn file s
    rw [Retry.run_retryFrom_succ, Retry.attemptOnce]
    cases h : (pushFile env conn file).run s with
    | ok receipt s₂ =>
      rw [h] at hrun
      obtain ⟨rfl, rfl⟩ := Prod.ext_iff.mp hrun
      obtain ⟨tail, hjudge, hack, hone⟩ := hpushed.of_ok
      exact ⟨.ok (receipt, made + 1), _, [wire], rfl, hpushes, settles_ok hjudge hack hone _⟩
    | error e s₂ =>
      rw [h] at hrun
      obtain ⟨rfl, rfl⟩ := Prod.ext_iff.mp hrun
      change s₂.pushes = s.pushes ++ [wire] at hpushes
      -- what follows where the error is worth another attempt
      obtain ⟨r, s', wires, hloop, hpushes', hsettles⟩ := ih (made + 1) e s₂
      rw [hpushes, List.length_append, List.length_singleton] at hsettles
      have hall : s'.pushes = s.pushes ++ (wire :: wires) := by
        rw [hpushes', hpushes, List.append_assoc]
        rfl
      obtain ⟨hjudge, hzero, hfinal⟩ | ⟨hjudge, hzero, hfinal⟩ | ⟨tail, hjudge, hack, hone⟩ :=
        hpushed.of_error
      · refine ⟨r, s', wire :: wires, ?_, hall, settles_refused hjudge hzero hsettles⟩
        simp only [hfinal, Bool.false_eq_true, if_false]
        exact hloop
      · exact ⟨.error e, s₂, [wire], by simp [hfinal, Outcome.split], hpushes,
          settles_broken hjudge hzero e⟩
      · cases hfinal : isFinalPush e with
        | true =>
          refine ⟨.error e, s₂, [wire], by simp [hfinal, Outcome.split], hpushes, ?_⟩
          refine settles_unreleased hjudge hack hone ?_
          rintro ⟨a, ha⟩
          cases ha
        | false =>
          refine ⟨r, s', wire :: wires, ?_, hall, settles_unreleased hjudge hack hone hsettles.1⟩
          simp only [hfinal, Bool.false_eq_true, if_false]
          exact hloop

/-- An upload to a device that can be looked up is its retry loop. -/
theorem run_uploadFile {target : DeviceId} {u : Unit} (hdevice : env.remoteDevice target = .ok u)
    (file : OutboundFile) (options : UploadOptions) (s : State) :
    ∃ r s' wires, Outcome.split ((uploadFile (backend env) target file options).run s) = (r, s') ∧
      s'.pushes = s.pushes ++ wires ∧
      (AtMostOnce wires r ↔
        Released env file s.pushes.length (saturatingSucc options.retries)) := by
  obtain ⟨conn, hconnect⟩ := run_connect_ok hdevice s
  obtain ⟨r, s₂, wires, hloop, hpushes, -, hiff⟩ := run_retries env conn file 0
    (saturatingSucc options.retries) noAttemptsMade (s.emit env target .connected)
  -- disconnecting adds an event, but no push
  set s' := if options.disconnectAfter then s₂.emit env conn.peer (.disconnected none) else s₂
    with hs'
  have hpushes' : s'.pushes = s.pushes ++ wires := by
    rw [hs']
    split_ifs
    · exact hpushes
    · exact hpushes
  -- the receipt is the result without the number of attempts
  have hok : (∃ receipt, r.map Prod.fst = .ok receipt) ↔ ∃ a, r = .ok a := by
    cases r with
    | ok a => simp [Except.map]
    | error e => simp [Except.map]
  refine ⟨r.map Prod.fst, s', wires, ?_, hpushes', by rw [AtMostOnce, hok]; exact hiff⟩
  have hconnect' : ((backend env).connect target).run s = _ := hconnect
  have hloop' : Outcome.split ((Retry.retryFrom ((backend env).pushFile conn file) isFinalPush 0
    (saturatingSucc options.retries) noAttemptsMade).run (s.emit env target .connected))
      = (r, s₂) := hloop
  rw [uploadFile, Outcome.run_bind_ok hconnect', run_thenDisconnect, run_pushWithRetries, hloop']
  rfl

/-- **Delivery on Android.** For every object, every number of retries and every peer, over any
number of attempts: an upload obtains at most one SUCCESS for a final PUT, and succeeds if it
obtains one, if and only if the device cannot be looked up or, in the first attempt that is not
refused with a response code, an accepted object is followed by a SUCCESS for DISCONNECT. -/
theorem uploadFile_atMostOnce_iff (env : Environment) (target : DeviceId) (file : OutboundFile)
    (options : UploadOptions) (s : State) :
    ∃ r s', Outcome.split ((uploadFile (backend env) target file options).run s) = (r, s') ∧
      s.pushes <+: s'.pushes ∧
      (AtMostOnce (wiresSince s s') r ↔
        (env.remoteDevice target = .ok () →
          Released env file s.pushes.length (saturatingSucc options.retries))) := by
  cases hdevice : env.remoteDevice target with
  | error e =>
    -- No push is made.
    refine ⟨.error (jerr e), s, ?_, List.prefix_rfl, iff_of_true ?_ ?_⟩
    · exact congrArg Outcome.split (Outcome.run_bind_error (run_connect_error hdevice s))
    · rw [wiresSince, List.drop_length]
      exact ⟨Nat.zero_le 1, fun h => absurd h (by decide)⟩
    · rintro ⟨⟩
  | ok u =>
    obtain ⟨r, s', wires, hrun, hpushes, hiff⟩ := run_uploadFile hdevice file options s
    refine ⟨r, s', hrun, ⟨wires, hpushes.symm⟩, ?_⟩
    rw [wiresSince, hpushes, List.drop_left, hiff]
    exact ⟨fun h _ => h, fun h => h rfl⟩

/-! ### An object that is delivered twice -/

/-- A peer that accepts the object in every attempt, but answers the first DISCONNECT with 0xC0. -/
def busyEnv : Environment where
  controller := .virtualModel "android"
  spec := ⟨.v5_0, .dual⟩
  resolve _ := .bredrDefault
  clock n := ⟨n⟩
  remoteDevice _ := .ok ()
  createBond _ := .ok true
  attempt n :=
    { openSocket := .ok ()
      incoming := [.bytes ([0xA0, 0x00, 0x07, 0x10, 0x00, 0x04, 0x00] ++ [0xA0, 0x00, 0x03]
        ++ [if n = 0 then 0xC0 else 0xA0, 0x00, 0x03])] }

def smallFile : OutboundFile := { name := "a", mimeType := none, bytes := [1] }

theorem judge_busyEnv : (busyEnv.attempt 0).judge smallFile = .accepted [0xC0, 0x00, 0x03] := by
  have hconnect : ObexOpp.answer ObexOpp.RESP_SUCCESS
      [0xA0, 0x00, 0x07, 0x10, 0x00, 0x04, 0x00, 0xA0, 0x00, 0x03, 0xC0, 0x00, 0x03]
      = .right ⟨0xA0, [0x10, 0x00, 0x04, 0x00]⟩ [0xA0, 0x00, 0x03, 0xC0, 0x00, 0x03] := by decide
  have hput : ObexOpp.answer ObexOpp.RESP_SUCCESS [0xA0, 0x00, 0x03, 0xC0, 0x00, 0x03]
      = .right ⟨0xA0, []⟩ [0xC0, 0x00, 0x03] := by decide
  -- one byte fits one packet, so the whole object is one round
  obtain ⟨round, hrounds, hexpected⟩ := (ObexOpp.ObexOppClient.ofConnectBody
    [0x10, 0x00, 0x04, 0x00]).putRounds_of_le_one "a" (le_refl [1].length)
  show ObexOpp.judge "a" [1]
    [0xA0, 0x00, 0x07, 0x10, 0x00, 0x04, 0x00, 0xA0, 0x00, 0x03, 0xC0, 0x00, 0x03] = _
  rw [ObexOpp.judge, hconnect]
  dsimp only
  rw [hrounds, ObexOpp.judgeRounds, hexpected, hput]
  rfl

theorem not_acknowledged_busyEnv : ¬ Acknowledged [0xC0, 0x00, 0x03] := by
  have hwrong : ObexOpp.answer ObexOpp.RESP_SUCCESS [0xC0, 0x00, 0x03] = .wrong := by decide
  rintro ⟨r, rest, h⟩
  rw [hwrong] at h
  cases h

/-- The peer has accepted the object, and the upload either sends it again or reports a failure. -/
theorem disconnect_failure_resends : ∃ r s', Outcome.split ((uploadFile (backend busyEnv)
    (DeviceId.pub .nil) smallFile ⟨1, true⟩).run ⟨0, 0, [], []⟩) = (r, s') ∧
    ¬ AtMostOnce (wiresSince ⟨0, 0, [], []⟩ s') r := by
  have hdevice : busyEnv.remoteDevice (DeviceId.pub .nil) = .ok () := rfl
  obtain ⟨r, s', wires, hrun, hpushes, hiff⟩ :=
    run_uploadFile hdevice smallFile ⟨1, true⟩ ⟨0, 0, [], []⟩
  refine ⟨r, s', hrun, ?_⟩
  rw [wiresSince, hpushes, List.drop_left, hiff]
  intro hreleased
  exact not_acknowledged_busyEnv
    (hreleased 0 (by decide) (fun j hj => absurd hj (Nat.not_lt_zero j)) _ judge_busyEnv)

end Android
end Pax
