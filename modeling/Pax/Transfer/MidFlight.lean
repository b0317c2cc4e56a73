import Pax.Transfer.Delivery
import Pax.Transport.Android.FaultyPush

/-!
# Pushes that fail in mid-flight

A push that fails between the answer to CONNECT and the acknowledgement of its last packet is what
`TransferFailed` and the retries are for. `midFlight_iff` says which of these failures get there:
the answers with another code. A link that drops, a packet that cannot be written and a malformed
answer are reported as errors of the backend, and are not retried.

`MidFlight` describes such a failure from the outside: the rounds of packets that were acknowledged,
and how the next one ended. What the push returns is then that of its last round (`lastCount`).
-/

namespace Pax
namespace Android

open ObexOpp (IoError Round Ending)
open Segments (ReadEvent delivered)
open Increases (increases)

/-- A push to this peer, over a socket with these outcomes of the writes, gets past CONNECT and
fails before its last packet is acknowledged: the rounds that are, and how it ends. -/
structure MidFlight (attempt : PushAttempt) (faults : List (Option IoError)) (file : OutboundFile)
    (acked : List Round) (ending : Ending) : Prop where
  opened : attempt.openSocket = .ok ()
  course : ∃ client faults' rest,
    ObexOpp.connected faults (delivered .unexpectedEof attempt.incoming).1
      = some (client, faults', rest) ∧
    ObexOpp.course (client.putRounds file.name file.bytes) faults' rest = (acked, ending)
  failed : ending ≠ .finished

/-- The count of bytes that the last acknowledged round reports, or none before the first. -/
def lastCount (acked : List Round) : ℕ := (acked.map Round.sent).getLastD 0

/-- With a retry to spare, the push is made again: the workflow makes more than one of it. -/
def Retried (env : Environment) (writes : ℕ → List (Option IoError)) (conn : Connection)
    (file : OutboundFile) (s : State) : Prop :=
  ∀ retries : UInt32, 0 < retries → s.pushes.length + 2 ≤ (Outcome.split
    ((pushWithRetries (backendOver env writes) conn file retries).run s)).2.pushes.length

/-- The push is reported as an aborted transfer of all that was acknowledged and reported in
chunks, and it is made again. -/
def Aborted (env : Environment) (writes : ℕ → List (Option IoError)) (conn : Connection)
    (file : OutboundFile) (s : State) (acked : List Round) : Prop :=
  ∃ transferred reason s',
    (pushFileOver env writes conn file).run s = .error (.transferFailed transferred reason) s' ∧
    transferred.toNat = (chunkSizes (s'.events.drop s.events.length)).sum ∧
    transferred.toNat = lastCount acked ∧ Retried env writes conn file s

variable {env : Environment} {writes : ℕ → List (Option IoError)} {conn : Connection}
  {file : OutboundFile} {s : State} {acked : List Round} {ending : Ending}

/-- **A push that fails in mid-flight**: what it reports, and with which error. -/
theorem MidFlight.run
    (h : MidFlight (env.attempt s.pushes.length) (writes s.pushes.length) file acked ending)
    (conn : Connection) (hslice : file.bytes.length < 2 ^ 63) :
    ∃ e s', (pushFileOver env writes conn file).run s = .error e s' ∧
      Carries s.events s'.events (increases 0 (acked.map Round.sent)) [] ∧
      (0 :: acked.map Round.sent).Pairwise (· ≤ ·) ∧ lastCount acked < 2 ^ 64 ∧
      match ending with
      | .finished => False
      | .refused => ∃ reason, e = .transferFailed (.ofNat (lastCount acked)) reason
      | .broken => ∃ detail, e = .backend detail := by
  obtain ⟨hopen, ⟨client, faults, rest, hconnected, hcourse⟩, hfailed⟩ := h
  obtain ⟨result, pipe, hsession, hpipe⟩ := ObexOpp.run_session_course file.name file.bytes
    (env.attempt s.pushes.length).incoming (writes s.pushes.length)
  rw [hconnected] at hpipe
  dsimp only at hpipe
  rw [hcourse] at hpipe
  obtain ⟨hprogress, hcomes⟩ := hpipe
  have hacked : acked <+: client.putRounds file.name file.bytes := by
    have hfirst := ObexOpp.course_fst_isFirst (client.putRounds file.name file.bytes) faults rest
    rwa [hcourse] at hfirst
  -- what is acknowledged are bytes of the file, so 64 bits count them
  have hfits : ∀ n ∈ pipe.progress, n < 2 ^ 64 := by
    intro n hn
    rw [hprogress] at hn
    have hle := (ObexOpp.counts_of_first hacked).2 n hn
    omega
  obtain ⟨s', duration, hrun, hcarries⟩ := run_pushFileOver_session conn hopen hsession hfits
  have hcomes := hcomes hfailed
  rw [hprogress] at hrun hcarries hfits
  have hsorted := (ObexOpp.counts_of_first hacked).1
  have hlast : lastCount acked < 2 ^ 64 := by
    rw [lastCount, List.getLastD_eq_getLast?]
    cases hget : (acked.map Round.sent).getLast? with
    | none => exact Nat.two_pow_pos 64
    | some n => exact hfits n (List.mem_of_getLast? hget)
  cases ending with
  | finished => exact absurd rfl hfailed
  | refused =>
    obtain ⟨stage, code, rfl⟩ := hcomes
    -- only a code that is not expected becomes `TransferFailed`
    exact ⟨_, s', Outcome.eq_error_of_split hrun, hcarries, hsorted, hlast, _, rfl⟩
  | broken =>
    obtain ⟨e, rfl, hcode⟩ := hcomes
    exact ⟨_, s', Outcome.eq_error_of_split hrun, hcarries, hsorted, hlast, _,
      pushError_other _ hcode⟩

/-- **An aborted transfer is retried**: the loop goes on after it. -/
theorem retried_of_transferFailed {transferred : UInt64} {reason : String} {s' : State}
    (h : (pushFileOver env writes conn file).run s
      = .error (.transferFailed transferred reason) s') :
    Retried env writes conn file s := by
  intro retries hretries
  have hlength := length_pushes_pushFileOver env writes conn file
  have hpos := UInt32.lt_iff_toNat_lt.mp hretries
  -- there are at least two attempts: the one that was aborted, and one more
  obtain ⟨left, hleft⟩ : ∃ left, saturatingSucc retries = left + 2 := by
    refine ⟨saturatingSucc retries - 2, ?_⟩
    rw [saturatingSucc]
    change 0 < retries.toNat at hpos
    omega
  rw [run_pushWithRetries]
  dsimp only
  have hfirst : Retry.attemptOnce (pushFileOver env writes conn file) isFinalPush s
      = (.again (.transferFailed transferred reason), s') := by
    rw [Retry.attemptOnce, h]
    rfl
  rw [hleft]
  show s.pushes.length + 2 ≤ (Outcome.split ((Retry.retryFrom (pushFileOver env writes conn file)
    isFinalPush 0 (left + 2) noAttemptsMade).run s)).2.pushes.length
  rw [Retry.run_retryFrom_succ, hfirst]
  -- each attempt is logged, so a second one makes the log longer by two
  have hgrows (s : State) : s.pushes.length
      < (Outcome.split ((pushFileOver env writes conn file).run s)).2.pushes.length := by
    rw [hlength s]
    exact Nat.lt_succ_self _
  have hgrown : _ ≤ (Outcome.split ((Retry.retryFrom (pushFileOver env writes conn file)
      isFinalPush 1 (left + 1) (.transferFailed transferred reason)).run s')).2.pushes.length :=
    Retry.add_min_le_retryFrom hgrows 1 (left + 1) (.transferFailed transferred reason) s'
  have hone := hlength s
  rw [h] at hone
  change s'.pushes.length = s.pushes.length + 1 at hone
  have hleast : min (left + 1) 1 = 1 := by omega
  rw [hleast, hone] at hgrown
  exact hgrown

/-- **Which failures in mid-flight are aborted transfers**: those that are answers with another
code. -/
theorem midFlight_iff (env : Environment) (writes : ℕ → List (Option IoError)) (conn : Connection)
    (file : OutboundFile) (s : State) (acked : List Round) (ending : Ending)
    (hslice : file.bytes.length < 2 ^ 63)
    (h : MidFlight (env.attempt s.pushes.length) (writes s.pushes.length) file acked ending) :
    Aborted env writes conn file s acked ↔ ending = .refused := by
  obtain ⟨e, s', hrun, hcarries, hsorted, hlast, herror⟩ := h.run conn hslice
  constructor
  · rintro ⟨transferred, reason, s'', haborted, -⟩
    -- An abort of the peer is reported as cut off; whatever else ends a push is no abort.
    cases ending with
    | finished => exact herror.elim
    | refused => rfl
    | broken =>
      obtain ⟨detail, rfl⟩ := herror
      rw [hrun] at haborted
      cases haborted
  · rintro rfl
    obtain ⟨reason, rfl⟩ := herror
    have hcount : (UInt64.ofNat (lastCount acked)).toNat = lastCount acked :=
      UInt64.toNat_ofNat_of_lt' hlast
    refine ⟨_, reason, s', hrun, ?_, hcount, retried_of_transferFailed hrun⟩
    rw [hcount, hcarries.since.1, lastCount, ← Increases.add_sum_increases hsorted, Nat.zero_add]

/-! ### A link that drops -/

/-- A peer that accepts CONNECT and answers with these bytes then. -/
def answeringEnv (bytes : List UInt8) : Environment :=
  { busyEnv with
    attempt := fun _ =>
      { openSocket := .ok ()
        incoming := [.bytes ([0xA0, 0x00, 0x07, 0x10, 0x00, 0x04, 0x00] ++ bytes)] } }

/-- One packet is sent, and what comes after it is read from these bytes. -/
theorem midFlight_answering {bytes : List UInt8} {ending : Ending}
    (hconnect : ObexOpp.answerTo ObexOpp.RESP_SUCCESS []
      ([0xA0, 0x00, 0x07, 0x10, 0x00, 0x04, 0x00] ++ bytes)
        = .right ⟨0xA0, [0x10, 0x00, 0x04, 0x00]⟩ bytes)
    (hanswer : ∀ round : Round, round.expected = ObexOpp.RESP_SUCCESS →
      ObexOpp.course [round] [] bytes = ([], ending))
    (hfailed : ending ≠ .finished) :
    MidFlight ((answeringEnv bytes).attempt 0) [] smallFile [] ending where
  opened := rfl
  course := by
    obtain ⟨round, hrounds, hexpected⟩ := (ObexOpp.ObexOppClient.ofConnectBody
      [0x10, 0x00, 0x04, 0x00]).putRounds_of_le_one "a" (le_refl [1].length)
    refine ⟨.ofConnectBody [0x10, 0x00, 0x04, 0x00], [], bytes, ?_, ?_⟩
    · show ObexOpp.connected [] (([0xA0, 0x00, 0x07, 0x10, 0x00, 0x04, 0x00] ++ bytes) ++ []) = _
      rw [List.append_nil, ObexOpp.connected, hconnect]
      rfl
    · have hcourse := hanswer round hexpected
      rw [← hrounds] at hcourse
      exact hcourse
  failed := hfailed

/-- The link drops before the packet is answered: a failure in mid-flight that is not retried. -/
theorem midFlight_dropped : MidFlight ((answeringEnv []).attempt 0) [] smallFile [] .broken := by
  refine midFlight_answering (by decide) (fun round hround => ?_) nofun
  rw [ObexOpp.course, hround]
  rfl

/-- The packet is answered with 0xC0: a failure in mid-flight that is retried. -/
theorem midFlight_refused :
    MidFlight ((answeringEnv [0xC0, 0x00, 0x03]).attempt 0) [] smallFile [] .refused := by
  refine midFlight_answering (by decide) (fun round hround => ?_) nofun
  rw [ObexOpp.course, hround]
  rfl

theorem midFlight_iff_refused : Aborted (answeringEnv [0xC0, 0x00, 0x03]) (fun _ => [])
    (Connection.mk (DeviceId.pub .nil) (.virtualModel "android") ⟨.v5_0, .dual⟩ .bredrDefault 0)
    smallFile ⟨0, 0, [], []⟩ [] :=
  (midFlight_iff _ _ _ _ _ _ _ (by decide) midFlight_refused).mpr rfl

/-- A link that drops after CONNECT is not reported as an aborted transfer. -/
theorem dropped_not_aborted : ¬ ∀ (env : Environment) (writes : ℕ → List (Option IoError))
    (conn : Connection) (file : OutboundFile) (s : State) (acked : List Round) (ending : Ending),
    file.bytes.length < 2 ^ 63 →
    MidFlight (env.attempt s.pushes.length) (writes s.pushes.length) file acked ending →
      Aborted env writes conn file s acked := by
  intro h
  let conn : Connection :=
    ⟨DeviceId.pub .nil, .virtualModel "android", ⟨.v5_0, .dual⟩, .bredrDefault, 0⟩
  obtain ⟨transferred, reason, s', haborted, -⟩ := h (answeringEnv []) (fun _ => []) conn smallFile
    ⟨0, 0, [], []⟩ [] .broken (by decide) midFlight_dropped
  obtain ⟨e, s'', hrun, -, -, -, detail, rfl⟩ := @MidFlight.run (answeringEnv []) (fun _ => [])
    smallFile ⟨0, 0, [], []⟩ [] .broken midFlight_dropped conn (by decide)
  rw [hrun] at haborted
  cases haborted

end Android
end Pax
