import Pax.Transport.Android.ObexLockStep
import Pax.Transport.Android.ObexSession

/-!
# A session over a pipe that may fail

How an exchange goes is decided by the peer's bytes and by the outcomes of the writes (`course`):
the rounds that are acknowledged, and how it ends. Either all rounds are acknowledged, or the next
answer is a response with another code, or there is no answer at all: the packet could not be
written, the bytes break off, or they are malformed.

`run_session_course` says that a session whose CONNECT is accepted goes so, and that `put_file` has
reported exactly what was acknowledged. It is the analogue of `run_session` where writes may fail.
Each request is dealt with by `run_ask_answer`, and the rounds by induction.
-/

namespace Pax
namespace ObexOpp

open Segments (ReadEvent delivered)

/-- The next packet can be written and flushed. -/
def Writable (faults : List (Option IoError)) : Prop := ∀ fault ∈ faults.take 2, fault = none

instance (faults : List (Option IoError)) : Decidable (Writable faults) :=
  inferInstanceAs (Decidable (∀ fault ∈ faults.take 2, fault = none))

/-- The answer to a packet; there is none to one that is not written. -/
def answerTo (expected : UInt8) (faults : List (Option IoError)) (bytes : List UInt8) : Answer :=
  if Writable faults then answer expected bytes else .none

/-- How an exchange ends. What comes after the PUT does not change that. -/
inductive Ending where
  /-- All rounds are acknowledged. -/
  | finished
  /-- An answer has another code than the one that is waited for. -/
  | refused
  /-- A packet is not written, or an answer is missing or malformed. -/
  | broken
  deriving DecidableEq, Repr

/-- The rounds that are acknowledged, and how the exchange ends. Each packet takes two of the
outcomes, those of writing and of flushing it. -/
def course : List Round → List (Option IoError) → List UInt8 → List Round × Ending
  | [], _, _ => ([], .finished)
  | round :: rounds, faults, bytes =>
    match answerTo round.expected faults bytes with
    | .right _ rest =>
      (round :: (course rounds (faults.drop 2) rest).1, (course rounds (faults.drop 2) rest).2)
    | .wrong => ([], .refused)
    | .none => ([], .broken)

/-- The peer accepts CONNECT: the client, and what is left of the outcomes and of the bytes. -/
def connected (faults : List (Option IoError)) (bytes : List UInt8) :
    Option (ObexOppClient × List (Option IoError) × List UInt8) :=
  match answerTo RESP_SUCCESS faults bytes with
  | .right r rest => some (.ofConnectBody r.body, faults.drop 2, rest)
  | .wrong => none
  | .none => none

/-! ### One request -/

theorem run_writeOutcome_of_head {p : Pipe} (h : ∀ fault ∈ p.faults.take 1, fault = none) :
    writeOutcome.run p = .ok () { p with faults := p.faults.drop 1 } := by
  obtain ⟨incoming, faults, wire, progress⟩ := p
  cases faults with
  | nil => rfl
  | cons fault faults =>
    obtain rfl : fault = none := h fault List.mem_cons_self
    rfl

theorem run_writeOutcome_of_not {p : Pipe} (h : ¬ ∀ fault ∈ p.faults.take 1, fault = none) :
    ∃ e, writeOutcome.run p = .error (.io e) { p with faults := p.faults.drop 1 } := by
  obtain ⟨incoming, faults, wire, progress⟩ := p
  cases faults with
  | nil => exact absurd nofun h
  | cons fault faults =>
    cases fault with
    | none => exact absurd (fun fault hmem => List.mem_singleton.mp hmem) h
    | some e => exact ⟨e, rfl⟩

theorem writable_iff (faults : List (Option IoError)) : Writable faults ↔
    (∀ fault ∈ faults.take 1, fault = none) ∧ ∀ fault ∈ (faults.drop 1).take 1, fault = none := by
  have hsplit : faults.take 2 = faults.take 1 ++ (faults.drop 1).take 1 := by
    rw [← List.take_add]
  rw [Writable, hsplit, List.forall_mem_append]

/-- A packet that can be written is answered. -/
theorem run_request_of_writable {p : Pipe} (h : Writable p.faults) (packet : List UInt8) :
    (request packet).run p
      = readResponse.run { p with
          faults := p.faults.drop 2, wire := p.wire ++ [.wrote packet] } := by
  obtain ⟨hfirst, hsecond⟩ := (writable_iff p.faults).mp h
  have hwrite : (writeAll packet).run p
      = .ok () { p with faults := p.faults.drop 1, wire := p.wire ++ [.wrote packet] } := by
    rw [writeAll, Outcome.run_bind_ok (run_writeOutcome_of_head hfirst)]
    rfl
  rw [request, Outcome.run_bind_ok hwrite, flush,
    Outcome.run_bind_ok (run_writeOutcome_of_head hsecond), List.drop_drop]

/-- A packet that cannot be written is not answered: the request fails with the error of the
pipe. -/
theorem run_request_of_not {p : Pipe} (h : ¬ Writable p.faults) (packet : List UInt8) :
    ∃ e q, (request packet).run p = .error (.io e) q ∧ q.progress = p.progress := by
  by_cases hfirst : ∀ fault ∈ p.faults.take 1, fault = none
  -- the packet is written, but cannot be flushed
  · have hsecond : ¬ ∀ fault ∈ (p.faults.drop 1).take 1, fault = none := fun hsecond =>
      h ((writable_iff p.faults).mpr ⟨hfirst, hsecond⟩)
    have hwrite : (writeAll packet).run p
        = .ok () { p with faults := p.faults.drop 1, wire := p.wire ++ [.wrote packet] } := by
      rw [writeAll, Outcome.run_bind_ok (run_writeOutcome_of_head hfirst)]
      rfl
    obtain ⟨e, hflush⟩ : ∃ e, writeOutcome.run { p with
        faults := p.faults.drop 1, wire := p.wire ++ [.wrote packet] } = .error (.io e) _ :=
      run_writeOutcome_of_not hsecond
    refine ⟨e, { p with faults := (p.faults.drop 1).drop 1, wire := p.wire ++ [.wrote packet] },
      ?_, rfl⟩
    rw [request, Outcome.run_bind_ok hwrite, flush, Outcome.run_bind_error hflush]
  · obtain ⟨e, hwrite⟩ := run_writeOutcome_of_not hfirst
    have hall : (writeAll packet).run p = .error (.io e) { p with faults := p.faults.drop 1 } := by
      rw [writeAll, Outcome.run_bind_error hwrite]
    exact ⟨e, { p with faults := p.faults.drop 1 }, by rw [request, Outcome.run_bind_error hall],
      rfl⟩

/-- A failure that is no response code. -/
def NoCode {α : Type} (r : Except ObexError α) : Prop :=
  ∃ e, r = .error e ∧ ∀ stage code, e ≠ .rejected stage code

/-- **One request goes as its answer**, which is read off the pending bytes and the outcomes of
the next two writes. -/
theorem run_ask_answer (stage : String) (packet : List UInt8) (expected : UInt8) (p : Pipe) :
    ∃ r q, Outcome.split ((ask stage packet expected).run p) = (r, q) ∧ q.progress = p.progress ∧
      match answerTo expected p.faults p.pending.1 with
      | .right resp rest => r = .ok resp ∧ q.faults = p.faults.drop 2 ∧ q.pending.1 = rest
      | .wrong => ∃ code, r = .error (.rejected stage code)
      | .none => NoCode r := by
  unfold ask answerTo
  -- The packet is written and flushed, or one of the two fails.
  by_cases hwritable : Writable p.faults
  · set p₂ : Pipe :=
      { p with faults := p.faults.drop 2, wire := p.wire ++ [.wrote packet] }
    have hpending : p₂.pending = p.pending := rfl
    have hread := run_readResponse p₂
    rw [hpending] at hread
    rw [← run_request_of_writable hwritable] at hread
    -- a malformed response and one that is missing are both no answer
    simp only [if_pos hwritable, answer]
    cases hreply : nextReply p.pending.1 with
    | response resp rest =>
      rw [hreply] at hread
      obtain ⟨incoming, hrun, hrest⟩ := hread
      rw [Outcome.run_bind_ok hrun]
      by_cases hcode : resp.code = expected
      · simp only [hcode, ne_eq, not_true_eq_false, if_false, if_true]
        exact ⟨_, _, rfl, rfl, rfl, rfl, congrArg Prod.fst hrest⟩
      · simp only [hcode, ne_eq, not_false_eq_true, if_true, if_false]
        exact ⟨_, _, rfl, rfl, _, rfl⟩
    | malformed =>
      rw [hreply] at hread
      obtain ⟨incoming, hrun⟩ := hread
      rw [Outcome.run_bind_error hrun]
      exact ⟨_, _, rfl, rfl, _, rfl, fun _ _ => ObexError.noConfusion⟩
    | ended =>
      rw [hreply] at hread
      obtain ⟨incoming, hrun⟩ := hread
      rw [Outcome.run_bind_error hrun]
      exact ⟨_, _, rfl, rfl, _, rfl, fun _ _ => ObexError.noConfusion⟩
  · obtain ⟨e, q, hrun, hprogress⟩ := run_request_of_not hwritable packet
    rw [Outcome.run_bind_error hrun]
    simp only [if_neg hwritable]
    exact ⟨_, q, rfl, hprogress, _, rfl, fun _ _ => ObexError.noConfusion⟩

/-! ### Rounds -/

/-- What an exchange comes to that ends so. -/
def Ending.Comes (ending : Ending) (r : Except ObexError Unit) : Prop :=
  match ending with
  | .finished => r = .ok ()
  | .refused => ∃ stage code, r = .error (.rejected stage code)
  | .broken => NoCode r

/-- Only an exchange that is finished succeeds. -/
theorem Ending.eq_finished {ending : Ending} (h : ending.Comes (.ok ())) : ending = .finished := by
  cases ending with
  | finished => rfl
  | refused =>
    obtain ⟨stage, code, h⟩ := h
    cases h
  | broken =>
    obtain ⟨e, h, -⟩ := h
    cases h

/-- **An exchange goes as its course**, and reports what is acknowledged. -/
theorem run_exchangeAll_course (rounds : List Round) (p : Pipe) :
    ∃ r q, Outcome.split ((exchangeAll rounds).run p) = (r, q) ∧
      q.progress = p.progress ++ (course rounds p.faults p.pending.1).1.map Round.sent ∧
      (course rounds p.faults p.pending.1).2.Comes r := by
  -- On the rounds: each that is answered reports its count, and the course goes on.
  induction rounds generalizing p with
  | nil => exact ⟨_, p, rfl, (List.append_nil _).symm, rfl⟩
  | cons round rounds ih =>
    obtain ⟨r, q, hrun, hprogress, hanswer⟩ :=
      run_ask_answer "put" round.packet round.expected p
    rw [course]
    cases hcase : answerTo round.expected p.faults p.pending.1 with
    | right resp rest =>
      rw [hcase] at hanswer
      obtain ⟨rfl, hfaults, hpending⟩ := hanswer
      obtain ⟨r', q', hrest, hprogress', hcomes⟩ :=
        ih { q with progress := q.progress ++ [round.sent] }
      change q'.progress = _ ++ (course rounds q.faults q.pending.1).1.map Round.sent
        at hprogress'
      change (course rounds q.faults q.pending.1).2.Comes r' at hcomes
      rw [hfaults, hpending] at hprogress' hcomes
      refine ⟨r', q', by rw [run_exchangeAll_cons (Outcome.eq_ok_of_split hrun), hrest], ?_, hcomes⟩
      rw [hprogress', hprogress, List.append_assoc]
      rfl
    -- a round that fails is the last, and reports nothing
    | wrong =>
      rw [hcase] at hanswer
      obtain ⟨code, rfl⟩ := hanswer
      have hask := Outcome.eq_error_of_split hrun
      refine ⟨_, q, congrArg Outcome.split (run_exchangeAll_cons_error hask), ?_, _, code, rfl⟩
      rw [hprogress]
      exact (List.append_nil _).symm
    | none =>
      rw [hcase] at hanswer
      obtain ⟨e, rfl, hcode⟩ := hanswer
      have hask := Outcome.eq_error_of_split hrun
      refine ⟨_, q, congrArg Outcome.split (run_exchangeAll_cons_error hask), ?_, e, rfl, hcode⟩
      rw [hprogress]
      exact (List.append_nil _).symm

/-- The rounds that are acknowledged are the first ones. -/
theorem course_fst_isFirst (rounds : List Round) (faults : List (Option IoError))
    (bytes : List UInt8) : (course rounds faults bytes).1 <+: rounds := by
  induction rounds generalizing faults bytes with
  | nil => exact List.prefix_rfl
  | cons round rounds ih =>
    rw [course]
    cases answerTo round.expected faults bytes with
    | right r rest => exact List.cons_prefix_cons.mpr ⟨rfl, ih _ _⟩
    | wrong => exact List.nil_prefix
    | none => exact List.nil_prefix

/-- An exchange that is finished has all its rounds acknowledged. -/
theorem course_fst_of_finished {rounds : List Round} {faults : List (Option IoError)}
    {bytes : List UInt8} (h : (course rounds faults bytes).2 = .finished) :
    (course rounds faults bytes).1 = rounds := by
  -- On the rounds: a course that is finished has had the right answer to each.
  induction rounds generalizing faults bytes with
  | nil => rfl
  | cons round rounds ih =>
    rw [course] at h ⊢
    cases hcase : answerTo round.expected faults bytes with
    | right r rest =>
      rw [hcase] at h
      exact congrArg (round :: ·) (ih h)
    | wrong =>
      rw [hcase] at h
      cases h
    | none =>
      rw [hcase] at h
      cases h

/-! ### The counts of an object -/

/-- What an object's first rounds report never goes down, and never exceeds its length. -/
theorem counts_of_first {client : ObexOppClient} {name : String} {data : List UInt8}
    {acked : List Round} (h : acked <+: client.putRounds name data) :
    (0 :: acked.map Round.sent).Pairwise (· ≤ ·) ∧
      ∀ n ∈ acked.map Round.sent, n ≤ data.length := by
  have hsent := h.map Round.sent
  rw [ObexOppClient.map_sent_putRounds] at hsent
  constructor
  · refine List.Pairwise.sublist (List.cons_sublist_cons.mpr hsent.sublist) ?_
    exact Chunking.pairwise_le_runningTotals 0 _
  · intro n hn
    have hbounds := Chunking.mem_runningTotals_bounds n (hsent.subset hn)
    rw [ObexOppClient.flatten_putChunks, Nat.zero_add] at hbounds
    exact hbounds.2

/-! ### A session -/

/-- CONNECT is accepted or not, as the bytes and the writes say, and it reports nothing. -/
theorem run_connect_connected (p : Pipe) :
    match connected p.faults p.pending.1 with
    | some (client, faults, rest) => ∃ q, ObexOppClient.connect.run p = .ok client q ∧
        q.progress = p.progress ∧ q.faults = faults ∧ q.pending.1 = rest
    | none => ∃ e q, ObexOppClient.connect.run p = .error e q ∧ q.progress = p.progress := by
  obtain ⟨r, q, hrun, hprogress, hanswer⟩ :=
    run_ask_answer "connect" ObexOppClient.connectPacket RESP_SUCCESS p
  rw [ObexOppClient.connect_eq_ask, connected]
  -- The right answer to CONNECT makes the client; any other ends the session.
  cases hcase : answerTo RESP_SUCCESS p.faults p.pending.1 with
  | right resp rest =>
    rw [hcase] at hanswer
    obtain ⟨rfl, hfaults, hpending⟩ := hanswer
    exact ⟨q, Outcome.run_bind_ok (Outcome.eq_ok_of_split hrun), hprogress, hfaults, hpending⟩
  | wrong =>
    rw [hcase] at hanswer
    obtain ⟨code, rfl⟩ := hanswer
    exact ⟨_, q, Outcome.run_bind_error (Outcome.eq_error_of_split hrun), hprogress⟩
  | none =>
    rw [hcase] at hanswer
    obtain ⟨e, rfl, -⟩ := hanswer
    exact ⟨_, q, Outcome.run_bind_error (Outcome.eq_error_of_split hrun), hprogress⟩

/-- DISCONNECT reports no progress, whatever comes of it. -/
theorem progress_disconnect (client : ObexOppClient) (p : Pipe) :
    (Outcome.split (client.disconnect.run p)).2.progress = p.progress := by
  obtain ⟨r, q, hrun, hprogress, -⟩ :=
    run_ask_answer "disconnect" [OP_DISCONNECT, 0x00, 0x03] RESP_SUCCESS p
  rw [ObexOppClient.disconnect_eq_ask]
  cases r with
  | ok resp =>
    rw [Outcome.run_bind_ok (Outcome.eq_ok_of_split hrun)]
    exact hprogress
  | error e =>
    rw [Outcome.run_bind_error (Outcome.eq_error_of_split hrun)]
    exact hprogress

/-- **A session goes as its course**, up to DISCONNECT: without CONNECT nothing is reported, and
otherwise what is acknowledged; and where not all is, it fails so. -/
theorem run_session_course (name : String) (data : List UInt8)
    (incoming : List (ReadEvent UInt8 IoError)) (faults : List (Option IoError)) :
    ∃ r q, Outcome.split ((session name data).run (.start incoming faults)) = (r, q) ∧
      match connected faults (delivered .unexpectedEof incoming).1 with
      | some (client, faults, rest) =>
        q.progress = (course (client.putRounds name data) faults rest).1.map Round.sent ∧
          ((course (client.putRounds name data) faults rest).2 ≠ .finished →
            (course (client.putRounds name data) faults rest).2.Comes r)
      | none => q.progress = [] ∧ ∃ e, r = .error e := by
  have hconnect := run_connect_connected (.start incoming faults)
  change match connected faults (delivered .unexpectedEof incoming).1 with
    | some (client, faults, rest) => _ | none => _ at hconnect
  rw [session]
  cases hcase : connected faults (delivered .unexpectedEof incoming).1 with
  | none =>
    rw [hcase] at hconnect
    obtain ⟨e, q, hrun, hprogress⟩ := hconnect
    rw [Outcome.run_bind_error hrun]
    exact ⟨_, q, rfl, hprogress, e, rfl⟩
  | some accepted =>
    obtain ⟨client, faults', rest⟩ := accepted
    rw [hcase] at hconnect
    obtain ⟨q, hrun, hprogress, rfl, rfl⟩ := hconnect
    change q.progress = [] at hprogress
    obtain ⟨r, q', hput, hprogress', hcomes⟩ :=
      run_exchangeAll_course (client.putRounds name data) q
    rw [hprogress, List.nil_append] at hprogress'
    rw [Outcome.run_bind_ok hrun]
    rw [← ObexOppClient.putFile_eq] at hput
    -- The object is through, or its last round has failed.
    cases r with
    | ok u =>
      -- all was acknowledged, and DISCONNECT is left
      rw [Outcome.run_bind_ok (Outcome.eq_ok_of_split hput)]
      exact ⟨_, _, rfl, (progress_disconnect client q').trans hprogress',
        fun h => absurd (Ending.eq_finished hcomes) h⟩
    | error e =>
      rw [Outcome.run_bind_error (Outcome.eq_error_of_split hput)]
      exact ⟨_, q', rfl, hprogress', fun _ => hcomes⟩

end ObexOpp
end Pax
