import Pax.Transport.Android.ObexExchange

/-!
# A whole session, judged by the peer's bytes

`AndroidBackend::run_push` connects, pushes one object and disconnects over one socket (`session`).
Over a faithful pipe the peer's bytes alone decide how far it gets: `judge` reads the answers to
CONNECT and to the PUT packets off them, one behind the other, without running the client. Either
the peer refuses with a response code, or its bytes break off or are malformed, or it accepts the
object; then `judge` yields the bytes behind the last answer, from which the answer to DISCONNECT is
still to come.

`run_session` says that the session goes as judged, and counts the acceptances on the wire: one if
the object is accepted, whatever becomes of DISCONNECT, and none otherwise.
-/

namespace Pax
namespace ObexOpp

open Segments (ReadEvent delivered)

/-- Connect, push one object, disconnect: what `run_push` does over its socket. An error of any
of the three is the error of the session. -/
def session (name : String) (data : List UInt8) : ObexM Unit := do
  let client ← ObexOppClient.connect
  client.putFile name data
  client.disconnect

/-! ### Acceptances -/

/-- The packet is a PUT with the final bit, which ends the object. -/
def IsFinalPut (packet : List UInt8) : Prop := packet.head? = some (OP_PUT ||| FINAL)

instance (packet : List UInt8) : Decidable (IsFinalPut packet) :=
  inferInstanceAs (Decidable (_ = _))

/-- How often a final PUT packet was answered with SUCCESS. -/
def acceptances : List WireStep → ℕ
  | .wrote packet :: .got r :: wire =>
    (if IsFinalPut packet ∧ r.code = RESP_SUCCESS then 1 else 0) + acceptances wire
  | _ :: wire => acceptances wire
  | [] => 0

@[simp] theorem acceptances_nil : acceptances [] = 0 := rfl

theorem acceptances_turn (packet : List UInt8) (r : Response) (wire : List WireStep) :
    acceptances (.wrote packet :: .got r :: wire)
      = (if IsFinalPut packet ∧ r.code = RESP_SUCCESS then 1 else 0) + acceptances wire := rfl

@[simp] theorem acceptances_wrote (packet : List UInt8) : acceptances [.wrote packet] = 0 := rfl

/-! ### The judgement of the bytes -/

/-- The next answer of the peer, where one with the code `expected` is waited for. -/
inductive Answer where
  /-- The right code; the bytes behind the response. -/
  | right (r : Response) (rest : List UInt8)
  /-- Another code. -/
  | wrong
  /-- No complete response. -/
  | none
  deriving DecidableEq, Repr

def answer (expected : UInt8) (bytes : List UInt8) : Answer :=
  match nextReply bytes with
  | .response r rest => if r.code = expected then .right r rest else .wrong
  | _ => .none

/-- What the bytes of the peer say about a push, as far as its object goes. -/
inductive Judgement where
  /-- An answer has another code than the one that is waited for. -/
  | refused
  /-- An answer is missing or malformed. -/
  | broken
  /-- All answers up to the final PUT are as they should be; the bytes behind them. -/
  | accepted (tail : List UInt8)
  deriving DecidableEq, Repr

/-- The answers to a list of rounds. -/
def judgeRounds : List Round → List UInt8 → Judgement
  | [], tail => .accepted tail
  | round :: rounds, bytes =>
    match answer round.expected bytes with
    | .right _ rest => judgeRounds rounds rest
    | .wrong => .refused
    | .none => .broken

/-- The answers to CONNECT and to the packets of an object. -/
def judge (name : String) (data bytes : List UInt8) : Judgement :=
  match answer RESP_SUCCESS bytes with
  | .right r rest => judgeRounds ((ObexOppClient.ofConnectBody r.body).putRounds name data) rest
  | .wrong => .refused
  | .none => .broken

/-- The bytes begin with a SUCCESS response. -/
def Acknowledged (bytes : List UInt8) : Prop := ∃ r rest, answer RESP_SUCCESS bytes = .right r rest

/-! ### The rounds of an object -/

/-- A list of rounds of which the last one, and no other, carries a final PUT and waits for
SUCCESS. -/
inductive LastFinal : List Round → Prop
  | last {round : Round} (hfinal : IsFinalPut round.packet)
      (hexpected : round.expected = RESP_SUCCESS) : LastFinal [round]
  | more {round : Round} {rounds : List Round} (hfinal : ¬ IsFinalPut round.packet)
      (h : LastFinal rounds) : LastFinal (round :: rounds)

namespace ObexOppClient

theorem head?_putPacket (namePayload : List UInt8) (total : ℕ) (first isLast : Bool)
    (chunk : List UInt8) :
    (putPacket namePayload total first isLast chunk).head?
      = some (if isLast then OP_PUT ||| FINAL else OP_PUT) := by
  simp [putPacket, putLen]

theorem lastFinal_roundsOf (namePayload : List UInt8) (total : ℕ) (first : Bool) (offset : ℕ)
    {chunks : List (List UInt8)} (hne : chunks ≠ []) :
    LastFinal (roundsOf namePayload total first offset chunks) := by
  induction chunks generalizing first offset with
  | nil => exact absurd rfl hne
  | cons chunk chunks ih =>
    cases chunks with
    | nil => exact .last (head?_putPacket _ _ _ _ _) rfl
    | cons next chunks =>
      refine .more ?_ (ih false _ (List.cons_ne_nil next chunks))
      rw [IsFinalPut, head?_putPacket, List.isEmpty_cons]
      decide

theorem lastFinal_putRounds (client : ObexOppClient) (name : String) (data : List UInt8) :
    LastFinal (client.putRounds name data) :=
  lastFinal_roundsOf _ _ _ _ (putChunks_ne_nil _ _ data)

/-- An object of at most one byte takes one packet. -/
theorem putRounds_of_le_one (client : ObexOppClient) (name : String) {data : List UInt8}
    (h : data.length ≤ 1) :
    ∃ round, client.putRounds name data = [round] ∧ round.expected = RESP_SUCCESS := by
  have hchunks : putChunks client.maxPacket (nameToUtf16 name) data = [data] :=
    Chunking.chunks_of_le (h.trans (le_max_right _ 1)) _
  rw [putRounds, hchunks]
  exact ⟨_, rfl, rfl⟩

end ObexOppClient

/-! ### One request and its answer -/

/-- Send a packet, wait for the response, and fail if it has another code than `expected`. -/
def ask (stage : String) (packet : List UInt8) (expected : UInt8) : ObexM Response := do
  let resp ← request packet
  if resp.code ≠ expected then
    throw (.rejected stage resp.code)
  return resp

/-- An operation failed, with a response code or otherwise, and no object was accepted on the
way. -/
structure Failed (withCode : Bool) (p : Pipe) (e : ObexError) (q : Pipe) : Prop where
  error : (∃ stage code, e = .rejected stage code) ↔ withCode = true
  wire : ∃ wire, q.wire = p.wire ++ wire ∧ acceptances wire = 0

/-- A failure behind a stretch of wire without an acceptance. -/
theorem Failed.behind {withCode : Bool} {p q : Pipe} {e : ObexError} {packet : List UInt8}
    {r : Response} {p' : Pipe} (h : Failed withCode p' e q)
    (hwire : p'.wire = p.wire ++ [.wrote packet, .got r]) (hnot : ¬ IsFinalPut packet) :
    Failed withCode p e q := by
  obtain ⟨herror, wire, hq, hzero⟩ := h
  refine ⟨herror, .wrote packet :: .got r :: wire, by rw [hq, hwire, List.append_assoc]; rfl, ?_⟩
  rw [acceptances_turn, if_neg (fun h => hnot h.1), hzero]

/-- From a fresh pipe, a failure with a response code. -/
theorem Failed.rejected {evs : List (ReadEvent UInt8 IoError)} {e : ObexError} {q : Pipe}
    (h : Failed true (Pipe.start evs []) e q) :
    (∃ stage code, e = .rejected stage code) ∧ acceptances q.wire = 0 := by
  obtain ⟨herror, wire, hwire, hzero⟩ := h
  refine ⟨herror.mpr rfl, ?_⟩
  rw [hwire]
  exact hzero

/-- From a fresh pipe, a failure without a response code. -/
theorem Failed.not_rejected {evs : List (ReadEvent UInt8 IoError)} {e : ObexError} {q : Pipe}
    (h : Failed false (Pipe.start evs []) e q) :
    (∀ stage code, e ≠ .rejected stage code) ∧ acceptances q.wire = 0 := by
  obtain ⟨herror, wire, hwire, hzero⟩ := h
  constructor
  · intro stage code he
    exact Bool.false_ne_true (herror.mp ⟨stage, code, he⟩)
  · rw [hwire]
    exact hzero

/-- **One request goes as its answer.** It is assumed that a final PUT waits for SUCCESS. -/
theorem run_ask {p : Pipe} (hfaults : p.faults = []) (stage : String) (packet : List UInt8)
    (expected : UInt8) (hfinal : IsFinalPut packet → expected = RESP_SUCCESS) :
    match answer expected p.pending.1 with
    | .right r rest => r.code = expected ∧ ∃ q, (ask stage packet expected).run p = .ok r q ∧
        q.faults = [] ∧ q.pending.1 = rest ∧ q.wire = p.wire ++ [.wrote packet, .got r]
    | .wrong => ∃ e q, (ask stage packet expected).run p = .error e q ∧ Failed true p e q
    | .none => ∃ e q, (ask stage packet expected).run p = .error e q ∧ Failed false p e q := by
  have hrequest := run_request hfaults packet
  unfold ask answer
  -- The response is read before its code is looked at; without one, nothing was accepted.
  cases hreply : nextReply p.pending.1 with
  | response r rest =>
    rw [hreply] at hrequest
    obtain ⟨incoming, hrest, hrun⟩ := hrequest
    rw [Outcome.run_bind_ok hrun]
    by_cases hcode : r.code = expected
    · simp only [hcode, if_true, ne_eq, not_true_eq_false, if_false]
      exact ⟨trivial, _, rfl, hfaults, (Prod.ext_iff.mp hrest).1, rfl⟩
    · simp only [hcode, if_false, ne_eq, not_false_eq_true, if_true]
      refine ⟨_, _, rfl, by simp, _, rfl, ?_⟩
      -- another code than the expected one is never an acceptance
      rw [acceptances_turn, if_neg fun h => hcode (h.2.trans (hfinal h.1).symm)]
      rfl
  | malformed =>
    rw [hreply] at hrequest
    obtain ⟨incoming, hrun⟩ := hrequest
    rw [Outcome.run_bind_error hrun]
    exact ⟨_, _, rfl, by simp, _, rfl, rfl⟩
  | ended =>
    rw [hreply] at hrequest
    obtain ⟨incoming, hrun⟩ := hrequest
    rw [Outcome.run_bind_error hrun]
    exact ⟨_, _, rfl, by simp, _, rfl, rfl⟩

theorem exchange_eq_ask (round : Round) : exchange round = (do
    let _ ← ask "put" round.packet round.expected
    onProgress round.sent) := by
  rw [exchange_eq, ask]
  simp only [bind_assoc]
  refine bind_congr fun resp => ?_
  split
  · rfl
  · rfl

namespace ObexOppClient

theorem connect_eq_ask : connect = (do
    let resp ← ask "connect" connectPacket RESP_SUCCESS
    return ofConnectBody resp.body) := by
  simp only [connect, ask, request, bind_assoc]
  refine bind_congr fun _ => bind_congr fun _ => bind_congr fun resp => ?_
  split
  · rfl
  · rfl

theorem disconnect_eq_ask (client : ObexOppClient) : client.disconnect = (do
    let _ ← ask "disconnect" [OP_DISCONNECT, 0x00, 0x03] RESP_SUCCESS
    return ()) := by
  simp only [disconnect, ask, request, bind_assoc]
  refine bind_congr fun _ => bind_congr fun _ => bind_congr fun resp => ?_
  split
  · rfl
  · rfl

end ObexOppClient

/-! ### The session runs as judged -/

/-- The first round of a list, then the others. -/
theorem run_exchangeAll_cons {p q : Pipe} {round : Round} {rounds : List Round} {r : Response}
    (h : (ask "put" round.packet round.expected).run p = .ok r q) :
    (exchangeAll (round :: rounds)).run p
      = (exchangeAll rounds).run { q with progress := q.progress ++ [round.sent] } := by
  rw [exchangeAll, exchange_eq_ask, bind_assoc, Outcome.run_bind_ok h,
    Outcome.run_bind_ok (run_onProgress round.sent q)]

theorem run_exchangeAll_cons_error {p q : Pipe} {round : Round} {rounds : List Round}
    {e : ObexError} (h : (ask "put" round.packet round.expected).run p = .error e q) :
    (exchangeAll (round :: rounds)).run p = .error e q := by
  rw [exchangeAll, exchange_eq_ask, bind_assoc, Outcome.run_bind_error h]

/-- Where the first round fails, the object fails with it. -/
theorem exists_run_exchangeAll_error {withCode : Bool} {p : Pipe} {round : Round}
    {rounds : List Round}
    (h : ∃ e q, (ask "put" round.packet round.expected).run p = .error e q ∧
      Failed withCode p e q) :
    ∃ e q, (exchangeAll (round :: rounds)).run p = .error e q ∧ Failed withCode p e q := by
  obtain ⟨e, q, hrun, hfailed⟩ := h
  exact ⟨e, q, run_exchangeAll_cons_error hrun, hfailed⟩

/-- Where a later round fails, the object fails with it. -/
theorem exists_run_exchangeAll_behind {withCode : Bool} {p q : Pipe} {round : Round}
    {rounds : List Round} {r : Response}
    (hrun : (ask "put" round.packet round.expected).run p = .ok r q)
    (hwire : q.wire = p.wire ++ [.wrote round.packet, .got r]) (hfinal : ¬ IsFinalPut round.packet)
    (h : ∃ e q', (exchangeAll rounds).run { q with progress := q.progress ++ [round.sent] }
        = .error e q' ∧
      Failed withCode { q with progress := q.progress ++ [round.sent] } e q') :
    ∃ e q', (exchangeAll (round :: rounds)).run p = .error e q' ∧ Failed withCode p e q' := by
  obtain ⟨e, q', hrun', hfailed⟩ := h
  refine ⟨e, q', ?_, hfailed.behind hwire hfinal⟩
  rw [run_exchangeAll_cons hrun, hrun']

/-- **The rounds of an object go as judged.** If they are accepted there is one acceptance on the
wire, which is that of the last packet. -/
theorem run_exchangeAll_judged {rounds : List Round} (hrounds : LastFinal rounds) {p : Pipe}
    (hfaults : p.faults = []) :
    match judgeRounds rounds p.pending.1 with
    | .accepted tail => ∃ wire q, (exchangeAll rounds).run p = .ok () q ∧ q.faults = [] ∧
        q.pending.1 = tail ∧ q.wire = p.wire ++ wire ∧
        ∀ later, acceptances (wire ++ later) = 1 + acceptances later
    | .refused => ∃ e q, (exchangeAll rounds).run p = .error e q ∧ Failed true p e q
    | .broken => ∃ e q, (exchangeAll rounds).run p = .error e q ∧ Failed false p e q := by
  induction hrounds generalizing p with
  | @last round hfinal hexpected =>
    have hask := run_ask hfaults "put" round.packet round.expected fun _ => hexpected
    rw [judgeRounds]
    cases hanswer : answer round.expected p.pending.1 with
    | right r rest =>
      -- the one acceptance of the object
      rw [hanswer] at hask
      obtain ⟨hcode, q, hrun, hfaults', hpending, hwire⟩ := hask
      refine ⟨[.wrote round.packet, .got r], _, run_exchangeAll_cons hrun, hfaults', hpending,
        hwire, ?_⟩
      intro later
      rw [List.cons_append, List.cons_append, List.nil_append, acceptances_turn,
        if_pos ⟨hfinal, hcode.trans hexpected⟩]
    | _ =>
      rw [hanswer] at hask
      exact exists_run_exchangeAll_error hask
  | @more round rounds hfinal hrounds ih =>
    have hask := run_ask hfaults "put" round.packet round.expected fun h => absurd h hfinal
    rw [judgeRounds]
    cases hanswer : answer round.expected p.pending.1 with
    | right r rest =>
      rw [hanswer] at hask
      obtain ⟨hcode, q, hrun, hfaults', hpending, hwire⟩ := hask
      -- the other rounds start from the bytes behind this answer
      have hrest := ih (p := { q with progress := q.progress ++ [round.sent] }) hfaults'
      change match judgeRounds rounds q.pending.1 with
        | .accepted tail => _ | .refused => _ | .broken => _ at hrest
      rw [hpending] at hrest
      dsimp only
      -- The other rounds decide, and this one has accepted nothing.
      cases hjudge : judgeRounds rounds rest with
      | accepted tail =>
        rw [hjudge] at hrest
        obtain ⟨wire, q', hrun', hfaults'', hpending', hwire', haccept⟩ := hrest
        refine ⟨.wrote round.packet :: .got r :: wire, q', by rw [run_exchangeAll_cons hrun, hrun'],
          hfaults'', hpending', ?_, ?_⟩
        · rw [hwire', hwire, List.append_assoc]
          rfl
        · intro later
          rw [List.cons_append, List.cons_append, acceptances_turn, if_neg (fun h => hfinal h.1),
            Nat.zero_add, haccept]
      | refused =>
        rw [hjudge] at hrest
        exact exists_run_exchangeAll_behind hrun hwire hfinal hrest
      | broken =>
        rw [hjudge] at hrest
        exact exists_run_exchangeAll_behind hrun hwire hfinal hrest
    | _ =>
      rw [hanswer] at hask
      exact exists_run_exchangeAll_error hask

/-- DISCONNECT succeeds if the bytes that are left acknowledge it, and accepts nothing. -/
theorem run_disconnect (client : ObexOppClient) {p : Pipe} (hfaults : p.faults = []) :
    ∃ q later, q.wire = p.wire ++ later ∧ acceptances later = 0 ∧
      ((Acknowledged p.pending.1 ∧ client.disconnect.run p = .ok () q) ∨
        (¬ Acknowledged p.pending.1 ∧ ∃ e, client.disconnect.run p = .error e q)) := by
  have hdisconnect := run_ask hfaults "disconnect" [OP_DISCONNECT, 0x00, 0x03] RESP_SUCCESS
    fun _ => rfl
  rw [ObexOppClient.disconnect_eq_ask]
  cases htail : answer RESP_SUCCESS p.pending.1 with
  | right r rest =>
    rw [htail] at hdisconnect
    obtain ⟨-, q, hrun, -, -, hwire⟩ := hdisconnect
    exact ⟨q, _, hwire, rfl, .inl ⟨⟨r, rest, htail⟩, Outcome.run_bind_ok hrun⟩⟩
  -- a wrong answer, or none
  | _ =>
    rw [htail] at hdisconnect
    obtain ⟨e, q, hrun, -, later, hlater, hzero⟩ := hdisconnect
    refine ⟨q, later, hlater, hzero, .inr ⟨?_, e, Outcome.run_bind_error hrun⟩⟩
    rintro ⟨r, rest, h⟩
    rw [htail] at h
    cases h

/-- **The session goes as judged.** An object that is accepted is accepted once; whether the session
succeeds then depends on the answer to DISCONNECT. -/
theorem run_session (name : String) (data : List UInt8) (evs : List (ReadEvent UInt8 IoError)) :
    match judge name data (delivered .unexpectedEof evs).1 with
    | .accepted tail => ∃ q, acceptances q.wire = 1 ∧
        ((Acknowledged tail ∧ (session name data).run (Pipe.start evs []) = .ok () q) ∨
          (¬ Acknowledged tail ∧ ∃ e, (session name data).run (Pipe.start evs []) = .error e q))
    | .refused => ∃ e q, (session name data).run (Pipe.start evs []) = .error e q ∧
        (∃ stage code, e = .rejected stage code) ∧ acceptances q.wire = 0
    | .broken => ∃ e q, (session name data).run (Pipe.start evs []) = .error e q ∧
        (∀ stage code, e ≠ .rejected stage code) ∧ acceptances q.wire = 0 := by
  have hconnect := run_ask (p := Pipe.start evs []) rfl "connect" ObexOppClient.connectPacket
    RESP_SUCCESS fun _ => rfl
  have hnotFinal : ¬ IsFinalPut ObexOppClient.connectPacket := by decide
  change match answer RESP_SUCCESS (delivered .unexpectedEof evs).1 with
    | .right r rest => _ | .wrong => _ | .none => _ at hconnect
  unfold session judge
  rw [ObexOppClient.connect_eq_ask, bind_assoc]
  cases hanswer : answer RESP_SUCCESS (delivered .unexpectedEof evs).1 with
  | wrong =>
    rw [hanswer] at hconnect
    obtain ⟨e, q, hrun, hfailed⟩ := hconnect
    exact ⟨e, q, Outcome.run_bind_error hrun, hfailed.rejected⟩
  | none =>
    rw [hanswer] at hconnect
    obtain ⟨e, q, hrun, hfailed⟩ := hconnect
    exact ⟨e, q, Outcome.run_bind_error hrun, hfailed.not_rejected⟩
  | right r rest =>
    rw [hanswer] at hconnect
    obtain ⟨-, q, hrun, hfaults, hpending, hwire⟩ := hconnect
    rw [Outcome.run_bind_ok hrun, pure_bind]
    -- the answer to CONNECT fixes the packet size, and with it the rounds of the object
    set client := ObexOppClient.ofConnectBody r.body with hclient
    have hput := run_exchangeAll_judged (client.lastFinal_putRounds name data) hfaults
    rw [hpending, ← client.putFile_eq name data] at hput
    dsimp only
    cases hjudge : judgeRounds (client.putRounds name data) rest with
    | refused =>
      rw [hjudge] at hput
      obtain ⟨e, q', hrun', hfailed⟩ := hput
      exact ⟨e, q', Outcome.run_bind_error hrun', (hfailed.behind hwire hnotFinal).rejected⟩
    | broken =>
      rw [hjudge] at hput
      obtain ⟨e, q', hrun', hfailed⟩ := hput
      exact ⟨e, q', Outcome.run_bind_error hrun', (hfailed.behind hwire hnotFinal).not_rejected⟩
    | accepted tail =>
      rw [hjudge] at hput
      obtain ⟨wire, q', hrun', hfaults', hpending', hwire', haccept⟩ := hput
      -- the bytes that the object leaves are the answer to DISCONNECT, which accepts nothing more
      obtain ⟨q'', later, hlater, hzero, hdisconnect⟩ := run_disconnect client hfaults'
      rw [hpending'] at hdisconnect
      refine ⟨q'', ?_, ?_⟩
      · rw [hlater, hwire', hwire]
        show acceptances (.wrote ObexOppClient.connectPacket :: .got r :: (wire ++ later)) = 1
        rw [acceptances_turn, if_neg fun h => hnotFinal h.1, haccept, hzero]
      · rw [Outcome.run_bind_ok hrun']
        exact hdisconnect

end ObexOpp
end Pax
