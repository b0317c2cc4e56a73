import Pax.Framework.Chunking
import Pax.Transport.Android.ObexOpp

/-!
# The PUT exchange as a list of rounds

`putFile` interleaves two things: cutting the payload into packets, and waiting for the peer after
each packet. Here they are taken apart. `putRounds` is the first one alone, the packets with the
code each of them has to be answered with, and `exchangeAll` is the second, for any list of rounds.
`putFile_eq` says that the loop of the source is the one after the other.

What one round does depends on the peer only through the next response its bytes hold
(`nextReply`), never on how the bytes were cut into reads.
-/

namespace Pax
namespace ObexOpp

open Segments (ReadEvent delivered)

/-! ### The pipe operations, run -/

/-- The bytes the pipe will still deliver, and the error that ends them. -/
def Pipe.pending (p : Pipe) : List UInt8 × IoError := delivered .unexpectedEof p.incoming

theorem run_logStep (step : WireStep) (p : Pipe) :
    (logStep step).run p = .ok () { p with wire := p.wire ++ [step] } := rfl

theorem run_onProgress (sent : ℕ) (p : Pipe) :
    (onProgress sent).run p = .ok () { p with progress := p.progress ++ [sent] } := rfl

theorem run_writeOutcome {p : Pipe} (hfaults : p.faults = []) : writeOutcome.run p = .ok () p := by
  simp only [writeOutcome, EStateM.run, hfaults]

/-- A write or flush fails with the pipe's own error or leaves everything but the faults alone. -/
theorem run_writeOutcome_cases (p : Pipe) :
    (∃ faults, writeOutcome.run p = .ok () { p with faults }) ∨
      ∃ e faults, writeOutcome.run p = .error (.io e) { p with faults } := by
  obtain ⟨incoming, faults, wire, progress⟩ := p
  -- No fault is scripted any more, or the next one is a success or a failure.
  rcases faults with _ | ⟨_ | e, faults⟩
  · exact .inl ⟨[], rfl⟩
  · exact .inl ⟨faults, rfl⟩
  · exact .inr ⟨e, faults, rfl⟩

theorem run_writeAll {p : Pipe} (hfaults : p.faults = []) (packet : List UInt8) :
    (writeAll packet).run p = .ok () { p with wire := p.wire ++ [.wrote packet] } := by
  unfold writeAll
  rw [Outcome.run_bind_ok (run_writeOutcome hfaults), run_logStep]

theorem run_readExact_of_le {p : Pipe} {n : ℕ} (h : n ≤ p.pending.1.length) :
    ∃ incoming, (readExact n).run p = .ok (p.pending.1.take n) { p with incoming } ∧
      delivered .unexpectedEof incoming = (p.pending.1.drop n, p.pending.2) := by
  obtain ⟨incoming, hread, hrest⟩ := Segments.readExact_of_le p.incoming h
  refine ⟨incoming, ?_, hrest⟩
  simp only [readExact, EStateM.run, hread]
  rfl

theorem run_readExact_of_lt {p : Pipe} {n : ℕ} (h : p.pending.1.length < n) :
    ∃ incoming, (readExact n).run p = .error (.io p.pending.2) { p with incoming } := by
  obtain ⟨incoming, hread⟩ := Segments.readExact_of_lt p.incoming h
  refine ⟨incoming, ?_⟩
  simp only [readExact, EStateM.run, hread]
  rfl

/-! ### Responses in a byte stream -/

/-- A response whose length fits its 16-bit field. -/
def Response.Fits (r : Response) : Prop := 3 + r.body.length < 2 ^ 16

/-- The bytes of a response packet. -/
def Response.encode (r : Response) : List UInt8 :=
  r.code :: (Bytes.toBe16 (UInt16.ofNat (3 + r.body.length)) ++ r.body)

/-- What a byte stream holds next, read as a response packet. Every stream is one of the three. -/
inductive Reply where
  | response (r : Response) (rest : List UInt8)
  /-- The declared length is below 3. -/
  | malformed
  /-- The stream ends inside the packet. -/
  | ended
  deriving DecidableEq, Repr

/-- The next response of a byte stream. -/
def nextReply : List UInt8 → Reply
  | code :: hi :: lo :: rest =>
    if (Bytes.ofBe16 hi lo).toNat < 3 then .malformed
    else if rest.length < (Bytes.ofBe16 hi lo).toNat - 3 then .ended
    else
      .response { code, body := rest.take ((Bytes.ofBe16 hi lo).toNat - 3) }
        (rest.drop ((Bytes.ofBe16 hi lo).toNat - 3))
  | _ => .ended

/-- A response packet in front of anything is read as this response. -/
theorem nextReply_encode {r : Response} (hr : r.Fits) (rest : List UInt8) :
    nextReply (r.encode ++ rest) = .response r rest := by
  have hlen : (UInt16.ofNat (3 + r.body.length)).toNat = 3 + r.body.length :=
    Bytes.toNat_ofNat16 hr
  have hcut : 3 + r.body.length - 3 = r.body.length := by omega
  unfold Response.encode Bytes.toBe16
  -- The length field reads as the length of the packet, so the body is cut off where it ends.
  show nextReply (r.code :: _ :: _ :: (r.body ++ rest)) = _
  rw [nextReply, Bytes.ofBe16_toBe16, hlen, if_neg (by omega), hcut, if_neg (by simp),
    List.take_left, List.drop_left]

/-- What is read as a response is the packet of this response. -/
theorem eq_encode_of_nextReply {bytes : List UInt8} {r : Response} {rest : List UInt8}
    (h : nextReply bytes = .response r rest) : r.Fits ∧ bytes = r.encode ++ rest := by
  -- A response has three bytes at least, and as many as they say.
  match bytes with
  | [] => exact absurd h (by simp [nextReply])
  | [_] => exact absurd h (by simp [nextReply])
  | [_, _] => exact absurd h (by simp [nextReply])
  | code :: hi :: lo :: more =>
    rw [nextReply] at h
    by_cases hshort : (Bytes.ofBe16 hi lo).toNat < 3
    · rw [if_pos hshort] at h
      exact absurd h (by simp)
    rw [if_neg hshort] at h
    by_cases hend : more.length < (Bytes.ofBe16 hi lo).toNat - 3
    · rw [if_pos hend] at h
      exact absurd h (by simp)
    rw [if_neg hend] at h
    injection h with hr hrest
    subst hr hrest
    -- The body is as long as the two length bytes say, so encoding spells these two bytes again.
    have hbound := (Bytes.ofBe16 hi lo).toNat_lt
    have hbody : (more.take ((Bytes.ofBe16 hi lo).toNat - 3)).length
        = (Bytes.ofBe16 hi lo).toNat - 3 := by
      rw [List.length_take]
      omega
    constructor
    · unfold Response.Fits
      dsimp only
      omega
    · have hlen : 3 + (more.take ((Bytes.ofBe16 hi lo).toNat - 3)).length
          = (Bytes.ofBe16 hi lo).toNat := by omega
      unfold Response.encode
      dsimp only
      rw [hlen, UInt16.ofNat_toNat, Bytes.toBe16_ofBe16]
      simp only [List.cons_append, List.nil_append, List.take_append_drop]

/-- A stream of fewer than three bytes ends inside the packet header. -/
theorem nextReply_of_lt {bytes : List UInt8} (h : bytes.length < 3) : nextReply bytes = .ended := by
  match bytes with
  | [] => rfl
  | [_] => rfl
  | [_, _] => rfl
  | _ :: _ :: _ :: _ =>
    simp only [List.length_cons] at h
    omega

/-- **Reading a response.** `readResponse` returns the next response of the pending bytes, logs
it and leaves the bytes behind it; otherwise it fails with the reason there is none. -/
theorem run_readResponse (p : Pipe) :
    match nextReply p.pending.1 with
    | .response r rest => ∃ incoming,
        readResponse.run p = .ok r { p with incoming, wire := p.wire ++ [.got r] } ∧
          delivered .unexpectedEof incoming = (rest, p.pending.2)
    | .malformed => ∃ incoming,
        readResponse.run p = .error (.malformed "length < 3") { p with incoming }
    | .ended => ∃ incoming, readResponse.run p = .error (.io p.pending.2) { p with incoming } := by
  by_cases hhead : p.pending.1.length < 3
  · rw [nextReply_of_lt hhead]
    obtain ⟨incoming, hread⟩ := run_readExact_of_lt hhead
    exact ⟨incoming, Outcome.run_bind_error hread⟩
  obtain ⟨incoming, hread, hrest⟩ := run_readExact_of_le (Nat.le_of_not_lt hhead)
  -- the three header bytes are there: name them
  obtain ⟨code, hi, lo, more, hbytes⟩ : ∃ code hi lo more, p.pending.1 = code :: hi :: lo :: more :=
    match p.pending.1, hhead with
    | code :: hi :: lo :: more, _ => ⟨code, hi, lo, more, rfl⟩
    | [], h => absurd (by simp) h
    | [_], h => absurd (by simp) h
    | [_, _], h => absurd (by simp) h
  rw [hbytes] at hread hrest ⊢
  simp only [List.take_succ_cons, List.take_zero, List.drop_succ_cons, List.drop_zero]
    at hread hrest
  -- Behind the header, the same pipe stands at `more`; what follows depends on the length bytes.
  have hmore : Pipe.pending { p with incoming } = (more, p.pending.2) := hrest
  unfold readResponse
  rw [Outcome.run_bind_ok hread, nextReply]
  by_cases hshort : (Bytes.ofBe16 hi lo).toNat < 3
  · rw [if_pos hshort]
    refine ⟨incoming, ?_⟩
    simp only [List.getD_cons_succ, List.getD_cons_zero, if_pos hshort]
    rfl
  -- The body is not all there, and the stream ends; or it is read, and the rest stays.
  by_cases hbody : more.length < (Bytes.ofBe16 hi lo).toNat - 3
  · rw [if_neg hshort, if_pos hbody]
    obtain ⟨incoming', hread'⟩ := run_readExact_of_lt (p := { p with incoming })
      (n := (Bytes.ofBe16 hi lo).toNat - 3) (by rw [hmore]; exact hbody)
    refine ⟨incoming', ?_⟩
    simp only [List.getD_cons_succ, List.getD_cons_zero, if_neg hshort]
    rw [hmore] at hread'
    exact Outcome.run_bind_error hread'
  · rw [if_neg hshort, if_neg hbody]
    obtain ⟨incoming', hread', hrest'⟩ := run_readExact_of_le (p := { p with incoming })
      (n := (Bytes.ofBe16 hi lo).toNat - 3) (by rw [hmore]; exact Nat.le_of_not_lt hbody)
    rw [hmore] at hread' hrest'
    refine ⟨incoming', ?_, hrest'⟩
    simp only [List.getD_cons_succ, List.getD_cons_zero, if_neg hshort]
    exact Outcome.run_bind_ok hread'

/-! ### Rounds -/

/-- One turn of the lock-step: a packet, the code that acknowledges it, and the byte count that is
reported once it is acknowledged. -/
structure Round where
  packet : List UInt8
  expected : UInt8
  sent : ℕ
  deriving DecidableEq, Repr

/-- Send the packet of a round, wait for its acknowledgement and report it. -/
def exchange (round : Round) : ObexM Unit := do
  writeAll round.packet
  flush
  let resp ← readResponse
  if resp.code ≠ round.expected then
    throw (.rejected "put" resp.code)
  onProgress round.sent

/-- Round after round, stopping at the first that fails, whatever the others would have been. -/
def exchangeAll : List Round → ObexM Unit
  | [] => pure ()
  | round :: rounds => do
    exchange round
    exchangeAll rounds

namespace ObexOppClient

/-- The pieces `putFile` cuts a payload into. -/
def putChunks (max' : ℕ) (namePayload data : List UInt8) : List (List UInt8) :=
  Chunking.chunks (chunkCap max' namePayload true) (chunkCap max' namePayload false) data

/-- The rounds that carry a list of pieces: the first one has the Name and Length headers, the
last one is final. -/
def roundsOf (namePayload : List UInt8) (total : ℕ) : Bool → ℕ → List (List UInt8) → List Round
  | _, _, [] => []
  | first, offset, chunk :: chunks =>
    { packet := putPacket namePayload total first chunks.isEmpty chunk
      expected := expectedCode chunks.isEmpty
      sent := offset + chunk.length } ::
      roundsOf namePayload total false (offset + chunk.length) chunks

/-- The rounds `putFile` goes through for a name and a payload. -/
def putRounds (client : ObexOppClient) (name : String) (data : List UInt8) : List Round :=
  roundsOf (nameToUtf16 name) data.length true 0
    (putChunks client.maxPacket (nameToUtf16 name) data)

/-- The packets `putFile` needs for a name and a payload. -/
def putPackets (client : ObexOppClient) (name : String) (data : List UInt8) : List (List UInt8) :=
  (client.putRounds name data).map Round.packet

theorem putChunks_ne_nil (max' : ℕ) (namePayload data : List UInt8) :
    putChunks max' namePayload data ≠ [] := Chunking.chunks_ne_nil _ _ data

/-- The pieces put together are the payload, in order and without gaps. -/
theorem flatten_putChunks (max' : ℕ) (namePayload data : List UInt8) :
    (putChunks max' namePayload data).flatten = data := Chunking.flatten_chunks _ _ data

theorem one_le_chunkCap (max' : ℕ) (namePayload : List UInt8) (first : Bool) :
    1 ≤ chunkCap max' namePayload first := le_max_right _ _

/-- The negotiated size never exceeds our own maximum. -/
theorem maxPacket_le (client : ObexOppClient) : client.maxPacket ≤ 0x2000 := by
  show (if OUR_MAX_PACKET ≤ client.peerMaxPacket then OUR_MAX_PACKET
    else client.peerMaxPacket).toNat ≤ OUR_MAX_PACKET.toNat
  split
  · exact le_rfl
  · next h => exact (UInt16.lt_iff_toNat_lt.mp (UInt16.not_le.mp h)).le

/-- One turn of the loop is one round, and then the loop again unless the payload is exhausted. -/
theorem putLoop_turn (max' : ℕ) (namePayload data : List UInt8) (offset sent take : ℕ)
    (first : Bool)
    (htake : min (data.length - offset) (chunkCap max' namePayload first) = take) :
    putLoop max' namePayload data offset sent first = (do
      exchange
        { packet := putPacket namePayload data.length first (decide (data.length ≤ offset + take))
            ((data.drop offset).take take)
          expected := expectedCode (decide (data.length ≤ offset + take))
          sent := sent + take }
      if data.length ≤ offset + take then
        pure ()
      else
        putLoop max' namePayload data (offset + take) (sent + take) false) := by
  subst htake
  rw [putLoop]
  simp only [exchange, bind_assoc, dite_eq_ite]
  -- Write, flush and read are the same on both sides; the check of the code is what is left.
  refine bind_congr fun _ => bind_congr fun _ => bind_congr fun resp => ?_
  split
  · rw [bind_assoc]
  · rfl

/-- From any offset, the loop is the exchange of the rounds for what is left. -/
theorem putLoop_eq (max' : ℕ) (namePayload data : List UInt8) (offset : ℕ) (first : Bool)
    (hoffset : offset ≤ data.length) :
    putLoop max' namePayload data offset offset first
      = exchangeAll (roundsOf namePayload data.length first offset
          (Chunking.chunks (chunkCap max' namePayload first) (chunkCap max' namePayload false)
            (data.drop offset))) := by
  -- Induction on what is left of the payload, for either kind of packet.
  induction hk : data.length - offset using Nat.strongRecOn generalizing offset first with
  | ind k ih =>
    have hcap := one_le_chunkCap max' namePayload first
    have hmax : max (chunkCap max' namePayload first) 1 = chunkCap max' namePayload first :=
      max_eq_left hcap
    by_cases hlast : data.length - offset ≤ chunkCap max' namePayload first
    · -- what is left fits: one final round
      have hall : data.length ≤ offset + (data.length - offset) := by omega
      have hdrop : (data.drop offset).take (data.length - offset) = data.drop offset :=
        List.take_of_length_le (by rw [List.length_drop])
      rw [putLoop_turn max' namePayload data offset offset _ first (min_eq_left hlast),
        decide_eq_true hall, if_pos hall, hdrop,
        Chunking.chunks_of_le (by rw [hmax, List.length_drop]; exact hlast)]
      simp only [roundsOf, exchangeAll, List.isEmpty_nil, List.length_drop]
    · -- a full chunk, then the loop behind it
      have hlt : chunkCap max' namePayload first < data.length - offset := Nat.lt_of_not_le hlast
      have hmore : ¬ data.length ≤ offset + chunkCap max' namePayload first := by omega
      have hne := Chunking.chunks_ne_nil (chunkCap max' namePayload false)
        (chunkCap max' namePayload false) (data.drop (offset + chunkCap max' namePayload first))
      have hlen : ((data.drop offset).take (chunkCap max' namePayload first)).length
          = chunkCap max' namePayload first := by
        rw [List.length_take, List.length_drop]
        omega
      have hlong : max (chunkCap max' namePayload first) 1 < (data.drop offset).length := by
        rw [hmax, List.length_drop]
        exact hlt
      have hcut := Chunking.chunks_of_lt hlong (chunkCap max' namePayload false)
      rw [hmax, List.drop_drop] at hcut
      rw [putLoop_turn max' namePayload data offset offset _ first (min_eq_right hlt.le),
        decide_eq_false hmore, if_neg hmore,
        ih _ (by omega) (offset + chunkCap max' namePayload first) false (by omega) rfl, hcut]
      simp only [roundsOf, exchangeAll, List.isEmpty_eq_false_iff.mpr hne, hlen]

/-- **The loop is its rounds.** `put_file` first decides on all packets, as it were, and then
goes through them. -/
theorem putFile_eq (client : ObexOppClient) (name : String) (data : List UInt8) :
    client.putFile name data = exchangeAll (client.putRounds name data) :=
  putLoop_eq client.maxPacket (nameToUtf16 name) data 0 true (Nat.zero_le _)

end ObexOppClient

/-! ### One round -/

/-- The state after a round that got `r` for its packet. -/
def Pipe.answered (p : Pipe) (packet : List UInt8) (r : Response)
    (incoming : List (ReadEvent UInt8 IoError)) : Pipe :=
  { p with incoming, wire := p.wire ++ [.wrote packet, .got r] }

/-- The state after a round that was acknowledged by `r`. -/
def Pipe.acknowledged (p : Pipe) (round : Round) (r : Response)
    (incoming : List (ReadEvent UInt8 IoError)) : Pipe :=
  { p.answered round.packet r incoming with progress := p.progress ++ [round.sent] }

/-- Send a packet and wait for the response: what every operation of the client does. -/
def request (packet : List UInt8) : ObexM Response := do
  writeAll packet
  flush
  readResponse

/-- **One request.** When writing succeeds, what it comes to is read off the pending bytes. -/
theorem run_request {p : Pipe} (hfaults : p.faults = []) (packet : List UInt8) :
    match nextReply p.pending.1 with
    | .response r rest => ∃ incoming, delivered .unexpectedEof incoming = (rest, p.pending.2) ∧
        (request packet).run p = .ok r (p.answered packet r incoming)
    | .malformed => ∃ incoming, (request packet).run p
        = .error (.malformed "length < 3") { p with incoming, wire := p.wire ++ [.wrote packet] }
    | .ended => ∃ incoming, (request packet).run p
        = .error (.io p.pending.2) { p with incoming, wire := p.wire ++ [.wrote packet] } := by
  have hwrite : (request packet).run p
      = readResponse.run { p with wire := p.wire ++ [.wrote packet] } := by
    unfold request
    rw [Outcome.run_bind_ok (run_writeAll hfaults packet)]
    exact Outcome.run_bind_ok (run_writeOutcome hfaults)
  -- Writing and flushing leave the pending bytes alone, so reading meets what was pending before.
  have hread := run_readResponse { p with wire := p.wire ++ [.wrote packet] }
  change match nextReply p.pending.1 with | .response r rest => _ | .malformed => _ | .ended => _
    at hread
  rw [hwrite]
  cases hreply : nextReply p.pending.1 with
  | response r rest =>
    rw [hreply] at hread
    obtain ⟨incoming, hrun, hrest⟩ := hread
    refine ⟨incoming, hrest, ?_⟩
    rw [hrun]
    simp only [Pipe.answered, List.append_assoc, List.cons_append, List.nil_append]
  | malformed =>
    rw [hreply] at hread
    exact hread
  | ended =>
    rw [hreply] at hread
    exact hread

theorem exchange_eq (round : Round) : exchange round = (do
    let resp ← request round.packet
    if resp.code ≠ round.expected then
      throw (.rejected "put" resp.code)
    onProgress round.sent) := by
  simp only [exchange, request, bind_assoc]

/-- **One round.** When writing succeeds, what a round does is read off the next response. -/
theorem run_exchange {p : Pipe} (hfaults : p.faults = []) (round : Round) :
    match nextReply p.pending.1 with
    | .response r rest => ∃ incoming, delivered .unexpectedEof incoming = (rest, p.pending.2) ∧
        (exchange round).run p =
          if r.code = round.expected then .ok () (p.acknowledged round r incoming)
          else .error (.rejected "put" r.code) (p.answered round.packet r incoming)
    | .malformed => ∃ incoming, (exchange round).run p
        = .error (.malformed "length < 3")
            { p with incoming, wire := p.wire ++ [.wrote round.packet] }
    | .ended => ∃ incoming, (exchange round).run p
        = .error (.io p.pending.2)
            { p with incoming, wire := p.wire ++ [.wrote round.packet] } := by
  have hrequest := run_request hfaults round.packet
  rw [exchange_eq]
  cases hreply : nextReply p.pending.1 with
  | response r rest =>
    rw [hreply] at hrequest
    obtain ⟨incoming, hrest, hrun⟩ := hrequest
    refine ⟨incoming, hrest, ?_⟩
    rw [Outcome.run_bind_ok hrun]
    -- A response with another code is read as well, but ends the exchange.
    by_cases hcode : r.code = round.expected
    · rw [if_pos hcode, if_neg (not_not_intro hcode), run_onProgress]
      rfl
    · rw [if_neg hcode, if_pos hcode, Outcome.run_bind_error (Outcome.run_throw _ _)]
  | malformed =>
    rw [hreply] at hrequest
    obtain ⟨incoming, hrun⟩ := hrequest
    exact ⟨incoming, Outcome.run_bind_error hrun⟩
  | ended =>
    rw [hreply] at hrequest
    obtain ⟨incoming, hrun⟩ := hrequest
    exact ⟨incoming, Outcome.run_bind_error hrun⟩

/-! ### What a successful exchange wrote -/

/-- The packets written over a stretch of wire. -/
def writtenPackets (wire : List WireStep) : List (List UInt8) :=
  wire.filterMap fun
    | .wrote packet => some packet
    | .got _ => none

@[simp] theorem writtenPackets_append (w₁ w₂ : List WireStep) :
    writtenPackets (w₁ ++ w₂) = writtenPackets w₁ ++ writtenPackets w₂ :=
  List.filterMap_append

theorem wire_of_writeOutcome_ok {p p' : Pipe} (h : writeOutcome.run p = .ok () p') :
    p'.wire = p.wire := by
  rcases run_writeOutcome_cases p with ⟨faults, hrun⟩ | ⟨e, faults, hrun⟩
  · rw [hrun] at h
    injection h with _ hp
    rw [← hp]
  · rw [hrun] at h
    exact absurd h (by simp)

theorem wire_of_writeAll_ok {packet : List UInt8} {p p' : Pipe}
    (h : (writeAll packet).run p = .ok () p') : p'.wire = p.wire ++ [.wrote packet] := by
  obtain ⟨_, q, hq, hlog⟩ := Outcome.exists_of_run_bind_ok h
  rw [run_logStep] at hlog
  injection hlog with _ hp
  rw [← hp, wire_of_writeOutcome_ok hq]

theorem wire_of_readResponse_ok {r : Response} {p p' : Pipe}
    (h : readResponse.run p = .ok r p') : p'.wire = p.wire ++ [.got r] := by
  have hread := run_readResponse p
  -- Only a whole response is a success, and it is then on the wire.
  cases hreply : nextReply p.pending.1 with
  | response r' rest =>
    rw [hreply] at hread
    obtain ⟨incoming, hrun, -⟩ := hread
    rw [h] at hrun
    injection hrun with hr hp
    rw [hp, hr]
  | malformed =>
    rw [hreply] at hread
    obtain ⟨incoming, hrun⟩ := hread
    exact absurd (h.symm.trans hrun) (by simp)
  | ended =>
    rw [hreply] at hread
    obtain ⟨incoming, hrun⟩ := hread
    exact absurd (h.symm.trans hrun) (by simp)

/-- A successful round wrote its packet, got one response, and nothing else passed. -/
theorem wire_of_exchange_ok {round : Round} {p p' : Pipe}
    (h : (exchange round).run p = .ok () p') :
    ∃ r, p'.wire = p.wire ++ [.wrote round.packet, .got r] := by
  -- A success went through all the steps; each says what it added to the wire.
  obtain ⟨_, p₁, hwrite, h⟩ := Outcome.exists_of_run_bind_ok h
  obtain ⟨_, p₂, hflush, h⟩ := Outcome.exists_of_run_bind_ok h
  obtain ⟨r, p₃, hread, h⟩ := Outcome.exists_of_run_bind_ok h
  refine ⟨r, ?_⟩
  have hwire : p₃.wire = p.wire ++ [.wrote round.packet, .got r] := by
    rw [wire_of_readResponse_ok hread, wire_of_writeOutcome_ok hflush, wire_of_writeAll_ok hwrite]
    simp
  rw [← hwire]
  by_cases hcode : r.code = round.expected
  · rw [if_neg (not_not_intro hcode), run_onProgress] at h
    injection h with _ hp
    rw [← hp]
  · rw [if_pos hcode, Outcome.run_bind_error (Outcome.run_throw _ _)] at h
    exact absurd h (by simp)

/-- **A successful exchange wrote the packets of its rounds**, in order and nothing else. -/
theorem writtenPackets_of_exchangeAll_ok {rounds : List Round} {p p' : Pipe}
    (h : (exchangeAll rounds).run p = .ok () p') :
    writtenPackets p'.wire = writtenPackets p.wire ++ rounds.map Round.packet := by
  -- Round after round, each adds its packet and a response.
  induction rounds generalizing p with
  | nil =>
    injection h with _ hp
    rw [← hp, List.map_nil, List.append_nil]
  | cons round rounds ih =>
    obtain ⟨_, q, hround, hrest⟩ := Outcome.exists_of_run_bind_ok h
    obtain ⟨r, hwire⟩ := wire_of_exchange_ok hround
    rw [ih hrest, hwire, writtenPackets_append, List.append_assoc]
    rfl

end ObexOpp
end Pax
