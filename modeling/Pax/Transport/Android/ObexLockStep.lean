import Pax.Transport.Android.ObexExchange

/-!
# The lock-step of a PUT

What `putFile` does against an arbitrary peer when its writes succeed. The peer is the sequence of
bytes its reads deliver; nothing is assumed about these bytes or about how they are cut.

The bytes are compared with the rounds of the transfer. `Acknowledges` says that the bytes begin
with responses which carry, one by one, the codes the first rounds have to be answered with. Two
facts meet here. Over the acknowledged rounds the client reads exactly these responses, one behind
each packet, and goes on behind them (`run_exchangeAll_acknowledged`, by induction on the
responses). And every byte sequence acknowledges a maximal number of rounds, behind which it either
has answered everything or deviates (`exists_acknowledged`, by induction on the rounds). The first
deviation decides the outcome.
-/

namespace Pax
namespace ObexOpp

open Segments (ReadEvent delivered)

/-! ### Acknowledged rounds -/

/-- The bytes begin with the responses `acked`, followed by `tail`, and these responses carry the
codes the first rounds have to be answered with. -/
structure Acknowledges (bytes : List UInt8) (rounds : List Round) (acked : List Response)
    (tail : List UInt8) : Prop where
  fits : ∀ r ∈ acked, r.Fits
  split : bytes = (acked.map Response.encode).flatten ++ tail
  codes : acked.map Response.code = (rounds.take acked.length).map Round.expected

/-- What passes over the wire while rounds are acknowledged: packet, response, packet, response. -/
def turns (rounds : List Round) (acked : List Response) : List WireStep :=
  (rounds.zip acked).flatMap fun t => [.wrote t.1.packet, .got t.2]

/-- The state of the pipe behind the acknowledged rounds: each of their packets on the wire, with
its response. -/
def Pipe.behind (p : Pipe) (rounds : List Round) (acked : List Response)
    (incoming : List (ReadEvent UInt8 IoError)) : Pipe :=
  { p with
    incoming
    wire := p.wire ++ turns rounds acked
    progress := p.progress ++ (rounds.take acked.length).map Round.sent }

theorem Acknowledges.nil (bytes : List UInt8) (rounds : List Round) :
    Acknowledges bytes rounds [] bytes where
  fits := fun _ h => absurd h List.not_mem_nil
  split := rfl
  codes := rfl

/-- One more acknowledged round in front. -/
theorem Acknowledges.cons {r : Response} {round : Round} {rest tail : List UInt8}
    {rounds : List Round} {acked : List Response} (hr : r.Fits) (hcode : r.code = round.expected)
    (h : Acknowledges rest rounds acked tail) :
    Acknowledges (r.encode ++ rest) (round :: rounds) (r :: acked) tail where
  fits := by
    intro q hq
    rcases List.mem_cons.mp hq with rfl | hq
    · exact hr
    · exact h.fits q hq
  split := by
    rw [h.split, List.map_cons, List.flatten_cons, List.append_assoc]
  codes := by
    rw [List.map_cons, h.codes, hcode]
    rfl

/-- The first acknowledged round, and the others behind it. -/
theorem Acknowledges.uncons {bytes tail : List UInt8} {rounds : List Round} {r : Response}
    {acked : List Response} (h : Acknowledges bytes rounds (r :: acked) tail) :
    ∃ round rounds' rest, rounds = round :: rounds' ∧ bytes = r.encode ++ rest ∧ r.Fits ∧
      r.code = round.expected ∧ Acknowledges rest rounds' acked tail := by
  -- A response acknowledges a round, so that there is one.
  cases rounds with
  | nil => exact absurd h.codes (by simp)
  | cons round rounds' =>
    have hcodes := h.codes
    rw [List.map_cons, List.length_cons, List.take_succ_cons, List.map_cons] at hcodes
    injection hcodes with hcode hcodes
    refine ⟨round, rounds', (acked.map Response.encode).flatten ++ tail, rfl, ?_,
      h.fits r List.mem_cons_self, hcode, ?_⟩
    · rw [h.split, List.map_cons, List.flatten_cons, List.append_assoc]
    · exact ⟨fun q hq => h.fits q (List.mem_cons_of_mem r hq), rfl, hcodes⟩

/-- No more rounds are acknowledged than there are. -/
theorem Acknowledges.length_le {bytes tail : List UInt8} {rounds : List Round}
    {acked : List Response} (h : Acknowledges bytes rounds acked tail) :
    acked.length ≤ rounds.length := by
  have hlen := congrArg List.length h.codes
  rw [List.length_map, List.length_map, List.length_take] at hlen
  omega

/-- **The acknowledged rounds.** The client goes through them, reading one response behind each
packet, and continues with the rounds and the bytes that are left. -/
theorem run_exchangeAll_acknowledged {p : Pipe} (hfaults : p.faults = []) {rounds : List Round}
    {acked : List Response} {tail : List UInt8}
    (h : Acknowledges p.pending.1 rounds acked tail) :
    ∃ incoming, delivered .unexpectedEof incoming = (tail, p.pending.2) ∧
      (exchangeAll rounds).run p
        = (exchangeAll (rounds.drop acked.length)).run (p.behind rounds acked incoming) := by
  -- the induction is on the responses: they say how many rounds are gone through
  induction acked generalizing p rounds with
  | nil =>
    refine ⟨p.incoming, ?_, ?_⟩
    · have hsplit : p.pending.1 = tail := h.split
      exact Prod.ext hsplit rfl
    · simp [Pipe.behind, turns]
  | cons r acked ih =>
    obtain ⟨round, rounds', rest, rfl, hbytes, hr, hcode, hrest⟩ := h.uncons
    have hround := run_exchange hfaults round
    rw [hbytes, nextReply_encode hr] at hround
    obtain ⟨incoming, hdelivered, hrun⟩ := hround
    rw [if_pos hcode] at hrun
    -- the state behind this round starts with the bytes behind its response
    have hfaults' : (p.acknowledged round r incoming).faults = [] := hfaults
    have hnext : Acknowledges (p.acknowledged round r incoming).pending.1 rounds' acked tail := by
      show Acknowledges (delivered _ incoming).1 _ _ _
      rw [hdelivered]
      exact hrest
    -- and it still ends as the stream did
    obtain ⟨incoming', hdelivered', hrun'⟩ := ih hfaults' hnext
    refine ⟨incoming', ?_, ?_⟩
    · rw [hdelivered']
      show (tail, (delivered _ incoming).2) = _
      rw [hdelivered]
    · show (exchange round >>= fun _ => exchangeAll rounds').run p = _
      rw [Outcome.run_bind_ok hrun, hrun']
      simp [Pipe.behind, Pipe.acknowledged, Pipe.answered, turns]

/-- The next response of the bytes, if there is one, is not the one the round waits for. -/
def Deviates (round : Round) (bytes : List UInt8) : Prop :=
  ∀ r rest, nextReply bytes = .response r rest → r.code ≠ round.expected

/-- **Every peer acknowledges a maximal number of rounds**: it answers all of them, or deviates
behind the last one it acknowledges. -/
theorem exists_acknowledged (rounds : List Round) (bytes : List UInt8) :
    ∃ acked tail, Acknowledges bytes rounds acked tail ∧
      (rounds.drop acked.length = [] ∨
        ∃ round rest, rounds.drop acked.length = round :: rest ∧ Deviates round tail) := by
  -- On the rounds, up to the first one that is not answered as it expects.
  induction rounds generalizing bytes with
  | nil => exact ⟨[], bytes, Acknowledges.nil bytes [], .inl rfl⟩
  | cons round rounds ih =>
    by_cases hdev : Deviates round bytes
    · exact ⟨[], bytes, Acknowledges.nil bytes _, .inr ⟨round, rounds, rfl, hdev⟩⟩
    · -- no deviation: the next response is there, and it has the right code
      unfold Deviates at hdev
      push Not at hdev
      obtain ⟨r, rest, hreply, hcode⟩ := hdev
      obtain ⟨hr, rfl⟩ := eq_encode_of_nextReply hreply
      obtain ⟨acked, tail, hacked, hend⟩ := ih rest
      exact ⟨r :: acked, tail, hacked.cons hr hcode, hend⟩

/-! ### How a PUT ends -/

/-- How the exchange of `rounds` from a fresh pipe ends against a peer that delivers
`stream`. In every case the wire alternates between packets and whole responses, and the
acknowledged rounds, and only these, have been reported. -/
inductive Ended (rounds : List Round) (stream : List UInt8 × IoError) :
    EStateM.Result ObexError Pipe Unit → Prop
  /-- Every round is acknowledged. -/
  | ok {acked : List Response} {tail : List UInt8} {p : Pipe}
      (hacked : Acknowledges stream.1 rounds acked tail)
      (hall : acked.length = rounds.length)
      (hwire : p.wire = turns rounds acked)
      (hprogress : p.progress = rounds.map Round.sent)
      (hleft : p.pending = (tail, stream.2)) : Ended rounds stream (.ok () p)
  /-- The first deviation is a response with another code. -/
  | rejected {acked : List Response} {tail rest : List UInt8} {round : Round} {r : Response}
      {p : Pipe}
      (hacked : Acknowledges stream.1 rounds acked tail)
      (hround : rounds[acked.length]? = some round)
      (hreply : nextReply tail = .response r rest)
      (hcode : r.code ≠ round.expected)
      (hwire : p.wire = turns rounds acked ++ [.wrote round.packet, .got r])
      (hprogress : p.progress = (rounds.take acked.length).map Round.sent)
      (hleft : p.pending = (rest, stream.2)) :
      Ended rounds stream (.error (.rejected "put" r.code) p)
  /-- The first deviation is a packet that declares a length below 3. -/
  | malformed {acked : List Response} {tail : List UInt8} {round : Round} {p : Pipe}
      (hacked : Acknowledges stream.1 rounds acked tail)
      (hround : rounds[acked.length]? = some round)
      (hreply : nextReply tail = .malformed)
      (hwire : p.wire = turns rounds acked ++ [.wrote round.packet])
      (hprogress : p.progress = (rounds.take acked.length).map Round.sent) :
      Ended rounds stream (.error (.malformed "length < 3") p)
  /-- The stream ends before the response is complete. -/
  | io {acked : List Response} {tail : List UInt8} {round : Round} {p : Pipe}
      (hacked : Acknowledges stream.1 rounds acked tail)
      (hround : rounds[acked.length]? = some round)
      (hreply : nextReply tail = .ended)
      (hwire : p.wire = turns rounds acked ++ [.wrote round.packet])
      (hprogress : p.progress = (rounds.take acked.length).map Round.sent) :
      Ended rounds stream (.error (.io stream.2) p)

/-- **Every exchange ends in one of these ways**, whatever bytes the peer sends and however they
are cut into reads. -/
theorem ended_exchangeAll (rounds : List Round) (evs : List (ReadEvent UInt8 IoError)) :
    Ended rounds (delivered .unexpectedEof evs) ((exchangeAll rounds).run (Pipe.start evs [])) := by
  obtain ⟨acked, tail, hacked, hend⟩ :=
    exists_acknowledged rounds (Pipe.start evs []).pending.1
  obtain ⟨incoming, hdelivered, hrun⟩ := run_exchangeAll_acknowledged rfl hacked
  rw [hrun]
  rcases hend with hall | ⟨round, later, hround, hdev⟩
  · -- nothing is left to exchange
    have hlen : acked.length = rounds.length :=
      le_antisymm hacked.length_le (List.drop_eq_nil_iff.mp hall)
    rw [hall]
    refine .ok hacked hlen rfl ?_ hdelivered
    show [] ++ (rounds.take acked.length).map Round.sent = _
    rw [hlen, List.take_length, List.nil_append]
  · -- the next response is not the one the round waits for
    have hget : rounds[acked.length]? = some round := by
      rw [← List.head?_drop, hround, List.head?_cons]
    rw [hround]
    have hnext := run_exchange (p := (Pipe.start evs []).behind rounds acked incoming) rfl round
    have hpending : ((Pipe.start evs []).behind rounds acked incoming).pending
        = (tail, (delivered .unexpectedEof evs).2) := hdelivered
    rw [hpending] at hnext
    cases hreply : nextReply tail with
    | response r rest =>
      -- a whole response is read before its code is looked at
      rw [hreply] at hnext
      obtain ⟨incoming', hdelivered', hexchange⟩ := hnext
      rw [if_neg (hdev r rest hreply)] at hexchange
      rw [exchangeAll, Outcome.run_bind_error hexchange]
      exact .rejected hacked hget hreply (hdev r rest hreply) rfl rfl hdelivered'
    | malformed =>
      rw [hreply] at hnext
      obtain ⟨incoming', hexchange⟩ := hnext
      rw [exchangeAll, Outcome.run_bind_error hexchange]
      exact .malformed hacked hget hreply rfl rfl
    | ended =>
      rw [hreply] at hnext
      obtain ⟨incoming', hexchange⟩ := hnext
      rw [exchangeAll, Outcome.run_bind_error hexchange]
      exact .io hacked hget hreply rfl rfl

/-! ### The rounds of a payload -/

namespace ObexOppClient

/-- Every packet but the last is acknowledged by CONTINUE, the last one by SUCCESS. -/
theorem map_expected_roundsOf (namePayload : List UInt8) (total : ℕ) (first : Bool) (offset : ℕ)
    {chunks : List (List UInt8)} (hne : chunks ≠ []) :
    (roundsOf namePayload total first offset chunks).map Round.expected
      = List.replicate (chunks.length - 1) RESP_CONTINUE ++ [RESP_SUCCESS] := by
  induction chunks generalizing first offset with
  | nil => exact absurd rfl hne
  | cons chunk chunks ih =>
    -- whether a packet is the last one depends on the chunk behind it
    cases chunks with
    | nil => rfl
    | cons next chunks =>
      rw [roundsOf, List.map_cons, ih false _ (List.cons_ne_nil next chunks)]
      rfl

/-- The reported counts are the cumulative sizes of the pieces. -/
theorem map_sent_roundsOf (namePayload : List UInt8) (total : ℕ) (first : Bool) (offset : ℕ)
    (chunks : List (List UInt8)) :
    (roundsOf namePayload total first offset chunks).map Round.sent
      = Chunking.runningTotals offset chunks := by
  induction chunks generalizing first offset with
  | nil => rfl
  | cons chunk chunks ih => rw [roundsOf, List.map_cons, ih, Chunking.runningTotals_cons]

theorem length_roundsOf (namePayload : List UInt8) (total : ℕ) (first : Bool) (offset : ℕ)
    (chunks : List (List UInt8)) :
    (roundsOf namePayload total first offset chunks).length = chunks.length := by
  induction chunks generalizing first offset with
  | nil => rfl
  | cons chunk chunks ih => rw [roundsOf, List.length_cons, List.length_cons, ih]

variable (client : ObexOppClient) (name : String) (data : List UInt8)

theorem map_expected_putRounds :
    (client.putRounds name data).map Round.expected
      = List.replicate ((client.putRounds name data).length - 1) RESP_CONTINUE
        ++ [RESP_SUCCESS] := by
  unfold putRounds
  rw [map_expected_roundsOf _ _ _ _ (putChunks_ne_nil _ _ data), length_roundsOf]

theorem map_sent_putRounds :
    (client.putRounds name data).map Round.sent
      = Chunking.runningTotals 0 (putChunks client.maxPacket (nameToUtf16 name) data) :=
  map_sent_roundsOf _ _ _ _ _

/-- A non-empty payload is reported in strictly increasing counts. -/
theorem pairwise_sent (hne : data ≠ []) :
    ((client.putRounds name data).map Round.sent).Pairwise (· < ·) := by
  rw [map_sent_putRounds]
  exact Chunking.pairwise_runningTotals (Chunking.ne_nil_of_mem_chunks hne)

/-- The last count that is reported is the length of the payload. -/
theorem getLast?_sent :
    ((client.putRounds name data).map Round.sent).getLast? = some data.length := by
  rw [map_sent_putRounds, Chunking.getLast?_runningTotals (putChunks_ne_nil _ _ data),
    flatten_putChunks, Nat.zero_add]

/-- An empty payload takes one packet, too, and its acknowledgement is reported as 0 bytes. -/
theorem map_sent_nil : (client.putRounds name []).map Round.sent = [0] := by
  rw [map_sent_putRounds]
  unfold putChunks
  rw [Chunking.chunks_of_le (Nat.zero_le _)]
  rfl

/-- **Lock-step.** For every name, payload and negotiated packet size and every peer, however its
bytes are cut into reads, a PUT whose writes succeed ends in one of the ways of `Ended`: on the
wire every packet is followed by one whole response up to the first deviation, and exactly the
acknowledged chunks are reported. It succeeds exactly when the responses to all packets but the
last carry CONTINUE and the last one carries SUCCESS. -/
theorem putFile_lockStep (evs : List (ReadEvent UInt8 IoError)) :
    let rounds := client.putRounds name data
    let stream := delivered .unexpectedEof evs
    let result := (client.putFile name data).run (Pipe.start evs [])
    Ended rounds stream result ∧
      ((∃ p, result = .ok () p) ↔
        ∃ (responses : List Response) (tail : List UInt8), (∀ r ∈ responses, r.Fits) ∧
          stream.1 = (responses.map Response.encode).flatten ++ tail ∧
          responses.map Response.code
            = List.replicate (rounds.length - 1) RESP_CONTINUE ++ [RESP_SUCCESS]) ∧
      rounds.map Round.expected
        = List.replicate (rounds.length - 1) RESP_CONTINUE ++ [RESP_SUCCESS] ∧
      rounds.map Round.sent
        = Chunking.runningTotals 0 (putChunks client.maxPacket (nameToUtf16 name) data) ∧
      (data ≠ [] → (rounds.map Round.sent).Pairwise (· < ·)) ∧
      (rounds.map Round.sent).getLast? = some data.length ∧
      (data = [] → rounds.map Round.sent = [0]) := by
  intro rounds stream result
  have hended : Ended rounds stream result := by
    have h := ended_exchangeAll rounds evs
    rwa [← putFile_eq] at h
  have hcodes := map_expected_putRounds client name data
  refine ⟨hended, ⟨?_, ?_⟩, hcodes, map_sent_putRounds client name data,
    pairwise_sent client name data, getLast?_sent client name data, ?_⟩
  · -- a success acknowledged every round
    rintro ⟨p, hp⟩
    rw [hp] at hended
    cases hended with
    | @ok acked tail _ hacked hall =>
      refine ⟨acked, tail, hacked.fits, hacked.split, ?_⟩
      rw [hacked.codes, hall, List.take_length]
      exact hcodes
  · -- responses with all the right codes acknowledge every round
    rintro ⟨responses, tail, hfits, hsplit, hresponses⟩
    have hlen : responses.length = rounds.length := by
      have h := congrArg List.length (hresponses.trans hcodes.symm)
      rwa [List.length_map, List.length_map] at h
    have hacked : Acknowledges (Pipe.start evs []).pending.1 rounds responses tail :=
      ⟨hfits, hsplit, by rw [hlen, List.take_length]; exact hresponses.trans hcodes.symm⟩
    obtain ⟨incoming, -, hrun⟩ := run_exchangeAll_acknowledged rfl hacked
    refine ⟨(Pipe.start evs []).behind rounds responses incoming, ?_⟩
    show (client.putFile name data).run _ = _
    rw [putFile_eq, hrun, hlen, List.drop_length]
    rfl
  · rintro rfl
    exact map_sent_nil client name

end ObexOppClient

end ObexOpp
end Pax
