import Pax.Transport.Android.ObexDecode

/-!
# The sizes of PUT packets

What `put_file` writes must stay within the negotiated packet size and state its own lengths
(`Truthful`). Packets behind the first do. The first one also carries the name, which is not cut to
what is negotiated: where the name leaves no room, `chunk_cap` still lets one byte through, and the
packet is too long. The Length header has 32 bits, whatever the payload.

`truthful_iff` says that nothing else goes wrong. It is about all that is written over any pipe,
however the peer answers: these are packets of the object (`mem_putPackets_of_mem_written`), and the
first one is written in any case (`mem_written_of_head`).
-/

namespace Pax
namespace ObexOpp

open Segments (ReadEvent)
open ObexDecode (sizedHeader length_sizedHeader putFrames putPacket_eq)

/-! ### What any run writes -/

/-- The computation writes no packet, whatever comes of it. -/
def Silent {α : Type} (x : ObexM α) : Prop :=
  ∀ p, writtenPackets (Outcome.split (x.run p)).2.wire = writtenPackets p.wire

variable {α β : Type}

theorem Silent.bind {x : ObexM α} {f : α → ObexM β} (hx : Silent x) (hf : ∀ a, Silent (f a)) :
    Silent (x >>= f) := by
  intro p
  have hfirst := hx p
  cases hrun : x.run p with
  | ok a q =>
    rw [hrun] at hfirst
    rw [Outcome.run_bind_ok hrun]
    exact (hf a q).trans hfirst
  | error e q =>
    rw [hrun] at hfirst
    rw [Outcome.run_bind_error hrun]
    exact hfirst

theorem silent_writeOutcome : Silent writeOutcome := by
  intro p
  rcases run_writeOutcome_cases p with ⟨faults, hrun⟩ | ⟨e, faults, hrun⟩
  · rw [hrun]
    rfl
  · rw [hrun]
    rfl

theorem silent_readResponse : Silent readResponse := by
  intro p
  have hread := run_readResponse p
  -- To read a response writes nothing, whatever comes.
  cases hreply : nextReply p.pending.1 with
  | response r rest =>
    rw [hreply] at hread
    obtain ⟨incoming, hrun, -⟩ := hread
    rw [hrun]
    exact (writtenPackets_append p.wire [.got r]).trans (List.append_nil _)
  | malformed =>
    rw [hreply] at hread
    obtain ⟨incoming, hrun⟩ := hread
    rw [hrun]
    rfl
  | ended =>
    rw [hreply] at hread
    obtain ⟨incoming, hrun⟩ := hread
    rw [hrun]
    rfl

/-- What follows the writing of a round. -/
theorem silent_answer (round : Round) : Silent (do
    flush
    let resp ← readResponse
    if resp.code ≠ round.expected then
      throw (.rejected "put" resp.code)
    onProgress round.sent) := by
  refine silent_writeOutcome.bind fun _ => silent_readResponse.bind fun resp => ?_
  split
  · intro p
    rfl
  · intro p
    rfl

/-- A round writes its packet, or fails to write it and does nothing else. -/
theorem writtenPackets_exchange (round : Round) (p : Pipe) :
    (∃ e q, (exchange round).run p = .error e q ∧ writtenPackets q.wire = writtenPackets p.wire) ∨
      writtenPackets (Outcome.split ((exchange round).run p)).2.wire
        = writtenPackets p.wire ++ [round.packet] := by
  -- The write fails, or the packet is written and its answer writes nothing more.
  rcases run_writeOutcome_cases p with ⟨faults, hrun⟩ | ⟨e, faults, hrun⟩
  · have hwrite : (writeAll round.packet).run p
        = .ok () { p with faults, wire := p.wire ++ [.wrote round.packet] } := by
      rw [writeAll, Outcome.run_bind_ok hrun]
      rfl
    have hrest := silent_answer round { p with faults, wire := p.wire ++ [.wrote round.packet] }
    rw [← Outcome.run_bind_ok (f := fun _ => _) hwrite] at hrest
    exact .inr (hrest.trans (writtenPackets_append p.wire _))
  · have hwrite : (writeAll round.packet).run p = .error (.io e) { p with faults } := by
      rw [writeAll, Outcome.run_bind_error hrun]
    exact .inl ⟨_, _, Outcome.run_bind_error hwrite, rfl⟩

/-- **Whatever comes of an exchange, it writes the first packets of its rounds**, in order and
nothing else. -/
theorem writtenPackets_exchangeAll (rounds : List Round) (p : Pipe) :
    ∃ n, writtenPackets (Outcome.split ((exchangeAll rounds).run p)).2.wire
      = writtenPackets p.wire ++ (rounds.map Round.packet).take n := by
  induction rounds generalizing p with
  | nil => exact ⟨0, (List.append_nil _).symm⟩
  | cons round rounds ih =>
    -- a round may fail before its packet is written, or behind it
    rcases writtenPackets_exchange round p with ⟨e, q, hrun, hwritten⟩ | hwritten
    · refine ⟨0, ?_⟩
      rw [exchangeAll, Outcome.run_bind_error hrun, List.take_zero, List.append_nil]
      exact hwritten
    · rw [exchangeAll]
      cases hrun : (exchange round).run p with
      | ok u q =>
        rw [hrun] at hwritten
        obtain ⟨n, hn⟩ := ih q
        refine ⟨n + 1, ?_⟩
        rw [Outcome.run_bind_ok hrun, hn]
        change writtenPackets q.wire = _ at hwritten
        rw [hwritten, List.append_assoc]
        rfl
      | error e q =>
        rw [hrun] at hwritten
        refine ⟨1, ?_⟩
        rw [Outcome.run_bind_error hrun]
        exact hwritten

/-- The packets `put_file` writes over a fresh pipe. -/
def ObexOppClient.written (client : ObexOppClient) (name : String) (data : List UInt8)
    (incoming : List (ReadEvent UInt8 IoError)) (faults : List (Option IoError)) :
    List (List UInt8) :=
  writtenPackets (Outcome.split ((client.putFile name data).run (.start incoming faults))).2.wire

/-- All that is ever written are packets of the object, in whichever way the peer answers. -/
theorem mem_putPackets_of_mem_written {client : ObexOppClient} {name : String} {data : List UInt8}
    {incoming : List (ReadEvent UInt8 IoError)} {faults : List (Option IoError)}
    {packet : List UInt8} (h : packet ∈ client.written name data incoming faults) :
    packet ∈ client.putPackets name data := by
  obtain ⟨n, hn⟩ := writtenPackets_exchangeAll (client.putRounds name data)
    (.start incoming faults)
  rw [ObexOppClient.written, ObexOppClient.putFile_eq, hn] at h
  exact List.mem_of_mem_take h

/-- The first packet is written before anything is read. -/
theorem mem_written_of_head {client : ObexOppClient} {name : String} {data packet : List UInt8}
    (h : (client.putPackets name data).head? = some packet) :
    packet ∈ client.written name data [] [] := by
  rw [ObexOppClient.written, ObexOppClient.putFile_eq]
  rw [ObexOppClient.putPackets] at h
  cases hrounds : client.putRounds name data with
  | nil =>
    rw [hrounds] at h
    cases h
  | cons round rounds =>
    rw [hrounds] at h
    obtain rfl : round.packet = packet := Option.some.inj h
    -- Without any answer the first packet is written all the same.
    have hrun := run_exchange (p := .start [] []) rfl round
    obtain ⟨incoming, hrun⟩ := hrun
    rw [exchangeAll, Outcome.run_bind_error hrun]
    exact List.mem_singleton_self _

/-! ### Truthful packets -/

/-- A packet or header that states its own length: an identifier, 16 bits of length, the rest. -/
def Sized (id : UInt8) (value bytes : List UInt8) : Prop :=
  ∃ n : UInt16, bytes = id :: (Bytes.toBe16 n ++ value) ∧ n.toNat = bytes.length

/-- The headers in front of the body: none, or Name and Length. -/
inductive Describes (name : String) (total : ℕ) : List UInt8 → Prop
  | nothing : Describes name total []
  | object (header : List UInt8) (n : UInt32) (hname : Sized HI_NAME (nameToUtf16 name) header)
    (htotal : n.toNat = total) : Describes name total (header ++ HI_LENGTH :: Bytes.toBe32 n)

/-- A PUT packet within `max'` bytes whose lengths are true: its own, those of Name and Body, and
the Length of the object. -/
structure Truthful (max' : ℕ) (name : String) (total : ℕ) (packet : List UInt8) : Prop where
  within : packet.length ≤ max'
  sized : ∃ opcode headers body id chunk, Sized opcode (headers ++ body) packet ∧
    Describes name total headers ∧ Sized id chunk body ∧ (id = HI_BODY ∨ id = HI_END_OF_BODY)

/-- The largest packet the peer announces in the body of its CONNECT response. -/
def announced (body : List UInt8) : ℕ :=
  if 4 ≤ body.length then (Bytes.ofBe16 (body.getD 2 0) (body.getD 3 0)).toNat else 255

/-- The packet size that is negotiated: the smaller of ours and the peer's, but at least 255. -/
def negotiated (body : List UInt8) : ℕ := max (min OUR_MAX_PACKET.toNat (announced body)) 255

theorem toNat_max (a b : UInt16) : (max a b).toNat = max a.toNat b.toNat := by
  show (if a ≤ b then b else a).toNat = _
  split
  · next h => exact (max_eq_right (UInt16.le_iff_toNat_le.mp h)).symm
  · next h => exact (max_eq_left (UInt16.lt_iff_toNat_lt.mp (UInt16.not_le.mp h)).le).symm

theorem toNat_min (a b : UInt16) : (min a b).toNat = min a.toNat b.toNat := by
  show (if a ≤ b then a else b).toNat = _
  split
  · next h => exact (min_eq_left (UInt16.le_iff_toNat_le.mp h)).symm
  · next h => exact (min_eq_right (UInt16.lt_iff_toNat_lt.mp (UInt16.not_le.mp h)).le).symm

theorem maxPacket_ofConnectBody (body : List UInt8) :
    (ObexOppClient.ofConnectBody body).maxPacket = negotiated body := by
  have hannounced : (if 4 ≤ body.length then Bytes.ofBe16 (body.getD 2 0) (body.getD 3 0)
      else 255 : UInt16).toNat = announced body := by
    unfold announced
    split <;> rfl
  have hours : OUR_MAX_PACKET.toNat = 0x2000 := rfl
  have hfloor : (255 : UInt16).toNat = 255 := rfl
  show (min OUR_MAX_PACKET (max _ 255)).toNat = _
  rw [toNat_min, toNat_max, hannounced, negotiated, hours, hfloor]
  omega

theorem sized_sizedHeader (id : UInt8) {value : List UInt8}
    (h : 3 + value.length < 2 ^ 16) : Sized id value (sizedHeader id value) :=
  ⟨.ofNat (3 + value.length), rfl, by rw [Bytes.toNat_ofNat16 h, length_sizedHeader]⟩

/-- How long a packet is: its own header, those of the object if it is the first one, and the
piece. -/
theorem length_putPacket (namePayload : List UInt8) (total : ℕ) (first isLast : Bool)
    (chunk : List UInt8) :
    (ObexOppClient.putPacket namePayload total first isLast chunk).length
      = (if first then ObexOppClient.bodyOverhead + ObexOppClient.firstExtra namePayload
          else ObexOppClient.bodyOverhead) + chunk.length := by
  rw [putPacket_eq, length_sizedHeader, putFrames, ObexOppClient.bodyOverhead,
    ObexOppClient.firstExtra]
  -- The first packet has the name and the length before its body.
  cases first with
  | true =>
    simp only [if_true, List.cons_append, List.nil_append, List.flatten_cons, List.flatten_nil,
      List.append_nil, List.length_append, List.length_cons, length_sizedHeader,
      Bytes.length_toBe32]
    omega
  | false =>
    simp only [Bool.false_eq_true, if_false, List.nil_append, List.flatten_singleton,
      length_sizedHeader]
    omega

/-- **A packet within a size that 16 bits can count is truthful**, but for the Length of a first
one. -/
theorem truthful_putPacket {max' : ℕ} {name : String} {total : ℕ} {first isLast : Bool}
    {chunk : List UInt8} (hmax : max' < 2 ^ 16) (htotal : first = true → total < 2 ^ 32)
    (hwithin : (ObexOppClient.putPacket (nameToUtf16 name) total first isLast chunk).length
      ≤ max') :
    Truthful max' name total
      (ObexOppClient.putPacket (nameToUtf16 name) total first isLast chunk) := by
  have hlength := hwithin
  rw [putPacket_eq, length_sizedHeader] at hlength
  have hsized := sized_sizedHeader (if isLast then OP_PUT ||| FINAL else OP_PUT)
    (hlength.trans_lt hmax)
  rw [length_putPacket, ObexOppClient.bodyOverhead, ObexOppClient.firstExtra] at hwithin
  -- The body fits into its own length field, as the whole packet does.
  have hchunk : 3 + chunk.length < 2 ^ 16 := by
    split at hwithin <;> omega
  have hbody := sized_sizedHeader (if isLast then HI_END_OF_BODY else HI_BODY) hchunk
  have hid : (if isLast then HI_END_OF_BODY else HI_BODY) = HI_BODY ∨
      (if isLast then HI_END_OF_BODY else HI_BODY) = HI_END_OF_BODY := by
    cases isLast with
    | true => exact .inr rfl
    -- Any packet but the first has a body only.
    | false => exact .inl rfl
  refine ⟨by rwa [putPacket_eq, length_sizedHeader], ?_⟩
  rw [putPacket_eq]
  cases first with
  | true =>
    rw [if_pos rfl] at hwithin
    have hlong : 3 + (nameToUtf16 name).length < 2 ^ 16 := by omega
    have hname := sized_sizedHeader HI_NAME hlong
    have hcount := Bytes.toNat_ofNat32 (htotal rfl)
    have hflat : (putFrames (nameToUtf16 name) total true isLast chunk).flatten
        = (sizedHeader HI_NAME (nameToUtf16 name)
            ++ HI_LENGTH :: Bytes.toBe32 (UInt32.ofNat total))
          ++ sizedHeader (if isLast then HI_END_OF_BODY else HI_BODY) chunk := by
      simp [putFrames]
    rw [hflat] at hsized ⊢
    exact ⟨_, _, _, _, chunk, hsized, .object _ _ hname hcount, hbody, hid⟩
  | false =>
    have hflat : (putFrames (nameToUtf16 name) total false isLast chunk).flatten
        = [] ++ sizedHeader (if isLast then HI_END_OF_BODY else HI_BODY) chunk := by
      simp [putFrames]
    rw [hflat] at hsized ⊢
    exact ⟨_, _, _, _, chunk, hsized, .nothing, hbody, hid⟩

/-- What stands behind the identifier and the length of a header. -/
theorem Sized.drop_three {id : UInt8} {value bytes : List UInt8} (h : Sized id value bytes) :
    bytes.drop 3 = value := by
  obtain ⟨n, rfl, -⟩ := h
  rfl

/-- A first packet tells the length of the object if 32 bits can count it. -/
theorem total_lt_of_truthful {max' : ℕ} {name : String} {total : ℕ} {isLast : Bool}
    {chunk : List UInt8}
    (h : Truthful max' name total
      (ObexOppClient.putPacket (nameToUtf16 name) total true isLast chunk)) :
    total < 2 ^ 32 := by
  obtain ⟨-, opcode, headers, body, id, chunk', hpacket, hheaders, hbody, hid⟩ := h
  have hcontent := hpacket.drop_three
  -- The packet starts with a name, and behind that is the length.
  have hactual : (ObexOppClient.putPacket (nameToUtf16 name) total true isLast chunk).drop 3
      = sizedHeader HI_NAME (nameToUtf16 name) ++
        (HI_LENGTH :: Bytes.toBe32 (UInt32.ofNat total)
          ++ sizedHeader (if isLast then HI_END_OF_BODY else HI_BODY) chunk) := by
    rw [putPacket_eq]
    show (putFrames (nameToUtf16 name) total true isLast chunk).flatten = _
    simp [putFrames]
  rw [hactual] at hcontent
  cases hheaders with
  | nothing =>
    -- a body does not begin with the identifier of Name
    obtain ⟨n, rfl, -⟩ := hbody
    obtain rfl : HI_NAME = id := (List.cons.inj hcontent).1
    exact absurd hid (by decide)
  | object header n hname htotal =>
    have hlength : (sizedHeader HI_NAME (nameToUtf16 name)).length = header.length := by
      obtain ⟨m, rfl, -⟩ := hname
      rfl
    rw [List.append_assoc] at hcontent
    have hrest := (List.append_inj hcontent hlength).2
    have hcount := (List.append_inj (List.cons.inj hrest).2 rfl).1
    rw [← htotal]
    exact n.toNat_lt

/-! ### The packets of an object -/

/-- The headers of the first packet leave room for a byte of the body, if it has one. -/
def HeadersFit (max' : ℕ) (name : String) (data : List UInt8) : Prop :=
  ObexOppClient.bodyOverhead + ObexOppClient.firstExtra (nameToUtf16 name) + min data.length 1
    ≤ max'

theorem exists_of_mem_roundsOf {namePayload : List UInt8} {total offset : ℕ}
    {chunks : List (List UInt8)} {packet : List UInt8}
    (h : packet ∈ (ObexOppClient.roundsOf namePayload total false offset chunks).map
      Round.packet) :
    ∃ isLast, ∃ chunk ∈ chunks,
      packet = ObexOppClient.putPacket namePayload total false isLast chunk := by
  induction chunks generalizing offset with
  | nil => exact absurd h List.not_mem_nil
  | cons chunk chunks ih =>
    rcases List.mem_cons.mp h with rfl | h
    · exact ⟨_, chunk, List.mem_cons_self, rfl⟩
    · obtain ⟨isLast, chunk', hmem, rfl⟩ := ih h
      exact ⟨isLast, chunk', List.mem_cons_of_mem _ hmem, rfl⟩

/-- The pieces of a payload: the first has what its packet has room for, and at least a byte, and
the others leave room for their headers. -/
theorem exists_putChunks {max' : ℕ} (hmax : 255 ≤ max') (namePayload data : List UInt8) :
    ∃ chunk chunks, ObexOppClient.putChunks max' namePayload data = chunk :: chunks ∧
      chunk.length = min data.length (ObexOppClient.chunkCap max' namePayload true) ∧
      ∀ c ∈ chunks, ObexOppClient.bodyOverhead + c.length ≤ max' := by
  have hcap := ObexOppClient.one_le_chunkCap max' namePayload true
  have htail := @Chunking.length_le_of_mem_tail_chunks _
    (ObexOppClient.chunkCap max' namePayload true)
    (ObexOppClient.chunkCap max' namePayload false) data
  -- A later piece has the room that the body leaves of a packet.
  have hrest : max (ObexOppClient.chunkCap max' namePayload false) 1
      = max' - ObexOppClient.bodyOverhead := by
    simp only [ObexOppClient.chunkCap, ObexOppClient.bodyOverhead, Bool.false_eq_true, if_false]
    omega
  have hoverhead : ObexOppClient.bodyOverhead = 6 := rfl
  rw [ObexOppClient.putChunks]
  -- an empty payload is one empty piece
  by_cases hall : data.length ≤ max (ObexOppClient.chunkCap max' namePayload true) 1
  · rw [Chunking.chunks_of_le hall]
    exact ⟨data, [], rfl, by omega, nofun⟩
  · have hcut := Chunking.chunks_of_lt (Nat.lt_of_not_le hall)
      (ObexOppClient.chunkCap max' namePayload false)
    rw [hcut] at htail ⊢
    refine ⟨_, _, rfl, by rw [List.length_take]; omega, fun c hc => ?_⟩
    have hc := htail c hc
    omega

/-- **When all packets are truthful**: the first packet has room for its headers and a byte of the
body, and 32 bits can count the object. -/
theorem truthful_iff (body : List UInt8) (name : String) (data : List UInt8) :
    (∀ incoming faults, ∀ packet ∈
        (ObexOppClient.ofConnectBody body).written name data incoming faults,
      Truthful (negotiated body) name data.length packet) ↔
      HeadersFit (negotiated body) name data ∧ data.length < 2 ^ 32 := by
  -- what is negotiated fits into the 16 bits of the lengths
  have hours : negotiated body < 2 ^ 16 := by
    rw [← maxPacket_ofConnectBody]
    exact (ObexOppClient.maxPacket_le _).trans_lt (by norm_num)
  have hfloor : 255 ≤ negotiated body := le_max_right _ 255
  obtain ⟨chunk, chunks, hcut, hfirst, hlater⟩ := exists_putChunks hfloor (nameToUtf16 name) data
  have hpackets : (ObexOppClient.ofConnectBody body).putPackets name data
      = ObexOppClient.putPacket (nameToUtf16 name) data.length true chunks.isEmpty chunk ::
        (ObexOppClient.roundsOf (nameToUtf16 name) data.length false (0 + chunk.length) chunks).map
          Round.packet := by
    rw [ObexOppClient.putPackets, ObexOppClient.putRounds, maxPacket_ofConnectBody, hcut]
    rfl
  have hlength := length_putPacket (nameToUtf16 name) data.length true chunks.isEmpty chunk
  rw [if_pos rfl] at hlength
  constructor
  · intro h
    have hmem := mem_written_of_head (congrArg List.head? hpackets)
    have htruthful := h [] [] _ hmem
    refine ⟨?_, total_lt_of_truthful htruthful⟩
    have hwithin := htruthful.within
    have hcap := ObexOppClient.one_le_chunkCap (negotiated body) (nameToUtf16 name) true
    rw [HeadersFit]
    omega
  · rintro ⟨hfit, htotal⟩ incoming faults packet hpacket
    have hmem := mem_putPackets_of_mem_written hpacket
    rw [hpackets] at hmem
    rcases List.mem_cons.mp hmem with rfl | hmem
    · refine truthful_putPacket hours (fun _ => htotal) ?_
      rw [HeadersFit] at hfit
      -- `chunk_cap` leaves a byte where the headers leave no room
      have hcap : ObexOppClient.chunkCap (negotiated body) (nameToUtf16 name) true
          = max (negotiated body - (ObexOppClient.bodyOverhead
            + ObexOppClient.firstExtra (nameToUtf16 name))) 1 := rfl
      omega
    · obtain ⟨isLast, c, hc, rfl⟩ := exists_of_mem_roundsOf hmem
      refine truthful_putPacket hours nofun ?_
      rw [length_putPacket, if_neg Bool.false_ne_true]
      exact hlater c hc

/-- A name takes two bytes for each of its characters at least, and two for its end. -/
theorem le_length_nameToUtf16 (name : String) :
    2 * name.toList.length + 2 ≤ (nameToUtf16 name).length := by
  -- Each character is one unit of two bytes, or two of them.
  have hunits (cs : List Char) :
      2 * cs.length ≤ ((Utf16.encode cs).flatMap Bytes.toBe16).length := by
    induction cs with
    | nil => exact Nat.le_refl 0
    | cons c cs ih =>
      have hchar : 2 ≤ ((Utf16.encodeChar c).flatMap Bytes.toBe16).length := by
        rw [Utf16.encodeChar]
        split <;> simp
      have hcons : (Utf16.encode (c :: cs)).flatMap Bytes.toBe16
          = (Utf16.encodeChar c).flatMap Bytes.toBe16 ++ (Utf16.encode cs).flatMap Bytes.toBe16 :=
        List.flatMap_append
      rw [hcons, List.length_append, List.length_cons]
      omega
  rw [nameToUtf16, List.length_append]
  exact Nat.add_le_add_right (hunits name.toList) 2

/-- A name of 121 characters, for a peer that names no packet size: the one packet has 259 bytes or
more, where 255 are negotiated. -/
theorem long_name_exceeds : negotiated [] = 255 ∧
    (∃ packet ∈ (ObexOppClient.ofConnectBody []).written (String.ofList (.replicate 121 'a')) [0]
      [] [], 259 ≤ packet.length) ∧
    ¬ ∀ body name data incoming faults, ∀ packet ∈
      (ObexOppClient.ofConnectBody body).written name data incoming faults,
        Truthful (negotiated body) name data.length packet := by
  have hnegotiated : negotiated [] = 255 := by decide
  -- The name alone has 244 bytes, at least, and its packet more than the peer takes.
  have hname := le_length_nameToUtf16 (String.ofList (.replicate 121 'a'))
  rw [String.toList_ofList, List.length_replicate] at hname
  have hchunks : ObexOppClient.putChunks (ObexOppClient.ofConnectBody []).maxPacket
      (nameToUtf16 (String.ofList (.replicate 121 'a'))) [0] = [[0]] :=
    Chunking.chunks_of_le (le_max_right _ 1) _
  have hpackets : ((ObexOppClient.ofConnectBody []).putPackets
      (String.ofList (.replicate 121 'a')) [0]).head? = some (ObexOppClient.putPacket
        (nameToUtf16 (String.ofList (.replicate 121 'a'))) 1 true true [0]) := by
    rw [ObexOppClient.putPackets, ObexOppClient.putRounds, hchunks]
    rfl
  have hmem := mem_written_of_head hpackets
  have hlength := length_putPacket (nameToUtf16 (String.ofList (.replicate 121 'a'))) 1 true true
    [0]
  rw [if_pos rfl, ObexOppClient.bodyOverhead, ObexOppClient.firstExtra, List.length_singleton]
    at hlength
  have hlong : 259 ≤ (ObexOppClient.putPacket
      (nameToUtf16 (String.ofList (.replicate 121 'a'))) 1 true true [0]).length := by omega
  refine ⟨hnegotiated, ⟨_, hmem, hlong⟩, fun h => ?_⟩
  have hwithin := (h [] _ _ _ _ _ hmem).within
  rw [hnegotiated] at hwithin
  exact absurd (hlong.trans hwithin) (by norm_num)

end ObexOpp
end Pax
