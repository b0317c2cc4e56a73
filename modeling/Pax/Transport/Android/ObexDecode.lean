import Pax.Framework.Framing
import Pax.Transport.Android.ObexLockStep

/-!
# An OBEX decoder, and what it reads off a PUT

The receiving side, written from the OBEX framing and not from the client: a stream is cut into
packets by their 16-bit lengths, and a packet's body into headers by the encoding that the top two
bits of a header's identifier announce (text and byte sequences carry a 16-bit length, the other two
kinds have one and four bytes of value).

`IsPut` says what a receiver has to find for an object: the name and the length in the first packet
alone, the payload in the Body headers, and the final bit and End-of-Body on the last packet alone.
`putFile_decodes` is that every successful `putFile` wrote such a stream.

The narrowed length fields are where this could fail. A first packet that fits its own field makes
every field inside it fit (`selfDelimiting_putFrames`), and the later packets are bounded by the
negotiated size, which never exceeds our own maximum (`length_lt_of_mem_putPackets`). That the
stream can be cut where the client has put it together is the general fact about frames that
announce their own lengths (`Pax.Framework.Framing`).
-/

namespace Pax
namespace ObexDecode

open ObexOpp

/-! ### The decoder -/

/-- A header: its identifier and its value. -/
structure Header where
  id : UInt8
  value : List UInt8
  deriving DecidableEq, Repr

/-- A request packet: its opcode and its headers. -/
structure Packet where
  opcode : UInt8
  headers : List Header
  deriving DecidableEq, Repr

/-- The length of the header at the front, by the encoding its identifier announces. -/
def headerLen : List UInt8 → Option ℕ
  | id :: rest =>
    -- 00 and 01: text and byte sequences; 10: one byte of value; 11: four bytes
    if id.toNat < 0x80 then
      match rest with
      | hi :: lo :: _ => some (Bytes.ofBe16 hi lo).toNat
      | _ => none
    else if id.toNat < 0xC0 then some 2
    else some 5
  | [] => none

/-- The header that a frame is. Its identifier says whether a length stands before the value. -/
def decodeHeader : List UInt8 → Option Header
  | id :: rest =>
    -- the length is part of the header, not of its value
    if id.toNat < 0x80 then
      match rest with
      | _ :: _ :: value => some { id, value }
      | _ => none
    else some { id, value := rest }
  | [] => none

/-- The length of the packet at the front. -/
def packetLen : List UInt8 → Option ℕ
  | _ :: hi :: lo :: _ => some (Bytes.ofBe16 hi lo).toNat
  | _ => none

/-- The packet that the bytes are, split into its headers. -/
def decodePacket : List UInt8 → Option Packet
  | opcode :: _ :: _ :: body => do
    let frames ← Framing.splitFrames headerLen body
    let headers ← frames.mapM decodeHeader
    return { opcode, headers }
  | _ => none

/-- The packets of a stream, if it consists of whole packets that can be decoded. -/
def decodeStream (bytes : List UInt8) : Option (List Packet) := do
  let frames ← Framing.splitFrames packetLen bytes
  frames.mapM decodePacket

/-- The code units of a big-endian sequence. -/
def decodeUnits : List UInt8 → Option (List UInt16)
  | [] => some []
  | [_] => none
  | hi :: lo :: rest => (decodeUnits rest).map (Bytes.ofBe16 hi lo :: ·)

/-- The text of a Name value: UTF-16 with one trailing NUL. -/
def decodeName (value : List UInt8) : Option String := do
  let units ← decodeUnits value
  if units.getLast? = some 0 then
    (Utf16.decode units.dropLast).map String.ofList
  else none

/-- The number of a Length value. -/
def decodeLength : List UInt8 → Option ℕ
  | [a, b, c, d] => some (Bytes.ofBe32 a b c d).toNat
  | _ => none

/-! ### A well-formed PUT -/

/-- The values of the headers with a given identifier. -/
def Packet.values (packet : Packet) (id : UInt8) : List (List UInt8) :=
  (packet.headers.filter fun h => h.id = id).map Header.value

/-- The final bit is set: no packet of the request follows. -/
def Packet.isFinal (packet : Packet) : Prop := packet.opcode &&& FINAL = FINAL

/-- The opcode without the final bit. -/
def Packet.request (packet : Packet) : UInt8 := packet.opcode &&& 0x7F

/-- The body bytes a packet carries. -/
def Packet.body (packet : Packet) : List UInt8 :=
  (packet.values HI_BODY ++ packet.values HI_END_OF_BODY).flatten

/-- The packets are the PUT of an object with this name and payload. -/
structure IsPut (name : String) (data : List UInt8) (packets : List Packet) : Prop where
  /-- Every packet is a PUT. -/
  request : ∀ packet ∈ packets, packet.request = OP_PUT
  /-- Name and Length stand in the first packet alone, and read back. -/
  described : ∃ first later, packets = first :: later ∧
    (∃ value, first.values HI_NAME = [value] ∧ decodeName value = some name) ∧
    (∃ value, first.values HI_LENGTH = [value] ∧ decodeLength value = some data.length) ∧
    ∀ packet ∈ later, packet.values HI_NAME = [] ∧ packet.values HI_LENGTH = []
  /-- The bodies in order are the payload. -/
  body : (packets.map Packet.body).flatten = data
  /-- The last packet alone is final and uses End-of-Body. -/
  finished : ∃ earlier last, packets = earlier ++ [last] ∧
    last.isFinal ∧ (last.values HI_END_OF_BODY).length = 1 ∧ last.values HI_BODY = [] ∧
    ∀ packet ∈ earlier, ¬ packet.isFinal ∧ packet.values HI_END_OF_BODY = [] ∧
      (packet.values HI_BODY).length = 1

/-! ### Values -/

theorem decodeUnits_flatMap_append (units : List UInt16) (bytes : List UInt8) :
    decodeUnits (units.flatMap Bytes.toBe16 ++ bytes) = (decodeUnits bytes).map (units ++ ·) := by
  induction units with
  | nil => simp
  | cons u us ih =>
    show decodeUnits (_ :: _ :: (us.flatMap Bytes.toBe16 ++ bytes)) = _
    rw [decodeUnits, ih, Bytes.ofBe16_toBe16, Option.map_map]
    rfl

/-- **The name reads back**, for every text, with characters outside the basic plane as well. -/
theorem decodeName_nameToUtf16 (name : String) : decodeName (nameToUtf16 name) = some name := by
  have hunits : decodeUnits (nameToUtf16 name) = some (Utf16.encode name.toList ++ [0]) := by
    unfold nameToUtf16
    rw [decodeUnits_flatMap_append]
    rfl
  unfold decodeName
  rw [hunits]
  simp [Utf16.decode_encode]

/-- A length below `2 ^ 32` reads back. -/
theorem decodeLength_toBe32 {n : ℕ} (h : n < 2 ^ 32) :
    decodeLength (Bytes.toBe32 (UInt32.ofNat n)) = some n := by
  show some (Bytes.ofBe32 _ _ _ _).toNat = _
  rw [Bytes.ofBe32_toBe32, Bytes.toNat_ofNat32 h]

/-! ### One header, one packet -/

/-- The bytes of a header with a 16-bit length. -/
def sizedHeader (id : UInt8) (value : List UInt8) : List UInt8 :=
  id :: (Bytes.toBe16 (UInt16.ofNat (3 + value.length)) ++ value)

theorem length_sizedHeader (id : UInt8) (value : List UInt8) :
    (sizedHeader id value).length = 3 + value.length := by
  simp [sizedHeader]
  omega

theorem selfDelimiting_sizedHeader {id : UInt8} {value : List UInt8} (hid : id.toNat < 0x80)
    (hfits : 3 + value.length < 2 ^ 16) :
    Framing.SelfDelimiting headerLen (sizedHeader id value) where
  ne_nil := List.cons_ne_nil _ _
  announces := by
    intro rest
    rw [length_sizedHeader]
    show headerLen (id :: _ :: _ :: (value ++ rest)) = _
    rw [headerLen, if_pos hid, Bytes.ofBe16_toBe16, Bytes.toNat_ofNat16 hfits]

theorem decodeHeader_sizedHeader {id : UInt8} (hid : id.toNat < 0x80) (value : List UInt8) :
    decodeHeader (sizedHeader id value) = some { id, value } := by
  show decodeHeader (id :: _ :: _ :: value) = _
  rw [decodeHeader, if_pos hid]

theorem selfDelimiting_length (n : UInt32) :
    Framing.SelfDelimiting headerLen (HI_LENGTH :: Bytes.toBe32 n) where
  ne_nil := List.cons_ne_nil _ _
  announces := fun _ => rfl

/-- What a decoder has to find in a PUT packet. -/
def putContent (namePayload : List UInt8) (total : ℕ) (first isLast : Bool) (chunk : List UInt8) :
    Packet :=
  { opcode := if isLast then OP_PUT ||| FINAL else OP_PUT
    headers :=
      (if first then
        [⟨HI_NAME, namePayload⟩, ⟨HI_LENGTH, Bytes.toBe32 (UInt32.ofNat total)⟩]
      else [])
        ++ [⟨if isLast then HI_END_OF_BODY else HI_BODY, chunk⟩] }

/-- The header bytes of a PUT packet, header by header. -/
def putFrames (namePayload : List UInt8) (total : ℕ) (first isLast : Bool) (chunk : List UInt8) :
    List (List UInt8) :=
  (if first then
    [sizedHeader HI_NAME namePayload, HI_LENGTH :: Bytes.toBe32 (UInt32.ofNat total)]
  else [])
    ++ [sizedHeader (if isLast then HI_END_OF_BODY else HI_BODY) chunk]

/-- Back-patching the length of a packet whose length bytes were left empty. -/
theorem putLen_cons (opcode : UInt8) (body : List UInt8) :
    putLen (opcode :: 0 :: 0 :: body)
      = opcode :: (Bytes.toBe16 (UInt16.ofNat (3 + body.length)) ++ body) := by
  have hlen : (opcode :: 0 :: 0 :: body).length = 3 + body.length := by
    simp only [List.length_cons]
    omega
  unfold putLen
  rw [hlen]
  rfl

/-- The layout of a PUT packet: opcode, length, headers. -/
theorem putPacket_eq (namePayload : List UInt8) (total : ℕ) (first isLast : Bool)
    (chunk : List UInt8) :
    ObexOppClient.putPacket namePayload total first isLast chunk
      = sizedHeader (if isLast then OP_PUT ||| FINAL else OP_PUT)
          (putFrames namePayload total first isLast chunk).flatten := by
  -- The three bytes of the header are filled in when the frames are there.
  have hbody : putLen
      ([if isLast then OP_PUT ||| FINAL else OP_PUT, 0, 0]
        ++ (if first then ObexOppClient.firstHeaders namePayload total else [])
        ++ [if isLast then HI_END_OF_BODY else HI_BODY]
        ++ Bytes.toBe16 (UInt16.ofNat (3 + chunk.length)) ++ chunk)
      = putLen ((if isLast then OP_PUT ||| FINAL else OP_PUT) :: 0 :: 0 ::
          (putFrames namePayload total first isLast chunk).flatten) := by
    cases first <;> simp [putFrames, sizedHeader, ObexOppClient.firstHeaders]
  unfold ObexOppClient.putPacket
  rw [hbody, putLen_cons]
  rfl

/-- Both identifiers of a body announce a 16-bit length. -/
theorem toNat_bodyId_lt (isLast : Bool) :
    (if isLast then HI_END_OF_BODY else HI_BODY).toNat < 0x80 := by
  cases isLast with
  | true => decide
  | false => decide

/-- The header frames of a packet that fits its own length field all fit theirs. -/
theorem selfDelimiting_putFrames {namePayload : List UInt8} {total : ℕ} {first isLast : Bool}
    {chunk : List UInt8}
    (hfits : (ObexOppClient.putPacket namePayload total first isLast chunk).length < 2 ^ 16) :
    ∀ frame ∈ putFrames namePayload total first isLast chunk,
      Framing.SelfDelimiting headerLen frame := by
  rw [putPacket_eq, length_sizedHeader] at hfits
  have hbody := toNat_bodyId_lt isLast
  unfold putFrames at hfits ⊢
  cases first with
  | true =>
    -- the length of the packet is the sum of its frames' lengths, which bounds each of them
    simp only [if_true, List.cons_append, List.nil_append, List.flatten_cons, List.flatten_nil,
      List.append_nil, List.length_append, List.length_cons, length_sizedHeader] at hfits
    intro frame hframe
    simp only [if_true, List.cons_append, List.nil_append, List.mem_cons, List.not_mem_nil,
      or_false] at hframe
    rcases hframe with rfl | rfl | rfl
    · exact selfDelimiting_sizedHeader (by decide) (by omega)
    · exact selfDelimiting_length _
    · exact selfDelimiting_sizedHeader hbody (by omega)
  | false =>
    simp only [Bool.false_eq_true, if_false, List.nil_append, List.flatten_singleton,
      length_sizedHeader] at hfits
    intro frame hframe
    simp only [Bool.false_eq_true, if_false, List.nil_append, List.mem_singleton] at hframe
    rw [hframe]
    exact selfDelimiting_sizedHeader hbody (by omega)

/-- Each header frame is read as its header. -/
theorem mapM_decodeHeader_putFrames (namePayload : List UInt8) (total : ℕ) (first isLast : Bool)
    (chunk : List UInt8) :
    (putFrames namePayload total first isLast chunk).mapM decodeHeader
      = some (putContent namePayload total first isLast chunk).headers := by
  have hbody := toNat_bodyId_lt isLast
  have hlength : decodeHeader (HI_LENGTH :: Bytes.toBe32 (UInt32.ofNat total))
      = some ⟨HI_LENGTH, Bytes.toBe32 (UInt32.ofNat total)⟩ := rfl
  cases first with
  | true =>
    simp [putFrames, putContent, decodeHeader_sizedHeader hbody,
      decodeHeader_sizedHeader (show HI_NAME.toNat < 0x80 by decide), hlength]
  | false => simp [putFrames, putContent, decodeHeader_sizedHeader hbody]

/-- **A PUT packet that fits its length field decodes** to its content. -/
theorem decodePacket_putPacket {namePayload : List UInt8} {total : ℕ} {first isLast : Bool}
    {chunk : List UInt8}
    (hfits : (ObexOppClient.putPacket namePayload total first isLast chunk).length < 2 ^ 16) :
    decodePacket (ObexOppClient.putPacket namePayload total first isLast chunk)
      = some (putContent namePayload total first isLast chunk) := by
  have hframes := selfDelimiting_putFrames hfits
  rw [putPacket_eq]
  show (Framing.splitFrames headerLen
    (putFrames namePayload total first isLast chunk).flatten >>= _) = _
  -- the body is cut back into the frames it was put together from
  rw [Framing.splitFrames_flatten _ hframes]
  show ((putFrames namePayload total first isLast chunk).mapM decodeHeader >>= _) = _
  rw [mapM_decodeHeader_putFrames]
  rfl

/-- A PUT packet that fits its length field announces its own length. -/
theorem selfDelimiting_putPacket {namePayload : List UInt8} {total : ℕ} {first isLast : Bool}
    {chunk : List UInt8}
    (hfits : (ObexOppClient.putPacket namePayload total first isLast chunk).length < 2 ^ 16) :
    Framing.SelfDelimiting packetLen
      (ObexOppClient.putPacket namePayload total first isLast chunk) := by
  rw [putPacket_eq, length_sizedHeader] at hfits
  rw [putPacket_eq]
  refine ⟨List.cons_ne_nil _ _, ?_⟩
  intro rest
  rw [length_sizedHeader]
  show some (Bytes.ofBe16 _ _).toNat = _
  rw [Bytes.ofBe16_toBe16, Bytes.toNat_ofNat16 hfits]

/-! ### A whole PUT -/

/-- What a decoder has to find for a list of pieces. -/
def contents (namePayload : List UInt8) (total : ℕ) : Bool → List (List UInt8) → List Packet
  | _, [] => []
  | first, chunk :: chunks =>
    putContent namePayload total first chunks.isEmpty chunk
      :: contents namePayload total false chunks

/-- A stream of packets that all fit is cut into them, and each is decoded. -/
theorem decodeStream_roundsOf (namePayload : List UInt8) (total : ℕ) (first : Bool) (offset : ℕ)
    (chunks : List (List UInt8))
    (hfits : ∀ packet ∈ (ObexOppClient.roundsOf namePayload total first offset chunks).map
      Round.packet, packet.length < 2 ^ 16) :
    decodeStream ((ObexOppClient.roundsOf namePayload total first offset chunks).map
      Round.packet).flatten = some (contents namePayload total first chunks) := by
  -- Each packet tells its own length, so that the stream is cut as it was written.
  have hframes : ∀ packet ∈ (ObexOppClient.roundsOf namePayload total first offset chunks).map
      Round.packet, Framing.SelfDelimiting packetLen packet := by
    induction chunks generalizing first offset with
    | nil => intro packet hpacket; exact absurd hpacket List.not_mem_nil
    | cons chunk chunks ih =>
      intro packet hpacket
      rcases List.mem_cons.mp hpacket with rfl | hpacket
      · exact selfDelimiting_putPacket (hfits _ List.mem_cons_self)
      · exact ih false _ (fun q hq => hfits q (List.mem_cons_of_mem _ hq)) packet hpacket
  have hdecode : ((ObexOppClient.roundsOf namePayload total first offset chunks).map
      Round.packet).mapM decodePacket = some (contents namePayload total first chunks) := by
    clear hframes
    induction chunks generalizing first offset with
    | nil => rfl
    | cons chunk chunks ih =>
      rw [ObexOppClient.roundsOf, List.map_cons, List.mapM_cons,
        decodePacket_putPacket (hfits _ List.mem_cons_self),
        ih false _ (fun q hq => hfits q (List.mem_cons_of_mem _ hq))]
      rfl
  unfold decodeStream
  rw [Framing.splitFrames_flatten _ hframes]
  exact hdecode

/-- Every piece but the first is bounded by our own maximum packet size. -/
theorem length_le_of_mem_tail_putChunks (client : ObexOppClient) (namePayload data : List UInt8) :
    ∀ c ∈ (ObexOppClient.putChunks client.maxPacket namePayload data).tail, c.length ≤ 0x2000 := by
  intro c hc
  -- a negotiated size is never above our own, and the headers of a later packet only reduce it
  have hmax := client.maxPacket_le
  have hlen := Chunking.length_le_of_mem_tail_chunks c hc
  have hcap : ObexOppClient.chunkCap client.maxPacket namePayload false ≤ 0x2000 :=
    max_le (by omega) (by omega)
  omega

/-- The packets of a PUT behind the first are short, if the pieces are. -/
theorem length_lt_of_mem_roundsOf {namePayload : List UInt8} {total offset : ℕ}
    {chunks : List (List UInt8)} (hchunks : ∀ c ∈ chunks, c.length ≤ 0x2000) :
    ∀ packet ∈ (ObexOppClient.roundsOf namePayload total false offset chunks).map Round.packet,
      packet.length < 2 ^ 16 := by
  -- On the chunks: behind the first packet there is only a body, of at most `0x2000` bytes.
  induction chunks generalizing offset with
  | nil => intro packet hpacket; exact absurd hpacket List.not_mem_nil
  | cons chunk chunks ih =>
    intro packet hpacket
    rcases List.mem_cons.mp hpacket with rfl | hpacket
    · have hchunk := hchunks chunk List.mem_cons_self
      rw [putPacket_eq, length_sizedHeader]
      simp only [putFrames, Bool.false_eq_true, if_false, List.nil_append, List.flatten_singleton,
        length_sizedHeader]
      omega
    · exact ih (fun c hc => hchunks c (List.mem_cons_of_mem chunk hc)) packet hpacket

/-- **When the first packet fits its length field, all do**, since only the first one carries the
name. -/
theorem length_lt_of_mem_putPackets {client : ObexOppClient} {name : String} {data : List UInt8}
    (hfirst : ∀ packet ∈ (client.putPackets name data).head?, packet.length < 2 ^ 16) :
    ∀ packet ∈ client.putPackets name data, packet.length < 2 ^ 16 := by
  unfold ObexOppClient.putPackets ObexOppClient.putRounds at hfirst ⊢
  have htail := length_le_of_mem_tail_putChunks client (nameToUtf16 name) data
  cases hcut : ObexOppClient.putChunks client.maxPacket (nameToUtf16 name) data with
  | nil => exact absurd hcut (ObexOppClient.putChunks_ne_nil _ _ data)
  | cons chunk chunks =>
    rw [hcut] at hfirst htail
    intro packet hpacket
    rcases List.mem_cons.mp hpacket with rfl | hpacket
    · exact hfirst _ rfl
    · exact length_lt_of_mem_roundsOf htail packet hpacket

/-! ### The decoded packets -/

theorem values_name_putContent (namePayload : List UInt8) (total : ℕ) (first isLast : Bool)
    (chunk : List UInt8) :
    (putContent namePayload total first isLast chunk).values HI_NAME
      = if first then [namePayload] else [] := by
  cases first <;> cases isLast <;> rfl

theorem values_length_putContent (namePayload : List UInt8) (total : ℕ) (first isLast : Bool)
    (chunk : List UInt8) :
    (putContent namePayload total first isLast chunk).values HI_LENGTH
      = if first then [Bytes.toBe32 (UInt32.ofNat total)] else [] := by
  cases first <;> cases isLast <;> rfl

theorem values_body_putContent (namePayload : List UInt8) (total : ℕ) (first isLast : Bool)
    (chunk : List UInt8) :
    (putContent namePayload total first isLast chunk).values HI_BODY
      = if isLast then [] else [chunk] := by
  cases first <;> cases isLast <;> rfl

theorem values_endOfBody_putContent (namePayload : List UInt8) (total : ℕ) (first isLast : Bool)
    (chunk : List UInt8) :
    (putContent namePayload total first isLast chunk).values HI_END_OF_BODY
      = if isLast then [chunk] else [] := by
  cases first <;> cases isLast <;> rfl

theorem body_putContent (namePayload : List UInt8) (total : ℕ) (first isLast : Bool)
    (chunk : List UInt8) :
    (putContent namePayload total first isLast chunk).body = chunk := by
  unfold Packet.body
  rw [values_body_putContent, values_endOfBody_putContent]
  cases isLast <;> simp

theorem isFinal_putContent (namePayload : List UInt8) (total : ℕ) (first isLast : Bool)
    (chunk : List UInt8) :
    (putContent namePayload total first isLast chunk).isFinal ↔ isLast = true := by
  show (if isLast then OP_PUT ||| FINAL else OP_PUT) &&& FINAL = FINAL ↔ isLast = true
  cases isLast <;> decide

theorem request_putContent (namePayload : List UInt8) (total : ℕ) (first isLast : Bool)
    (chunk : List UInt8) :
    (putContent namePayload total first isLast chunk).request = OP_PUT := by
  show (if isLast then OP_PUT ||| FINAL else OP_PUT) &&& 0x7F = OP_PUT
  cases isLast <;> decide

/-- The decoded packets come from the pieces; behind the first piece no packet is a first one. -/
theorem exists_of_mem_contents {namePayload : List UInt8} {total : ℕ} {first : Bool}
    {chunks : List (List UInt8)} {packet : Packet}
    (h : packet ∈ contents namePayload total first chunks) :
    ∃ first' isLast chunk, (first = false → first' = false) ∧
      packet = putContent namePayload total first' isLast chunk := by
  induction chunks generalizing first with
  | nil => exact absurd h List.not_mem_nil
  | cons chunk chunks ih =>
    rcases List.mem_cons.mp h with rfl | htail
    · exact ⟨first, chunks.isEmpty, chunk, fun hfirst => hfirst, rfl⟩
    · obtain ⟨first', isLast, piece, hfirst, rfl⟩ := ih htail
      exact ⟨first', isLast, piece, fun _ => hfirst rfl, rfl⟩

/-- Every decoded packet is a PUT. -/
theorem request_contents {namePayload : List UInt8} {total : ℕ} {first : Bool}
    {chunks : List (List UInt8)} :
    ∀ packet ∈ contents namePayload total first chunks, packet.request = OP_PUT := by
  intro packet hpacket
  obtain ⟨first', isLast, chunk, -, rfl⟩ := exists_of_mem_contents hpacket
  exact request_putContent _ _ _ _ _

/-- The packets behind the first describe nothing: they have neither a name nor a length. -/
theorem undescribed_contents {namePayload : List UInt8} {total : ℕ} {chunks : List (List UInt8)} :
    ∀ packet ∈ contents namePayload total false chunks,
      packet.values HI_NAME = [] ∧ packet.values HI_LENGTH = [] := by
  intro packet hpacket
  obtain ⟨first', isLast, chunk, hfirst, rfl⟩ := exists_of_mem_contents hpacket
  obtain rfl : first' = false := hfirst rfl
  exact ⟨values_name_putContent _ _ _ _ _, values_length_putContent _ _ _ _ _⟩

/-- The bodies of the decoded packets are the pieces, in order. -/
theorem map_body_contents (namePayload : List UInt8) (total : ℕ) (first : Bool)
    (chunks : List (List UInt8)) :
    (contents namePayload total first chunks).map Packet.body = chunks := by
  induction chunks generalizing first with
  | nil => rfl
  | cons chunk chunks ih => rw [contents, List.map_cons, ih, body_putContent]

/-- The last decoded packet alone is final. -/
theorem finished_contents {namePayload : List UInt8} {total : ℕ} {first : Bool}
    {chunks : List (List UInt8)} (hne : chunks ≠ []) :
    ∃ earlier last, contents namePayload total first chunks = earlier ++ [last] ∧
      last.isFinal ∧ (last.values HI_END_OF_BODY).length = 1 ∧ last.values HI_BODY = [] ∧
      ∀ packet ∈ earlier, ¬ packet.isFinal ∧ packet.values HI_END_OF_BODY = [] ∧
        (packet.values HI_BODY).length = 1 := by
  induction chunks generalizing first with
  | nil => exact absurd rfl hne
  | cons chunk chunks ih =>
    cases chunks with
    | nil =>
      -- a piece without a successor is the last one
      refine ⟨[], putContent namePayload total first true chunk, rfl,
        (isFinal_putContent _ _ _ _ _).mpr rfl, ?_, ?_,
        fun packet hpacket => absurd hpacket List.not_mem_nil⟩
      · rw [values_endOfBody_putContent]
        rfl
      · rw [values_body_putContent]
        rfl
    | cons next chunks =>
      -- the last packet is the one of the pieces behind; this one is not final
      obtain ⟨earlier, last, heq, hfinal, hend, hbody, hearlier⟩ :=
        @ih false (List.cons_ne_nil next chunks)
      refine ⟨putContent namePayload total first false chunk :: earlier, last, ?_, hfinal, hend,
        hbody, ?_⟩
      · rw [contents, heq]
        rfl
      · intro packet hpacket
        rcases List.mem_cons.mp hpacket with rfl | hpacket
        · refine ⟨?_, ?_, ?_⟩
          · rw [isFinal_putContent]
            exact Bool.false_ne_true
          · rw [values_endOfBody_putContent]
            rfl
          · rw [values_body_putContent]
            rfl
        · exact hearlier packet hpacket

/-- The decoded packets are the PUT of the object. -/
theorem isPut_contents {name : String} {data : List UInt8} {chunks : List (List UInt8)}
    (hdata : data.length < 2 ^ 32) (hne : chunks ≠ []) (hflatten : chunks.flatten = data) :
    IsPut name data (contents (nameToUtf16 name) data.length true chunks) where
  request := request_contents
  described := by
    -- The description stands in the first packet, of which there is one.
    cases chunks with
    | nil => exact absurd rfl hne
    | cons chunk chunks =>
      refine ⟨_, _, rfl, ⟨nameToUtf16 name, ?_, decodeName_nameToUtf16 name⟩,
        ⟨Bytes.toBe32 (UInt32.ofNat data.length), ?_, decodeLength_toBe32 hdata⟩,
        undescribed_contents⟩
      · rw [values_name_putContent]
        rfl
      · rw [values_length_putContent]
        rfl
  body := by rw [map_body_contents, hflatten]
  finished := finished_contents hne

/-- **What `putFile` writes decodes to the object.** For every client, whatever body its CONNECT
response had, every name and payload whose first packet fits the 16-bit length field and whose
length fits the 32-bit one, and every pipe: a successful `putFile` has written a byte sequence
which an independent decoder reads as the PUT of exactly this object. -/
theorem putFile_decodes (client : ObexOppClient) (name : String) (data : List UInt8)
    (hfirst : ∀ packet ∈ (client.putPackets name data).head?, packet.length < 2 ^ 16)
    (hdata : data.length < 2 ^ 32) {p p' : Pipe}
    (hput : (client.putFile name data).run p = .ok () p') :
    ∃ packets sent, writtenPackets p'.wire = writtenPackets p.wire ++ sent ∧
      decodeStream sent.flatten = some packets ∧ IsPut name data packets := by
  rw [ObexOppClient.putFile_eq] at hput
  refine ⟨contents (nameToUtf16 name) data.length true
    (ObexOppClient.putChunks client.maxPacket (nameToUtf16 name) data),
    client.putPackets name data, writtenPackets_of_exchangeAll_ok hput, ?_, ?_⟩
  · -- every length field is wide enough, so the stream is cut as it was written
    exact decodeStream_roundsOf _ _ _ _ _ (length_lt_of_mem_putPackets hfirst)
  · exact isPut_contents hdata (ObexOppClient.putChunks_ne_nil _ _ data)
      (ObexOppClient.flatten_putChunks _ _ data)

/-- The single packet of a three-byte object, for a peer that named no packet size. -/
def smallPacket : List UInt8 :=
  [0x82, 0, 21, 0x01, 0, 7, 0, 97, 0, 0, 0xC3, 0, 0, 0, 3, 0x49, 0, 6, 1, 2, 3]

theorem putRounds_small :
    (ObexOppClient.ofConnectBody []).putRounds "a" [1, 2, 3]
      = [{ packet := smallPacket, expected := RESP_SUCCESS, sent := 3 }] := by
  unfold ObexOppClient.putRounds ObexOppClient.putChunks
  rw [Chunking.chunks_of_le (by decide)]
  rfl

/-- The pipe after the single packet was acknowledged. -/
def smallSent : Pipe :=
  { incoming := []
    faults := []
    wire := [.wrote smallPacket, .got ⟨RESP_SUCCESS, []⟩]
    progress := [3] }

/-- A small object, sent and acknowledged in one packet. -/
theorem putFile_decodes_small :
    ∃ packets sent, writtenPackets smallSent.wire = writtenPackets [] ++ sent ∧
      decodeStream sent.flatten = some packets ∧ IsPut "a" [1, 2, 3] packets := by
  have hfirst : ∀ packet ∈ ((ObexOppClient.ofConnectBody []).putPackets "a" [1, 2, 3]).head?,
      packet.length < 2 ^ 16 := by
    unfold ObexOppClient.putPackets
    rw [putRounds_small]
    intro packet hpacket
    obtain rfl : smallPacket = packet := Option.some.inj hpacket
    decide
  -- the acknowledgement arrives in two pieces, with an interrupted read between them
  have hput : ((ObexOppClient.ofConnectBody []).putFile "a" [1, 2, 3]).run
      (Pipe.start [.bytes [0xA0, 0], .interrupted, .bytes [3]] []) = .ok () smallSent := by
    rw [ObexOppClient.putFile_eq, putRounds_small]
    rfl
  exact putFile_decodes (ObexOppClient.ofConnectBody []) "a" [1, 2, 3] hfirst (by decide) hput

end ObexDecode
end Pax
