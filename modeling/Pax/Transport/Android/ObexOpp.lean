import Pax.Core.Device
import Pax.Framework.Bytes
import Pax.Framework.Segments
import Pax.Framework.Utf16
import Pax.Framework.Outcome

/-!
# The OBEX Object Push client

`pax-transport/src/android/obex_opp.rs`: the request/response protocol Object Push needs
(`connect`, a chunked `putFile`, `disconnect`) over a byte pipe. The pipe (`Pipe`) is the source's
generic `T: Read + Write` seen from the client: what the peer's bytes look like to successive
`read` calls, what happens to successive `write_all` and `flush` calls, and a record of what
passed over it. Every client operation is a computation on it that may fail with an `ObexError`.

Lengths are narrowed to their wire width exactly where the source narrows them (`as u16` in
`putLen` and the header lengths, `as u32` in the Length header). The cumulative byte count is a
`u64` sum of slice lengths bounded by the payload's own length, so it is kept as a number.
-/

namespace Pax
namespace ObexOpp

/-! ### Constants -/

def OP_CONNECT : UInt8 := 0x80
def OP_DISCONNECT : UInt8 := 0x81
def OP_PUT : UInt8 := 0x02

/-- The final bit, or'd into an opcode to mark the last packet of a request. -/
def FINAL : UInt8 := 0x80

def RESP_CONTINUE : UInt8 := 0x90
def RESP_SUCCESS : UInt8 := 0xA0

def HI_NAME : UInt8 := 0x01
def HI_BODY : UInt8 := 0x48
def HI_END_OF_BODY : UInt8 := 0x49
def HI_LENGTH : UInt8 := 0xC3

/-- The OBEX protocol version this client speaks (1.0). -/
def OBEX_VERSION : UInt8 := 0x10

/-- The maximum packet size we advertise, and cap chunking at. -/
def OUR_MAX_PACKET : UInt16 := 0x2000

/-! ### Errors -/

/-- A failure of the byte pipe. -/
inductive IoError where
  /-- `read_exact` met the end of the stream. -/
  | unexpectedEof
  | other (detail : String)
  deriving DecidableEq, Repr

/-- The text `std::io` prints for it. -/
def IoError.display : IoError → String
  | .unexpectedEof => "failed to fill whole buffer"
  | .other detail => detail

/-- An error from the OBEX exchange. Only a refusal has a response code. -/
inductive ObexError where
  /-- The underlying pipe failed. -/
  | io (e : IoError)
  /-- The peer returned a non-success response code at `stage`. -/
  | rejected (stage : String) (code : UInt8)
  /-- A response was malformed. -/
  | malformed (what : String)
  deriving DecidableEq, Repr

def ObexError.display : ObexError → String
  | .io e => "obex i/o: " ++ e.display
  | .rejected stage code => "obex " ++ stage ++ " rejected with code 0x" ++ hex2 code
  | .malformed w => "malformed obex response: " ++ w

/-! ### The pipe -/

/-- A parsed response: its code and the bytes after the 3-byte header. -/
structure Response where
  code : UInt8
  body : List UInt8
  deriving DecidableEq, Repr

/-- What passed over the pipe, packet by packet. -/
inductive WireStep where
  /-- A whole packet was handed to the pipe. -/
  | wrote (packet : List UInt8)
  /-- A whole response was read off it. -/
  | got (response : Response)
  deriving DecidableEq, Repr

/-- The pipe, as its client sees it: what it will read, which writes fail, and what it has
written and reported. -/
structure Pipe where
  /-- What successive `read` calls will meet; the stream ends after them. -/
  incoming : List (Segments.ReadEvent UInt8 IoError)
  /-- The outcomes of the next `write_all` and `flush` calls, `none` a success; the calls after
  them succeed. -/
  faults : List (Option IoError)
  /-- What passed over it so far. -/
  wire : List WireStep
  /-- The values `on_progress` was called with so far. -/
  progress : List ℕ
  deriving DecidableEq, Repr

/-- A fresh pipe, on which nothing was written and nothing reported. -/
def Pipe.start (incoming : List (Segments.ReadEvent UInt8 IoError))
    (faults : List (Option IoError)) : Pipe :=
  { incoming, faults, wire := [], progress := [] }

/-- A computation over the pipe, which may fail with an error of the exchange. -/
abbrev ObexM := EStateM ObexError Pipe

/-- The outcome of the next write or flush. -/
def writeOutcome : ObexM Unit := fun p =>
  match p.faults with
  | [] => .ok () p
  | none :: faults => .ok () { p with faults }
  | some e :: faults => .error (.io e) { p with faults }

def logStep (step : WireStep) : ObexM Unit := modify fun p => { p with wire := p.wire ++ [step] }

def writeAll (packet : List UInt8) : ObexM Unit := do
  writeOutcome
  logStep (.wrote packet)

def flush : ObexM Unit := writeOutcome

def readExact (n : ℕ) : ObexM (List UInt8) := fun p =>
  match Segments.readExact .unexpectedEof n p.incoming with
  | (.ok bytes, incoming) => .ok bytes { p with incoming }
  | (.error e, incoming) => .error (.io e) { p with incoming }

def onProgress (sent : ℕ) : ObexM Unit :=
  modify fun p => { p with progress := p.progress ++ [sent] }

/-! ### Packets -/

/-- Encode a string as the Name header's payload: big-endian UTF-16, NUL terminated. -/
def nameToUtf16 (name : String) : List UInt8 :=
  (Utf16.encode name.toList).flatMap Bytes.toBe16 ++ [0, 0]

/-- Back-patch the 2-byte length field (bytes 1..3) of a packet. -/
def putLen (packet : List UInt8) : List UInt8 :=
  packet.take 1 ++ Bytes.toBe16 (UInt16.ofNat packet.length) ++ packet.drop 3

/-- Read exactly one response packet. -/
def readResponse : ObexM Response := do
  let head ← readExact 3
  let code := head.getD 0 0
  let len := (Bytes.ofBe16 (head.getD 1 0) (head.getD 2 0)).toNat
  -- The length counts the header itself, so less than 3 cannot be meant.
  if len < 3 then
    throw (.malformed "length < 3")
  let body ← readExact (len - 3)
  logStep (.got { code, body })
  return { code, body }

/-! ### The client -/

/-- A connected client. What it keeps of the peer's maximum packet size is at least 255. -/
structure ObexOppClient where
  peerMaxPacket : UInt16
  floor : 255 ≤ peerMaxPacket
  deriving DecidableEq, Repr

private theorem floor_le_max (n : UInt16) : 255 ≤ max n 255 := by
  show 255 ≤ if n ≤ 255 then 255 else n
  split
  · exact UInt16.le_refl 255
  · next hgt => exact UInt16.le_of_lt (UInt16.not_le.mp hgt)

namespace ObexOppClient

/-- The client a CONNECT response yields. Its body is version, flags and maximum packet size; one
too short for that counts as 255, and so does a smaller size. -/
def ofConnectBody (body : List UInt8) : ObexOppClient :=
  let peerMaxPacket :=
    -- Version and flags come first; bytes behind the size are ignored.
    if 4 ≤ body.length then Bytes.ofBe16 (body.getD 2 0) (body.getD 3 0) else 255
  { peerMaxPacket := max peerMaxPacket 255, floor := floor_le_max _ }

/-- The CONNECT request: version, flags, our maximum packet size. -/
def connectPacket : List UInt8 :=
  putLen ([OP_CONNECT, 0, 0, OBEX_VERSION, 0x00] ++ Bytes.toBe16 OUR_MAX_PACKET)

/-- Perform the CONNECT handshake and return a ready client. -/
def connect : ObexM ObexOppClient := do
  writeAll connectPacket
  flush
  let resp ← readResponse
  if resp.code ≠ RESP_SUCCESS then
    throw (.rejected "connect" resp.code)
  return ofConnectBody resp.body

/-- The negotiated maximum packet size. -/
def maxPacket (client : ObexOppClient) : ℕ := (min OUR_MAX_PACKET client.peerMaxPacket).toNat

/-- The fixed cost of a packet: its 3-byte header and the 3-byte Body header. -/
def bodyOverhead : ℕ := 3 + 3

/-- What the first packet carries on top: Name (3 + payload) and Length (5). -/
def firstExtra (namePayload : List UInt8) : ℕ := (3 + namePayload.length) + 5

/-- How many body bytes a packet may carry: what `max` leaves, but at least one. -/
def chunkCap (max' : ℕ) (namePayload : List UInt8) (first : Bool) : ℕ :=
  let headerBudget := if first then bodyOverhead + firstExtra namePayload else bodyOverhead
  max (max' - headerBudget) 1

/-- The Name and Length headers of the first packet. -/
def firstHeaders (namePayload : List UInt8) (total : ℕ) : List UInt8 :=
  [HI_NAME] ++ Bytes.toBe16 (UInt16.ofNat (3 + namePayload.length)) ++ namePayload
    ++ [HI_LENGTH] ++ Bytes.toBe32 (UInt32.ofNat total)

/-- One PUT packet carrying `chunk`. -/
def putPacket (namePayload : List UInt8) (total : ℕ) (first isLast : Bool) (chunk : List UInt8) :
    List UInt8 :=
  putLen
    ([if isLast then OP_PUT ||| FINAL else OP_PUT, 0, 0]
      ++ (if first then firstHeaders namePayload total else [])
      ++ [if isLast then HI_END_OF_BODY else HI_BODY]
      ++ Bytes.toBe16 (UInt16.ofNat (3 + chunk.length)) ++ chunk)

/-- The code a packet has to be answered with. -/
def expectedCode (isLast : Bool) : UInt8 := if isLast then RESP_SUCCESS else RESP_CONTINUE

/-- The loop of `putFile`: send the chunk at `offset`, wait for its acknowledgement, go on behind
it. Every chunk but that of an empty payload has at least one byte, so the loop ends. -/
def putLoop (max' : ℕ) (namePayload data : List UInt8) (offset sent : ℕ) (first : Bool) :
    ObexM Unit := do
  let total := data.length
  let remaining := total - offset
  let take := min remaining (chunkCap max' namePayload first)
  let isLast := decide (total ≤ offset + take)
  writeAll (putPacket namePayload total first isLast ((data.drop offset).take take))
  flush
  let resp ← readResponse
  if resp.code ≠ expectedCode isLast then
    throw (.rejected "put" resp.code)
  onProgress (sent + take)
  if _hlast : total ≤ offset + take then
    return ()
  else
    putLoop max' namePayload data (offset + take) (sent + take) false
termination_by data.length - offset
decreasing_by
  -- A chunk that is not the last has as many bytes as fit, and at least one fits.
  have hcap : 1 ≤ chunkCap max' namePayload first := le_max_right _ _
  omega

/-- Push one object, reporting the cumulative byte count as each chunk is acknowledged. -/
def putFile (client : ObexOppClient) (name : String) (data : List UInt8) : ObexM Unit :=
  putLoop client.maxPacket (nameToUtf16 name) data 0 0 true

/-- Send DISCONNECT and consume the client. -/
def disconnect (_client : ObexOppClient) : ObexM Unit := do
  writeAll [OP_DISCONNECT, 0x00, 0x03]
  flush
  let resp ← readResponse
  if resp.code ≠ RESP_SUCCESS then
    throw (.rejected "disconnect" resp.code)

end ObexOppClient
end ObexOpp
end Pax
