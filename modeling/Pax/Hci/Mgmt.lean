import Pax.Core.Device
import Pax.Framework.Bytes
import Pax.Framework.Outcome

/-!
# Mgmt commands, byte by byte

The command half of `pax-hci/src/lib.rs`: how a management command is put on the wire, and how its
answer is awaited on the socket. Reading goes through one 1024-byte buffer that is reused from read
to read, so every access to it is modelled as it stands: `none` is an access out of bounds, which
panics in the source, and bytes of an earlier datagram stay behind a shorter one.

`replyLoop` is the loop that `run_command_inner` and `read_inner` share. It never panics and never
sees a stale byte: whatever the buffer held, it computes `scan`, which looks at each datagram alone
(`replyLoop_eq_scan`).

For a command this comes down to `awaitStatus` (`runCommandInner_eq`), which is what the spoofing of
an address builds on (`Pax.Hci.Spoof`). Which of the datagrams is the answer, in terms of their
bytes, is the subject of `Pax.Hci.Replies`.
-/

namespace Pax
namespace Hci

def MGMT_OP_READ_INFO : UInt16 := 0x0004
def MGMT_OP_SET_POWERED : UInt16 := 0x0005
def MGMT_OP_SET_PUBLIC_ADDRESS : UInt16 := 0x0039
def MGMT_EV_CMD_COMPLETE : UInt16 := 0x0001
def MGMT_EV_CMD_STATUS : UInt16 := 0x0002

/-! ### Errors -/

/-- Why staging or applying a new controller address failed. -/
inductive SetAddressError where
  | unsupported
  | io (detail : String)
  /-- The kernel rejected the command with a mgmt status code. -/
  | command (status : UInt8)
  deriving DecidableEq, Repr

/-- A human-readable label for a mgmt status byte. -/
def SetAddressError.statusStr (status : UInt8) : String :=
  match status.toNat with
  | 0x00 => "success"
  | 0x01 => "unknown command"
  | 0x02 => "not connected"
  | 0x03 => "failed"
  | 0x04 => "connect failed"
  | 0x05 => "authentication failed"
  | 0x06 => "not paired"
  | 0x07 => "no resources"
  | 0x08 => "timeout"
  | 0x09 => "already connected"
  | 0x0A => "busy"
  | 0x0B => "rejected (is the adapter still powered on?)"
  | 0x0C => "not supported (controller cannot change its address)"
  | 0x0D => "invalid parameters"
  | 0x0E => "disconnected"
  | 0x0F => "not powered"
  | 0x10 => "cancelled"
  | 0x11 => "invalid index (no such controller)"
  | 0x12 => "rf-killed"
  | 0x13 => "already paired"
  | 0x14 => "permission denied (need CAP_NET_ADMIN)"
  | _ => "unknown status"

def SetAddressError.display : SetAddressError → String
  | .unsupported => "setting the controller address is only supported on Linux"
  | .io detail => "mgmt socket I/O error: " ++ detail
  | .command s => "mgmt command failed: " ++ statusStr s ++ " (0x" ++ (hex2 s).toLower ++ ")"

/-! ### Commands on the wire -/

/-- A 6-byte header (opcode, controller index, parameter length, each little-endian) and the
parameters. -/
def encodeCommand (opcode index : UInt16) (params : List UInt8) : List UInt8 :=
  Bytes.toLe16 opcode ++ Bytes.toLe16 index ++ Bytes.toLe16 (UInt16.ofNat params.length) ++ params

/-- A display-order address as the little-endian bytes of the mgmt `bdaddr_t`. -/
def bdaddrLe (addr : BdAddr) : List UInt8 := addr.octets.toList.reverse

/-! ### Awaiting an answer -/

/-- What one call of `read` on the socket meets. -/
inductive Read where
  /-- It failed, or timed out. -/
  | fail
  | datagram (bytes : List UInt8)
  deriving DecidableEq, Repr

/-- The size of the buffer that an answer is read into. -/
def bufLen : ℕ := 1024

/-- One `read` into the buffer: the result, and the buffer. A longer datagram is truncated, and
behind a shorter one the old bytes stay. -/
def readInto (buf : List UInt8) : Read → ℤ × List UInt8
  | .fail => (-1, buf)
  | .datagram bytes => ((bytes.take bufLen).length, bytes.take bufLen ++ buf.drop bytes.length)

/-- The slice `buf[lo..hi]`, which panics if it is not within the buffer. -/
def slice? (buf : List UInt8) (lo hi : ℕ) : Option (List UInt8) :=
  if lo ≤ hi ∧ hi ≤ buf.length then some ((buf.drop lo).take (hi - lo)) else none

section Loop

variable {β : Type} (short exhausted : β) (onEvent : UInt16 → List UInt8 → Option (Option β))

/-- What the loop does after a read returned `n`: a result below six ends it with `short`, an event
is handed to `onEvent`, and `next` is the loop's next turn. -/
def handleRead (next : Option β) (n : ℤ) (buf : List UInt8) : Option β :=
  if n < 6 then
    some short
  else do
    let eventCode := Bytes.ofLe16 (← buf[0]?) (← buf[1]?)
    let paramLen := (Bytes.ofLe16 (← buf[4]?) (← buf[5]?)).toNat
    if n.toNat < 6 + paramLen then
      next
    else
      let params ← slice? buf 6 (6 + paramLen)
      match ← onEvent eventCode params with
      | some b => return b
      | none => next

/-- Read up to `k` datagrams, until one decides; running out of reads gives `exhausted`. -/
def replyLoop : ℕ → List Read → List UInt8 → Option β
  | 0, _, _ => some exhausted
  | k + 1, reads, buf =>
    let r := readInto buf (reads.headD .fail)
    handleRead short onEvent (replyLoop k reads.tail r.2) r.1 r.2

/-- What a read amounts to, from its own bytes. -/
inductive Received where
  | short
  /-- The event claims more parameters than arrived. -/
  | truncated
  | event (code : UInt16) (params : List UInt8)
  deriving DecidableEq, Repr

/-- The event in a datagram: a header of six bytes, and the parameters that it declares. -/
def parseEvent : List UInt8 → Received
  | c₀ :: c₁ :: _ :: _ :: l₀ :: l₁ :: rest =>
    if rest.length < (Bytes.ofLe16 l₀ l₁).toNat then .truncated
    else .event (Bytes.ofLe16 c₀ c₁) (rest.take (Bytes.ofLe16 l₀ l₁).toNat)
  | _ => .short

/-- What a read amounts to: a failure is short, and a longer datagram is cut off at the size of
the buffer. -/
def Read.received : Read → Received
  | .fail => .short
  | .datagram bytes => parseEvent (bytes.take bufLen)

/-- What the loop does with one datagram, from its own bytes. -/
def handleReceived (next : Option β) : Received → Option β
  | .short => some short
  | .truncated => next
  | .event code params => do
    match ← onEvent code params with
    | some b => return b
    | none => next

/-- The loop over the reads without its buffer: whether an answer counts is read off the bytes of
it. -/
def scan : ℕ → List Read → Option β
  | 0, _ => some exhausted
  | k + 1, reads =>
    handleReceived short onEvent (scan k reads.tail) (reads.headD .fail).received

theorem slice?_header {a b c d e f : UInt8} {rest : List UInt8} {n : ℕ} (h : n ≤ rest.length) :
    slice? (a :: b :: c :: d :: e :: f :: rest) 6 (6 + n) = some (rest.take n) := by
  have hlen : 6 ≤ 6 + n ∧ 6 + n ≤ (a :: b :: c :: d :: e :: f :: rest).length := by
    simp only [List.length_cons]
    omega
  rw [slice?, if_pos hlen, Nat.add_sub_cancel_left]
  rfl

/-- One datagram in front of whatever the buffer held behind it is handled by its own bytes. -/
theorem handleRead_arrived (next : Option β) (arrived stale : List UInt8) :
    handleRead short onEvent next arrived.length (arrived ++ stale)
      = handleReceived short onEvent next (parseEvent arrived) := by
  -- Fewer than six bytes are a short read on both sides; from six on, the header is there.
  match arrived with
  | [] => rfl
  | [_] => rfl
  | [_, _] => rfl
  | [_, _, _] => rfl
  | [_, _, _, _] => rfl
  | [_, _, _, _, _] => rfl
  | c₀ :: c₁ :: c₂ :: c₃ :: l₀ :: l₁ :: rest =>
    have hlong : ¬ ((c₀ :: c₁ :: c₂ :: c₃ :: l₀ :: l₁ :: rest).length : ℤ) < 6 := by
      simp only [List.length_cons]
      omega
    have hcount : ((c₀ :: c₁ :: c₂ :: c₃ :: l₀ :: l₁ :: rest).length : ℤ).toNat
        = rest.length + 6 := rfl
    rw [handleRead, if_neg hlong, hcount]
    simp only [List.cons_append, List.getElem?_cons_zero, List.getElem?_cons_succ, parseEvent,
      Option.bind_eq_bind, Option.bind_some]
    -- The length check is on what arrived, so the slice never reaches the stale bytes.
    by_cases hlen : rest.length < (Bytes.ofLe16 l₀ l₁).toNat
    · rw [if_pos (by omega), if_pos hlen]
      rfl
    · have hle : (Bytes.ofLe16 l₀ l₁).toNat ≤ (rest ++ stale).length := by
        rw [List.length_append]
        omega
      rw [if_neg (by omega), if_neg hlen, slice?_header hle,
        List.take_append_of_le_length (by omega)]
      rfl

/-- **The buffer does not matter.** Whatever it holds, the loop stays within its bounds and
computes what the datagrams alone determine. -/
theorem replyLoop_eq_scan (k : ℕ) (reads : List Read) (buf : List UInt8) :
    replyLoop short exhausted onEvent k reads buf = scan short exhausted onEvent k reads := by
  -- Induction on the reads left, for every buffer: each turn leaves another one behind.
  induction k generalizing reads buf with
  | zero => rfl
  | succ k ih =>
    rw [replyLoop, scan, ih]
    cases reads.headD .fail with
    | fail => rfl
    | datagram bytes => exact handleRead_arrived short onEvent _ _ _

end Loop

/-! ### The answer to a command -/

/-- What `run_command_inner` makes of one event: the status of a Command Complete or Command Status
for the opcode it sent ends the wait, anything else is skipped. -/
def commandStatus (opcode : UInt16) (eventCode : UInt16) (params : List UInt8) :
    Option (Option (Except SetAddressError Unit)) :=
  if (eventCode = MGMT_EV_CMD_COMPLETE ∨ eventCode = MGMT_EV_CMD_STATUS) ∧ 3 ≤ params.length then do
    let cmdOpcode := Bytes.ofLe16 (← params[0]?) (← params[1]?)
    let status ← params[2]?
    if cmdOpcode = opcode then
      return some (if status = 0 then .ok () else .error (.command status))
    else return none
  else some none

def shortReply : SetAddressError := .io "short or timed-out mgmt reply"

def noCompletion : SetAddressError := .io "no mgmt command-complete for the requested opcode"

/-- Await the answer to a command over at most 16 reads; `none` is a panic. -/
def runCommandInner (opcode : UInt16) (reads : List Read) : Option (Except SetAddressError Unit) :=
  replyLoop (.error shortReply) (.error noCompletion) (commandStatus opcode) 16 reads
    (List.replicate bufLen 0)

/-- The status that an event reports for a command, from its code and its parameters. -/
def terminalStatus (opcode : UInt16) : Received → Option UInt8
  | .event code (o₀ :: o₁ :: status :: _) =>
    if (code = MGMT_EV_CMD_COMPLETE ∨ code = MGMT_EV_CMD_STATUS) ∧ Bytes.ofLe16 o₀ o₁ = opcode then
      some status
    else none
  | _ => none

/-- What the caller of a command is told for a status. -/
def statusResult (status : UInt8) : Except SetAddressError Unit :=
  if status = 0 then .ok () else .error (.command status)

/-- Await the status of a command over at most `k` reads. -/
def awaitStatus (opcode : UInt16) : ℕ → List Read → Except SetAddressError Unit
  | 0, _ => .error noCompletion
  | k + 1, reads =>
    if (reads.headD .fail).received = .short then .error shortReply
    else
      match terminalStatus opcode (reads.headD .fail).received with
      | some status => statusResult status
      | none => awaitStatus opcode k reads.tail

/-- An event is skipped or decides, and never panics: the three bytes that are looked at are
there. -/
theorem commandStatus_eq (opcode code : UInt16) (params : List UInt8) :
    commandStatus opcode code params
      = some ((terminalStatus opcode (.event code params)).map statusResult) := by
  unfold commandStatus
  -- With three parameters or more the indexing is in bounds, and with fewer it is not reached.
  match params with
  | [] => simp [terminalStatus]
  | [_] => simp [terminalStatus]
  | [_, _] => simp [terminalStatus]
  | o₀ :: o₁ :: status :: rest =>
    have hlen : 3 ≤ (o₀ :: o₁ :: status :: rest).length := by simp
    by_cases hcode : code = MGMT_EV_CMD_COMPLETE ∨ code = MGMT_EV_CMD_STATUS
    · rw [if_pos ⟨hcode, hlen⟩]
      by_cases hopcode : Bytes.ofLe16 o₀ o₁ = opcode
      · simp [terminalStatus, hcode, hopcode, statusResult]
      · simp [terminalStatus, hopcode]
    · rw [if_neg fun h => hcode h.1]
      simp [terminalStatus, hcode]

/-- **A command's result is the first status answered for it.** The byte loop never panics, and
what it returns is what the datagrams say. -/
theorem runCommandInner_eq (opcode : UInt16) (reads : List Read) :
    runCommandInner opcode reads = some (awaitStatus opcode 16 reads) := by
  -- Without the buffer, the loop over datagrams is `awaitStatus`, turn for turn.
  have hscan : ∀ (k : ℕ) (reads : List Read),
      scan (.error shortReply) (.error noCompletion) (commandStatus opcode) k reads
        = some (awaitStatus opcode k reads) := by
    intro k
    induction k with
    | zero => intro reads; rfl
    | succ k ih =>
      intro reads
      rw [scan, awaitStatus, ih]
      cases hr : (reads.headD .fail).received with
      | short => rfl
      | truncated => rfl
      | event code params =>
        rw [if_neg (by simp), handleReceived, commandStatus_eq]
        cases terminalStatus opcode (.event code params) with
        | none => rfl
        | some status => rfl
  unfold runCommandInner
  rw [replyLoop_eq_scan, hscan]

/-- The status the kernel answers a command with, wherever it stands among the datagrams. -/
def statusAnswered (opcode : UInt16) (reads : List Read) : Option UInt8 :=
  reads.findSome? fun r => terminalStatus opcode r.received

/-- A command that is told to have succeeded was answered with success. -/
theorem statusAnswered_of_awaitStatus_ok {opcode : UInt16} {k : ℕ} {reads : List Read}
    (h : awaitStatus opcode k reads = .ok ()) : statusAnswered opcode reads = some 0 := by
  induction k generalizing reads with
  | zero => exact absurd h (by simp [awaitStatus])
  | succ k ih =>
    cases reads with
    | nil => exact absurd h (by simp [awaitStatus, Read.received])
    | cons r rs =>
      unfold statusAnswered
      rw [awaitStatus, List.headD_cons, List.tail_cons] at h
      rw [List.findSome?_cons]
      -- A short read ends the wait with an error, so there was none.
      by_cases hshort : r.received = .short
      · rw [if_pos hshort] at h
        exact absurd h (by simp)
      rw [if_neg hshort] at h
      cases hstatus : terminalStatus opcode r.received with
      | none =>
        rw [hstatus] at h
        exact ih h
      | some status =>
        rw [hstatus] at h
        dsimp only at h ⊢
        -- only the status 0 is reported as a success
        by_cases hzero : status = 0
        · rw [hzero]
        · rw [statusResult, if_neg hzero] at h
          exact absurd h (by simp)

end Hci
end Pax
