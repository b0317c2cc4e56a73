import Pax.Hci.Mgmt

/-!
# Which datagram is the answer

`run_command_inner` and `read_inner` of `pax-hci/src/lib.rs` read datagrams until one answers the
command that was sent. The kernel sends other events to the same socket, and answers to other
commands.

`Answers` is the format of an answer: its bytes, with whatever may trail them. `FirstAnswer` says
which of the datagrams is taken: those before it are whole headers, and none of them is an answer.
`replies_exact` says that both loops return what this one says, whatever it is and whatever the
buffer held before, within the first 16 reads.

The two loops judge an event by one function (`answer`), so that one statement about the loop
(`replyRun_spec`) gives both.
-/

namespace Pax
namespace Hci

/-- What the kernel reports about a local controller. -/
structure ControllerInfo where
  manufacturer : UInt16
  hciVersion : UInt8
  deriving DecidableEq, Repr

/-! ### The loops -/

section Loop

variable {β : Type} (short exhausted : β) (onEvent : UInt16 → List UInt8 → Option (Option β))

/-- The same as `replyLoop`, with the reads that are left at its end. -/
def replyRun : ℕ → List Read → List UInt8 → Option (β × List Read)
  | 0, reads, _ => some (exhausted, reads)
  | k + 1, reads, buf =>
    let r := readInto buf (reads.headD .fail)
    handleRead (short, reads.tail)
      (fun code params => (onEvent code params).map (Option.map (·, reads.tail)))
      (replyRun k reads.tail r.2) r.1 r.2

end Loop

/-- What `read_inner` makes of one event: a Command Complete for its opcode ends the wait, anything
else is skipped. -/
def infoReply (eventCode : UInt16) (params : List UInt8) :
    Option (Option (Option ControllerInfo)) :=
  if eventCode = MGMT_EV_CMD_COMPLETE ∧ 3 ≤ params.length then do
    let cmdOpcode := Bytes.ofLe16 (← params[0]?) (← params[1]?)
    let status ← params[2]?
    if cmdOpcode = MGMT_OP_READ_INFO then
      if status ≠ 0 then return some none
      else
        let rp ← slice? params 3 params.length
        if rp.length < 9 then return some none
        else return some (some {
          hciVersion := ← rp[6]?
          manufacturer := Bytes.ofLe16 (← rp[7]?) (← rp[8]?) })
    else return none
  else some none

/-- Await the answer to Read Info over at most 16 reads; `none` is a panic. -/
def readInner (reads : List Read) : Option (Option ControllerInfo) :=
  replyLoop none none infoReply 16 reads (List.replicate bufLen 0)

/-! ### The answer -/

/-- The datagram is an event with one of these codes about that opcode: its declared parameters are
all there, and are the opcode, a status and a response. -/
def Answers (codes : List UInt16) (opcode : UInt16) (bytes : List UInt8) (status : UInt8)
    (response : List UInt8) : Prop :=
  ∃ code index length trailing, code ∈ codes ∧ length.toNat = 3 + response.length ∧
    bytes = Bytes.toLe16 code ++ Bytes.toLe16 index ++ Bytes.toLe16 length
      ++ (Bytes.toLe16 opcode ++ status :: response) ++ trailing

/-- The read is an answer, as far as it fits into the buffer. -/
def Answered (codes : List UInt16) (opcode : UInt16) (read : Option Read) (status : UInt8)
    (response : List UInt8) : Prop :=
  ∃ bytes, read = some (.datagram bytes) ∧
    Answers codes opcode (bytes.take bufLen) status response

/-- A datagram of six bytes or more that is no answer. -/
def PassedOver (codes : List UInt16) (opcode : UInt16) (read : Option Read) : Prop :=
  (∃ bytes, read = some (.datagram bytes) ∧ 6 ≤ bytes.length) ∧
    ∀ status response, ¬ Answered codes opcode read status response

/-- Among the first `k` reads, there is an answer with that status and response, and only datagrams
that are passed over before it. -/
def FirstAnswer (codes : List UInt16) (opcode : UInt16) (k : ℕ) (reads : List Read)
    (status : UInt8) (response : List UInt8) : Prop :=
  ∃ i < k, Answered codes opcode reads[i]? status response ∧
    ∀ j < i, PassedOver codes opcode reads[j]?

/-- The fields of a response to Read Info, if it is one of success and long enough to have them. -/
def controllerInfo (status : UInt8) (response : List UInt8) : Option ControllerInfo :=
  if status = 0 ∧ 9 ≤ response.length then
    some {
      hciVersion := response.getD 6 0
      manufacturer := Bytes.ofLe16 (response.getD 7 0) (response.getD 8 0) }
  else none

/-- The status and the response of an event, if it is an answer. -/
def answer (codes : List UInt16) (opcode : UInt16) : Received → Option (UInt8 × List UInt8)
  | .event code (o₀ :: o₁ :: status :: response) =>
    if code ∈ codes ∧ Bytes.ofLe16 o₀ o₁ = opcode then some (status, response) else none
  | _ => none

variable {codes : List UInt16} {opcode : UInt16} {status : UInt8} {bytes response : List UInt8}

/-- Only what is shorter than a header is a short read, which ends the loop. -/
theorem parseEvent_eq_short_iff : parseEvent bytes = .short ↔ bytes.length < 6 := by
  match bytes with
  | [] | [_] | [_, _] | [_, _, _] | [_, _, _, _] | [_, _, _, _, _] => simp [parseEvent]
  | c₀ :: c₁ :: i₀ :: i₁ :: l₀ :: l₁ :: rest =>
    rw [parseEvent]
    split <;> simp

/-- An event is a header, the parameters that it declares, and whatever trails them. -/
theorem parseEvent_eq_event_iff {code : UInt16} {params : List UInt8} :
    parseEvent bytes = .event code params ↔ ∃ index length trailing,
      length.toNat = params.length ∧
        bytes = Bytes.toLe16 code ++ Bytes.toLe16 index ++ Bytes.toLe16 length ++ params
          ++ trailing := by
  constructor
  · intro h
    -- A header needs six bytes, and what comes after it at least the parameters.
    match bytes with
    | [] | [_] | [_, _] | [_, _, _] | [_, _, _, _] | [_, _, _, _, _] => cases h
    | c₀ :: c₁ :: i₀ :: i₁ :: l₀ :: l₁ :: rest =>
      rw [parseEvent] at h
      split at h
      case isTrue => cases h
      case isFalse hlen =>
        cases h
        have hlength := List.length_take_of_le (Nat.not_lt.mp hlen)
        refine ⟨Bytes.ofLe16 i₀ i₁, Bytes.ofLe16 l₀ l₁, rest.drop (Bytes.ofLe16 l₀ l₁).toNat,
          hlength.symm, ?_⟩
        simp only [Bytes.toLe16_ofLe16]
        exact congrArg ([c₀, c₁, i₀, i₁, l₀, l₁] ++ ·) (List.take_append_drop _ rest).symm
  · rintro ⟨index, length, trailing, hlength, rfl⟩
    -- what trails the parameters only makes the datagram longer
    have hfits : ¬ (params ++ trailing).length < length.toNat := by
      rw [List.length_append]
      omega
    show parseEvent (_ :: _ :: _ :: _ :: _ :: _ :: (params ++ trailing)) = _
    rw [parseEvent, Bytes.ofLe16_toLe16, Bytes.ofLe16_toLe16, if_neg hfits,
      List.take_left' hlength.symm]

/-- An answer is an event with one of the codes, whose parameters are the opcode, a status and a
response. -/
theorem answer_eq_some_iff {received : Received} :
    answer codes opcode received = some (status, response) ↔
      ∃ code ∈ codes, received = .event code (Bytes.toLe16 opcode ++ status :: response) := by
  constructor
  · intro h
    unfold answer at h
    -- The parameters start with an opcode and a status, or there is no answer in them.
    split at h
    case h_2 => cases h
    case h_1 code o₀ o₁ status' response' =>
      split at h
      case isFalse => cases h
      case isTrue hanswer =>
        cases h
        refine ⟨code, hanswer.1, ?_⟩
        rw [← hanswer.2, Bytes.toLe16_ofLe16]
        rfl
  · rintro ⟨code, hcode, rfl⟩
    show answer codes opcode (.event code (_ :: _ :: status :: response)) = _
    rw [answer, if_pos ⟨hcode, Bytes.ofLe16_toLe16 opcode⟩]

/-- **What is taken for an answer has the format of one.** -/
theorem answer_parseEvent_iff :
    answer codes opcode (parseEvent bytes) = some (status, response)
      ↔ Answers codes opcode bytes status response := by
  have hlength : (Bytes.toLe16 opcode ++ status :: response).length = 3 + response.length := by
    rw [List.length_append, Bytes.length_toLe16, List.length_cons]
    omega
  rw [answer_eq_some_iff]
  simp only [parseEvent_eq_event_iff, hlength]
  constructor
  · rintro ⟨code, hcode, index, length, trailing, h⟩
    exact ⟨code, index, length, trailing, hcode, h⟩
  · rintro ⟨code, index, length, trailing, hcode, h⟩
    exact ⟨code, hcode, index, length, trailing, h⟩

theorem answered_iff {read : Option Read} :
    Answered codes opcode read status response
      ↔ answer codes opcode (read.getD .fail).received = some (status, response) := by
  match read with
  | none | some .fail => simp [Answered, Read.received, answer]
  | some (.datagram bytes) =>
    show (∃ bytes', some (Read.datagram bytes) = some (.datagram bytes') ∧ _) ↔ _
    rw [Option.getD_some, Read.received, answer_parseEvent_iff]
    simp

theorem passedOver_iff {read : Option Read} :
    PassedOver codes opcode read
      ↔ (read.getD .fail).received ≠ .short ∧
        answer codes opcode (read.getD .fail).received = none := by
  have hnone : (∀ status response, ¬ Answered codes opcode read status response)
      ↔ answer codes opcode (read.getD .fail).received = none := by
    simp only [answered_iff, Option.eq_none_iff_forall_ne_some, Prod.forall, ne_eq]
  rw [PassedOver, hnone]
  refine and_congr_left fun _ => ?_
  -- A read that fails is passed over, and so is a datagram unless it is too short.
  match read with
  | none | some .fail => simp [Read.received]
  | some (.datagram bytes) =>
    rw [Option.getD_some, Read.received, ne_eq, parseEvent_eq_short_iff, List.length_take, bufLen]
    simp

/-- The first answer is at the first read, or behind a first read that is passed over. -/
theorem firstAnswer_succ {k : ℕ} {reads : List Read} :
    FirstAnswer codes opcode (k + 1) reads status response
      ↔ Answered codes opcode reads.head? status response ∨
        PassedOver codes opcode reads.head? ∧
          FirstAnswer codes opcode k reads.tail status response := by
  rw [List.head?_eq_getElem?]
  constructor
  -- The first answer is the first read, or it comes later, with the first read passed over.
  · rintro ⟨i, hi, hanswered, hpassed⟩
    match i with
    | 0 => exact .inl hanswered
    | i + 1 =>
      refine .inr ⟨hpassed 0 (Nat.succ_pos i), i, Nat.lt_of_succ_lt_succ hi, ?_, ?_⟩
      · rwa [List.getElem?_tail]
      · intro j hj
        rw [List.getElem?_tail]
        exact hpassed (j + 1) (Nat.succ_lt_succ hj)
  · rintro (hanswered | ⟨hhead, i, hi, hanswered, hpassed⟩)
    · exact ⟨0, Nat.succ_pos k, hanswered, fun j hj => absurd hj (Nat.not_lt_zero j)⟩
    · refine ⟨i + 1, Nat.succ_lt_succ hi, ?_, ?_⟩
      · rwa [List.getElem?_tail] at hanswered
      · intro j hj
        match j with
        | 0 => exact hhead
        | j + 1 =>
          have h := hpassed j (Nat.lt_of_succ_lt_succ hj)
          rwa [List.getElem?_tail] at h

/-! ### What the loops return -/

section Spec

variable {β : Type} (short exhausted : β) {onEvent : UInt16 → List UInt8 → Option (Option β)}
  {f : UInt8 × List UInt8 → β}

/-- A read is handled by its own bytes, whatever the buffer held. -/
theorem handleRead_readInto (onEvent : UInt16 → List UInt8 → Option (Option β)) (next : Option β)
    (read : Read) (buf : List UInt8) :
    handleRead short onEvent next (readInto buf read).1 (readInto buf read).2
      = handleReceived short onEvent next read.received := by
  cases read with
  | fail => rfl
  | datagram bytes => exact handleRead_arrived short onEvent _ _ _

/-- What is not short is decided by the answer in it, or left to the next turn. -/
theorem handleReceived_eq
    (hevent : ∀ code params, onEvent code params
      = some ((answer codes opcode (.event code params)).map f))
    (next : Option β) {received : Received} (hshort : received ≠ .short) :
    handleReceived short onEvent next received
      = (answer codes opcode received).elim next (some ∘ f) := by
  cases received with
  | short => exact absurd rfl hshort
  | truncated => rfl
  | event code params =>
    rw [handleReceived, hevent]
    cases answer codes opcode (.event code params) with
    | none => rfl
    | some found => rfl

/-- `replyRun` is the loop, with the reads that it leaves. -/
theorem replyRun_fst (onEvent : UInt16 → List UInt8 → Option (Option β)) (k : ℕ) (reads : List Read)
    (buf : List UInt8) :
    (replyRun short exhausted onEvent k reads buf).map Prod.fst
      = replyLoop short exhausted onEvent k reads buf := by
  induction k generalizing reads buf with
  | zero => rfl
  | succ k ih =>
    have hnext := ih reads.tail (readInto buf (reads.headD .fail)).2
    rw [replyRun, replyLoop, handleRead_readInto, handleRead_readInto]
    -- A short read ends both loops, and otherwise the event decides, in both alike.
    cases (reads.headD .fail).received with
    | short => rfl
    | truncated => exact hnext
    | event code params =>
      simp only [handleReceived]
      cases onEvent code params with
      | none => rfl
      | some decision =>
        cases decision with
        | none => exact hnext
        | some b => rfl

/-- One turn: a short read ends the loop, an answer decides, and anything else is left to the next
turns. -/
theorem replyRun_succ
    (hevent : ∀ code params, onEvent code params
      = some ((answer codes opcode (.event code params)).map f))
    (k : ℕ) (reads : List Read) (buf : List UInt8) :
    replyRun short exhausted onEvent (k + 1) reads buf
      = if (reads.headD .fail).received = .short then some (short, reads.tail)
        else (answer codes opcode (reads.headD .fail).received).elim
          (replyRun short exhausted onEvent k reads.tail (readInto buf (reads.headD .fail)).2)
          fun a => some (f a, reads.tail) := by
  -- the decision takes the reads along that are left
  have hleaves : ∀ code params, (onEvent code params).map (Option.map (·, reads.tail))
      = some ((answer codes opcode (.event code params)).map fun a => (f a, reads.tail)) := by
    intro code params
    rw [hevent, Option.map_some, Option.map_map]
    rfl
  rw [replyRun, handleRead_readInto]
  split
  next hshort =>
    rw [hshort]
    rfl
  next hshort => exact handleReceived_eq _ hleaves _ hshort

/-- **The loop returns what the first answer says.** Where every event is judged by `answer`, it
ends after at most `k` reads, with the same result for every content of the buffer. -/
theorem replyRun_spec
    (hevent : ∀ code params, onEvent code params
      = some ((answer codes opcode (.event code params)).map f))
    (k : ℕ) (reads : List Read) :
    ∃ result, (∃ count ≤ k, ∀ buf,
        replyRun short exhausted onEvent k reads buf = some (result, reads.drop count)) ∧
      (∀ status response, FirstAnswer codes opcode k reads status response →
        result = f (status, response)) ∧
      ((∀ status response, ¬ FirstAnswer codes opcode k reads status response) →
        result = short ∨ result = exhausted) := by
  -- Induction on the reads left: the first of them decides, or is passed over.
  induction k generalizing reads with
  | zero =>
    refine ⟨exhausted, ⟨0, le_rfl, fun _ => rfl⟩, ?_, fun _ => .inr rfl⟩
    rintro status response ⟨i, hi, -⟩
    exact absurd hi (Nat.not_lt_zero i)
  | succ k ih =>
    have hhead : reads.headD .fail = reads.head?.getD .fail := List.headD_eq_head?_getD
    simp only [replyRun_succ short exhausted hevent, firstAnswer_succ, answered_iff,
      passedOver_iff, ← hhead]
    by_cases hshort : (reads.headD .fail).received = .short
    · -- a short read is neither an answer nor passed over
      refine ⟨short, ⟨1, Nat.succ_pos k, fun buf => ?_⟩, ?_, fun _ => .inl rfl⟩
      · rw [if_pos hshort, List.drop_one]
      · rintro status response (hanswer | ⟨hpassed, -⟩)
        · rw [hshort] at hanswer
          exact absurd hanswer.symm (Option.some_ne_none _)
        · exact absurd hshort hpassed.1
    -- an answer ends the loop here; without one this read is passed over
    cases hanswer : answer codes opcode (reads.headD .fail).received with
    | some found =>
      refine ⟨f found, ⟨1, Nat.succ_pos k, fun buf => ?_⟩, ?_, ?_⟩
      · rw [if_neg hshort, Option.elim_some, List.drop_one]
      · rintro status response (hfound | ⟨⟨-, hfound⟩, -⟩)
        · rw [Option.some.inj hfound]
        · exact absurd hfound (Option.some_ne_none _)
      · intro h
        exact absurd (.inl rfl) (h found.1 found.2)
    | none =>
      obtain ⟨result, ⟨count, hcount, hrest⟩, hfirst, hnone⟩ := ih reads.tail
      refine ⟨result, ⟨count + 1, Nat.succ_le_succ hcount, fun buf => ?_⟩, ?_, ?_⟩
      · rw [if_neg hshort, Option.elim_none, hrest, List.drop_tail]
      · rintro status response (hfound | ⟨-, hfound⟩)
        · exact absurd hfound.symm (Option.some_ne_none _)
        · exact hfirst status response hfound
      · intro h
        exact hnone fun status response hfound => h status response (.inr ⟨⟨hshort, rfl⟩, hfound⟩)

end Spec

theorem commandStatus_eq_answer (opcode code : UInt16) (params : List UInt8) :
    commandStatus opcode code params
      = some ((answer [MGMT_EV_CMD_COMPLETE, MGMT_EV_CMD_STATUS] opcode (.event code params)).map
        fun a => statusResult a.1) := by
  rw [commandStatus_eq]
  match params with
  | [] | [_] | [_, _] => rfl
  | o₀ :: o₁ :: status :: response =>
    rw [terminalStatus, answer]
    simp only [List.mem_cons, List.not_mem_nil, or_false]
    split <;> rfl

theorem infoReply_eq_answer (code : UInt16) (params : List UInt8) :
    infoReply code params
      = some ((answer [MGMT_EV_CMD_COMPLETE] MGMT_OP_READ_INFO (.event code params)).map
        fun a => controllerInfo a.1 a.2) := by
  unfold infoReply
  match params with
  | [] | [_] | [_, _] => simp [answer]
  | o₀ :: o₁ :: status :: response =>
    rw [answer]
    by_cases hcode : code = MGMT_EV_CMD_COMPLETE
    case neg => simp [hcode]
    by_cases hopcode : Bytes.ofLe16 o₀ o₁ = MGMT_OP_READ_INFO
    case neg => simp [hopcode]
    -- the response is all that stands behind the status
    have hslice : slice? (o₀ :: o₁ :: status :: response) 3
        (o₀ :: o₁ :: status :: response).length = some response := by
      simp [slice?]
    have hlen : 3 ≤ (o₀ :: o₁ :: status :: response).length := by simp
    rw [if_pos ⟨hcode, hlen⟩, if_pos ⟨List.mem_singleton.mpr hcode, hopcode⟩]
    simp only [List.getElem?_cons_zero, List.getElem?_cons_succ, Option.bind_eq_bind,
      Option.bind_some, if_pos hopcode, hslice, Option.map_some, controllerInfo]
    -- Only a status of 0 with enough bytes behind it is read further.
    by_cases hstatus : status = 0
    case neg => rw [if_pos hstatus, if_neg fun h => hstatus h.1]; rfl
    rw [if_neg (not_not.mpr hstatus)]
    by_cases hshort : response.length < 9
    case pos => rw [if_pos hshort, if_neg fun h => Nat.not_lt.mpr h.2 hshort]; rfl
    have hget : ∀ i < 9, response[i]? = some (response.getD i 0) := by
      intro i hi
      rw [List.getD_eq_getElem?_getD, List.getElem?_eq_getElem (by omega), Option.getD_some]
    rw [if_neg hshort, if_pos ⟨hstatus, Nat.not_lt.mp hshort⟩, hget 6 (by decide),
      hget 7 (by decide), hget 8 (by decide)]
    rfl

/-- **The result of a command or a query is what the first answer to it says.** Over any reads,
both loops end within the first 16, with the same result for every content of the buffer. It is
what the first answer says, and an I/O error or nothing if there is none. -/
theorem replies_exact (opcode : UInt16) (reads : List Read) :
    (∃ result, runCommandInner opcode reads = some result ∧
      (∃ count ≤ 16, ∀ buf,
        replyRun (.error shortReply) (.error noCompletion) (commandStatus opcode) 16 reads buf
          = some (result, reads.drop count)) ∧
      (∀ buf, replyLoop (.error shortReply) (.error noCompletion) (commandStatus opcode) 16 reads
        buf = some result) ∧
      (∀ status response, FirstAnswer [MGMT_EV_CMD_COMPLETE, MGMT_EV_CMD_STATUS] opcode 16 reads
        status response → result = if status = 0 then .ok () else .error (.command status)) ∧
      ((∀ status response, ¬ FirstAnswer [MGMT_EV_CMD_COMPLETE, MGMT_EV_CMD_STATUS] opcode 16
        reads status response) → ∃ detail, result = .error (.io detail))) ∧
    ∃ info, readInner reads = some info ∧
      (∃ count ≤ 16, ∀ buf,
        replyRun none none infoReply 16 reads buf = some (info, reads.drop count)) ∧
      (∀ buf, replyLoop none none infoReply 16 reads buf = some info) ∧
      (∀ status response, FirstAnswer [MGMT_EV_CMD_COMPLETE] MGMT_OP_READ_INFO 16 reads status
        response → info = controllerInfo status response) ∧
      ((∀ status response, ¬ FirstAnswer [MGMT_EV_CMD_COMPLETE] MGMT_OP_READ_INFO 16 reads status
        response) → info = none) := by
  constructor
  · obtain ⟨result, ⟨count, hcount, hrun⟩, hfirst, hnone⟩ :=
      replyRun_spec (.error shortReply) (.error noCompletion) (commandStatus_eq_answer opcode) 16
        reads
    have hloop := fun buf => (replyRun_fst _ _ _ 16 reads buf).symm.trans
      (congrArg (Option.map Prod.fst) (hrun buf))
    refine ⟨result, hloop _, ⟨count, hcount, hrun⟩, hloop, hfirst, fun h => ?_⟩
    rcases hnone h with rfl | rfl
    · exact ⟨_, rfl⟩
    · exact ⟨_, rfl⟩
  -- The same loop, with the replies to the other command.
  · obtain ⟨info, ⟨count, hcount, hrun⟩, hfirst, hnone⟩ :=
      replyRun_spec none none infoReply_eq_answer 16 reads
    have hloop := fun buf => (replyRun_fst _ _ _ 16 reads buf).symm.trans
      (congrArg (Option.map Prod.fst) (hrun buf))
    exact ⟨info, hloop _, ⟨count, hcount, hrun⟩, hloop, hfirst, fun h => or_self_iff.mp (hnone h)⟩

-- The second datagram claims the status that the first one left in the buffer, and is passed over.
example : runCommandInner MGMT_OP_SET_POWERED
    [.datagram [3, 0, 0, 0, 3, 0, 5, 0, 9], .datagram [1, 0, 0, 0, 3, 0, 5, 0],
      .datagram [1, 0, 0, 0, 3, 0, 5, 0, 0]] = some (.ok ()) := by
  rw [runCommandInner_eq]
  rfl

end Hci
end Pax
