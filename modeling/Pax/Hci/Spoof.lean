import Pax.Hci.Mgmt

/-!
# Changing the controller's address

`set_powered`, `set_public_address` and `spoof_public_address` of `pax-hci/src/lib.rs` against a
host with controllers.

The kernel is any function that says, for the `k`-th command and its bytes, how the socket behaves
and whether the command was carried out; all that is assumed of it is that a success status means
the command was carried out and a failure status means it was not (`Kernel`). A command that is
carried out has its documented effect (`Host.perform`): the kernel reads the bytes that were
written, powers the controller, or stages the address for the next power-on.

`run_runCommand` says what one command comes to. From it, `run_spoofPublicAddress_refused` follows a
change that is refused: the controller was powered off for it, and is not powered on again. What a
backend makes of that is in `Pax.Transport.BlueZ.Address`.
-/

namespace Pax
namespace Hci

/-! ### Controllers -/

/-- One controller: the address it presents, and the one staged for the next power-on. -/
structure Controller where
  powered : Bool
  address : BdAddr
  staged : Option BdAddr
  deriving DecidableEq

/-- The controllers of a host, by index. -/
abbrev Host := UInt16 → Controller

/-- A command as the kernel reads it. -/
structure Command where
  opcode : UInt16
  index : UInt16
  params : List UInt8
  deriving DecidableEq, Repr

/-- The kernel's reading of a written command; the announced length has to be the real one. -/
def decodeCommand : List UInt8 → Option Command
  | o₀ :: o₁ :: i₀ :: i₁ :: l₀ :: l₁ :: params =>
    if (Bytes.ofLe16 l₀ l₁).toNat = params.length then
      some { opcode := Bytes.ofLe16 o₀ o₁, index := Bytes.ofLe16 i₀ i₁, params }
    else none
  | _ => none

/-- Turning a controller on or off. A staged address takes effect when it comes on. -/
def Controller.setPower (c : Controller) (on : Bool) : Controller :=
  { c with
    powered := on
    address := if on && !c.powered then c.staged.getD c.address else c.address }

/-- The documented effect of a command. -/
def Host.perform (host : Host) (cmd : Command) : Host :=
  if cmd.opcode = MGMT_OP_SET_POWERED then
    match cmd.params with
    | [b] => Function.update host cmd.index ((host cmd.index).setPower (b ≠ 0))
    | _ => host
  else if cmd.opcode = MGMT_OP_SET_PUBLIC_ADDRESS then
    match cmd.params with
    | [a, b, c, d, e, f] =>
      Function.update host cmd.index
        { host cmd.index with staged := some ⟨#v[f, e, d, c, b, a]⟩ }
    | _ => host
  else host

/-! ### The kernel -/

/-- How the kernel and the socket deal with one command. -/
structure Exchange where
  /-- Opening and binding the socket failed. -/
  openError : Option String
  /-- Writing the command failed. -/
  writeError : Option String
  reads : List Read
  /-- The command was carried out. -/
  performed : Bool
  deriving DecidableEq, Repr

/-- The kernel received the command: the socket was opened and the bytes were written. -/
def Exchange.Delivered (e : Exchange) : Prop := e.openError = none ∧ e.writeError = none

instance (e : Exchange) : Decidable e.Delivered := inferInstanceAs (Decidable (_ ∧ _))

/-- A kernel: its dealings with the `k`-th command, given the bytes written. A success status
means that the command was carried out, and a failure status that it was not. Without a status,
as when the answer is lost, it may have been either. -/
structure Kernel where
  answer : ℕ → List UInt8 → Exchange
  undelivered : ∀ k bytes, ¬ (answer k bytes).Delivered → (answer k bytes).performed = false
  success : ∀ k bytes cmd, decodeCommand bytes = some cmd → (answer k bytes).Delivered →
    statusAnswered cmd.opcode (answer k bytes).reads = some 0 → (answer k bytes).performed = true
  failure : ∀ k bytes cmd status, decodeCommand bytes = some cmd → (answer k bytes).Delivered →
    statusAnswered cmd.opcode (answer k bytes).reads = some status → status ≠ 0 →
    (answer k bytes).performed = false

/-! ### The commands -/

/-- The controllers, and how many commands have been sent. -/
structure MgmtState where
  host : Host
  sent : ℕ

/-- Why a call did not return `Ok`: it panicked, or it failed with an error. -/
inductive Abort where
  | panicked
  | failed (e : SetAddressError)
  deriving DecidableEq, Repr

abbrev MgmtM := EStateM Abort MgmtState

section Commands

variable (kernel : Kernel)

/-- Send a command and wait for its status. -/
def runCommand (opcode index : UInt16) (params : List UInt8) : MgmtM Unit := fun st =>
  let bytes := encodeCommand opcode index params
  let e := kernel.answer st.sent bytes
  let host :=
    match decodeCommand bytes with
    | some cmd => if e.performed then st.host.perform cmd else st.host
    | none => st.host
  let st' : MgmtState := { host, sent := st.sent + 1 }
  match e.openError, e.writeError, runCommandInner opcode e.reads with
  | some detail, _, _ => .error (.failed (.io detail)) st'
  | none, some detail, _ => .error (.failed (.io detail)) st'
  | none, none, none => .error .panicked st'
  | none, none, some (.ok ()) => .ok () st'
  | none, none, some (.error err) => .error (.failed err) st'

/-- Turn a controller on or off. -/
def setPowered (index : UInt16) (on : Bool) : MgmtM Unit :=
  runCommand kernel MGMT_OP_SET_POWERED index [if on then 1 else 0]

/-- Stage an address for the next power-on. -/
def setPublicAddress (index : UInt16) (addr : BdAddr) : MgmtM Unit :=
  runCommand kernel MGMT_OP_SET_PUBLIC_ADDRESS index (bdaddrLe addr)

/-- Power off, stage the address, power on. Each of the three returns its error at once. -/
def spoofPublicAddress (index : UInt16) (addr : BdAddr) : MgmtM Unit := do
  setPowered kernel index false
  setPublicAddress kernel index addr
  setPowered kernel index true

end Commands

/-! ### What the kernel reads -/

/-- **A command is read as it was meant**: the kernel finds the opcode, the controller and the
parameters that it was encoded from. -/
theorem decodeCommand_encodeCommand (opcode index : UInt16) {params : List UInt8}
    (hparams : params.length < 2 ^ 16) :
    decodeCommand (encodeCommand opcode index params) = some { opcode, index, params } := by
  -- The three header fields are two bytes each; the length field holds for a short list.
  show decodeCommand (_ :: _ :: _ :: _ :: _ :: _ :: params) = _
  rw [decodeCommand]
  unfold Bytes.ofLe16
  rw [Bytes.ofBe16_toBe16, Bytes.ofBe16_toBe16, Bytes.ofBe16_toBe16, Bytes.toNat_ofNat16 hparams,
    if_pos rfl]

/-! ### One command -/

/-- What the caller of a command is told. -/
def Exchange.result (opcode : UInt16) (e : Exchange) : Except SetAddressError Unit :=
  match e.openError, e.writeError with
  | some detail, _ => .error (.io detail)
  | none, some detail => .error (.io detail)
  | none, none => awaitStatus opcode 16 e.reads

/-- The kernel answered a command with a failure status. -/
def Exchange.Refuses (opcode : UInt16) (e : Exchange) : Prop :=
  e.Delivered ∧ ∃ status, statusAnswered opcode e.reads = some status ∧ status ≠ 0

variable {kernel : Kernel}

/-- **One command.** It never panics, is carried out when the kernel says so, and tells its caller
the kernel's answer. -/
theorem run_runCommand (kernel : Kernel) (opcode index : UInt16) {params : List UInt8}
    (hparams : params.length < 2 ^ 16) (st : MgmtState) :
    let e := kernel.answer st.sent (encodeCommand opcode index params)
    let st' : MgmtState :=
      { host := if e.performed then st.host.perform { opcode, index, params } else st.host
        sent := st.sent + 1 }
    (runCommand kernel opcode index params).run st
      = match e.result opcode with
        | .ok () => .ok () st'
        | .error err => .error (.failed err) st' := by
  intro e st'
  -- The kernel reads back the command, so the effect is that of the command.
  have hst : (match decodeCommand (encodeCommand opcode index params) with
      | some cmd => if e.performed then st.host.perform cmd else st.host
      | none => st.host) = st'.host := by
    rw [decodeCommand_encodeCommand opcode index hparams]
  unfold runCommand EStateM.run
  dsimp only
  rw [hst, runCommandInner_eq]
  show (match e.openError, e.writeError, some (awaitStatus opcode 16 e.reads) with
    | some detail, _, _ => _
    | none, some detail, _ => _
    | none, none, none => _
    | none, none, some (.ok ()) => _
    | none, none, some (.error err) => _) = _
  -- What is left is how the three ways to fail are told apart, in one order on both sides.
  unfold Exchange.result
  cases e.openError with
  | some detail => rfl
  | none =>
    cases e.writeError with
    | some detail => rfl
    | none =>
      cases awaitStatus opcode 16 e.reads with
      | ok u => rfl
      | error err => rfl

/-- A command whose caller is told of a success was delivered and answered with success. -/
theorem Exchange.status_of_result_ok {opcode : UInt16} {e : Exchange}
    (h : e.result opcode = .ok ()) :
    e.Delivered ∧ statusAnswered opcode e.reads = some 0 := by
  unfold result at h
  -- The exchange fails at the socket, at the write, or at the answer.
  cases hopen : e.openError with
  | some detail =>
    rw [hopen] at h
    exact absurd h (by simp)
  | none =>
    cases hwrite : e.writeError with
    | some detail =>
      rw [hopen, hwrite] at h
      exact absurd h (by simp)
    | none =>
      rw [hopen, hwrite] at h
      exact ⟨⟨hopen, hwrite⟩, statusAnswered_of_awaitStatus_ok h⟩

/-- A command that succeeds was carried out. -/
theorem Kernel.performed_of_result_ok {opcode index : UInt16} {params : List UInt8}
    (hparams : params.length < 2 ^ 16) {k : ℕ}
    (h : (kernel.answer k (encodeCommand opcode index params)).result opcode = .ok ()) :
    (kernel.answer k (encodeCommand opcode index params)).performed = true := by
  obtain ⟨hdelivered, hstatus⟩ := Exchange.status_of_result_ok h
  exact kernel.success k _ _ (decodeCommand_encodeCommand opcode index hparams) hdelivered hstatus

/-- A command that is refused was not carried out, and its caller is told of a failure. -/
theorem Kernel.refused {opcode index : UInt16} {params : List UInt8}
    (hparams : params.length < 2 ^ 16) {k : ℕ}
    (h : (kernel.answer k (encodeCommand opcode index params)).Refuses opcode) :
    (kernel.answer k (encodeCommand opcode index params)).performed = false ∧
      ∃ err, (kernel.answer k (encodeCommand opcode index params)).result opcode = .error err := by
  obtain ⟨hdelivered, status, hstatus, hne⟩ := h
  refine ⟨kernel.failure k _ _ status (decodeCommand_encodeCommand opcode index hparams) hdelivered
    hstatus hne, ?_⟩
  cases hresult : (kernel.answer k (encodeCommand opcode index params)).result opcode with
  | error err => exact ⟨err, rfl⟩
  | ok u =>
    -- a reported success would have been answered with 0
    obtain ⟨-, hzero⟩ := Exchange.status_of_result_ok hresult
    rw [hstatus] at hzero
    exact absurd (Option.some.inj hzero) hne

/-! ### The refused change -/

/-- The bytes of the command that powers a controller on or off. -/
def powerBytes (index : UInt16) (on : Bool) : List UInt8 :=
  encodeCommand MGMT_OP_SET_POWERED index [if on then 1 else 0]

/-- The bytes of the command that stages an address. -/
def addressBytes (index : UInt16) (addr : BdAddr) : List UInt8 :=
  encodeCommand MGMT_OP_SET_PUBLIC_ADDRESS index (bdaddrLe addr)

/-- Power commands for a controller succeed. -/
def Kernel.PowerSucceeds (kernel : Kernel) (index : UInt16) : Prop :=
  ∀ k on, (kernel.answer k (powerBytes index on)).result MGMT_OP_SET_POWERED = .ok ()

theorem length_powerParams_lt (on : Bool) : [if on then (1 : UInt8) else 0].length < 2 ^ 16 := by
  rw [List.length_singleton]
  norm_num

theorem length_bdaddrLe_lt (addr : BdAddr) : (bdaddrLe addr).length < 2 ^ 16 := by
  unfold bdaddrLe
  rw [List.length_reverse, Vector.length_toList]
  norm_num

/-- A successful power command sets the power of its controller, and touches no other one. -/
theorem run_setPowered {index : UInt16} (hpower : kernel.PowerSucceeds index) (on : Bool)
    (st : MgmtState) :
    (setPowered kernel index on).run st = .ok ()
      { host := Function.update st.host index ((st.host index).setPower on)
        sent := st.sent + 1 } := by
  have hparams := length_powerParams_lt on
  have hok := hpower st.sent on
  have hperformed := Kernel.performed_of_result_ok hparams hok
  -- The one parameter byte is read back as the power that was asked for.
  have heffect : st.host.perform
      { opcode := MGMT_OP_SET_POWERED, index, params := [if on then 1 else 0] }
      = Function.update st.host index ((st.host index).setPower on) := by
    cases on <;> rfl
  have hrun := run_runCommand kernel MGMT_OP_SET_POWERED index hparams st
  unfold powerBytes at hok
  dsimp only at hrun
  rw [hok, hperformed, if_pos rfl, heffect] at hrun
  exact hrun

/-- A refused address command changes nothing, and its caller is told so. -/
theorem run_setPublicAddress_refused {index : UInt16} {addr : BdAddr} {st : MgmtState}
    (hrefused : (kernel.answer st.sent (addressBytes index addr)).Refuses
      MGMT_OP_SET_PUBLIC_ADDRESS) :
    ∃ err, (setPublicAddress kernel index addr).run st
      = .error (.failed err) { host := st.host, sent := st.sent + 1 } := by
  have hparams := length_bdaddrLe_lt addr
  obtain ⟨hperformed, err, herr⟩ := Kernel.refused hparams hrefused
  refine ⟨err, ?_⟩
  have hrun := run_runCommand kernel MGMT_OP_SET_PUBLIC_ADDRESS index hparams st
  dsimp only at hrun
  rw [herr, hperformed, if_neg Bool.false_ne_true] at hrun
  exact hrun

/-- **A refused change leaves the controller off.** The first command took the power away, and the
refusal returns before the third one would give it back. -/
theorem run_spoofPublicAddress_refused {index : UInt16} {addr : BdAddr} {st : MgmtState}
    (hpower : kernel.PowerSucceeds index)
    (hrefused : (kernel.answer (st.sent + 1) (addressBytes index addr)).Refuses
      MGMT_OP_SET_PUBLIC_ADDRESS) :
    ∃ err, (spoofPublicAddress kernel index addr).run st = .error (.failed err)
      { host := Function.update st.host index ((st.host index).setPower false)
        sent := st.sent + 2 } := by
  -- The power goes off with the first command; the second one fails, and the third is not sent.
  have hoff := run_setPowered hpower false st
  obtain ⟨err, herr⟩ : ∃ err, (setPublicAddress kernel index addr).run
      { host := Function.update st.host index ((st.host index).setPower false)
        sent := st.sent + 1 } = .error (.failed err)
      { host := Function.update st.host index ((st.host index).setPower false)
        sent := st.sent + 2 } := run_setPublicAddress_refused hrefused
  refine ⟨err, ?_⟩
  unfold spoofPublicAddress
  rw [Outcome.run_bind_ok hoff]
  exact Outcome.run_bind_error herr

/-- A controller presents the same address with the same power as before. -/
def Unchanged (index : UInt16) (st st' : MgmtState) : Prop :=
  (st'.host index).powered = (st.host index).powered ∧
    (st'.host index).address = (st.host index).address

/-- Taking the power away is no change exactly for a controller that had none. -/
theorem unchanged_setPower_false (index : UInt16) (st : MgmtState) (sent : ℕ) :
    Unchanged index st
        { host := Function.update st.host index ((st.host index).setPower false), sent }
      ↔ (st.host index).powered = false := by
  unfold Unchanged
  dsimp only
  rw [Function.update_self]
  constructor
  · rintro ⟨hpowered, -⟩
    exact hpowered.symm
  · intro hoff
    exact ⟨hoff.symm, rfl⟩

/-! ### A kernel whose driver cannot change addresses -/

/-- The bytes of a Command Complete event. -/
def commandComplete (opcode index : UInt16) (status : UInt8) : List UInt8 :=
  Bytes.toLe16 MGMT_EV_CMD_COMPLETE ++ Bytes.toLe16 index ++ [3, 0] ++ Bytes.toLe16 opcode
    ++ [status]

theorem terminalStatus_commandComplete (opcode index : UInt16) (status : UInt8) :
    terminalStatus opcode (Read.datagram (commandComplete opcode index status)).received
      = some status := by
  show terminalStatus opcode (.event MGMT_EV_CMD_COMPLETE (Bytes.toLe16 opcode ++ [status])) = _
  show (if (MGMT_EV_CMD_COMPLETE = MGMT_EV_CMD_COMPLETE ∨ _) ∧ Bytes.ofLe16 _ _ = opcode then _
    else _) = _
  unfold Bytes.ofLe16
  rw [Bytes.ofBe16_toBe16, if_pos ⟨.inl rfl, rfl⟩]

theorem statusAnswered_commandComplete (opcode index : UInt16) (status : UInt8) :
    statusAnswered opcode [.datagram (commandComplete opcode index status)] = some status := by
  unfold statusAnswered
  rw [List.findSome?_cons, terminalStatus_commandComplete]

/-- A kernel that carries out every command at once, except that it answers an address command
with Not Supported. -/
def notSupportedKernel : Kernel where
  answer _ bytes :=
    match decodeCommand bytes with
    | some cmd =>
      { openError := none
        writeError := none
        reads := [.datagram (commandComplete cmd.opcode cmd.index
          (if cmd.opcode = MGMT_OP_SET_PUBLIC_ADDRESS then 0x0C else 0))]
        performed := cmd.opcode ≠ MGMT_OP_SET_PUBLIC_ADDRESS }
    | none => { openError := none, writeError := none, reads := [], performed := false }
  undelivered := by
    intro k bytes hnot
    cases hcmd : decodeCommand bytes with
    | none => rfl
    | some cmd =>
      rw [hcmd] at hnot
      exact absurd ⟨rfl, rfl⟩ hnot
  success := by
    intro k bytes cmd hcmd
    simp only [hcmd, statusAnswered_commandComplete]
    intro _ hstatus
    by_cases hop : cmd.opcode = MGMT_OP_SET_PUBLIC_ADDRESS
    · rw [if_pos hop] at hstatus
      exact absurd hstatus (by decide)
    · exact decide_eq_true hop
  failure := by
    intro k bytes cmd status hcmd
    simp only [hcmd, statusAnswered_commandComplete]
    intro _ hstatus hne
    by_cases hop : cmd.opcode = MGMT_OP_SET_PUBLIC_ADDRESS
    · exact decide_eq_false (not_not_intro hop)
    · rw [if_neg hop] at hstatus
      exact absurd (Option.some.inj hstatus).symm hne

theorem powerSucceeds_notSupportedKernel (index : UInt16) :
    notSupportedKernel.PowerSucceeds index := by
  intro k on
  have hparams := length_powerParams_lt on
  have hdecode := decodeCommand_encodeCommand MGMT_OP_SET_POWERED index hparams
  unfold notSupportedKernel powerBytes
  dsimp only
  -- It reads the command, and so carries it out and reports success.
  rw [hdecode]
  show awaitStatus MGMT_OP_SET_POWERED 16
    [.datagram (commandComplete MGMT_OP_SET_POWERED index 0)] = _
  rw [awaitStatus, List.headD_cons, terminalStatus_commandComplete]
  rfl

theorem refuses_notSupportedKernel (k : ℕ) (index : UInt16) (addr : BdAddr) :
    (notSupportedKernel.answer k (addressBytes index addr)).Refuses
      MGMT_OP_SET_PUBLIC_ADDRESS := by
  have hparams := length_bdaddrLe_lt addr
  have hdecode := decodeCommand_encodeCommand MGMT_OP_SET_PUBLIC_ADDRESS index hparams
  unfold notSupportedKernel addressBytes
  dsimp only
  rw [hdecode]
  exact ⟨⟨rfl, rfl⟩, 0x0C, statusAnswered_commandComplete _ _ _, by decide⟩

end Hci
end Pax
