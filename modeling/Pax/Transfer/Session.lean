import Pax.Transfer.Upload
import Pax.Transport.Mock.Sessions

/-!
# Uploads as programs

The upload workflow of `pax-transfer/src/upload.rs` once more, as a program whose calls are the
operations of a backend that it uses (`LinkOp`), so that several uploads on one backend can be
interleaved. It is the workflow of `Pax.Transfer.Upload`: on any backend, run without interruption,
it comes to the same (`run_uploadFile`, `run_uploadFiles`).

A client of the mock backend is any program whose calls are uploads, discoveries, pairings and
`disconnect` (`ClientCall`).
-/

namespace Pax

/-- The operations of a backend that an upload uses. -/
inductive LinkOp where
  | connect (target : DeviceId)
  | disconnect (conn : Connection)
  | pushFile (conn : Connection) (file : OutboundFile)

/-- The operation as one of the mock backend. -/
def LinkOp.op : LinkOp → MockOp
  | .connect target => .connect target
  | .disconnect conn => .disconnect conn
  | .pushFile conn file => .pushFile conn file

abbrev linkOps : Interface := { Call := LinkOp, Reply := fun c => c.op.Result }

namespace Upload

open Program (call)

/-- A program whose calls are the operations of a backend that an upload uses. -/
abbrev Links (α : Type) := Program linkOps α

def connect (target : DeviceId) : Links (Except TransportError Connection) :=
  call (I := linkOps) (.connect target)

def disconnect (conn : Connection) : Links (Except TransportError Unit) :=
  call (I := linkOps) (.disconnect conn)

def pushFile (conn : Connection) (file : OutboundFile) :
    Links (Except TransportError TransferReceipt) :=
  call (I := linkOps) (.pushFile conn file)

/-- Push up to `left` more times; `last` is the error if there is no attempt left. -/
def pushFrom (conn : Connection) (file : OutboundFile) :
    (left : ℕ) → (last : TransportError) → Links (Except TransportError TransferReceipt)
  | 0, last => return .error last
  | left + 1, _ => do
    match ← pushFile conn file with
    | .ok receipt => return .ok receipt
    | .error e => if isFinalPush e then return .error e else pushFrom conn file left e

def pushWithRetries (conn : Connection) (file : OutboundFile) (retries : UInt32) :
    Links (Except TransportError TransferReceipt) :=
  pushFrom conn file (saturatingSucc retries) noAttemptsMade

/-- Disconnect after a transfer, if that is asked for; the result stays that of the transfer. -/
def thenDisconnect {α : Type} (conn : Connection) (options : UploadOptions)
    (transfer : Links (Except TransportError α)) : Links (Except TransportError α) := do
  let result ← transfer
  if options.disconnectAfter then
    let _ ← disconnect conn
    return result
  else return result

/-- Connect, and do something with the connection, once there is one. -/
def withConnection {α : Type} (target : DeviceId)
    (transfer : Connection → Links (Except TransportError α)) :
    Links (Except TransportError α) := do
  match ← connect target with
  | .error e => return .error e
  | .ok conn => transfer conn

def uploadFile (target : DeviceId) (file : OutboundFile) (options : UploadOptions) :
    Links (Except TransportError TransferReceipt) :=
  withConnection target fun conn =>
    thenDisconnect conn options (pushWithRetries conn file options.retries)

/-- The loop over the files, with the receipts so far: it ends at the first failure. -/
def pushAll (conn : Connection) (retries : UInt32) :
    List OutboundFile → (receipts : List TransferReceipt) →
      Links (Except TransportError (List TransferReceipt))
  | [], receipts => return .ok receipts
  | file :: files, receipts => do
    match ← pushWithRetries conn file retries with
    | .error e => return .error e
    | .ok receipt => pushAll conn retries files (receipts ++ [receipt])

def uploadFiles (target : DeviceId) (files : List OutboundFile) (options : UploadOptions) :
    Links (Except TransportError (List TransferReceipt)) :=
  withConnection target fun conn =>
    thenDisconnect conn options (pushAll conn options.retries files [])

/-! ### The same workflow -/

section Run

variable {σ : Type} (backend : BluetoothBackend σ)

/-- An operation of the backend, with its failure as a result like any other. -/
def perform : (c : LinkOp) → StateM σ c.op.Result
  | .connect target => fun s => Outcome.split ((backend.connect target).run s)
  | .disconnect conn => fun s => Outcome.split ((backend.disconnect conn).run s)
  | .pushFile conn file => fun s => Outcome.split ((backend.pushFile conn file).run s)

/-- Run a program on the backend, without interruption. -/
def runOn {α : Type} (p : Links α) (s : σ) : α × σ := (p.runWith (perform backend)).run s

variable {backend}

theorem runOn_bind {α β : Type} (p : Links α) (f : α → Links β) (s : σ) :
    runOn backend (p >>= f) s = runOn backend (f (runOn backend p s).1) (runOn backend p s).2 := by
  rw [runOn, Program.runWith_bind]
  rfl

theorem run_pushFrom (conn : Connection) (file : OutboundFile) (made left : ℕ)
    (last : TransportError) (s : σ) :
    runOn backend (pushFrom conn file left last) s
      = ((Outcome.split ((Retry.retryFrom (backend.pushFile conn file) isFinalPush made left
            last).run s)).1.map Prod.fst,
          (Outcome.split ((Retry.retryFrom (backend.pushFile conn file) isFinalPush made left
            last).run s)).2) := by
  -- On the pushes that are left; the two loops make the same push and look at the same answer.
  induction left generalizing made last s with
  | zero => rfl
  | succ left ih =>
    rw [pushFrom, runOn_bind, Retry.run_retryFrom_succ, Retry.attemptOnce]
    have hpush : runOn backend (pushFile conn file) s
        = Outcome.split ((backend.pushFile conn file).run s) := rfl
    rw [hpush]
    cases (backend.pushFile conn file).run s with
    | ok receipt s' => rfl
    | error e s' =>
      dsimp only [Outcome.split]
      -- both loops ask whether the error is final before they go on
      by_cases hfinal : isFinalPush e
      · rw [if_pos hfinal, if_pos hfinal]
        rfl
      · rw [if_neg hfinal, if_neg hfinal]
        exact ih (made + 1) e s'

/-- **The retries of a push**: as a program or as the function of the workflow, they come to the
same. -/
theorem run_pushWithRetries (conn : Connection) (file : OutboundFile) (retries : UInt32) (s : σ) :
    runOn backend (pushWithRetries conn file retries) s
      = Outcome.split ((Pax.pushWithRetries backend conn file retries).run s) := by
  rw [pushWithRetries, run_pushFrom conn file 0, Pax.run_pushWithRetries]

theorem run_thenDisconnect {α : Type} (conn : Connection) (options : UploadOptions)
    {transfer : Links (Except TransportError α)} {transfer' : EStateM TransportError σ α} {s : σ}
    (h : runOn backend transfer s = Outcome.split (transfer'.run s)) :
    runOn backend (thenDisconnect conn options transfer) s
      = Outcome.split ((Pax.thenDisconnect backend conn options transfer').run s) := by
  rw [thenDisconnect, runOn_bind, Pax.run_thenDisconnect, h]
  by_cases hafter : options.disconnectAfter
  · rw [if_pos hafter, if_pos hafter]
    rfl
  · rw [if_neg hafter, if_neg hafter]
    rfl

theorem run_pushAll (conn : Connection) (retries : UInt32) (files : List OutboundFile)
    (receipts : List TransferReceipt) (s : σ) :
    runOn backend (pushAll conn retries files receipts) s
      = Outcome.split ((Pax.pushAll backend conn retries files receipts).run s) := by
  -- On the files, with the receipts so far.
  induction files generalizing receipts s with
  | nil => rfl
  | cons file files ih =>
    rw [pushAll, runOn_bind, run_pushWithRetries, Pax.pushAll]
    cases hpush : (Pax.pushWithRetries backend conn file retries).run s with
    | ok receipt s' =>
      rw [Outcome.run_bind_ok hpush]
      exact ih _ s'
    | error e s' =>
      rw [Outcome.run_bind_error hpush]
      rfl

theorem run_withConnection {α : Type} (target : DeviceId)
    {transfer : Connection → Links (Except TransportError α)}
    {transfer' : Connection → EStateM TransportError σ α}
    (h : ∀ conn s, runOn backend (transfer conn) s = Outcome.split ((transfer' conn).run s))
    (s : σ) :
    runOn backend (withConnection target transfer) s
      = Outcome.split ((backend.connect target >>= transfer').run s) := by
  rw [withConnection, runOn_bind]
  have hconnect : runOn backend (connect target) s
      = Outcome.split ((backend.connect target).run s) := rfl
  rw [hconnect]
  cases hrun : (backend.connect target).run s with
  | ok conn s' =>
    rw [Outcome.run_bind_ok hrun]
    exact h conn s'
  | error e s' =>
    rw [Outcome.run_bind_error hrun]
    rfl

/-- **One file**: as a program or as the function of the workflow, its upload comes to the same. -/
theorem run_uploadFile (target : DeviceId) (file : OutboundFile) (options : UploadOptions) (s : σ) :
    runOn backend (uploadFile target file options) s
      = Outcome.split ((Pax.uploadFile backend target file options).run s) :=
  run_withConnection target
    (fun conn s =>
      run_thenDisconnect conn options (run_pushWithRetries conn file options.retries s)) s

/-- **Several files**: as a program or as the function of the workflow, their upload comes to the
same. -/
theorem run_uploadFiles (target : DeviceId) (files : List OutboundFile) (options : UploadOptions)
    (s : σ) :
    runOn backend (uploadFiles target files options) s
      = Outcome.split ((Pax.uploadFiles backend target files options).run s) :=
  run_withConnection target
    (fun conn s => run_thenDisconnect conn options (run_pushAll conn options.retries files [] s)) s

end Run

/-! ### What an upload calls -/

/-- The operation works on the connection: a push on it, or its disconnect. -/
def OnLink (conn : Connection) : LinkOp → Prop
  | .connect _ => False
  | .disconnect conn' => conn' = conn
  | .pushFile conn' _ => conn' = conn

/-- The operation is a push on the connection. -/
def IsPush (conn : Connection) : LinkOp → Prop
  | .pushFile conn' _ => conn' = conn
  | _ => False

theorem IsPush.onLink {conn : Connection} {c : LinkOp} (h : IsPush conn c) : OnLink conn c := by
  cases c with
  | pushFile conn' file => exact h
  | _ => cases h

theorem uses_pushFrom (conn : Connection) (file : OutboundFile) (left : ℕ)
    (last : TransportError) : (pushFrom conn file left last).Uses (IsPush conn) := by
  -- On the pushes that are left, each of which is on the one connection.
  induction left generalizing last with
  | zero => trivial
  | succ left ih =>
    refine ⟨rfl, fun result => ?_⟩
    cases result with
    | ok receipt => trivial
    | error e =>
      show Program.Uses (IsPush conn)
        (if isFinalPush e then .done (.error e) else pushFrom conn file left e)
      split
      · trivial
      · exact ih e

theorem uses_pushAll (conn : Connection) (retries : UInt32) (files : List OutboundFile)
    (receipts : List TransferReceipt) :
    (pushAll conn retries files receipts).Uses (IsPush conn) := by
  induction files generalizing receipts with
  | nil => trivial
  | cons file files ih =>
    refine Program.Uses.bind (uses_pushFrom conn file _ _) fun result => ?_
    cases result with
    | error e => trivial
    | ok receipt => exact ih _

theorem uses_thenDisconnect {α : Type} (conn : Connection) (options : UploadOptions)
    {transfer : Links (Except TransportError α)} (h : transfer.Uses (IsPush conn)) :
    (thenDisconnect conn options transfer).Uses (OnLink conn) := by
  refine (h.mono fun _ => IsPush.onLink).bind fun result => ?_
  split
  · exact ⟨rfl, fun _ => trivial⟩
  · trivial

/-- All but the first call are on the connection that the first one has made. -/
def ConnectsFirst (target : DeviceId) (cs : List (Exchange linkOps)) : Prop :=
  (∃ e, cs = [⟨.connect target, .error e⟩]) ∨
    ∃ conn cs', cs = ⟨.connect target, .ok conn⟩ :: cs' ∧ ∀ c ∈ cs', OnLink conn c.call

theorem connectsFirst_of_returns {α : Type} {target : DeviceId}
    {transfer : Connection → Links (Except TransportError α)}
    (huses : ∀ conn, (transfer conn).Uses (OnLink conn)) {cs : List (Exchange linkOps)}
    {r : Except TransportError α} (h : Program.Returns (withConnection target transfer) cs r) :
    ConnectsFirst target cs := by
  obtain ⟨connected, cs', rfl, hrest⟩ := Program.returns_call_bind h
  cases connected with
  | error e =>
    obtain ⟨rfl, -⟩ := Program.returns_done.mp hrest
    exact .inl ⟨e, rfl⟩
  | ok conn => exact .inr ⟨conn, cs', rfl, (huses conn).path hrest⟩

theorem connectsFirst_uploadFile {target : DeviceId} {file : OutboundFile} {options : UploadOptions}
    {cs : List (Exchange linkOps)} {r : Except TransportError TransferReceipt}
    (h : Program.Returns (uploadFile target file options) cs r) : ConnectsFirst target cs :=
  connectsFirst_of_returns
    (fun conn => uses_thenDisconnect conn options (uses_pushFrom conn file _ _)) h

theorem connectsFirst_uploadFiles {target : DeviceId} {files : List OutboundFile}
    {options : UploadOptions} {cs : List (Exchange linkOps)}
    {r : Except TransportError (List TransferReceipt)}
    (h : Program.Returns (uploadFiles target files options) cs r) : ConnectsFirst target cs :=
  connectsFirst_of_returns
    (fun conn => uses_thenDisconnect conn options (uses_pushAll conn _ files [])) h

end Upload

/-! ### Clients -/

/-- What a client of a mock backend calls: uploads, and single operations. -/
inductive ClientCall where
  | uploadFile (target : DeviceId) (file : OutboundFile) (options : UploadOptions)
  | uploadFiles (target : DeviceId) (files : List OutboundFile) (options : UploadOptions)
  | discover (filter : DiscoveryFilter)
  | pair (target : DeviceId)
  | disconnect (conn : Connection)

def ClientCall.Reply : ClientCall → Type
  | .uploadFile .. => Except TransportError TransferReceipt
  | .uploadFiles .. => Except TransportError (List TransferReceipt)
  | .discover filter => (MockOp.discover filter).Result
  | .pair target => (MockOp.pair target).Result
  | .disconnect conn => (MockOp.disconnect conn).Result

abbrev clientCalls : Interface := { Call := ClientCall, Reply := ClientCall.Reply }

namespace MockBackend

open Program (call)

variable (backend : MockBackend)

/-- An operation of the mock, up to the mark of its return. -/
def perform (op : MockOp) : Steps op.Result := do
  let result ← backend.run op
  let _ ← call (I := mockSteps) (.returned op result)
  return result

/-- An operation of an upload, up to the mark of its return. -/
def performLink (c : LinkOp) : Steps c.op.Result := backend.perform c.op

/-- A call of a client, as steps of the mock backend. -/
def performCall : (c : ClientCall) → Steps c.Reply
  | .uploadFile target file options =>
    (Upload.uploadFile target file options).interpret backend.performLink
  | .uploadFiles target files options =>
    (Upload.uploadFiles target files options).interpret backend.performLink
  | .discover filter => backend.perform (.discover filter)
  | .pair target => backend.perform (.pair target)
  | .disconnect conn => backend.perform (.disconnect conn)

variable {ι : Type} {α : ι → Type}

/-- Clients of a backend with these devices, before any has begun. -/
def startClients (devices : List MockDevice) (clients : (i : ι) → Program clientCalls (α i)) :
    Pool mockSteps MockState α :=
  .start (.init devices) fun i => (clients i).interpret backend.performCall

variable {backend}

theorem publishes_perform (op : MockOp) : events.Publishes (backend.perform op) :=
  (publishes_run backend op).bind fun _ =>
    Publication.publishes_ask rfl (fun _ => rfl) fun _ => Publication.publishes_done _

/-- Every client hands over each event that its operations stamp. -/
theorem publishes_client {β : Type} (client : Program clientCalls β) :
    events.Publishes (client.interpret backend.performCall) := by
  apply Publication.publishes_interpret
  intro c
  cases c with
  | uploadFile target file options =>
    exact Publication.publishes_interpret (fun c : LinkOp => publishes_perform c.op) _
  | uploadFiles target files options =>
    exact Publication.publishes_interpret (fun c : LinkOp => publishes_perform c.op) _
  | discover filter => exact publishes_perform _
  | pair target => exact publishes_perform _
  | disconnect conn => exact publishes_perform _

theorem returns_perform {op : MockOp} {es : List (Exchange mockSteps)} {r : op.Result}
    (h : Program.Returns (backend.perform op) es r) :
    ∃ es', es = es' ++ [⟨.returned op r, ()⟩] ∧ Program.Returns (backend.run op) es' r := by
  obtain ⟨es₁, result, es₂, rfl, hrun, hend⟩ := Program.returns_bind.mp h
  obtain ⟨u, es₃, rfl, hlast⟩ := Program.returns_call_bind hend
  obtain ⟨rfl, rfl⟩ := Program.returns_done.mp hlast
  exact ⟨es₁, rfl, hrun⟩

end MockBackend
end Pax
