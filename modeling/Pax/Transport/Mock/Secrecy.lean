import Pax.Diagnostics.Analyze
import Pax.Pairing.Session
import Pax.Transfer.Session

/-!
# What a session with the mock backend reveals

An agent answers with PINs and passkeys, and files have contents. Nothing of either gets into the
events, into the results of the operations, or onto the clock: of an answer of the agent the
operations only look at whether it is a refusal (`indifferent_run`), and of the contents of a file
only at the length (`pushFile_congr`). So two runs that differ in nothing else go through the same
states, step by step, and leave the same report (`leaks_no_secrets`).

A session is any program whose calls are operations of the backend, the pairing workflows and
uploads. It names its files, so that the same session can be run with other contents.

The first half is an instance of indifference (`Pax.Framework.Indifference`): replies that a program
does not tell apart. The second half is an equation: with other contents of the same length, the
program of a push is the same program.
-/

namespace Pax
namespace MockBackend

open Program (call)

/-! ### What the agent answers -/

/-- Both answers refuse, or neither does. -/
def SameDecision (answer answer' : PairingResponse) : Prop :=
  answer.IsRefusal ↔ answer'.IsRefusal

instance (answer answer' : PairingResponse) : Decidable (SameDecision answer answer') :=
  inferInstanceAs (Decidable (_ ↔ _))

/-- Replies that the operations do not tell apart. -/
def SameReply : (c : MockCall) → (reply reply' : c.Reply) → Prop
  | .respond _ _, answer, answer' => SameDecision answer answer'
  | _, reply, reply' => reply = reply'

/-- The state does not depend on the answers of the agent, nor does any other reply. -/
theorem sameReply_serve (c : MockCall) (answer answer' : PairingResponse) (s : MockState)
    (h : SameDecision answer answer') :
    SameReply c (serve c answer s).1 (serve c answer' s).1 ∧
      (serve c answer s).2 = (serve c answer' s).2 := by
  cases c with
  | respond device request => exact ⟨h, rfl⟩
  | _ => exact ⟨rfl, rfl⟩

theorem indifferent_emit (origin : EventOrigin) (kind : TransitEventKind) (dt : Duration) :
    (emit origin kind dt).Indifferent SameReply :=
  Program.indifferent_ask (fun _ _ h => h) fun _ =>
    Program.indifferent_ask (fun _ _ h => h) fun _ => trivial

/-- An operation that does not ask the agent is indifferent to its answers. -/
theorem indifferent_of_built {op : MockOp} {α : Type} {p : Steps α} (h : Built op p)
    (hnever : ∀ device request, holds op (.respond device request) = false) :
    p.Indifferent SameReply := by
  induction h with
  | done a => trivial
  | emit origin kind dt _ _ ih => exact (indifferent_emit origin kind dt).bind fun _ => ih
  | ask c hcall _ ih =>
    refine Program.indifferent_ask ?_ ih
    cases c with
    | respond device request => exact absurd hcall (by rw [hnever]; exact Bool.false_ne_true)
    | _ => exact fun _ _ h => h

variable (backend : MockBackend)

/-- Of the answer of the agent, an attempt looks only at whether it refuses. -/
theorem indifferent_pairDevice (device : MockDevice) (target : DeviceId) :
    (backend.pairDevice device target).Indifferent SameReply := by
  refine (indifferent_emit _ _ _).bind fun _ => ?_
  intro (response : PairingResponse)
  constructor
  · by_cases hrefusal : response.IsRefusal
    · simp only [Program.bind, if_pos hrefusal]
      exact (indifferent_emit _ _ _).bind fun _ => trivial
    · simp only [Program.bind, if_neg hrefusal]
      cases device.pairingFailure with
      | some reason => exact (indifferent_emit _ _ _).bind fun _ => trivial
      | none =>
        refine Program.indifferent_ask (fun _ _ h => h) fun _ => ?_
        exact (indifferent_emit _ _ _).bind fun _ => trivial
  -- two answers that are not told apart are both refusals, or neither is
  · intro (response' : PairingResponse) hsame
    exact if_congr hsame rfl rfl

theorem indifferent_acceptFrom (devices : List MockDevice) (bonded : List DeviceId) :
    (backend.acceptFrom devices bonded).Indifferent SameReply := by
  induction devices generalizing bonded with
  | nil => trivial
  | cons device devices ih =>
    refine (indifferent_pairDevice backend device _).bind fun result => ?_
    cases result with
    | error e => exact ih bonded
    | ok u => exact ih _

/-- **No operation tells apart** what the agent answers, but for whether it refuses. -/
theorem indifferent_run (op : MockOp) : (backend.run op).Indifferent SameReply := by
  cases op with
  | pair target =>
    refine Program.indifferent_ask (fun _ _ h => h) fun found => ?_
    cases found with
    | none => trivial
    | some device =>
      refine (indifferent_pairDevice backend device target).bind fun result => ?_
      cases result <;> trivial
  | acceptPairings opts =>
    refine (indifferent_acceptFrom backend _ _).bind fun bonded => ?_
    exact Program.indifferent_ask (fun _ _ h => h) fun _ => trivial
  | _ => exact indifferent_of_built (built_run backend _) fun _ _ => rfl

/-! ### What is in a file -/

/-- Files of the same name and length. -/
def SameOutside (file file' : OutboundFile) : Prop :=
  file.name = file'.name ∧ file.bytes.length = file'.bytes.length

instance (file file' : OutboundFile) : Decidable (SameOutside file file') :=
  inferInstanceAs (Decidable (_ ∧ _))

/-- Of the chunks, the loop looks only at how long they are. -/
theorem pushChunks_congr {pieces pieces' : List (List UInt8)}
    (h : pieces.map List.length = pieces'.map List.length) (device : MockDevice)
    (origin : EventOrigin) (total transferred chunks : UInt64) :
    pushChunks device origin total pieces transferred chunks
      = pushChunks device origin total pieces' transferred chunks := by
  induction pieces generalizing pieces' transferred chunks with
  | nil =>
    obtain rfl := List.map_eq_nil_iff.mp h.symm
    rfl
  | cons piece pieces ih =>
    obtain ⟨piece', pieces', rfl, hpiece, hpieces⟩ := List.map_eq_cons_iff.mp h.symm
    rw [pushChunks, pushChunks, hpiece]
    simp only [ih hpieces.symm]

theorem map_length_sliceChunks {data data' : List UInt8} (h : data.length = data'.length)
    (size : ℕ) : (sliceChunks size data).map List.length = (sliceChunks size data').map List.length
    := by
  cases data with
  | nil =>
    obtain rfl := List.length_eq_zero_iff.mp h.symm
    rfl
  | cons b data =>
    obtain ⟨b', data', rfl⟩ := List.exists_cons_of_length_eq_add_one h.symm
    exact Chunking.map_length_chunks h size size

/-- **No push tells apart** the contents of files of the same name and length. -/
theorem pushFile_congr {file file' : OutboundFile} (h : SameOutside file file')
    (conn : Connection) : pushFile conn file = pushFile conn file' := by
  obtain ⟨hname, hlength⟩ := h
  have hlen : file.len = file'.len := congrArg UInt64.ofNat hlength
  rw [pushFile, pushFile, hname, hlen]
  simp only [pushChunks_congr (map_length_sliceChunks hlength _)]

/-! ### Sessions -/

/-- What a session calls. It names its files by `F`. -/
inductive SessionCall (F : Type) where
  /-- An operation that involves none of the files. -/
  | operation (op : MockOp)
  | pushFile (conn : Connection) (file : F)
  | pairDevice (target : DeviceId) (options : PairOptions)
  | pairDevices (picks : ℕ → List ℕ) (targets : List DeviceId) (options : BatchPairOptions)
  | uploadFile (target : DeviceId) (file : F) (options : UploadOptions)
  | uploadFiles (target : DeviceId) (files : List F) (options : UploadOptions)

def SessionCall.Reply {F : Type} : SessionCall F → Type
  | .operation op => op.Result
  | .pushFile .. => Except TransportError TransferReceipt
  | .pairDevice .. => Except TransportError PairReport
  | .pairDevices .. => Option (List PairItem)
  | .uploadFile .. => Except TransportError TransferReceipt
  | .uploadFiles .. => Except TransportError (List TransferReceipt)

abbrev sessionCalls (F : Type) : Interface := { Call := SessionCall F, Reply := SessionCall.Reply }

/-- What the mock does for the pairing workflow. -/
def pairingOps : PairingOps mockSteps where
  capabilities := { kind := .mock, maxConcurrentPairings := 2 ^ 64 - 1, canSpoofAddress := true }
  -- the address is recorded, and read by none of the operations here
  setLocalAddress _ := return .ok ()
  pair := backend.pair

/-- An operation of an upload. -/
def runLink (c : LinkOp) : Steps c.op.Result := backend.run c.op

section Sessions

variable {F : Type}

/-- A call of a session, with these contents of the files. -/
def runCall (files : F → OutboundFile) : (c : SessionCall F) → Steps c.Reply
  | .operation op => backend.run op
  | .pushFile conn file => pushFile conn (files file)
  | .pairDevice target options => Pairing.pairDevice backend.pairingOps target options
  | .pairDevices picks targets options =>
    Pairing.pairDevices backend.pairingOps picks targets options
  | .uploadFile target file options =>
    (Upload.uploadFile target (files file) options).interpret backend.runLink
  | .uploadFiles target names options =>
    (Upload.uploadFiles target (names.map files) options).interpret backend.runLink

/-- Sessions on a backend with these devices, before any has begun. -/
def startSessions {ι : Type} {α : ι → Type} (files : F → OutboundFile) (devices : List MockDevice)
    (sessions : (i : ι) → Program (sessionCalls F) (α i)) : Pool mockSteps MockState α :=
  .start (.init devices) fun i => (sessions i).interpret (backend.runCall files)

theorem indifferent_pairingOps : Pairing.Indifferent SameReply backend.pairingOps where
  setLocalAddress _ := trivial
  pair target := indifferent_run backend (.pair target)

/-- No call of a session tells apart what the agent answers, but for whether it refuses. -/
theorem indifferent_runCall (files : F → OutboundFile) (c : SessionCall F) :
    (backend.runCall files c).Indifferent SameReply := by
  cases c with
  | operation op => exact indifferent_run backend op
  | pushFile conn file => exact indifferent_run backend (.pushFile conn (files file))
  | pairDevice target options =>
    exact Pairing.indifferent_pairDevice (indifferent_pairingOps backend) target options
  | pairDevices picks targets options =>
    exact Pairing.indifferent_pairDevices (indifferent_pairingOps backend) picks targets options
  | uploadFile target file options =>
    exact Program.Indifferent.interpret (fun c : LinkOp => indifferent_run backend c.op) _
  | uploadFiles target names options =>
    exact Program.Indifferent.interpret (fun c : LinkOp => indifferent_run backend c.op) _

end Sessions

/-! ### Uploads of other contents -/

section Uploads

variable {file file' : OutboundFile}

theorem interpret_pushFrom_congr (h : SameOutside file file') (conn : Connection) (left : ℕ)
    (last : TransportError) :
    (Upload.pushFrom conn file left last).interpret backend.runLink
      = (Upload.pushFrom conn file' left last).interpret backend.runLink := by
  -- On the attempts that are left: each push is the same program, and so is what its result leads
  -- to.
  induction left generalizing last with
  | zero => rfl
  | succ left ih =>
    have hpush : (Upload.pushFile conn file).interpret backend.runLink
        = (Upload.pushFile conn file').interpret backend.runLink :=
      congrArg (fun p => p >>= .done) (pushFile_congr h conn)
    rw [Upload.pushFrom, Upload.pushFrom, Program.interpret_bind, Program.interpret_bind, hpush]
    congr 1
    funext result
    cases result with
    | ok receipt => rfl
    | error e =>
      by_cases hfinal : isFinalPush e
      · simp only [if_pos hfinal]
      · simp only [if_neg hfinal]
        exact ih e

theorem interpret_thenDisconnect_congr {β : Type} {conn : Connection} {options : UploadOptions}
    {transfer transfer' : Upload.Links (Except TransportError β)}
    (h : transfer.interpret backend.runLink = transfer'.interpret backend.runLink) :
    (Upload.thenDisconnect conn options transfer).interpret backend.runLink
      = (Upload.thenDisconnect conn options transfer').interpret backend.runLink := by
  rw [Upload.thenDisconnect, Upload.thenDisconnect, Program.interpret_bind, Program.interpret_bind,
    h]

theorem interpret_withConnection_congr {β : Type} {target : DeviceId}
    {transfer transfer' : Connection → Upload.Links (Except TransportError β)}
    (h : ∀ conn, (transfer conn).interpret backend.runLink
      = (transfer' conn).interpret backend.runLink) :
    (Upload.withConnection target transfer).interpret backend.runLink
      = (Upload.withConnection target transfer').interpret backend.runLink := by
  rw [Upload.withConnection, Upload.withConnection, Program.interpret_bind, Program.interpret_bind]
  congr 1
  funext connected
  cases connected with
  | error e => rfl
  | ok conn => exact h conn

variable {F : Type} {files files' : F → OutboundFile}

theorem interpret_pushAll_congr (h : ∀ f, SameOutside (files f) (files' f)) (conn : Connection)
    (retries : UInt32) (names : List F) (receipts : List TransferReceipt) :
    (Upload.pushAll conn retries (names.map files) receipts).interpret backend.runLink
      = (Upload.pushAll conn retries (names.map files') receipts).interpret backend.runLink := by
  -- On the files, each of which is pushed by the same program.
  induction names generalizing receipts with
  | nil => rfl
  | cons f names ih =>
    rw [List.map_cons, List.map_cons, Upload.pushAll, Upload.pushAll, Program.interpret_bind,
      Program.interpret_bind, Upload.pushWithRetries, Upload.pushWithRetries,
      interpret_pushFrom_congr backend (h f)]
    congr 1
    funext result
    cases result with
    | error e => rfl
    | ok receipt => exact ih _

/-- **No call of a session tells apart** contents of the same length. -/
theorem runCall_congr (h : ∀ f, SameOutside (files f) (files' f)) (c : SessionCall F) :
    backend.runCall files c = backend.runCall files' c := by
  -- Only three calls have to do with files.
  cases c with
  | pushFile conn file => exact pushFile_congr (h file) conn
  | uploadFile target file options =>
    apply interpret_withConnection_congr
    intro conn
    apply interpret_thenDisconnect_congr
    exact interpret_pushFrom_congr backend (h file) conn _ _
  | uploadFiles target names options =>
    apply interpret_withConnection_congr
    intro conn
    apply interpret_thenDisconnect_congr
    exact interpret_pushAll_congr backend h conn _ names []
  | _ => rfl

end Uploads

/-! ### Two runs -/

/-- **Diagnostics leak no secrets.** Take any sessions on a mock backend, interleaved in any way,
and the same run once more with other contents in the files, of the same lengths, and with an agent
that gives other answers but decides the same. It goes through, and whatever was recorded and
returned is the same, and so is the report. -/
theorem leaks_no_secrets {backend : MockBackend} {devices : List MockDevice} {ι : Type}
    [DecidableEq ι] {α : ι → Type} {F : Type} {files files' : F → OutboundFile}
    (hfiles : ∀ f, SameOutside (files f) (files' f))
    (sessions : (i : ι) → Program (sessionCalls F) (α i))
    {steps steps' : List (ι × PairingResponse)} (hsteps : Pool.Alike SameDecision steps steps')
    {w : Pool mockSteps MockState α}
    (hrun : (Pool.system serve).Run (backend.startSessions files devices sessions) steps w) :
    (∃ w', (Pool.system serve).Run (backend.startSessions files' devices sessions) steps' w') ∧
      ∀ w', (Pool.system serve).Run (backend.startSessions files' devices sessions) steps' w' →
        w'.shared.observed = w.shared.observed ∧
          (∀ i a, w'.task i = .done a ↔ w.task i = .done a) ∧
          ∀ recorded recorded' : EventVec, recorded.1 = w.shared.observed →
            recorded'.1 = w'.shared.observed →
              (Analyzer.new recorded').report = (Analyzer.new recorded).report := by
  have hindifferent : ∀ i, ((backend.startSessions files devices sessions).task i).Indifferent
      SameReply := fun i =>
    Program.Indifferent.interpret (indifferent_runCall backend files) (sessions i)
  -- The two pools start with the same programs.
  have hagree : (backend.startSessions files devices sessions).Agree
      (backend.startSessions files' devices sessions) := by
    refine ⟨rfl, ?_⟩
    funext i
    exact Program.interpret_congr (runCall_congr backend hfiles) (sessions i)
  obtain ⟨w₂, hrun₂, hshared, htask⟩ :=
    Pool.run_of_indifferent (fun c answer answer' s h => sameReply_serve c answer answer' s h)
      hagree hindifferent hsteps hrun
  refine ⟨⟨w₂, hrun₂⟩, fun w' hrun' => ?_⟩
  obtain rfl : w₂ = w' := Option.some.inj (hrun₂.symm.trans hrun')
  rw [← hshared, ← htask]
  refine ⟨rfl, fun _ _ => Iff.rfl, ?_⟩
  intro recorded recorded' hrecorded hrecorded'
  rw [Subtype.ext (hrecorded'.trans hrecorded.symm)]

/-- A phone that asks for a PIN. -/
def pinPhone : MockDevice := { phone with pairingMethod := .pinCode }

/-- A session that pairs with the phone, and sends it a file. -/
def pairAndSend (_ : Unit) : Program (sessionCalls Unit)
    (Except TransportError PairReport × Except TransportError TransferReceipt) := do
  let paired ← call (I := sessionCalls Unit)
    (.pairDevice pinPhone.info.id { retries := 0, spoofLocal := none })
  let sent ← call (I := sessionCalls Unit)
    (.uploadFile pinPhone.info.id () { retries := 0, disconnectAfter := true })
  return (paired, sent)

/-- A file of that content. -/
def notes (bytes : List UInt8) (_ : Unit) : OutboundFile :=
  { name := "notes.txt", mimeType := none, bytes }

/-- Neither the PIN nor the content of the file shows: the two sessions leave the same report. -/
theorem leaks_no_secrets_notes : ∃ w w', ∃ recorded recorded' : EventVec,
    (Pool.system serve).Run (quietBackend.startSessions (notes [1, 2, 3]) [pinPhone] pairAndSend)
        (List.replicate 25 ((), .pin "0000")) w ∧
      (Pool.system serve).Run (quietBackend.startSessions (notes [7, 8, 9]) [pinPhone] pairAndSend)
        (List.replicate 25 ((), .pin "1234")) w' ∧
      recorded.1 = w.shared.observed ∧ recorded'.1 = w'.shared.observed ∧
      recorded.1.length = 8 ∧ recorded'.1 = recorded.1 ∧
      (∃ report receipt, w'.task () = .done (.ok report, .ok receipt) ∧
        w.task () = .done (.ok report, .ok receipt)) ∧
      (Analyzer.new recorded').report = (Analyzer.new recorded).report := by
  let p (w : Pool mockSteps MockState fun _ : Unit =>
      Except TransportError PairReport × Except TransportError TransferReceipt) : Bool :=
    decide (w.shared.observed.length = 8) &&
      (w.task ()).value?.any fun results => results.1.isOk && results.2.isOk
  have hcomputed : ((Pool.system serve).exec
      (quietBackend.startSessions (notes [1, 2, 3]) [pinPhone] pairAndSend)
      (List.replicate 25 ((), .pin "0000"))).any p = true := by decide +kernel
  obtain ⟨w, hrun, hp⟩ := Lts.exists_run_of_any hcomputed
  obtain ⟨hlength, hdone⟩ := Bool.and_eq_true_iff.mp hp
  have hlength := of_decide_eq_true hlength
  -- The two PINs are no refusals, so that their runs are alike.
  have halike (n : ℕ) : Pool.Alike SameDecision
      (List.replicate n ((), PairingResponse.pin "0000")) (List.replicate n ((), .pin "1234")) := by
    induction n with
    | zero => exact .nil
    | succ n ih => exact .cons ⟨rfl, by decide⟩ ih
  have hfiles : ∀ f, SameOutside (notes [1, 2, 3] f) (notes [7, 8, 9] f) := fun _ => ⟨rfl, rfl⟩
  obtain ⟨⟨w', hrun'⟩, hall⟩ := leaks_no_secrets hfiles pairAndSend (halike 25) hrun
  obtain ⟨hobserved, hreturned, hreport⟩ := hall w' hrun'
  have hfits : w.shared.observed.length < 2 ^ 63 := by
    rw [hlength]
    norm_num
  have hfits' : w'.shared.observed.length < 2 ^ 63 := hobserved ▸ hfits
  refine ⟨w, w', ⟨_, hfits⟩, ⟨_, hfits'⟩, hrun, hrun', rfl, rfl, hlength, hobserved, ?_,
    hreport _ _ rfl rfl⟩
  cases htask : w.task () with
  | ask c next =>
    rw [htask] at hdone
    cases hdone
  | done results =>
    rw [htask] at hdone
    obtain ⟨report, receipt⟩ := results
    cases report with
    | error e => cases hdone
    | ok report =>
      cases receipt with
      | error e => cases hdone
      | ok receipt => exact ⟨report, receipt, (hreturned () _).mpr htask, rfl⟩

end MockBackend
end Pax
