import Pax.Framework.Indifference
import Pax.Transfer.Course
import Pax.Transport.Mock.Links
import Pax.Transport.Mock.PushAccount

/-!
# Uploads leave no link behind

An upload that disconnects afterwards does so on every way out: once it has a connection, the
backend sees pushes on it and one `disconnect` of it, whose reply does not matter. On the mock, the
connection is entered under the token that is next and taken out again, so that the table is the
same as before, unless that token was the one of a live connection (`connections_upload`). The
counter has to come round for that.
-/

namespace Pax
namespace Upload

open Program (Returns)

/-- A call of the workflow: what is uploaded, apart from the target and the options. -/
inductive UploadCall where
  | uploadFile (file : OutboundFile)
  | uploadFiles (files : List OutboundFile)

/-- What the call returns if it succeeds. -/
def UploadCall.Value : UploadCall → Type
  | .uploadFile _ => TransferReceipt
  | .uploadFiles _ => List TransferReceipt

/-- What the call does with its connection, before the disconnect. -/
def UploadCall.transfer (options : UploadOptions) (conn : Connection) :
    (c : UploadCall) → Links (Except TransportError c.Value)
  | .uploadFile file => pushWithRetries conn file options.retries
  | .uploadFiles files => pushAll conn options.retries files []

/-- The call as a program over the operations of a backend. -/
def UploadCall.program (target : DeviceId) (options : UploadOptions) :
    (c : UploadCall) → Links (Except TransportError c.Value)
  | .uploadFile file => Upload.uploadFile target file options
  | .uploadFiles files => Upload.uploadFiles target files options

theorem UploadCall.program_eq (target : DeviceId) (options : UploadOptions) (c : UploadCall) :
    c.program target options
      = withConnection target fun conn =>
          thenDisconnect conn options (c.transfer options conn) := by
  cases c <;> rfl

theorem UploadCall.uses_transfer (options : UploadOptions) (conn : Connection) (c : UploadCall) :
    (c.transfer options conn).Uses (IsPush conn) := by
  cases c with
  | uploadFile file => exact uses_pushFrom conn file _ _
  | uploadFiles files => exact uses_pushAll conn _ files []

/-! ### On any backend -/

variable {c : UploadCall} {target : DeviceId} {options : UploadOptions}
  {es : List (Exchange linkOps)} {r : Except TransportError c.Value}

/-- **Every way out.** After a successful `connect` there are pushes and one `disconnect`, and with
any other reply to that the result is the same. -/
theorem released_of_returns (hafter : options.disconnectAfter = true)
    (h : Returns (c.program target options) es r) :
    (∃ e, es = [⟨.connect target, .error e⟩] ∧ r = .error e) ∨
      ∃ (conn : Connection) (pushes : List (Exchange linkOps)) (reply : Except TransportError Unit),
        es = ⟨.connect target, .ok conn⟩ :: pushes ++ [⟨.disconnect conn, reply⟩] ∧
          (∀ e ∈ pushes, IsPush conn e.call) ∧
          ∀ (reply' : Except TransportError Unit) (r' : Except TransportError c.Value),
            Returns (c.program target options)
              (⟨.connect target, .ok conn⟩ :: pushes ++ [⟨.disconnect conn, reply'⟩]) r' ↔
                r' = r := by
  rw [UploadCall.program_eq, returns_withConnection] at h
  refine h.imp id ?_
  rintro ⟨conn, es', rfl, hconn⟩
  obtain ⟨pushes, closing, rfl, htransfer, hclosing⟩ := returns_thenDisconnect.mp hconn
  rw [Closing, if_pos hafter] at hclosing
  obtain ⟨reply, rfl⟩ := hclosing
  refine ⟨conn, pushes, reply, rfl, (c.uses_transfer options conn).path htransfer, ?_⟩
  intro reply' r'
  have hother : Returns (c.program target options)
      (⟨.connect target, .ok conn⟩ :: pushes ++ [⟨.disconnect conn, reply'⟩]) r := by
    rw [UploadCall.program_eq, returns_withConnection]
    refine .inr ⟨conn, _, rfl, returns_thenDisconnect.mpr ⟨pushes, _, rfl, htransfer, ?_⟩⟩
    rw [Closing, if_pos hafter]
    exact ⟨reply', rfl⟩
  constructor
  · exact fun h' => h'.returns_unique hother
  · rintro rfl
    exact hother

end Upload

namespace MockBackend

open Program (Alone alone_bind alone_call_bind alone_done)
open Upload (IsPush UploadCall)

/-! ### The table of the mock -/

/-- Steps that neither hand a token out nor take one out keep the table. -/
theorem connections_of_served {s s' : MockState} {es : List (Exchange mockSteps)}
    (h : Served serve s es s') (hes : ∀ e ∈ es, opensLink e = false ∧ closesLink e = false) :
    s'.connections = s.connections := by
  revert hes
  -- Step by step: opening and closing are the only ones that touch the table.
  refine h.invariant (P := fun es s' => (∀ e ∈ es, opensLink e = false ∧ closesLink e = false) →
    s'.connections = s.connections) (fun _ => rfl) ?_
  intro es s₁ c answer ih hes
  have hlast := hes ⟨c, (serve c answer s₁).1⟩ (by simp)
  rw [← ih fun e he => hes e (List.mem_append_left _ he)]
  cases hc : changes c with
  | true =>
    cases c with
    | openLink target => cases hlast.1
    | closeLink token =>
      apply erase_of_lookup_eq_none
      have hreply : (s₁.connections.lookup token).isSome = false := hlast.2
      rwa [Option.isSome_eq_false_iff, Option.isNone_iff_eq_none] at hreply
    | _ => first | rfl | cases hc
  | false =>
    obtain ⟨devices, hs⟩ := serve_of_changes hc answer s₁
    rw [hs]

variable {backend : MockBackend} {s s' : MockState}

/-- The mark at which an operation returns to its caller changes nothing in the state. -/
theorem alone_perform {op : MockOp} {r : op.Result} :
    Alone serve (backend.perform op) s r s' ↔ Alone serve (backend.run op) s r s' := by
  rw [perform, alone_bind]
  constructor
  · rintro ⟨result, s₁, hrun, hend⟩
    obtain ⟨_, hdone⟩ := alone_call_bind.mp hend
    obtain ⟨rfl, rfl⟩ := alone_done.mp hdone
    exact hrun
  · intro hrun
    exact ⟨r, s', hrun, alone_call_bind.mpr ⟨.cancel, alone_done.mpr ⟨rfl, rfl⟩⟩⟩

/-- `connect` enters its target under the token that is next. -/
theorem connections_connect {target : DeviceId} {r : Except TransportError Connection}
    (h : Alone serve (backend.perform (.connect target)) s r s') :
    (s.find target = none ∧ (∃ e, r = .error e) ∧ s'.connections = s.connections) ∨
      (s.find target ≠ none ∧ (∃ conn, r = .ok conn ∧ conn.token = s.nextToken) ∧
        s'.connections = s.connections.insert s.nextToken target) := by
  obtain ⟨ω, hlooked⟩ := alone_call_bind.mp (alone_perform.mp h)
  have hfound : (serve (.lookup target) ω s).1 = s.find target := rfl
  rw [hfound] at hlooked
  cases hfind : s.find target with
  | none =>
    rw [hfind] at hlooked
    obtain ⟨rfl, rfl⟩ := alone_done.mp hlooked
    exact .inl ⟨rfl, ⟨_, rfl⟩, rfl⟩
  | some device =>
    rw [hfind] at hlooked
    obtain ⟨_, hopened⟩ := alone_call_bind.mp hlooked
    have hend := alone_emit_bind.mp hopened
    obtain ⟨rfl, rfl⟩ := alone_done.mp hend
    exact .inr ⟨Option.some_ne_none device, ⟨_, rfl, rfl⟩, rfl⟩

/-- `disconnect` takes its token out, if that is there. -/
theorem connections_disconnect {conn : Connection} {r : Except TransportError Unit}
    (h : Alone serve (backend.perform (.disconnect conn)) s r s') :
    s'.connections = s.connections.erase conn.token := by
  obtain ⟨_, hclosed⟩ := alone_call_bind.mp (alone_perform.mp h)
  change Alone serve (if ¬ (s.connections.lookup conn.token).isSome then _ else _) _ r s' at hclosed
  split at hclosed
  · obtain ⟨-, rfl⟩ := alone_done.mp hclosed
    rfl
  · have hend := alone_emit_bind.mp hclosed
    obtain ⟨-, rfl⟩ := alone_done.mp hend
    rfl

/-- A push keeps the connection table, whatever it comes to. -/
theorem connections_push {conn : Connection} {c : LinkOp} (hc : IsPush conn c) {r : c.op.Result}
    (h : Alone serve (backend.performLink c) s r s') : s'.connections = s.connections := by
  cases c with
  | pushFile conn' file =>
    obtain ⟨es, hreturns, hserved⟩ := alone_perform.mp h
    refine connections_of_served hserved fun e he => ?_
    obtain ⟨hopens, hcloses, -⟩ := link_free hreturns (by rintro _ ⟨⟩) (by rintro _ ⟨⟩) e he
    exact ⟨hopens, hcloses⟩
  | _ => cases hc

/-- Entering a token and taking it out leaves the table without it. -/
theorem erase_insert_self (connections : AList fun _ : UInt64 => DeviceId) (token : UInt64)
    (peer : DeviceId) : (connections.insert token peer).erase token = connections.erase token := by
  apply AList.ext
  exact List.kerase_cons_eq rfl

/-- **What an upload does to the table**, whatever the pushes and the disconnect come to. -/
theorem connections_upload {c : UploadCall} {target : DeviceId} {options : UploadOptions}
    (hafter : options.disconnectAfter = true) {r : Except TransportError c.Value}
    (h : Alone serve ((c.program target options).interpret backend.performLink) s r s') :
    s'.connections
      = if s.find target = none then s.connections else s.connections.erase s.nextToken := by
  rw [UploadCall.program_eq] at h
  -- the first call of the upload is `connect`
  obtain ⟨connected, s₁, hconnect, hrest⟩ := alone_bind.mp h
  obtain ⟨hnone, ⟨e, rfl⟩, hsame⟩ | ⟨hsome, ⟨conn, rfl, htoken⟩, hinsert⟩ :=
    connections_connect hconnect
  · obtain ⟨-, rfl⟩ := alone_done.mp hrest
    rw [if_pos hnone, hsame]
  · change Alone serve ((Upload.thenDisconnect conn options (c.transfer options conn)).interpret
      backend.performLink) s₁ r s' at hrest
    rw [Upload.thenDisconnect, Program.interpret_bind] at hrest
    obtain ⟨result, s₂, htransfer, hclose⟩ := alone_bind.mp hrest
    have hpushes : s₂.connections = s₁.connections :=
      htransfer.invariant_interpret (P := fun s => s.connections = s₁.connections)
        (fun c hc s r s' hs hcall => (connections_push hc hcall).trans hs)
        (c.uses_transfer options conn) rfl
    rw [if_pos hafter] at hclose
    obtain ⟨reply, s₃, hdisconnect, hend⟩ := alone_bind.mp hclose
    obtain ⟨-, rfl⟩ := alone_done.mp hend
    rw [if_neg hsome, connections_disconnect hdisconnect, htoken, hpushes, hinsert]
    exact erase_insert_self _ _ _

/-- The table is the same as before, unless the token of the connection was in use. -/
theorem connections_upload_iff {c : UploadCall} {target : DeviceId} {options : UploadOptions}
    (hafter : options.disconnectAfter = true) {r : Except TransportError c.Value}
    (h : Alone serve ((c.program target options).interpret backend.performLink) s r s') :
    s'.connections = s.connections ↔ s.find target = none ∨ s.nextToken ∉ s.connections := by
  rw [connections_upload hafter h]
  -- Without the device nothing was opened, and with it the link that was opened is closed again.
  by_cases hnone : s.find target = none
  · simp [hnone]
  · rw [if_neg hnone]
    simp only [hnone, false_or]
    constructor
    · intro herase
      rw [← herase, AList.mem_erase]
      exact fun hmem => hmem.1 rfl
    · exact fun hnot => erase_of_lookup_eq_none (AList.lookup_eq_none.mpr hnot)

/-- **Uploads leave no link behind.** On any backend, an upload that disconnects afterwards calls
pushes on its connection and then `disconnect` once, and what that is replied does not matter. From
any state that the mock can be in, the table of its connections is then the same as before if and
only if the device is unknown or the next token is not in use, and it is not in use as long as fewer
than `2 ^ 64` connections were made. -/
theorem upload_leaves_no_link (c : UploadCall) (target : DeviceId) (options : UploadOptions)
    (hafter : options.disconnectAfter = true) :
    (∀ es r, Program.Returns (c.program target options) es r →
      (∃ e, es = [⟨.connect target, .error e⟩] ∧ r = .error e) ∨
        ∃ (conn : Connection) (pushes : List (Exchange linkOps))
          (reply : Except TransportError Unit),
          es = ⟨.connect target, .ok conn⟩ :: pushes ++ [⟨.disconnect conn, reply⟩] ∧
            (∀ e ∈ pushes, IsPush conn e.call) ∧
            ∀ (reply' : Except TransportError Unit) (r' : Except TransportError c.Value),
              Program.Returns (c.program target options)
                (⟨.connect target, .ok conn⟩ :: pushes ++ [⟨.disconnect conn, reply'⟩]) r' ↔
                  r' = r) ∧
      ∀ (backend : MockBackend) (devices : List MockDevice) (ι : Type) [DecidableEq ι]
        (ops : ι → MockOp) (steps : List (ι × PairingResponse))
        (w : Pool mockSteps MockState fun i => (ops i).Result),
        (system ops).Run (backend.start devices ops) steps w → ∀ r s',
          Alone serve ((c.program target options).interpret backend.performLink) w.shared r s' →
            (s'.connections = w.shared.connections ↔
              w.shared.find target = none ∨ w.shared.nextToken ∉ w.shared.connections) ∧
            ((allOpened w).length < 2 ^ 64 → s'.connections = w.shared.connections) := by
  refine ⟨fun es r h => Upload.released_of_returns hafter h, ?_⟩
  intro backend devices ι _ ops steps w hrun r s' halone
  have hiff := connections_upload_iff hafter halone
  refine ⟨hiff, fun hcount => hiff.mpr (.inr ?_)⟩
  exact (linked_of_served (reached hrun).served).token_unused hcount

/-- A phone that cuts transfers off after two of four bytes. -/
def flakyPhone : MockDevice := { phone with chunkSize := 2, transferFailureAfter := some 3 }

/-- An operation that opens one connection to the phone. -/
def oneConnect : Unit → MockOp := fun _ => .connect flakyPhone.info.id

/-- Two files are sent: the first one is as long as the phone takes, the second one longer. -/
def twoFiles : UploadCall := .uploadFiles
  [note, { name := "photo.jpg", mimeType := none, bytes := [1, 2, 3, 4] }]

/-- The upload of the two files, with one retry. -/
def twoFilesUpload : Steps (Except TransportError twoFiles.Value) :=
  (twoFiles.program flakyPhone.info.id ⟨1, true⟩).interpret quietBackend.performLink

/-- The second file is cut off in both attempts and the upload fails. Its link is closed all the
same, and the link that was there before it is the one that is there after it. -/
theorem upload_leaves_no_link_flaky : ∃ w r s',
    (system oneConnect).Run (quietBackend.start [flakyPhone] oneConnect)
        (List.replicate 4 ((), .cancel)) w ∧
      w.shared.connections.lookup 1 = some flakyPhone.info.id ∧
      Alone serve twoFilesUpload w.shared r s' ∧ (∃ e, r = .error e) ∧
      s'.observed.countP (fun event => event.kind = .disconnected none) = 1 ∧
      s'.connections = w.shared.connections := by
  let p (w : Pool mockSteps MockState fun i => (oneConnect i).Result) : Bool :=
    decide (w.shared.connections.lookup 1 = some flakyPhone.info.id ∧
      (allOpened w).length = 1 ∧
      (Program.runAlone serve .cancel twoFilesUpload w.shared).1.toOption.isNone ∧
      (Program.runAlone serve .cancel twoFilesUpload w.shared).2.observed.countP
        (fun event => event.kind = .disconnected none) = 1)
  have hcomputed : ((system oneConnect).exec (quietBackend.start [flakyPhone] oneConnect)
      (List.replicate 4 ((), .cancel))).any p = true := by decide +kernel
  obtain ⟨w, hrun, hp⟩ := Lts.exists_run_of_any hcomputed
  obtain ⟨hlive, hopened, hfails, hclosed⟩ := of_decide_eq_true hp
  have halone := Program.alone_runAlone (H := serve) .cancel twoFilesUpload w.shared
  have hmock := (upload_leaves_no_link twoFiles flakyPhone.info.id ⟨1, true⟩ rfl).2
    quietBackend [flakyPhone] Unit oneConnect _ w hrun _ _ halone
  have hfew : (allOpened w).length < 2 ^ 64 := by
    rw [hopened]
    norm_num
  refine ⟨w, _, _, hrun, hlive, halone, ?_, hclosed, hmock.2 hfew⟩
  cases hr : (Program.runAlone serve .cancel twoFilesUpload w.shared).1 with
  | ok receipts =>
    rw [hr] at hfails
    cases hfails
  | error e => exact ⟨e, rfl⟩

/-- No `connect` takes a token out of the table. -/
theorem allClosed_connects {steps : List (ℕ × PairingResponse)}
    {w : Pool mockSteps MockState fun i => (connects i).Result}
    (hrun : (system connects).Run (quietBackend.start [phone] connects) steps w) :
    allClosed w = [] := by
  rw [allClosed, ← List.length_eq_zero_iff, length_closed, List.countP_eq_zero]
  intro e he
  obtain ⟨⟨i, e⟩, hmem, rfl⟩ := List.mem_map.mp he
  have hown : e ∈ own w.trace i := mem_own.mpr hmem
  rcases (built_run quietBackend (connects i)).calls ((reached hrun).path i) e hown with
    hholds | ⟨event, hevent⟩ | ⟨origin, kind, dt, hstamp, -⟩
  · obtain ⟨call, reply⟩ := e
    cases call <;> first | exact Bool.false_ne_true | cases hholds
  · obtain ⟨call, reply⟩ := e
    cases hevent
    exact Bool.false_ne_true
  · obtain ⟨call, reply⟩ := e
    cases hstamp
    exact Bool.false_ne_true

/-- With all tokens in use, an upload takes a link away. -/
theorem exists_upload_takes_link : ∃ steps w,
    (system connects).Run (quietBackend.start [phone] connects) steps w ∧
      ∃ r s', Alone serve (((UploadCall.uploadFiles []).program phone.info.id ⟨0, true⟩).interpret
        quietBackend.performLink) w.shared r s' ∧ s'.connections ≠ w.shared.connections := by
  obtain ⟨steps, w, hrun, hopens, -, -⟩ := exists_connects (2 ^ 64)
  obtain ⟨r, s', halone⟩ := Program.exists_alone serve
    (((UploadCall.uploadFiles []).program phone.info.id ⟨0, true⟩).interpret
      quietBackend.performLink) w.shared
  refine ⟨steps, w, hrun, r, s', halone, ?_⟩
  rw [ne_eq, connections_upload_iff rfl halone, not_or, not_not]
  have hlinked := linked_of_served (reached hrun).served
  have hlength : (opened (w.trace.map Prod.snd)).length = 2 ^ 64 := by rw [length_opened, hopens]
  constructor
  · rw [find_eq_none, not_not, ids_of_served (reached hrun).served]
    exact List.mem_cons_self
  · -- the counter has come round to the first token
    have hnext : w.shared.nextToken = nthToken 0 := by
      rw [hlinked.token_eq, hlength]
      rfl
    -- and the link that has it is still open, as nobody has closed one
    have hfirst : nthToken 0 ∈ (opened (w.trace.map Prod.snd)).map Prod.fst := by
      rw [hlinked.tokens, hlength]
      exact List.mem_map_of_mem (List.mem_range.mpr (Nat.two_pow_pos 64))
    obtain ⟨⟨token, peer⟩, hmem, htoken⟩ := List.mem_map.mp hfirst
    have hclosed : closed (w.trace.map Prod.snd) = [] := allClosed_connects hrun
    have hlive := (hlinked.table hlength.le token peer).mpr ⟨hmem, by rw [hclosed]; simp⟩
    rw [hnext, ← htoken, ← AList.lookup_isSome, hlive]
    rfl

end MockBackend
end Pax
