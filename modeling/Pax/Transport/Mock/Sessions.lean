import Pax.Transport.Mock.EventLog
import Pax.Transport.Mock.Pairing

/-!
# Sessions in the event log of the mock backend

What one operation leaves in the event log, with its result: a pairing attempt starts and is
completed or fails, a push starts, goes on chunk by chunk, and is completed or fails (`Session`). An
attempt with a device that is not known, and a push on a link that is not in the connection table,
leave nothing; a push on a live link leaves a session.

An operation in progress has left the first part of such a log (`well_bracketed`), and when no
operation is in progress the devices with a completed attempt are those of the paired set.

What an operation does is described first, without the log (`Push`, `Attempt` of
`Pax.Transport.Mock.Pairing`), and its log is then read off the events that it has stamped
(`stamped`).
-/

namespace Pax

namespace MockBackend

open Program (Returns returns_done)

variable {backend : MockBackend}

/-- The events stamped, by their peers and kinds. -/
def stamped (es : List (Exchange mockSteps)) : List Label :=
  es.filterMap fun
    | ⟨.stamp origin kind _, _⟩ => some (origin.peer, kind)
    | _ => none

theorem stamped_append (es es' : List (Exchange mockSteps)) :
    stamped (es ++ es') = stamped es ++ stamped es' := List.filterMap_append

/-! ### Pushes -/

/-- What the loop over the chunks does, `transferred` bytes being through. -/
inductive Chunked (origin : EventOrigin) (total : UInt64) :
    UInt64 → List (Exchange mockSteps) → Except TransportError (UInt64 × UInt64) → Prop
  | done (transferred chunks : UInt64) :
    Chunked origin total transferred [] (.ok (transferred, chunks))
  | failed (transferred : UInt64) (reason : String) (event : TransitEvent) :
    Chunked origin total transferred
      [⟨.stamp origin (.error reason) step, event⟩, ⟨.onEvent event, ()⟩]
      (.error (.transferFailed transferred reason))
  | chunk {transferred n : UInt64} {dt : Duration} {es : List (Exchange mockSteps)}
    {r : Except TransportError (UInt64 × UInt64)} (event event' : TransitEvent)
    (h : Chunked origin total (transferred + n) es r) :
    Chunked origin total transferred
      (⟨.stamp origin (.dataChunk .outbound n) dt, event⟩ :: ⟨.onEvent event, ()⟩
        :: ⟨.stamp origin (.transferProgress (transferred + n) total) .zero, event'⟩
        :: ⟨.onEvent event', ()⟩ :: es) r

theorem returns_pushChunks {device : MockDevice} {origin : EventOrigin} {total : UInt64}
    {pieces : List (List UInt8)} {transferred chunks : UInt64} {es : List (Exchange mockSteps)}
    {r : Except TransportError (UInt64 × UInt64)}
    (h : Returns (pushChunks device origin total pieces transferred chunks) es r) :
    Chunked origin total transferred es r := by
  -- On the pieces: the limit ends the loop, or a piece goes through.
  induction pieces generalizing transferred chunks es with
  | nil =>
    obtain ⟨rfl, rfl⟩ := returns_done.mp h
    exact .done transferred chunks
  | cons piece pieces ih =>
    rw [pushChunks] at h
    split at h
    · obtain ⟨event, es₁, rfl, hend⟩ := returns_emit_bind h
      obtain ⟨rfl, rfl⟩ := returns_done.mp hend
      exact .failed transferred _ event
    · obtain ⟨event, es₁, rfl, hchunk⟩ := returns_emit_bind h
      obtain ⟨event', es₂, rfl, hrest⟩ := returns_emit_bind hchunk
      exact .chunk event event' (ih hrest)

/-- What a push does: it is refused by the check of its link, or it starts and goes on chunk by
chunk. -/
inductive Push (conn : Connection) (file : OutboundFile) :
    List (Exchange mockSteps) → Except TransportError TransferReceipt → Prop
  | refused (e : TransportError) : Push conn file [⟨.checkLink conn, .error e⟩] (.error e)
  | failed {device : MockDevice} {es : List (Exchange mockSteps)} {e : TransportError}
    (start : Timestamp) (started : TransitEvent)
    (h : Chunked conn.origin file.len 0 es (.error e)) :
    Push conn file (⟨.checkLink conn, .ok device⟩ :: ⟨.now, start⟩
      :: ⟨.stamp conn.origin (.transferStarted file.name file.len) step, started⟩
      :: ⟨.onEvent started, ()⟩ :: es) (.error e)
  | completed {device : MockDevice} {es : List (Exchange mockSteps)} {transferred chunks : UInt64}
    (start finish : Timestamp) (started completed : TransitEvent)
    (h : Chunked conn.origin file.len 0 es (.ok (transferred, chunks))) :
    Push conn file (⟨.checkLink conn, .ok device⟩ :: ⟨.now, start⟩
      :: ⟨.stamp conn.origin (.transferStarted file.name file.len) step, started⟩
      :: ⟨.onEvent started, ()⟩ :: es
      ++ [⟨.now, finish⟩,
        ⟨.stamp conn.origin (.transferCompleted transferred (finish.saturatingSince start)) step,
          completed⟩,
        ⟨.onEvent completed, ()⟩])
      (.ok { objectName := file.name, bytes := transferred, chunks
             duration := finish.saturatingSince start })

theorem push_of_returns {conn : Connection} {file : OutboundFile} {es : List (Exchange mockSteps)}
    {r : Except TransportError TransferReceipt} (h : Returns (pushFile conn file) es r) :
    Push conn file es r := by
  obtain ⟨checked, es₁, rfl, hchecked⟩ := Program.returns_call_bind h
  cases checked with
  | error e =>
    obtain ⟨rfl, rfl⟩ := returns_done.mp hchecked
    exact .refused e
  | ok device =>
    obtain ⟨start, es₂, rfl, hstarted⟩ := Program.returns_call_bind hchecked
    obtain ⟨started, es₃, rfl, hemitted⟩ := returns_emit_bind hstarted
    obtain ⟨es₄, pushed, es₅, rfl, hpushed, hend⟩ := Program.returns_bind.mp hemitted
    have hchunks := returns_pushChunks hpushed
    -- The loop fails, and the push with it; or it is through, and the push is completed.
    cases pushed with
    | error e =>
      obtain ⟨rfl, rfl⟩ := returns_done.mp hend
      rw [List.append_nil]
      exact .failed start started hchunks
    | ok counts =>
      obtain ⟨finish, es₆, rfl, hfinish⟩ := Program.returns_call_bind hend
      obtain ⟨completed, es₇, rfl, hlast⟩ := returns_emit_bind hfinish
      obtain ⟨rfl, rfl⟩ := returns_done.mp hlast
      exact .completed start finish started completed hchunks

/-! ### Sessions -/

/-- The events of a pairing attempt that failed for a reason, or did not fail. -/
def attemptLog (device : MockDevice) (reason : Option String) : List Label :=
  [(device.info.id, .pairingStarted device.pairingMethod),
    (device.info.id, match reason with
      | none => .pairingCompleted
      | some reason => .pairingFailed reason)]

/-- The events of chunks of some sizes, of which `transferred` bytes are through after each. -/
def chunkLog (peer : DeviceId) (total : UInt64) (sizes : List (UInt64 × UInt64)) : List Label :=
  sizes.flatMap fun size =>
    [(peer, .dataChunk .outbound size.1), (peer, .transferProgress size.2 total)]

/-- What a pairing attempt for a target leaves in the log, and returns. -/
def PairSession (known : List DeviceId) (target : DeviceId) (log : List Label)
    (r : Except TransportError PairingOutcome) : Prop :=
  (target ∉ known ∧ log = [] ∧ r = .error (.deviceNotFound target)) ∨
    ∃ device, device.info.id = target ∧
      ((log = attemptLog device none ∧ r = .ok (.ofBond device.pairingMethod)) ∨
        ∃ reason, log = attemptLog device (some reason) ∧
          (r = .error (.pairingRejected reason) ∨ r = .error (.pairingFailed reason)))

/-- What attempts with devices in turn leave in the log, and which of the devices have bonded. -/
def AcceptSession (devices : List MockDevice) (log : List Label) (bonded : List DeviceId) : Prop :=
  ∃ reasons : List (Option String), reasons.length = devices.length ∧
    log = (devices.zip reasons).flatMap (fun p => attemptLog p.1 p.2) ∧
    bonded = (devices.zip reasons).filterMap fun p =>
      if p.2 = none then some p.1.info.id else none

/-- What a push leaves in the log, and returns, the table of connections being `table` when it looks
its connection up. Nothing is left if the connection is not live, and nothing if it is live and its
peer is not known, which are two errors. On a live link to a known peer the log is a whole transfer:
its start, chunk after chunk, and the end that goes with the result. -/
def PushSession (known : List DeviceId) (table : AList fun _ : UInt64 => DeviceId)
    (conn : Connection) (file : OutboundFile) (log : List Label)
    (r : Except TransportError TransferReceipt) : Prop :=
  (conn.token ∉ table ∧ log = [] ∧ r = .error (.notConnected conn.peer)) ∨
    (conn.token ∈ table ∧ conn.peer ∉ known ∧ log = [] ∧ r = .error (.deviceNotFound conn.peer)) ∨
    conn.token ∈ table ∧ conn.peer ∈ known ∧ ∃ sizes closing,
      log = (conn.peer, .transferStarted file.name file.len)
        :: chunkLog conn.peer file.len sizes ++ [(conn.peer, closing)] ∧
      ((∃ receipt : TransferReceipt, r = .ok receipt ∧
          closing = .transferCompleted receipt.bytes receipt.duration) ∨
        ∃ transferred reason, r = .error (.transferFailed transferred reason) ∧
          closing = .error reason)

/-- What an operation leaves in the log, and returns: of a backend with the devices `known`, and
with `table` the live connections when it takes its first step. -/
def Session (backend : MockBackend) (known : List DeviceId)
    (table : AList fun _ : UInt64 => DeviceId) : (op : MockOp) → List Label → op.Result → Prop
  | .pair target, log, r => PairSession known target log r
  | .acceptPairings opts, log, r =>
    ∃ bonded, r = .ok bonded ∧ AcceptSession (backend.tried opts) log bonded
  | .pushFile conn file, log, r => PushSession known table conn file log r
  | _, _, _ => True

/-- The exchange is one that the state may answer. -/
def AnsweredIn (s : MockState) (e : Exchange mockSteps) : Prop :=
  ∃ answer, (serve e.call answer s).1 = e.reply

/-- The exchange is answered in a state with these devices. -/
def AnsweredWith (known : List DeviceId) (e : Exchange mockSteps) : Prop :=
  ∃ s answer, ids s = known ∧ (serve e.call answer s).1 = e.reply

theorem Attempt.session {device : MockDevice} {target : DeviceId} {es : List (Exchange mockSteps)}
    {r : Except TransportError Unit} (h : Attempt backend device target es r) :
    (stamped es = attemptLog device none ∧ r = .ok ()) ∨
      ∃ reason, stamped es = attemptLog device (some reason) ∧
        (r = .error (.pairingRejected reason) ∨ r = .error (.pairingFailed reason)) := by
  cases h with
  | declined started failed h => exact .inr ⟨_, rfl, .inl rfl⟩
  | failed started failed h hreason => exact .inr ⟨_, rfl, .inr rfl⟩
  | completed started completed h hnone => exact .inl ⟨rfl, rfl⟩

theorem Attempts.session {devices : List MockDevice} {es : List (Exchange mockSteps)}
    {bonded : List DeviceId} (h : Attempts backend devices es bonded) :
    AcceptSession devices (stamped es) bonded := by
  -- On the attempts, each with its own short log.
  induction h with
  | nil => exact ⟨[], rfl, rfl, rfl⟩
  | failed hattempt _ ih =>
    obtain ⟨reasons, hlength, hlog, hbonded⟩ := ih
    obtain ⟨-, hr⟩ | ⟨reason, hone, -⟩ := hattempt.session
    · cases hr
    · refine ⟨some reason :: reasons, congrArg (· + 1) hlength, ?_, ?_⟩
      · rw [stamped_append, hone, hlog]
        rfl
      · rw [hbonded]
        rfl
  | completed hattempt _ ih =>
    obtain ⟨reasons, hlength, hlog, hbonded⟩ := ih
    obtain ⟨hone, -⟩ | ⟨reason, -, hr⟩ := hattempt.session
    · refine ⟨none :: reasons, congrArg (· + 1) hlength, ?_, ?_⟩
      · rw [stamped_append, hone, hlog]
        rfl
      · rw [hbonded]
        rfl
    · rcases hr with hr | hr <;> cases hr

theorem Chunked.log {origin : EventOrigin} {total transferred : UInt64}
    {es : List (Exchange mockSteps)} {r : Except TransportError (UInt64 × UInt64)}
    (h : Chunked origin total transferred es r) :
    ∃ sizes closing, stamped es = chunkLog origin.peer total sizes ++ closing ∧
      ((closing = [] ∧ ∃ counts, r = .ok counts) ∨
        ∃ transferred reason, closing = [(origin.peer, .error reason)] ∧
          r = .error (.transferFailed transferred reason)) := by
  -- On the loop: each chunk adds its two events, and an error closes the log.
  induction h with
  | done transferred chunks => exact ⟨[], [], rfl, .inl ⟨rfl, _, rfl⟩⟩
  | failed transferred reason event => exact ⟨[], _, rfl, .inr ⟨_, _, rfl, rfl⟩⟩
  | @chunk transferred n dt es r event event' h ih =>
    obtain ⟨sizes, closing, hlog, hr⟩ := ih
    refine ⟨(n, transferred + n) :: sizes, closing, ?_, hr⟩
    show (origin.peer, .dataChunk .outbound n)
      :: (origin.peer, .transferProgress (transferred + n) total) :: stamped es = _
    rw [hlog]
    rfl

/-- A connection that a push found live is in the table, and its peer is known. -/
theorem checkLink_ok {s : MockState} {conn : Connection} {answer : PairingResponse}
    {device : MockDevice} (h : (serve (.checkLink conn) answer s).1 = .ok device) :
    conn.token ∈ s.connections ∧ conn.peer ∈ ids s := by
  -- The check looks for the token first, and for the device of the connection then.
  simp only [serve] at h
  split at h
  · cases h
  next peer hlive =>
    have htoken : conn.token ∈ s.connections := AList.lookup_isSome.mp (hlive ▸ rfl)
    split at h
    · cases h
    next device' hdevice =>
      refine ⟨htoken, ?_⟩
      by_contra hnot
      rw [← find_eq_none, hdevice] at hnot
      cases hnot

/-- One that it did not is not in the table, or its peer is not known. -/
theorem checkLink_error {s : MockState} {conn : Connection} {answer : PairingResponse}
    {e : TransportError} (h : (serve (.checkLink conn) answer s).1 = .error e) :
    (conn.token ∉ s.connections ∧ e = .notConnected conn.peer) ∨
      conn.token ∈ s.connections ∧ conn.peer ∉ ids s ∧ e = .deviceNotFound conn.peer := by
  -- It fails for the token first, and for the device only if that is there.
  simp only [serve] at h
  split at h
  next hnone =>
    cases h
    exact .inl ⟨AList.lookup_eq_none.mp hnone, rfl⟩
  next peer hlive =>
    have htoken : conn.token ∈ s.connections := AList.lookup_isSome.mp (hlive ▸ rfl)
    split at h
    next hnone =>
      cases h
      exact .inr ⟨htoken, find_eq_none.mp hnone, rfl⟩
    next => cases h

theorem Push.session {s : MockState} {conn : Connection} {file : OutboundFile}
    {es : List (Exchange mockSteps)} {r : Except TransportError TransferReceipt}
    (h : Push conn file es r) (hanswered : ∀ e, es.head? = some e → AnsweredIn s e) :
    PushSession (ids s) s.connections conn file (stamped es) r := by
  obtain ⟨answer, hreply⟩ : ∃ answer, ∀ reply, es.head? = some ⟨.checkLink conn, reply⟩ →
      (serve (.checkLink conn) answer s).1 = reply := by
    cases h with
    | refused e =>
      obtain ⟨answer, hreply⟩ := hanswered _ rfl
      exact ⟨answer, fun reply h => by cases h; exact hreply⟩
    | failed start started h =>
      obtain ⟨answer, hreply⟩ := hanswered _ rfl
      exact ⟨answer, fun reply h => by cases h; exact hreply⟩
    | completed start finish started completed h =>
      obtain ⟨answer, hreply⟩ := hanswered _ rfl
      exact ⟨answer, fun reply h => by cases h; exact hreply⟩
  cases h with
  | refused e =>
    obtain ⟨hnot, rfl⟩ | ⟨hlive, hunknown, rfl⟩ := checkLink_error (hreply _ rfl)
    · exact .inl ⟨hnot, rfl, rfl⟩
    · exact .inr (.inl ⟨hlive, hunknown, rfl, rfl⟩)
  | @failed device es e start started h =>
    obtain ⟨hlive, hknown⟩ := checkLink_ok (hreply _ rfl)
    obtain ⟨sizes, closing, hlog, ⟨-, counts, hr⟩ | ⟨transferred, reason, rfl, hr⟩⟩ := h.log
    · cases hr
    · refine .inr (.inr
        ⟨hlive, hknown, sizes, .error reason, ?_, .inr ⟨transferred, reason, ?_, rfl⟩⟩)
      · show (conn.peer, .transferStarted file.name file.len) :: stamped es = _
        rw [hlog]
        rfl
      · cases hr
        rfl
  | @completed device es transferred chunks start finish started completed h =>
    obtain ⟨hlive, hknown⟩ := checkLink_ok (hreply _ rfl)
    obtain ⟨sizes, closing, hlog, ⟨rfl, -⟩ | ⟨transferred', reason, -, hr⟩⟩ := h.log
    · refine .inr (.inr ⟨hlive, hknown, sizes, _, ?_, .inl ⟨_, rfl, rfl⟩⟩)
      rw [stamped_append]
      show (conn.peer, .transferStarted file.name file.len) :: stamped es ++ _ = _
      rw [hlog, List.append_nil]
      rfl
    · cases hr

/-- **What an operation that returns leaves in the log**, if its first step was answered in `s`. -/
theorem session_of_returns {s : MockState} {op : MockOp} {es : List (Exchange mockSteps)}
    {r : op.Result} (h : Returns (backend.run op) es r)
    (hanswered : ∀ e, es.head? = some e → AnsweredIn s e) :
    Session backend (ids s) s.connections op (stamped es) r := by
  -- Pairing and pushes have sessions; nothing is said of the other operations.
  cases op with
  | pair target =>
    obtain ⟨rfl, rfl⟩ | ⟨device, es', result, rfl, hattempt, rfl⟩ := returns_pair h
    · obtain ⟨answer, hreply⟩ := hanswered _ rfl
      have hnone : s.find target = none := hreply
      exact .inl ⟨find_eq_none.mp hnone, rfl, rfl⟩
    · obtain ⟨answer, hreply⟩ := hanswered _ rfl
      refine .inr ⟨device, id_of_find hreply, ?_⟩
      obtain ⟨hlog, rfl⟩ | ⟨reason, hlog, rfl | rfl⟩ := hattempt.session
      · exact .inl ⟨hlog, rfl⟩
      · exact .inr ⟨reason, hlog, .inl rfl⟩
      · exact .inr ⟨reason, hlog, .inr rfl⟩
  | acceptPairings opts =>
    obtain ⟨es', bonded, rfl, hattempts, rfl⟩ := returns_acceptPairings h
    refine ⟨bonded, rfl, ?_⟩
    rw [stamped_append]
    exact (List.append_nil (stamped es')).symm ▸ hattempts.session
  | pushFile conn file => exact (push_of_returns h).session hanswered
  | _ => trivial

/-- No operation returns before it has taken a step. -/
theorem ne_nil_of_returns {op : MockOp} {es : List (Exchange mockSteps)} {r : op.Result}
    (h : Returns (backend.run op) es r) : es ≠ [] := by
  rintro rfl
  cases op with
  | acceptPairings opts =>
    obtain ⟨es', bonded, hes, -⟩ := returns_acceptPairings h
    exact List.append_ne_nil_of_right_ne_nil _ (List.cons_ne_nil _ _) hes.symm
  | _ =>
    obtain ⟨reply, rest, hes, -⟩ := Program.returns_ask.mp h
    exact List.cons_ne_nil _ _ hes.symm

/-! ### Who is paired -/

/-- The peers of the attempts that the log says were completed. -/
def completedPeers (log : List Label) : List DeviceId :=
  log.filterMap fun
    | (peer, .pairingCompleted) => some peer
    | _ => none

theorem mem_completedPeers {log : List Label} {id : DeviceId} :
    id ∈ completedPeers log ↔ (id, .pairingCompleted) ∈ log := by
  constructor
  · intro h
    obtain ⟨⟨peer, kind⟩, hmem, hpeer⟩ := List.mem_filterMap.mp h
    cases kind with
    | pairingCompleted =>
      cases hpeer
      exact hmem
    | _ => cases hpeer
  · intro h
    exact List.mem_filterMap.mpr ⟨_, h, rfl⟩

theorem completedPeers_append (log log' : List Label) :
    completedPeers (log ++ log') = completedPeers log ++ completedPeers log' :=
  List.filterMap_append

theorem enteredIds_append (es es' : List (Exchange mockSteps)) :
    enteredIds (es ++ es') = enteredIds es ++ enteredIds es' := List.filterMap_append

theorem Attempt.entered {device : MockDevice} {target : DeviceId} {es : List (Exchange mockSteps)}
    {r : Except TransportError Unit} (h : Attempt backend device target es r)
    (hid : device.info.id = target) : enteredIds es = completedPeers (stamped es) := by
  subst hid
  cases h <;> rfl

theorem Attempts.entered {devices : List MockDevice} {es : List (Exchange mockSteps)}
    {bonded : List DeviceId} (h : Attempts backend devices es bonded) :
    enteredIds es = completedPeers (stamped es) := by
  induction h with
  | nil => rfl
  | failed hattempt _ ih =>
    rw [enteredIds_append, stamped_append, completedPeers_append, hattempt.entered rfl, ih]
  | completed hattempt _ ih =>
    rw [enteredIds_append, stamped_append, completedPeers_append, hattempt.entered rfl, ih]

/-- **An operation that returns has entered the peers of the attempts it completed.** -/
theorem entered_of_returns {known : List DeviceId} {op : MockOp} {es : List (Exchange mockSteps)}
    {r : op.Result} (h : Returns (backend.run op) es r)
    (hanswered : ∀ e, es.head? = some e → AnsweredWith known e) :
    enteredIds es = completedPeers (stamped es) := by
  -- An operation without pairing enters nobody, and completes no attempt.
  have hother (hpair : ∀ target, op ≠ .pair target) (haccept : ∀ opts, op ≠ .acceptPairings opts) :
      enteredIds es = completedPeers (stamped es) := by
    have hfree := pairing_free h hpair haccept
    have hentered : enteredIds es = [] := by
      apply List.filterMap_eq_nil_iff.mpr
      rintro ⟨c, reply⟩ he
      have hdecides := (hfree _ he).1
      cases c <;> first | rfl | cases hdecides
    have hcompleted : completedPeers (stamped es) = [] := by
      rw [completedPeers, stamped, List.filterMap_filterMap]
      apply List.filterMap_eq_nil_iff.mpr
      rintro ⟨c, reply⟩ he
      cases c with
      | stamp origin kind dt =>
        cases kind <;> first | rfl | exact absurd rfl ((hfree _ he).2 origin dt)
      | _ => rfl
    rw [hentered, hcompleted]
  cases op with
  | pair target =>
    obtain ⟨rfl, -⟩ | ⟨device, es', result, rfl, hattempt, -⟩ := returns_pair h
    · rfl
    · obtain ⟨s, answer, -, hreply⟩ := hanswered _ rfl
      exact hattempt.entered (id_of_find hreply)
  | acceptPairings opts =>
    obtain ⟨es', bonded, rfl, hattempts, -⟩ := returns_acceptPairings h
    rw [enteredIds_append, stamped_append, completedPeers_append, hattempts.entered]
    rfl
  | _ => exact hother (by rintro _ ⟨⟩) (by rintro _ ⟨⟩)

/-! ### In a run -/

/-- Each exchange of a run is answered by a state with the devices it began with. -/
theorem answeredWith_of_mem {devices : List MockDevice} {ι : Type} [DecidableEq ι] {α : ι → Type}
    {task : (i : ι) → Steps (α i)} {w : Pool mockSteps MockState α}
    (hreached : Pool.Reached serve (.init devices) task w) {i : ι} {e : Exchange mockSteps}
    (h : (i, e) ∈ w.trace) : AnsweredWith (ids (.init devices)) e := by
  obtain ⟨pre, post, htrace⟩ := List.append_of_mem h
  obtain ⟨s, answer, hserved, hreply⟩ := hreached.at_entry htrace
  exact ⟨s, answer, ids_of_served hserved, hreply⟩

section Run

variable {devices : List MockDevice} {ι : Type} [DecidableEq ι] {ops : ι → MockOp}
  {steps : List (ι × PairingResponse)}
  {w : Pool mockSteps MockState fun i => (ops i).Result} {i : ι}

/-- The events of an operation that the observer has been handed. -/
def log (w : Pool mockSteps MockState fun i => (ops i).Result) (i : ι) : List Label :=
  (events.handedBy (own w.trace i)).map TransitEvent.label

/-- Events carry the label they were stamped with. -/
theorem labels_of_answered {es : List (Exchange mockSteps)}
    (h : ∀ e ∈ es, ∃ s answer, (serve e.call answer s).1 = e.reply) :
    (events.takenBy es).map TransitEvent.label = stamped es := by
  -- On the exchanges: an event is stamped with the label that it was asked for.
  induction es with
  | nil => rfl
  | cons e es ih =>
    have hrest := ih fun e' he' => h e' (List.mem_cons_of_mem e he')
    obtain ⟨s, answer, hreply⟩ := h e List.mem_cons_self
    obtain ⟨c, reply⟩ := e
    cases c with
    | stamp origin kind dt =>
      cases hreply
      show _ :: (events.takenBy es).map TransitEvent.label = _ :: stamped es
      rw [hrest]
      rfl
    | _ => exact hrest

variable (hreached : Pool.Reached serve (.init devices) (fun i => backend.run (ops i)) w)

include hreached

theorem answeredWith_own_head (i : ι) :
    ∀ e, (own w.trace i).head? = some e → AnsweredWith (ids (.init devices)) e := by
  intro e he
  exact answeredWith_of_mem hreached (mem_own.mp (List.mem_of_mem_head? he))

theorem labels_own (i : ι) :
    (events.takenBy (own w.trace i)).map TransitEvent.label = stamped (own w.trace i) := by
  apply labels_of_answered
  intro e he
  obtain ⟨s, answer, -, hreply⟩ := answeredWith_of_mem hreached (mem_own.mp he)
  exact ⟨s, answer, hreply⟩

/-- An operation has handed over all that it stamped when it returns, and the first part of it at
any time. -/
theorem log_isPrefix_stamped (i : ι) : log w i <+: stamped (own w.trace i) := by
  rw [← labels_own hreached i, log,
    Publication.takenBy_own (fun i => publishes_run backend (ops i)) hreached i, List.map_append]
  exact List.prefix_append _ _

theorem log_of_atRest (hrest : w.AtRest i) : log w i = stamped (own w.trace i) := by
  have hpub (i : ι) := publishes_run backend (ops i)
  rw [← labels_own hreached i, log, Publication.takenBy_own hpub hreached i,
    Publication.pending_of_atRest hpub hreached hrest, Option.toList_none, List.append_nil]

/-- When no operation is in progress, the paired set is that of the peers of completed attempts. -/
theorem mem_paired_iff_completed (hrest : w.Quiescent) (id : DeviceId) :
    id ∈ w.shared.paired ↔ ∃ event ∈ w.shared.observed,
      event.kind = .pairingCompleted ∧ event.origin.peer = id := by
  have hown (i : ι) : enteredIds (own w.trace i) = completedPeers (stamped (own w.trace i)) := by
    rcases hreached.atRest (hrest i) with hnil | ⟨r, hreturns⟩
    · rw [hnil]
      rfl
    · exact entered_of_returns hreturns (answeredWith_own_head hreached i)
  have hlabel (event : TransitEvent) : event.label = (id, .pairingCompleted) ↔
      event.kind = .pairingCompleted ∧ event.origin.peer = id := by
    rw [TransitEvent.label, Prod.mk.injEq, and_comm]
  have hpub (i : ι) := publishes_run backend (ops i)
  rw [(logged_of_served hreached.served).observed_eq]
  -- From the paired set to what each operation has entered, to what it has stamped, and to what was
  -- recorded.
  calc id ∈ w.shared.paired
      ↔ ∃ i, id ∈ enteredIds (own w.trace i) := by
        rw [mem_paired_iff hreached.served]
        simp only [mem_enteredIds, mem_own, List.mem_map, Prod.exists, exists_eq_right]
    _ ↔ ∃ i, ∃ event ∈ events.takenBy (own w.trace i), event.label = (id, .pairingCompleted) := by
        simp only [hown, mem_completedPeers, ← labels_own hreached, List.mem_map]
    _ ↔ ∃ event ∈ events.allTaken w, event.label = (id, .pairingCompleted) := by
        simp only [Publication.mem_allTaken]
        constructor
        · rintro ⟨i, event, hmem, hkind⟩
          exact ⟨event, ⟨i, hmem⟩, hkind⟩
        · rintro ⟨event, ⟨i, hmem⟩, hkind⟩
          exact ⟨i, event, hmem, hkind⟩
    _ ↔ ∃ event ∈ events.allHanded w,
          event.kind = .pairingCompleted ∧ event.origin.peer = id := by
        simp only [hlabel, (Publication.handed_perm_taken hpub hreached hrest).mem_iff]

end Run

section Bracketed

variable {devices : List MockDevice} {ι : Type} [DecidableEq ι] {ops : ι → MockOp}
  {steps : List (ι × PairingResponse)} {w : Pool mockSteps MockState fun i => (ops i).Result}

/-- What an operation has left in the log is the first part of a session, on the table of the state
in which it began. -/
theorem exists_session (hrun : (system ops).Run (backend.start devices ops) steps w) (i : ι)
    (hbegun : own w.trace i ≠ []) :
    ∃ w₁ session r, Pool.BeginsIn serve (backend.start devices ops) steps i w₁ ∧
      Session backend (devices.map fun device => device.info.id) w₁.shared.connections (ops i)
        session r ∧ log w i <+: session ∧
      ∀ r', w.task i = .done r' → session = log w i ∧ r = r' := by
  have hreached := reached hrun
  obtain ⟨e, es, hown⟩ := List.exists_cons_of_ne_nil hbegun
  obtain ⟨w₁, hbegins, answer, hreply⟩ := Pool.exists_beginsIn hrun hown
  have hids : ids w₁.shared = devices.map fun device => device.info.id := by
    obtain ⟨before, -, -, -, hbefore, -⟩ := hbegins
    exact ids_of_served (reached hbefore).served
  have hanswered (more : List (Exchange mockSteps)) :
      ∀ e', (own w.trace i ++ more).head? = some e' → AnsweredIn w₁.shared e' := by
    intro e' he'
    rw [hown] at he'
    cases he'
    exact ⟨answer, hreply⟩
  rw [← hids]
  by_cases hdone : ∃ r, w.task i = .done r
  · -- it has returned, and the log is all of its session
    obtain ⟨r, hr⟩ := hdone
    have hlog := log_of_atRest hreached (.inr ⟨r, hr⟩)
    have hsession := session_of_returns (hreached.returns hr)
      (List.append_nil (own w.trace i) ▸ hanswered [])
    refine ⟨w₁, _, r, hbegins, hsession, hlog ▸ List.prefix_rfl, fun r' hr' => ⟨hlog.symm, ?_⟩⟩
    cases hr.symm.trans hr'
    rfl
  -- it is still in progress, and the log is a first part of one that it may have
  · obtain ⟨more, r, hreturns⟩ := exists_returns_own hreached i
    refine ⟨w₁, _, r, hbegins, session_of_returns hreturns (hanswered more), ?_, ?_⟩
    · rw [stamped_append]
      exact (log_isPrefix_stamped hreached i).trans (List.prefix_append _ _)
    · exact fun r' hr' => absurd ⟨r', hr'⟩ hdone

/-- **The event log is well bracketed.** In a run of interleaved operations: an operation that has
returned has left a session in the log that goes with what it returned, on the connections that were
live when it began, and an operation in progress the first part of one. When no operation is in
progress, the paired set is that of the peers with a `PairingCompleted` event. -/
theorem well_bracketed (hrun : (system ops).Run (backend.start devices ops) steps w) :
    (∀ i r, w.task i = .done r → ∃ w₁,
      Pool.BeginsIn serve (backend.start devices ops) steps i w₁ ∧
        Session backend (devices.map fun device => device.info.id) w₁.shared.connections (ops i)
          (log w i) r) ∧
    (∀ i, log w i = [] ∨ ∃ w₁ session r,
      Pool.BeginsIn serve (backend.start devices ops) steps i w₁ ∧
        Session backend (devices.map fun device => device.info.id) w₁.shared.connections (ops i)
          session r ∧ log w i <+: session) ∧
    (w.Quiescent → ∀ id, id ∈ w.shared.paired ↔ ∃ event ∈ w.shared.observed,
      event.kind = .pairingCompleted ∧ event.origin.peer = id) := by
  have hreached := reached hrun
  refine ⟨fun i r hdone => ?_, fun i => ?_, mem_paired_iff_completed hreached⟩
  -- it has returned
  · obtain ⟨w₁, session, r', hbegins, hsession, -, hend⟩ :=
      exists_session hrun i (ne_nil_of_returns (hreached.returns hdone))
    obtain ⟨rfl, rfl⟩ := hend r hdone
    exact ⟨w₁, hbegins, hsession⟩
  · by_cases hbegun : own w.trace i = []
    · left
      rw [log, hbegun]
      rfl
    · obtain ⟨w₁, session, r, hbegins, hsession, hlog, -⟩ := exists_session hrun i hbegun
      exact .inr ⟨w₁, session, r, hbegins, hsession, hlog⟩

end Bracketed

/-- A phone that takes files in chunks of two bytes. -/
def tinyPhone : MockDevice := { phone with chunkSize := 2 }

/-- A connection to the tiny phone with this token, whether it was handed out or not. -/
def tinyLink (token : UInt64) : Connection :=
  { peer := tinyPhone.info.id, local' := quietBackend.controller, spec := tinyPhone.spec
    standards := tinyPhone.standards, token }

/-- A file of three bytes. -/
def ringtone : OutboundFile := { name := "ring.mid", mimeType := none, bytes := [1, 2, 3] }

/-- A connection, a push on it, a push with a token that nobody was given, and a pairing. -/
def pushesAndPair : Fin 4 → MockOp
  | 0 => .connect tinyPhone.info.id
  | 1 => .pushFile (tinyLink 1) ringtone
  | 2 => .pushFile (tinyLink 9) ringtone
  | 3 => .pair tinyPhone.info.id

/-- After the connection is made, the pairing and the other push take place during the first push.
-/
def duringPush : List (Fin 4 × PairingResponse) :=
  List.map (fun i : Fin 4 => (i, .confirm true))
    [0, 0, 0, 0, 1, 1, 1, 1, 1, 3, 3, 3, 2, 1, 1, 1, 1, 1, 1, 1, 1, 1, 1, 3, 3, 3, 3]

/-- The push on the live link leaves a whole transfer of two chunks, the one with the other token
nothing and is refused, and the pairing its two events, after which the phone is paired. -/
theorem well_bracketed_during_push : ∃ w w₁ w₂ r r',
    (system pushesAndPair).Run (quietBackend.start [tinyPhone] pushesAndPair) duringPush w ∧
      w.task 1 = .done r ∧
      Pool.BeginsIn serve (quietBackend.start [tinyPhone] pushesAndPair) duringPush 1 w₁ ∧
      (tinyLink 1).token ∈ w₁.shared.connections ∧
      (log w 1).map Prod.snd = [.transferStarted "ring.mid" 3, .dataChunk .outbound 2,
        .transferProgress 2 3, .dataChunk .outbound 1, .transferProgress 3 3,
        .transferCompleted 3 ⟨4000000⟩] ∧
      w.task 2 = .done r' ∧ r' = .error (.notConnected tinyPhone.info.id) ∧
      Pool.BeginsIn serve (quietBackend.start [tinyPhone] pushesAndPair) duringPush 2 w₂ ∧
      (tinyLink 9).token ∉ w₂.shared.connections ∧ log w 2 = [] ∧
      log w 3 = attemptLog tinyPhone none ∧ tinyPhone.info.id ∈ w.shared.paired := by
  let p (w : Pool mockSteps MockState fun i => (pushesAndPair i).Result) : Bool :=
    decide ((∀ i, (w.task i).value?.isSome) ∧
      (log w 1).map Prod.snd = [.transferStarted "ring.mid" 3, .dataChunk .outbound 2,
        .transferProgress 2 3, .dataChunk .outbound 1, .transferProgress 3 3,
        .transferCompleted 3 ⟨4000000⟩] ∧
      log w 2 = [] ∧ log w 3 = attemptLog tinyPhone none ∧ ∃ event ∈ w.shared.observed,
        event.kind = .pairingCompleted ∧ event.origin.peer = tinyPhone.info.id)
  have hcomputed : ((system pushesAndPair).exec (quietBackend.start [tinyPhone] pushesAndPair)
      duringPush).any p = true := by decide +kernel
  obtain ⟨w, hrun, hp⟩ := Lts.exists_run_of_any hcomputed
  obtain ⟨hall, hfirst, hsecond, hpair, hevent⟩ := of_decide_eq_true hp
  have hdone (i : Fin 4) : ∃ r, w.task i = .done r := by
    obtain ⟨r, hr⟩ := Option.isSome_iff_exists.mp (hall i)
    exact ⟨r, Program.value?_eq_some.mp hr⟩
  obtain ⟨hreturned, -, hpaired⟩ := well_bracketed hrun
  obtain ⟨r, hr⟩ := hdone 1
  obtain ⟨r', hr'⟩ := hdone 2
  obtain ⟨w₁, hbegins, hsession⟩ := hreturned 1 r hr
  obtain ⟨w₂, hbegins', hsession'⟩ := hreturned 2 r' hr'
  have hlive : (tinyLink 1).token ∈ w₁.shared.connections := by
    -- a log that is not empty is that of a push on a live link
    obtain ⟨-, hnil, -⟩ | ⟨hlive, -⟩ | ⟨hlive, -⟩ := hsession
    · rw [hnil] at hfirst
      cases hfirst
    · exact hlive
    · exact hlive
  have hdead : (tinyLink 9).token ∉ w₂.shared.connections ∧
      r' = .error (.notConnected tinyPhone.info.id) := by
    -- the phone is known, so there is one reason for an empty log
    obtain ⟨hdead, -, hr⟩ | ⟨-, hunknown, -⟩ | ⟨-, -, sizes, closing, hlog, -⟩ := hsession'
    · exact ⟨hdead, hr⟩
    · exact absurd List.mem_cons_self hunknown
    · rw [hsecond] at hlog
      cases hlog
  refine ⟨w, w₁, w₂, r, r', hrun, hr, hbegins, hlive, hfirst, hr', hdead.2, hbegins', hdead.1,
    hsecond, hpair, ?_⟩
  exact (hpaired (fun i => .inr (hdone i)) _).mpr hevent

end MockBackend
end Pax
