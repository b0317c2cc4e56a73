import Pax.Transport.Android.ObexSession
import Pax.Transport.Backend

/-!
# The Android backend

`AndroidBackend` of `pax-transport/src/android.rs`, as far as the workflows call it. Everything
behind the JNI is the environment: what the calls of the platform come to, and, for each push, the
bytes the peer's socket delivers. The socket is taken to be a faithful pipe, so writing to it
succeeds; `Pax.Transport.Android.FaultyPush` is without this assumption.

The state keeps the events, and a log of the pushes: what passed over the wire in each. A push goes
as its bytes are judged (`pushFile_spec`, from `run_session` of
`Pax.Transport.Android.ObexSession`), and that is all that the workflows use of it.
-/

namespace Pax
namespace Android

open ObexOpp (IoError ObexError Pipe WireStep Judgement)
open Segments (ReadEvent delivered)

/-- The environment's side of one push: what opening the socket comes to, and what it delivers. -/
structure PushAttempt where
  openSocket : Except String Unit
  incoming : List (ReadEvent UInt8 IoError)

/-- What a backend was built with, and what the platform and the peers do. The `n`-th push of all
meets `attempt n`. -/
structure Environment where
  controller : ControllerModel
  spec : SpecContext
  resolve : DeviceId → StandardsProfile
  clock : ℕ → Timestamp
  remoteDevice : DeviceId → Except String Unit
  createBond : DeviceId → Except String Bool
  attempt : ℕ → PushAttempt

/-- The state of a backend and its surroundings; `ticks` counts the readings of the clock. -/
structure State where
  seq : UInt64
  ticks : ℕ
  events : List TransitEvent
  pushes : List (List WireStep)

section Backend

variable (env : Environment)

/-- The error of a JNI call. -/
def jerr (e : String) : TransportError := .backend ("jni: " ++ e)

/-- Send an event to the observer. -/
def State.emit (peer : DeviceId) (kind : TransitEventKind) (s : State) : State :=
  { s with
    seq := s.seq + 1
    ticks := s.ticks + 1
    events := s.events ++ [{
      seq := s.seq
      at' := env.clock s.ticks
      origin := { local' := env.controller, peer, spec := env.spec, standards := env.resolve peer }
      kind }] }

/-- Pairing on Android is the platform's; the agent is not asked. -/
def pair (target : DeviceId) (_agent : PairingAgent) :
    EStateM TransportError State PairingOutcome := fun s =>
  let s := s.emit env target (.pairingStarted .justWorks)
  match env.remoteDevice target with
  | .error e => .error (jerr e) s
  | .ok () =>
    match env.createBond target with
    | .error e => .error (jerr e) s
    -- `createBond` only starts the bonding; its answer is taken for the outcome
    | .ok true => .ok (.ofBond .justWorks) (s.emit env target .pairingCompleted)
    | .ok false =>
      let reason := "createBond() returned false"
      .error (.pairingFailed reason) (s.emit env target (.pairingFailed reason))

/-- Connecting only looks the device up; each push opens a socket of its own. -/
def connect (target : DeviceId) : EStateM TransportError State Connection := fun s =>
  match env.remoteDevice target with
  | .error e => .error (jerr e) s
  | .ok () =>
    .ok { peer := target, local' := env.controller, spec := env.spec,
          standards := env.resolve target, token := 0 }
      (s.emit env target .connected)

def disconnect (conn : Connection) : EStateM TransportError State Unit := fun s =>
  .ok () (s.emit env conn.peer (.disconnected none))

/-! ### A push -/

/-- The progress closure's captures: the count reported last, and the chunks so far. -/
structure Progress where
  prev : UInt64
  chunks : UInt64

/-- The progress closure: a chunk is reported if the count went up. -/
def onProgress (peer : DeviceId) (file : OutboundFile) (acc : Progress × State) (sent : ℕ) :
    Progress × State :=
  let (progress, s) := acc
  let sent := UInt64.ofNat sent
  let delta := if progress.prev ≤ sent then sent - progress.prev else 0
  if 0 < delta then
    ({ prev := sent, chunks := progress.chunks + 1 },
      (s.emit env peer (.dataChunk .outbound delta)).emit env peer
        (.transferProgress sent file.len))
  else ({ progress with prev := sent }, s)

/-- What an error of the OBEX exchange is reported as. -/
def pushError (prev : UInt64) : ObexError → TransportError
  | .rejected _ code => .transferFailed prev ("OBEX rejected (0x" ++ hex2 code ++ ")")
  | other => .backend ("obex: " ++ other.display)

/-- Run the OBEX push over a socket of its own, and close it. The number of chunks reported. -/
def runPush (peer : DeviceId) (file : OutboundFile) :
    EStateM TransportError State UInt64 := fun s =>
  let attempt := env.attempt s.pushes.length
  match attempt.openSocket with
  | .error e => .error (jerr e) { s with pushes := s.pushes ++ [[]] }
  | .ok () =>
    -- nothing is written to the log of events while the session runs but its progress
    let result := (ObexOpp.session file.name file.bytes).run (Pipe.start attempt.incoming [])
    let (result, pipe) := Outcome.split result
    let (progress, s) :=
      pipe.progress.foldl (onProgress env peer file) ({ prev := 0, chunks := 0 }, s)
    let s := { s with pushes := s.pushes ++ [pipe.wire] }
    match result with
    | .ok () => .ok progress.chunks s
    | .error e => .error (pushError progress.prev e) s

/-- The receipt of a completed push. It counts the payload, and one chunk at least. -/
def receipt (file : OutboundFile) (chunks : UInt64) (duration : Duration) : TransferReceipt :=
  { objectName := file.name, bytes := file.len, chunks := max chunks 1, duration }

/-- Push one object, as a session over a socket of its own. -/
def pushFile (conn : Connection) (file : OutboundFile) :
    EStateM TransportError State TransferReceipt := fun s =>
  let total := file.len
  let start := env.clock s.ticks
  let s := { s with ticks := s.ticks + 1 }
  let s := s.emit env conn.peer (.transferStarted file.name total)
  match (runPush env conn.peer file).run s with
  | .ok chunks s =>
    -- a second reading of the clock
    let duration := (env.clock s.ticks).saturatingSince start
    let s := { s with ticks := s.ticks + 1 }
    .ok (receipt file chunks duration) (s.emit env conn.peer (.transferCompleted total duration))
  | .error e s => .error e (s.emit env conn.peer (.error e.display))

/-- The Android backend. Its trait has no address to set: that is the default, an error. -/
def backend : BluetoothBackend State where
  capabilities := { kind := .android, maxConcurrentPairings := 1, canSpoofAddress := false }
  setLocalAddress _ := throw (.unsupported "" "set_local_address")
  pair := pair env
  connect := connect env
  disconnect := disconnect env
  pushFile := pushFile env

end Backend

theorem run_connect_error {env : Environment} {target : DeviceId} {e : String}
    (h : env.remoteDevice target = .error e) (s : State) :
    (connect env target).run s = .error (jerr e) s := by
  unfold connect EStateM.run
  rw [h]

theorem run_connect_ok {env : Environment} {target : DeviceId} {u : Unit}
    (h : env.remoteDevice target = .ok u) (s : State) :
    ∃ conn, (connect env target).run s = .ok conn (s.emit env target .connected) := by
  unfold connect EStateM.run
  rw [h]
  exact ⟨_, rfl⟩

/-! ### What a push comes to -/

/-- What an attempt comes to for a file, by the peer's bytes alone. -/
def PushAttempt.judge (attempt : PushAttempt) (file : OutboundFile) : Judgement :=
  match attempt.openSocket with
  | .error _ => .broken
  | .ok () =>
    ObexOpp.judge file.name file.bytes (delivered IoError.unexpectedEof attempt.incoming).1

/-- Reporting progress does not touch the log. -/
theorem pushes_foldl_onProgress (env : Environment) (peer : DeviceId) (file : OutboundFile)
    (counts : List ℕ) (acc : Progress × State) :
    (counts.foldl (onProgress env peer file) acc).2.pushes = acc.2.pushes := by
  induction counts generalizing acc with
  | nil => rfl
  | cons count counts ih =>
    rw [List.foldl_cons, ih]
    obtain ⟨progress, s⟩ := acc
    simp only [onProgress]
    split_ifs <;> rfl

/-- Only a response with another code is reported as `TransferFailed`. -/
theorem pushError_other (prev : UInt64) {e : ObexError}
    (h : ∀ stage code, e ≠ .rejected stage code) :
    pushError prev e = .backend ("obex: " ++ e.display) := by
  cases e with
  | rejected stage code => exact absurd rfl (h stage code)
  | io e => rfl
  | malformed what => rfl

/-- What a push with the result `r` that sent `wire` is, against an attempt judged so. -/
def Pushed {α : Type} (judgement : Judgement) (wire : List WireStep) (r : Except TransportError α) :
    Prop :=
  match judgement with
  | .accepted tail => ObexOpp.acceptances wire = 1 ∧
      ((ObexOpp.Acknowledged tail ∧ ∃ a, r = .ok a) ∨
        (¬ ObexOpp.Acknowledged tail ∧ ∃ e, r = .error e))
  | .refused => ObexOpp.acceptances wire = 0 ∧
      ∃ transferred reason, r = .error (.transferFailed transferred reason)
  | .broken => ObexOpp.acceptances wire = 0 ∧ ∃ detail, r = .error (.backend detail)

/-- Whether a push went so is seen from its error alone, so that the value may be mapped. -/
theorem Pushed.map {α β : Type} {judgement : Judgement} {wire : List WireStep}
    {r : Except TransportError α} (h : Pushed judgement wire r) (f : α → β) :
    Pushed judgement wire (r.map f) := by
  -- By the judgement; only an accepted object may come with a value.
  cases judgement with
  | refused =>
    obtain ⟨hzero, transferred, reason, rfl⟩ := h
    exact ⟨hzero, transferred, reason, rfl⟩
  | broken =>
    obtain ⟨hzero, detail, rfl⟩ := h
    exact ⟨hzero, detail, rfl⟩
  | accepted tail =>
    obtain ⟨hone, ⟨hack, a, rfl⟩ | ⟨hack, e, rfl⟩⟩ := h
    · -- the value changes, the acceptance on the wire does not
      exact ⟨hone, .inl ⟨hack, f a, rfl⟩⟩
    · exact ⟨hone, .inr ⟨hack, e, rfl⟩⟩

/-- A push whose socket opens is a session; its result and its wire are the session's. -/
theorem run_runPush (env : Environment) (peer : DeviceId) (file : OutboundFile) (s : State)
    (hopen : (env.attempt s.pushes.length).openSocket = .ok ()) :
    ∃ (progress : Progress) (s' : State), Outcome.split ((runPush env peer file).run s)
        = (match (Outcome.split ((ObexOpp.session file.name file.bytes).run
              (Pipe.start (env.attempt s.pushes.length).incoming []))).1 with
            | .ok () => .ok progress.chunks
            | .error e => .error (pushError progress.prev e), s') ∧
      s'.pushes = s.pushes ++ [(Outcome.split ((ObexOpp.session file.name file.bytes).run
        (Pipe.start (env.attempt s.pushes.length).incoming []))).2.wire] := by
  unfold runPush EStateM.run
  simp only [hopen]
  -- only the session's result and its pipe matter from here on
  rcases Outcome.split (ObexOpp.session file.name file.bytes
    (Pipe.start (env.attempt s.pushes.length).incoming [])) with ⟨result, pipe⟩
  have hkept := pushes_foldl_onProgress env peer file pipe.progress ({ prev := 0, chunks := 0 }, s)
  generalize pipe.progress.foldl (onProgress env peer file) ({ prev := 0, chunks := 0 }, s) = acc
    at *
  obtain ⟨progress, s₁⟩ := acc
  change s₁.pushes = s.pushes at hkept
  refine ⟨progress, { s₁ with pushes := s₁.pushes ++ [pipe.wire] }, ?_, by rw [hkept]⟩
  cases result <;> rfl

theorem runPush_spec (env : Environment) (peer : DeviceId) (file : OutboundFile) (s : State) :
    ∃ r s' wire, Outcome.split ((runPush env peer file).run s) = (r, s') ∧
      s'.pushes = s.pushes ++ [wire] ∧
      Pushed ((env.attempt s.pushes.length).judge file) wire r := by
  cases hopen : (env.attempt s.pushes.length).openSocket with
  | error e =>
    -- without a socket nothing passes over the wire
    refine ⟨.error (jerr e), { s with pushes := s.pushes ++ [[]] }, [], ?_, rfl, ?_⟩
    · unfold runPush EStateM.run
      simp only [hopen]
      rfl
    · rw [PushAttempt.judge, hopen]
      exact ⟨rfl, _, rfl⟩
  | ok u =>
    obtain ⟨progress, s', hrun, hpushes⟩ := run_runPush env peer file s hopen
    refine ⟨_, s', _, hrun, hpushes, ?_⟩
    have hsession := ObexOpp.run_session file.name file.bytes (env.attempt s.pushes.length).incoming
    rw [PushAttempt.judge, hopen]
    dsimp only
    cases hjudge : ObexOpp.judge file.name file.bytes
        (delivered IoError.unexpectedEof (env.attempt s.pushes.length).incoming).1 with
    | refused =>
      rw [hjudge] at hsession
      obtain ⟨e, q, hrun, ⟨stage, code, rfl⟩, hzero⟩ := hsession
      rw [hrun]
      exact ⟨hzero, _, _, rfl⟩
    | broken =>
      rw [hjudge] at hsession
      obtain ⟨e, q, hrun, hne, hzero⟩ := hsession
      rw [hrun]
      exact ⟨hzero, _, congrArg _ (pushError_other progress.prev hne)⟩
    | accepted tail =>
      rw [hjudge] at hsession
      -- the object is accepted either way; the answer to DISCONNECT decides the result
      obtain ⟨q, hone, ⟨hack, hrun⟩ | ⟨hack, e, hrun⟩⟩ := hsession
      · rw [hrun]
        exact ⟨hone, .inl ⟨hack, _, rfl⟩⟩
      · rw [hrun]
        exact ⟨hone, .inr ⟨hack, _, rfl⟩⟩

/-- **One push goes as judged** by the bytes of its peer: it is logged with what passed over the
wire, and its result says whether the object was accepted, refused, or neither. -/
theorem pushFile_spec (env : Environment) (conn : Connection) (file : OutboundFile) (s : State) :
    ∃ r s' wire, Outcome.split ((pushFile env conn file).run s) = (r, s') ∧
      s'.pushes = s.pushes ++ [wire] ∧
      Pushed ((env.attempt s.pushes.length).judge file) wire r := by
  set s₁ := State.emit env conn.peer (.transferStarted file.name file.len)
    { s with ticks := s.ticks + 1 } with hs₁
  obtain ⟨r, s', wire, hrun, hpushes, hpushed⟩ := runPush_spec env conn.peer file s₁
  have hfile : (pushFile env conn file).run s = match (runPush env conn.peer file).run s₁ with
      | .ok chunks s₂ =>
        let duration := (env.clock s₂.ticks).saturatingSince (env.clock s.ticks)
        .ok (receipt file chunks duration) (State.emit env conn.peer
          (.transferCompleted file.len duration) { s₂ with ticks := s₂.ticks + 1 })
      | .error e s₂ => .error e (s₂.emit env conn.peer (.error e.display)) := rfl
  rw [hfile]
  -- The event that ends the push changes neither its wire nor its result.
  cases h : (runPush env conn.peer file).run s₁ with
  | ok chunks s₂ =>
    rw [h] at hrun
    obtain ⟨rfl, rfl⟩ := Prod.ext_iff.mp hrun
    let duration := (env.clock s₂.ticks).saturatingSince (env.clock s.ticks)
    exact ⟨.ok (receipt file chunks duration), _, wire, rfl, hpushes,
      hpushed.map fun chunks => receipt file chunks duration⟩
  | error e s₂ =>
    rw [h] at hrun
    obtain ⟨rfl, rfl⟩ := Prod.ext_iff.mp hrun
    exact ⟨.error e, _, wire, rfl, hpushes, hpushed.map fun chunks => receipt file chunks .zero⟩

end Android
end Pax
