import Pax.Framework.Increases
import Pax.Transport.Android.ObexCourse
import Pax.Transport.Android.Push
import Pax.Transport.ChunkSizes

/-!
# Pushes over a socket that may fail

`push_file` as in `Pax.Transport.Android.Push`, where writing to the socket may fail as well:
`writes n` are the outcomes of the writes in the `n`-th push of all. With a list of successes this
is the backend of that module.

What a push reports as data chunks are the increases of the counts that `put_file` reports
(`run_runPushOver`), also when it fails in between. How many counts these are is decided by the
peer's bytes and the outcomes of the writes, in `Pax.Transport.Android.ObexCourse`.
-/

namespace Pax
namespace Android

open ObexOpp (IoError ObexError Pipe)
open Increases (increases)

section

variable (env : Environment) (writes : ℕ → List (Option IoError))

/-- The same as `runPush`, over a socket with these outcomes of the writes. -/
def runPushOver (peer : DeviceId) (file : OutboundFile) :
    EStateM TransportError State UInt64 := fun s =>
  let attempt := env.attempt s.pushes.length
  match attempt.openSocket with
  | .error e => .error (jerr e) { s with pushes := s.pushes ++ [[]] }
  | .ok () =>
    let pipe := Pipe.start attempt.incoming (writes s.pushes.length)
    let (result, pipe) := Outcome.split ((ObexOpp.session file.name file.bytes).run pipe)
    -- `put_file` calls back while it sends; nothing else touches the state meanwhile
    let (progress, s) :=
      pipe.progress.foldl (onProgress env peer file) ({ prev := 0, chunks := 0 }, s)
    let s := { s with pushes := s.pushes ++ [pipe.wire] }
    match result with
    | .ok () => .ok progress.chunks s
    | .error e => .error (pushError progress.prev e) s

/-- `push_file`, over a socket whose writes fail as they are given. -/
def pushFileOver (conn : Connection) (file : OutboundFile) :
    EStateM TransportError State TransferReceipt := fun s =>
  let total := file.len
  let start := env.clock s.ticks
  let s := { s with ticks := s.ticks + 1 }
  let s := s.emit env conn.peer (.transferStarted file.name total)
  match (runPushOver env writes conn.peer file).run s with
  | .ok chunks s =>
    let duration := (env.clock s.ticks).saturatingSince start
    let s := { s with ticks := s.ticks + 1 }
    .ok (receipt file chunks duration) (s.emit env conn.peer (.transferCompleted total duration))
  | .error e s => .error e (s.emit env conn.peer (.error e.display))

/-- The backend with such sockets, and everything else as before. -/
def backendOver : BluetoothBackend State :=
  { backend env with pushFile := pushFileOver env writes }

end

variable {env : Environment} {writes : ℕ → List (Option IoError)} {conn : Connection}
  {file : OutboundFile} {peer : DeviceId}

theorem carries_emit (env : Environment) (peer : DeviceId) (kind : TransitEventKind) (s : State) :
    Carries s.events (s.emit env peer kind).events kind.chunkSize.toList
      kind.completedSize.toList :=
  Carries.one s.events _

/-- One count of `put_file`: its increase is reported as a chunk, if there is one. -/
theorem run_onProgress (env : Environment) (peer : DeviceId) (file : OutboundFile) {n : ℕ}
    (hn : n < 2 ^ 64) (acc : Progress × State) :
    (onProgress env peer file acc n).1.prev.toNat = n ∧
      (onProgress env peer file acc n).2.pushes = acc.2.pushes ∧
      ((acc.1.prev.toNat < n ∧
          (onProgress env peer file acc n).1.chunks = acc.1.chunks + 1 ∧
          Carries acc.2.events (onProgress env peer file acc n).2.events
            [n - acc.1.prev.toNat] []) ∨
        (n ≤ acc.1.prev.toNat ∧ (onProgress env peer file acc n).1.chunks = acc.1.chunks ∧
          (onProgress env peer file acc n).2 = acc.2)) := by
  obtain ⟨progress, s⟩ := acc
  have hsent : (UInt64.ofNat n).toNat = n := UInt64.toNat_ofNat_of_lt' hn
  have hdelta := toNat_saturatingSub progress.prev (.ofNat n)
  have hpos := saturatingSub_pos_iff progress.prev (.ofNat n)
  unfold onProgress
  dsimp only
  -- the saturating difference is what is compared with zero, and what is reported
  generalize (if progress.prev ≤ UInt64.ofNat n then UInt64.ofNat n - progress.prev else 0)
    = delta at hdelta hpos ⊢
  rw [hsent] at hdelta hpos
  split
  · next hlt =>
    refine ⟨hsent, rfl, .inl ⟨hpos.mp hlt, rfl, ?_⟩⟩
    rw [← hdelta]
    exact (carries_emit env peer (.dataChunk .outbound delta) s).trans
      (carries_emit env peer (.transferProgress _ _) _)
  · next hnot => exact ⟨hsent, rfl, .inr ⟨Nat.not_lt.mp fun hlt => hnot (hpos.mpr hlt), rfl, rfl⟩⟩

/-- **All counts of a push**: each increase is reported as a chunk, and nothing else. -/
theorem foldl_onProgress (env : Environment) (peer : DeviceId) (file : OutboundFile)
    {counts : List ℕ} (hfits : ∀ n ∈ counts, n < 2 ^ 64) (acc : Progress × State) :
    (counts.foldl (onProgress env peer file) acc).1.prev.toNat
        = counts.getLastD acc.1.prev.toNat ∧
      (counts.foldl (onProgress env peer file) acc).1.chunks
        = acc.1.chunks + UInt64.ofNat (increases acc.1.prev.toNat counts).length ∧
      Carries acc.2.events (counts.foldl (onProgress env peer file) acc).2.events
        (increases acc.1.prev.toNat counts) [] := by
  -- On the counts, from any count that was reported before them.
  induction counts generalizing acc with
  | nil => exact ⟨rfl, (UInt64.add_zero _).symm, .refl _⟩
  | cons n counts ih =>
    obtain ⟨hn, hrest⟩ := List.forall_mem_cons.mp hfits
    obtain ⟨hprev, -, hstep⟩ := run_onProgress env peer file hn acc
    obtain ⟨hlast, hchunks, hcarries⟩ := ih hrest (onProgress env peer file acc n)
    rw [hprev] at hlast hchunks hcarries
    rw [List.foldl_cons, List.getLastD_cons]
    -- a count that rises adds a chunk, one that does not adds none
    obtain ⟨hlt, hone, hcarried⟩ | ⟨hle, hnone, hsame⟩ := hstep
    · rw [Increases.increases_of_lt hlt]
      refine ⟨hlast, ?_, hcarried.trans hcarries⟩
      rw [hchunks, hone, List.length_cons, UInt64.add_assoc, Nat.add_comm, UInt64.ofNat_add]
      rfl
    · rw [Increases.increases_of_le hle]
      rw [hsame] at hcarries
      exact ⟨hlast, by rw [hchunks, hnone], hcarries⟩

/-! ### A push -/

section

variable {s : State} {result : Except ObexError Unit} {pipe : Pipe}

/-- A push whose socket opens is a session; it passes on what the session reports. -/
theorem run_runPushOver (peer : DeviceId)
    (hopen : (env.attempt s.pushes.length).openSocket = .ok ())
    (hsession : Outcome.split ((ObexOpp.session file.name file.bytes).run
      (.start (env.attempt s.pushes.length).incoming (writes s.pushes.length))) = (result, pipe))
    (hfits : ∀ n ∈ pipe.progress, n < 2 ^ 64) :
    ∃ (progress : Progress) (s' : State),
      Outcome.split ((runPushOver env writes peer file).run s)
        = (match result with
            | .ok () => .ok progress.chunks
            | .error e => .error (pushError progress.prev e), s') ∧
      progress.prev.toNat = pipe.progress.getLastD 0 ∧
      progress.chunks = UInt64.ofNat (increases 0 pipe.progress).length ∧
      Carries s.events s'.events (increases 0 pipe.progress) [] := by
  obtain ⟨hprev, hchunks, hcarries⟩ := foldl_onProgress env peer file hfits
    ({ prev := 0, chunks := 0 }, s)
  unfold runPushOver EStateM.run
  unfold EStateM.run at hsession
  simp only [hopen, hsession]
  generalize pipe.progress.foldl (onProgress env peer file) ({ prev := 0, chunks := 0 }, s) = acc
    at *
  obtain ⟨progress, s₁⟩ := acc
  -- What the session comes to, and its wire, do not depend on what was reported.
  refine ⟨progress, { s₁ with pushes := s₁.pushes ++ [pipe.wire] }, ?_, hprev, ?_, hcarries⟩
  · cases result <;> rfl
  · rw [hchunks]
    exact UInt64.zero_add _

/-- If the socket cannot be opened, nothing is reported beyond the start. -/
theorem run_runPushOver_error (writes : ℕ → List (Option IoError)) (peer : DeviceId)
    (file : OutboundFile) {e : String}
    (hopen : (env.attempt s.pushes.length).openSocket = .error e) :
    (runPushOver env writes peer file).run s
      = .error (jerr e) { s with pushes := s.pushes ++ [[]] } := by
  unfold runPushOver EStateM.run
  simp only [hopen]

/-- Each push is logged, however it ends: there is one more wire than before. -/
theorem length_pushes_runPushOver (env : Environment) (writes : ℕ → List (Option IoError))
    (peer : DeviceId) (file : OutboundFile) (s : State) :
    (Outcome.split ((runPushOver env writes peer file).run s)).2.pushes.length
      = s.pushes.length + 1 := by
  -- Every push adds its wire, also one whose socket does not open.
  cases hopen : (env.attempt s.pushes.length).openSocket with
  | error e =>
    rw [run_runPushOver_error writes peer file hopen]
    exact List.length_append
  | ok u =>
    unfold runPushOver EStateM.run
    simp only [hopen]
    rcases Outcome.split (ObexOpp.session file.name file.bytes (Pipe.start
      (env.attempt s.pushes.length).incoming (writes s.pushes.length))) with ⟨result, pipe⟩
    have hkept := pushes_foldl_onProgress env peer file pipe.progress
      ({ prev := 0, chunks := 0 }, s)
    have hlength : ((pipe.progress.foldl (onProgress env peer file)
        ({ prev := 0, chunks := 0 }, s)).2.pushes ++ [pipe.wire]).length
          = s.pushes.length + 1 := by
      rw [hkept, List.length_append, List.length_singleton]
    cases result with
    | ok u => exact hlength
    | error e => exact hlength

/-- Around `run_push` a push only reports its start and its end. -/
theorem run_pushFileOver (env : Environment) (writes : ℕ → List (Option IoError))
    (conn : Connection) (file : OutboundFile) (s : State) :
    ∃ s₁, s₁.pushes = s.pushes ∧ Carries s.events s₁.events [] [] ∧
      ∀ r s₂, Outcome.split ((runPushOver env writes conn.peer file).run s₁) = (r, s₂) →
        ∃ s' duration, s'.pushes = s₂.pushes ∧
          Outcome.split ((pushFileOver env writes conn file).run s)
            = (r.map fun chunks => receipt file chunks duration, s') ∧
          Carries s₂.events s'.events [] (if r.isOk then [file.len.toNat] else []) := by
  refine ⟨State.emit env conn.peer (.transferStarted file.name file.len)
    { s with ticks := s.ticks + 1 }, rfl,
    carries_emit env conn.peer (.transferStarted file.name file.len)
      { s with ticks := s.ticks + 1 }, fun r s₂ hrun => ?_⟩
  unfold pushFileOver EStateM.run
  dsimp only
  -- The push is followed by one event: that it was completed, or an error.
  cases hpush : runPushOver env writes conn.peer file (State.emit env conn.peer
      (.transferStarted file.name file.len) { s with ticks := s.ticks + 1 }) with
  | ok chunks s₃ =>
    unfold EStateM.run at hrun
    rw [hpush] at hrun
    cases hrun
    refine ⟨_, _, ?_, rfl, carries_emit env conn.peer (.transferCompleted file.len _) _⟩
    rfl
  | error e s₃ =>
    unfold EStateM.run at hrun
    rw [hpush] at hrun
    cases hrun
    refine ⟨_, .zero, ?_, rfl, carries_emit env conn.peer (.error e.display) s₂⟩
    rfl

theorem length_pushes_pushFileOver (env : Environment) (writes : ℕ → List (Option IoError))
    (conn : Connection) (file : OutboundFile) (s : State) :
    (Outcome.split ((pushFileOver env writes conn file).run s)).2.pushes.length
      = s.pushes.length + 1 := by
  obtain ⟨s₁, hpushes, -, hpush⟩ := run_pushFileOver env writes conn file s
  have hlength := length_pushes_runPushOver env writes conn.peer file s₁
  rcases hrun : Outcome.split ((runPushOver env writes conn.peer file).run s₁) with ⟨r, s₂⟩
  obtain ⟨s', duration, hpushes', hfile, -⟩ := hpush r s₂ hrun
  rw [hrun, hpushes] at hlength
  rw [hfile]
  exact (congrArg List.length hpushes').trans hlength

/-- **A push is its session**: it passes on what the session reports, and its result. -/
theorem run_pushFileOver_session (conn : Connection)
    (hopen : (env.attempt s.pushes.length).openSocket = .ok ())
    (hsession : Outcome.split ((ObexOpp.session file.name file.bytes).run
      (.start (env.attempt s.pushes.length).incoming (writes s.pushes.length))) = (result, pipe))
    (hfits : ∀ n ∈ pipe.progress, n < 2 ^ 64) :
    ∃ s' duration, Outcome.split ((pushFileOver env writes conn file).run s)
        = (match result with
            | .ok () =>
              .ok (receipt file (.ofNat (increases 0 pipe.progress).length) duration)
            | .error e => .error (pushError (.ofNat (pipe.progress.getLastD 0)) e), s') ∧
      Carries s.events s'.events (increases 0 pipe.progress)
        (if result.isOk then [file.len.toNat] else []) := by
  obtain ⟨s₁, hpushes, hstarted, hpush⟩ := run_pushFileOver env writes conn file s
  rw [← hpushes] at hopen hsession
  obtain ⟨progress, s₂, hrun, hprev, hchunks, hcarries⟩ :=
    run_runPushOver conn.peer hopen hsession hfits
  obtain ⟨s', duration, -, hfile, hended⟩ := hpush _ s₂ hrun
  have hlast : progress.prev = UInt64.ofNat (pipe.progress.getLastD 0) := by
    rw [← hprev, UInt64.ofNat_toNat]
  refine ⟨s', duration, ?_, ?_⟩
  · rw [hfile]
    cases result with
    | ok u => simp only [Except.map, hchunks]
    | error e => simp only [Except.map, hlast]
  -- The log has the start, the chunks of the session, and the end.
  · have hall := (hstarted.trans hcarries).trans hended
    rw [List.nil_append, List.append_nil, List.nil_append, List.nil_append] at hall
    cases result with
    | ok u => exact hall
    | error e => exact hall

/-- Without a socket a push fails, and reports nothing. -/
theorem run_pushFileOver_error (writes : ℕ → List (Option IoError)) (conn : Connection)
    (file : OutboundFile) {e : String}
    (hopen : (env.attempt s.pushes.length).openSocket = .error e) :
    ∃ s', (pushFileOver env writes conn file).run s = .error (jerr e) s' ∧
      Carries s.events s'.events [] [] := by
  obtain ⟨s₁, hpushes, hstarted, hpush⟩ := run_pushFileOver env writes conn file s
  rw [← hpushes] at hopen
  have hrun := congrArg Outcome.split
    (run_runPushOver_error writes conn.peer file hopen)
  obtain ⟨s', duration, -, hfile, hended⟩ := hpush _ _ hrun
  exact ⟨s', Outcome.eq_error_of_split hfile, hstarted.trans hended⟩

/-- What `put_file` has reported never goes down, is never more than the object, and is all of it
if the session succeeded. -/
theorem counts_of_session (env : Environment) (writes : ℕ → List (Option IoError))
    (file : OutboundFile) (n : ℕ) :
    ∃ result pipe, Outcome.split ((ObexOpp.session file.name file.bytes).run
        (.start (env.attempt n).incoming (writes n))) = (result, pipe) ∧
      (0 :: pipe.progress).Pairwise (· ≤ ·) ∧ (∀ c ∈ pipe.progress, c ≤ file.bytes.length) ∧
      (result = .ok () → pipe.progress.getLastD 0 = file.bytes.length) := by
  obtain ⟨result, pipe, hrun, hcourse⟩ := ObexOpp.run_session_course file.name file.bytes
    (env.attempt n).incoming (writes n)
  refine ⟨result, pipe, hrun, ?_⟩
  -- Without an answer to CONNECT there are no counts at all.
  cases hconnected : ObexOpp.connected (writes n)
      (Segments.delivered IoError.unexpectedEof (env.attempt n).incoming).1 with
  | none =>
    rw [hconnected] at hcourse
    obtain ⟨hprogress, e, rfl⟩ := hcourse
    rw [hprogress]
    exact ⟨List.pairwise_singleton _ _, nofun, nofun⟩
  | some accepted =>
    obtain ⟨client, faults, rest⟩ := accepted
    rw [hconnected] at hcourse
    obtain ⟨hprogress, hcomes⟩ := hcourse
    obtain ⟨hsorted, hle⟩ := ObexOpp.counts_of_first
      (ObexOpp.course_fst_isFirst (client.putRounds file.name file.bytes) faults rest)
    rw [hprogress]
    refine ⟨hsorted, hle, ?_⟩
    rintro rfl
    -- a session that succeeds has had its whole course
    have hfinished : (ObexOpp.course (client.putRounds file.name file.bytes) faults rest).2
        = .finished := by
      by_contra hnot
      exact hnot (ObexOpp.Ending.eq_finished (hcomes hnot))
    rw [ObexOpp.course_fst_of_finished hfinished, List.getLastD_eq_getLast?,
      ObexOpp.ObexOppClient.getLast?_sent]
    rfl

end

end Android
end Pax
