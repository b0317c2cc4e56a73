import Pax.Transport.Android.Push
import Pax.Transport.BlueZ.Push

/-!
# Sessions in the logs of the real backends

A pairing or a transfer leaves a session in the event log: it starts, and it is completed or it
fails. `sessions_closed_iff` says when the logs of an Android and a BlueZ backend are well
bracketed, over any sequence of `pair` and `push_file` calls and anything that the platform,
`bluetoothd`, `obexd` and the peers do in them. Each call meets an environment of its own.

BlueZ always closes what it has started. On Android, `pair` returns by `?` when a JNI call fails,
after `PairingStarted` and without `PairingFailed` (`pairing_left_open`); everything else is closed
there as well.

For each call there is one lemma about what it adds to the log (`Adds`), in marks: starts,
completes, fails. What that means for a log that was closed before is the same for all of them
(`closedLog_iff`, `failuresSaid_iff`), so that a sequence of calls is dealt with call by call.
-/

namespace Pax

/-! ### Sessions in a log -/

/-- What an event says about a session. -/
inductive Mark where
  | starts
  | completes
  | fails
  deriving DecidableEq, Repr

/-- What an event says about a pairing. -/
def pairingMark : TransitEventKind → Option Mark
  | .pairingStarted _ => some .starts
  | .pairingCompleted => some .completes
  | .pairingFailed _ => some .fails
  | _ => none

/-- What an event says about a transfer. -/
def transferMark : TransitEventKind → Option Mark
  | .transferStarted _ _ => some .starts
  | .transferCompleted _ _ => some .completes
  | .error _ => some .fails
  | _ => none

/-- What a log says about sessions of a kind, in order. -/
def marks (mark : TransitEventKind → Option Mark) (log : List TransitEvent) : List Mark :=
  log.filterMap fun event => mark event.kind

theorem marks_append (mark : TransitEventKind → Option Mark) (log log' : List TransitEvent) :
    marks mark (log ++ log') = marks mark log ++ marks mark log' := List.filterMap_append

/-- As many sessions have ended as have started: each of them was completed or has failed. -/
def Closed (ms : List Mark) : Prop := ms.count .starts = ms.count .completes + ms.count .fails

instance (ms : List Mark) : Decidable (Closed ms) := inferInstanceAs (Decidable (_ = _))

theorem closed_append_iff {ms ms' : List Mark} (h : Closed ms) :
    Closed (ms ++ ms') ↔ Closed ms' := by
  rw [Closed] at h
  rw [Closed, Closed, List.count_append, List.count_append, List.count_append]
  omega

/-- If a session has started, then one has failed: what the marks of a failing call say. -/
def SaysFailed (ms : List Mark) : Prop := .starts ∈ ms → .fails ∈ ms

instance (ms : List Mark) : Decidable (SaysFailed ms) := inferInstanceAs (Decidable (_ → _))

/-- In the log, all sessions have ended, pairings and transfers counted apart. -/
structure ClosedLog (log : List TransitEvent) : Prop where
  pairings : Closed (marks pairingMark log)
  transfers : Closed (marks transferMark log)

/-- Of a call that failed: the session that it has started, if any, has failed in the log. -/
def FailuresSaid (before after : List TransitEvent) : Prop :=
  ∃ new, after = before ++ new ∧ SaysFailed (marks pairingMark new) ∧
    SaysFailed (marks transferMark new)

/-- What a call adds to the log: the marks of pairings, and those of transfers. -/
def Adds (before after : List TransitEvent) (pairings transfers : List Mark) : Prop :=
  ∃ new, after = before ++ new ∧ marks pairingMark new = pairings ∧
    marks transferMark new = transfers

namespace Adds

variable {before between after : List TransitEvent} {ps ts ps' ts' : List Mark}

theorem refl (log : List TransitEvent) : Adds log log [] [] :=
  ⟨[], (List.append_nil log).symm, rfl, rfl⟩

theorem trans (h : Adds before between ps ts) (h' : Adds between after ps' ts') :
    Adds before after (ps ++ ps') (ts ++ ts') := by
  obtain ⟨new, rfl, rfl, rfl⟩ := h
  obtain ⟨new', rfl, rfl, rfl⟩ := h'
  exact ⟨new ++ new', List.append_assoc _ _ _, marks_append _ _ _, marks_append _ _ _⟩

/-- One event adds what it says about sessions. -/
theorem one (log : List TransitEvent) (event : TransitEvent) : Adds log (log ++ [event])
    (pairingMark event.kind).toList (transferMark event.kind).toList := by
  refine ⟨[event], rfl, ?_, ?_⟩
  · rw [marks, List.filterMap_cons, List.filterMap_nil]
    cases pairingMark event.kind <;> rfl
  · rw [marks, List.filterMap_cons, List.filterMap_nil]
    cases transferMark event.kind <;> rfl

theorem closedLog_iff (h : Adds before after ps ts) (hbefore : ClosedLog before) :
    ClosedLog after ↔ Closed ps ∧ Closed ts := by
  obtain ⟨new, rfl, rfl, rfl⟩ := h
  have hps : Closed (marks pairingMark (before ++ new)) ↔ Closed (marks pairingMark new) := by
    rw [marks_append]
    exact closed_append_iff hbefore.pairings
  have hts : Closed (marks transferMark (before ++ new)) ↔ Closed (marks transferMark new) := by
    rw [marks_append]
    exact closed_append_iff hbefore.transfers
  exact ⟨fun h => ⟨hps.mp h.pairings, hts.mp h.transfers⟩, fun h => ⟨hps.mpr h.1, hts.mpr h.2⟩⟩

theorem failuresSaid_iff (h : Adds before after ps ts) :
    FailuresSaid before after ↔ SaysFailed ps ∧ SaysFailed ts := by
  obtain ⟨new, rfl, rfl, rfl⟩ := h
  constructor
  · rintro ⟨new', hnew, hps, hts⟩
    obtain rfl := List.append_cancel_left hnew
    exact ⟨hps, hts⟩
  · exact fun h => ⟨new, rfl, h.1, h.2⟩

/-- Steps that add nothing, one after the other, add nothing. -/
theorem foldl {α β : Type*} {step : α → β → α} (log : α → List TransitEvent)
    (h : ∀ a b, Adds (log a) (log (step a b)) [] []) (bs : List β) (a : α) :
    Adds (log a) (log (bs.foldl step a)) [] [] := by
  induction bs generalizing a with
  | nil => exact refl _
  | cons b bs ih => exact (h a b).trans (ih (step a b))

end Adds

/-! ### Android -/

namespace Android

open ObexOpp (Pipe)

variable (env : Environment)

theorem adds_emit (peer : DeviceId) (kind : TransitEventKind) (s : State) :
    Adds s.events (s.emit env peer kind).events (pairingMark kind).toList
      (transferMark kind).toList :=
  Adds.one s.events _

/-- A JNI call of `pair` fails: attaching the thread or looking the device up, or `createBond`. -/
def JniFails (target : DeviceId) : Prop :=
  (∃ e, env.remoteDevice target = .error e) ∨ ∃ e, env.createBond target = .error e

/-- **`pair`** closes its session unless a JNI call fails, and then it leaves it open. -/
theorem adds_pair (target : DeviceId) (agent : PairingAgent) (s : State) :
    ∃ r s', Outcome.split ((pair env target agent).run s) = (r, s') ∧
      ((JniFails env target ∧ Adds s.events s'.events [.starts] [] ∧ ∃ e, r = .error e) ∨
        (¬ JniFails env target ∧
          ((Adds s.events s'.events [.starts, .completes] [] ∧ ∃ a, r = .ok a) ∨
            Adds s.events s'.events [.starts, .fails] [] ∧ ∃ e, r = .error e))) := by
  have hstarted := adds_emit env target (.pairingStarted .justWorks) s
  -- The two calls of the JVM come after the event that starts the session.
  cases hdevice : env.remoteDevice target with
  | error e =>
    refine ⟨.error (jerr e), s.emit env target (.pairingStarted .justWorks), ?_, ?_⟩
    · unfold pair EStateM.run
      simp only [hdevice]
      rfl
    -- `?` returns from behind `PairingStarted`, past the event that closes it
    · exact .inl ⟨.inl ⟨e, hdevice⟩, hstarted, _, rfl⟩
  | ok u =>
    cases hbond : env.createBond target with
    | error e =>
      refine ⟨.error (jerr e), s.emit env target (.pairingStarted .justWorks), ?_, ?_⟩
      · unfold pair EStateM.run
        simp only [hdevice, hbond]
        rfl
      · exact .inl ⟨.inr ⟨e, hbond⟩, hstarted, _, rfl⟩
    | ok bonded =>
      have hquiet : ¬ JniFails env target := by
        rintro (⟨e, he⟩ | ⟨e, he⟩)
        · rw [hdevice] at he
          cases he
        · rw [hbond] at he
          cases he
      cases bonded with
      | true =>
        refine ⟨.ok (.ofBond .justWorks), (s.emit env target (.pairingStarted .justWorks)).emit env
          target .pairingCompleted, ?_, .inr ⟨hquiet, .inl ⟨?_, _, rfl⟩⟩⟩
        · unfold pair EStateM.run
          simp only [hdevice, hbond]
          rfl
        · exact hstarted.trans (adds_emit env target .pairingCompleted _)
      | false =>
        -- a bond that is refused is reported, unlike a call that fails
        let reason := "createBond() returned false"
        refine ⟨.error (.pairingFailed reason),
          (s.emit env target (.pairingStarted .justWorks)).emit env target (.pairingFailed reason),
          ?_, .inr ⟨hquiet, .inr ⟨?_, _, rfl⟩⟩⟩
        · unfold pair EStateM.run
          simp only [hdevice, hbond]
          rfl
        · exact hstarted.trans (adds_emit env target (.pairingFailed reason) _)

/-- To report progress neither starts a session nor ends one. -/
theorem adds_onProgress (peer : DeviceId) (file : OutboundFile) (acc : Progress × State)
    (sent : ℕ) :
    Adds acc.2.events (onProgress env peer file acc sent).2.events [] [] := by
  obtain ⟨progress, s⟩ := acc
  unfold onProgress
  dsimp only
  generalize (if progress.prev ≤ UInt64.ofNat sent then UInt64.ofNat sent - progress.prev else 0)
    = delta
  split
  · exact (adds_emit env peer (.dataChunk .outbound delta) s).trans
      (adds_emit env peer (.transferProgress _ _) _)
  · exact .refl _

theorem adds_runPush (peer : DeviceId) (file : OutboundFile) (s : State) :
    Adds s.events (Outcome.split ((runPush env peer file).run s)).2.events [] [] := by
  unfold runPush EStateM.run
  dsimp only
  cases (env.attempt s.pushes.length).openSocket with
  | error e => exact .refl _
  | ok u =>
    dsimp only
    rcases Outcome.split (ObexOpp.session file.name file.bytes
      (Pipe.start (env.attempt s.pushes.length).incoming [])) with ⟨result, pipe⟩
    -- The reports of the session leave chunks and progress in the log, which open and close
    -- nothing.
    have hadds := Adds.foldl (fun acc : Progress × State => acc.2.events)
      (adds_onProgress env peer file) pipe.progress ({ prev := 0, chunks := 0 }, s)
    dsimp only at hadds ⊢
    generalize pipe.progress.foldl (onProgress env peer file) ({ prev := 0, chunks := 0 }, s) = acc
      at hadds ⊢
    obtain ⟨progress, s'⟩ := acc
    cases result with
    | ok u => exact hadds
    | error e => exact hadds

/-- **`push_file`** closes its session: a completion if it returns `Ok`, and a failure otherwise. -/
theorem adds_pushFile (conn : Connection) (file : OutboundFile) (s : State) :
    ∃ r s', Outcome.split ((pushFile env conn file).run s) = (r, s') ∧
      ((Adds s.events s'.events [] [.starts, .completes] ∧ ∃ a, r = .ok a) ∨
        Adds s.events s'.events [] [.starts, .fails] ∧ ∃ e, r = .error e) := by
  set started := State.emit env conn.peer (.transferStarted file.name file.len)
    { s with ticks := s.ticks + 1 } with hstarted
  -- The push is started, and what comes until it is over opens and closes nothing.
  have hpushed : Adds s.events (Outcome.split (runPush env conn.peer file started)).2.events
      [] [.starts] :=
    (adds_emit env conn.peer (.transferStarted file.name file.len)
      { s with ticks := s.ticks + 1 }).trans (adds_runPush env conn.peer file started)
  unfold pushFile EStateM.run
  dsimp only
  rw [← hstarted]
  cases hrun : runPush env conn.peer file started with
  | ok chunks s₁ =>
    rw [hrun] at hpushed
    refine ⟨_, _, rfl, .inl ⟨?_, _, rfl⟩⟩
    exact hpushed.trans (adds_emit env conn.peer (.transferCompleted file.len _) _)
  | error e s₁ =>
    rw [hrun] at hpushed
    refine ⟨_, _, rfl, .inr ⟨?_, _, rfl⟩⟩
    exact hpushed.trans (adds_emit env conn.peer (.error e.display) s₁)

end Android

/-! ### BlueZ -/

namespace BlueZ

variable (env : Environment)

theorem adds_emit (peer : DeviceId) (kind : TransitEventKind) (s : State) :
    Adds s.events (s.emit env peer kind).events (pairingMark kind).toList
      (transferMark kind).toList :=
  Adds.one s.events _

/-- **`pair`** starts no session before `Device::pair` is over, and closes the one it starts. -/
theorem adds_pair (target : DeviceId) (agent : PairingAgent) (s : State) :
    ∃ r s', Outcome.split ((pair env target agent).run s) = (r, s') ∧
      ((Adds s.events s'.events [] [] ∧ ∃ e, r = .error e) ∨
        (Adds s.events s'.events [.starts, .completes] [] ∧ ∃ a, r = .ok a) ∨
        Adds s.events s'.events [.starts, .fails] [] ∧ ∃ e, r = .error e) := by
  unfold pair EStateM.run
  dsimp only
  set attempt := env.attempt s.calls.length target.addr
  cases attempt.registerAgent with
  -- the events come after `Device::pair`, so what fails before it leaves none
  | error e => exact ⟨_, _, rfl, .inl ⟨.refl _, _, rfl⟩⟩
  | ok u =>
    cases attempt.device with
    | error e => exact ⟨_, _, rfl, .inl ⟨.refl _, _, rfl⟩⟩
    | ok u =>
      set dialogue := attempt.devicePair.run agent s.history none
      set method := dialogue.methodSeen.getD .justWorks
      have hstarted := adds_emit env target (.pairingStarted method) (s.log target dialogue.answers)
      cases hresult : dialogue.result with
      | ok u =>
        refine ⟨_, _, rfl, .inr (.inl ⟨?_, _, rfl⟩)⟩
        exact hstarted.trans (adds_emit env target .pairingCompleted _)
      | error reason =>
        refine ⟨_, _, rfl, .inr (.inr ⟨?_, _, rfl⟩)⟩
        exact hstarted.trans (adds_emit env target (.pairingFailed reason) _)

theorem adds_reportCount (call : PushCall) (acc : Progress × State) (transferred : UInt64) :
    Adds acc.2.events (reportCount env call acc transferred).2.events [] [] := by
  obtain ⟨progress, s⟩ := acc
  unfold reportCount onProgress
  dsimp only
  generalize (if progress.last ≤ transferred then transferred - progress.last else 0) = delta
  split
  · exact (adds_emit env call.conn.peer (.dataChunk .outbound delta) s).trans
      (adds_emit env call.conn.peer (.transferProgress _ _) _)
  · exact adds_emit env call.conn.peer (.transferProgress _ _) s

/-- **`push_file`** starts no session before the file is staged, and closes the one it starts. -/
theorem adds_pushFile (call : PushCall) (attempt : PushAttempt) (s : State) :
    ∃ r s', Outcome.split ((pushFile env call attempt).run s) = (r, s') ∧
      ((Adds s.events s'.events [] [] ∧ ∃ e, r = .error e) ∨
        (Adds s.events s'.events [] [.starts, .completes] ∧ ∃ a, r = .ok a) ∨
        Adds s.events s'.events [] [.starts, .fails] ∧ ∃ e, r = .error e) := by
  unfold pushFile EStateM.run
  dsimp only
  cases attempt.staged with
  | error e => exact ⟨_, _, rfl, .inl ⟨.refl _, _, rfl⟩⟩
  | ok u =>
    dsimp only
    have hpushed := (adds_emit env call.conn.peer (.transferStarted call.file.name call.file.len)
      s).trans (Adds.foldl (fun acc : Progress × State => acc.2.events) (adds_reportCount env call)
        attempt.counts ({ last := 0, chunks := 0 }, s.emit env call.conn.peer
          (.transferStarted call.file.name call.file.len)))
    generalize attempt.counts.foldl (reportCount env call) ({ last := 0, chunks := 0 },
      s.emit env call.conn.peer (.transferStarted call.file.name call.file.len)) = acc at hpushed ⊢
    obtain ⟨progress, s₁⟩ := acc
    cases attempt.result with
    | ok bytes =>
      refine ⟨_, _, rfl, .inr (.inl ⟨?_, _, rfl⟩)⟩
      exact hpushed.trans (adds_emit env call.conn.peer (.transferCompleted bytes _) s₁)
    | error e =>
      refine ⟨_, _, rfl, .inr (.inr ⟨?_, _, rfl⟩)⟩
      exact hpushed.trans (adds_emit env call.conn.peer (.error e.display) s₁)

end BlueZ

/-! ### Sequences of calls -/

/-- An Android and a BlueZ backend, each with a log of its own. -/
structure RealBackends where
  android : Android.State
  bluez : BlueZ.State

/-- The backends before any call. -/
def RealBackends.start (mgmt : Hci.MgmtState) : RealBackends where
  android := { seq := 0, ticks := 0, events := [], pushes := [] }
  bluez := { mgmt, seq := 0, events := [], history := [], calls := [] }

/-- A call, with the environment that it meets. The environment is what the platform, the daemons
and the peer will do in this call. -/
inductive RealCall where
  | androidPair (env : Android.Environment) (target : DeviceId) (agent : PairingAgent)
  | androidPush (env : Android.Environment) (conn : Connection) (file : OutboundFile)
  | bluezPair (env : BlueZ.Environment) (target : DeviceId) (agent : PairingAgent)
  | bluezPush (env : BlueZ.Environment) (call : BlueZ.PushCall) (attempt : BlueZ.PushAttempt)

/-- Whether a call returns `Ok`, and what it leaves. -/
def RealCall.run (s : RealBackends) : RealCall → Bool × RealBackends
  | .androidPair env target agent =>
    let (r, android) := Outcome.split ((Android.pair env target agent).run s.android)
    (r.isOk, { s with android })
  | .androidPush env conn file =>
    let (r, android) := Outcome.split ((Android.pushFile env conn file).run s.android)
    (r.isOk, { s with android })
  | .bluezPair env target agent =>
    let (r, bluez) := Outcome.split ((BlueZ.pair env target agent).run s.bluez)
    (r.isOk, { s with bluez })
  | .bluezPush env call attempt =>
    let (r, bluez) := Outcome.split ((BlueZ.pushFile env call attempt).run s.bluez)
    (r.isOk, { s with bluez })

/-- The call is a `pair` on Android in which a JNI call fails. -/
def RealCall.JniFails : RealCall → Prop
  | .androidPair env target _ => Android.JniFails env target
  | _ => False

/-- When a call has returned, the logs are closed, and if it failed it has said so. -/
structure Bracketed (before after : RealBackends) (ok : Bool) : Prop where
  android : ClosedLog after.android.events
  bluez : ClosedLog after.bluez.events
  failed : ok = false → FailuresSaid before.android.events after.android.events ∧
    FailuresSaid before.bluez.events after.bluez.events

/-- The logs are bracketed after each call of a sequence. -/
def AllBracketed (s : RealBackends) : List RealCall → Prop
  | [] => True
  | call :: calls =>
    Bracketed s (call.run s).2 (call.run s).1 ∧ AllBracketed (call.run s).2 calls

section

variable {s : RealBackends}

/-- A call on Android leaves the log of BlueZ alone. -/
theorem bracketed_android_iff {android : Android.State} {ok : Bool} {ps ts : List Mark}
    (hadds : Adds s.android.events android.events ps ts) (ha : ClosedLog s.android.events)
    (hb : ClosedLog s.bluez.events) : Bracketed s { s with android } ok ↔
      (Closed ps ∧ Closed ts) ∧ (ok = false → SaysFailed ps ∧ SaysFailed ts) := by
  have hnone : FailuresSaid s.bluez.events s.bluez.events :=
    (Adds.failuresSaid_iff (.refl _)).mpr ⟨by decide, by decide⟩
  rw [← hadds.closedLog_iff ha, ← hadds.failuresSaid_iff]
  constructor
  · exact fun h => ⟨h.android, fun hfailed => (h.failed hfailed).1⟩
  · exact fun h => ⟨h.1, hb, fun hfailed => ⟨h.2 hfailed, hnone⟩⟩

theorem bracketed_bluez_iff {bluez : BlueZ.State} {ok : Bool} {ps ts : List Mark}
    (hadds : Adds s.bluez.events bluez.events ps ts) (ha : ClosedLog s.android.events)
    (hb : ClosedLog s.bluez.events) : Bracketed s { s with bluez } ok ↔
      (Closed ps ∧ Closed ts) ∧ (ok = false → SaysFailed ps ∧ SaysFailed ts) := by
  have hnone : FailuresSaid s.android.events s.android.events :=
    (Adds.failuresSaid_iff (.refl _)).mpr ⟨by decide, by decide⟩
  rw [← hadds.closedLog_iff hb, ← hadds.failuresSaid_iff]
  constructor
  · exact fun h => ⟨h.bluez, fun hfailed => (h.failed hfailed).2⟩
  · exact fun h => ⟨ha, h.1, fun hfailed => ⟨hnone, h.2 hfailed⟩⟩

/-- **One call** leaves closed logs bracketed if and only if it is no `pair` on Android with a
failing JNI call. -/
theorem bracketed_iff (call : RealCall) (ha : ClosedLog s.android.events)
    (hb : ClosedLog s.bluez.events) :
    Bracketed s (call.run s).2 (call.run s).1 ↔ ¬ call.JniFails := by
  -- Each call by its own description of the log.
  cases call with
  | androidPair env target agent =>
    obtain ⟨r, android, hrun, h⟩ := Android.adds_pair env target agent s.android
    rw [RealCall.run, hrun]
    dsimp only
    rw [RealCall.JniFails]
    -- of the four calls, only this one can leave a session open
    obtain ⟨hfails, hadds, e, rfl⟩ | ⟨hnot, ⟨hadds, a, rfl⟩ | ⟨hadds, e, rfl⟩⟩ := h
    · rw [bracketed_android_iff hadds ha hb]
      exact iff_of_false (fun h => absurd h.1.1 (by decide)) (not_not_intro hfails)
    · rw [bracketed_android_iff hadds ha hb]
      exact iff_of_true ⟨by decide, nofun⟩ hnot
    · rw [bracketed_android_iff hadds ha hb]
      exact iff_of_true ⟨by decide, fun _ => by decide⟩ hnot
  | androidPush env conn file =>
    obtain ⟨r, android, hrun, h⟩ := Android.adds_pushFile env conn file s.android
    rw [RealCall.run, hrun]
    dsimp only
    refine iff_of_true ?_ not_false
    obtain ⟨hadds, a, rfl⟩ | ⟨hadds, e, rfl⟩ := h
    · exact (bracketed_android_iff hadds ha hb).mpr ⟨by decide, nofun⟩
    · exact (bracketed_android_iff hadds ha hb).mpr ⟨by decide, fun _ => by decide⟩
  | bluezPair env target agent =>
    obtain ⟨r, bluez, hrun, h⟩ := BlueZ.adds_pair env target agent s.bluez
    rw [RealCall.run, hrun]
    dsimp only
    refine iff_of_true ?_ not_false
    obtain ⟨hadds, e, rfl⟩ | ⟨hadds, a, rfl⟩ | ⟨hadds, e, rfl⟩ := h
    · exact (bracketed_bluez_iff hadds ha hb).mpr ⟨by decide, fun _ => by decide⟩
    · exact (bracketed_bluez_iff hadds ha hb).mpr ⟨by decide, nofun⟩
    · exact (bracketed_bluez_iff hadds ha hb).mpr ⟨by decide, fun _ => by decide⟩
  | bluezPush env call attempt =>
    obtain ⟨r, bluez, hrun, h⟩ := BlueZ.adds_pushFile env call attempt s.bluez
    rw [RealCall.run, hrun]
    dsimp only
    refine iff_of_true ?_ not_false
    obtain ⟨hadds, e, rfl⟩ | ⟨hadds, a, rfl⟩ | ⟨hadds, e, rfl⟩ := h
    · exact (bracketed_bluez_iff hadds ha hb).mpr ⟨by decide, fun _ => by decide⟩
    · exact (bracketed_bluez_iff hadds ha hb).mpr ⟨by decide, nofun⟩
    · exact (bracketed_bluez_iff hadds ha hb).mpr ⟨by decide, fun _ => by decide⟩

end

/-- **The logs are well bracketed** after each call of a sequence if and only if no `pair` on
Android has a JNI call fail. -/
theorem sessions_closed_iff (mgmt : Hci.MgmtState) (calls : List RealCall) :
    AllBracketed (.start mgmt) calls ↔ ∀ call ∈ calls, ¬ call.JniFails := by
  -- Induction on the calls, from any state with closed logs: a call leaves them closed again.
  have hfrom : ∀ s : RealBackends, ClosedLog s.android.events → ClosedLog s.bluez.events →
      (AllBracketed s calls ↔ ∀ call ∈ calls, ¬ call.JniFails) := by
    induction calls with
    | nil => exact fun _ _ _ => iff_of_true trivial (List.forall_mem_nil _)
    | cons call calls ih =>
      intro s ha hb
      rw [AllBracketed, List.forall_mem_cons, ← bracketed_iff call ha hb]
      refine and_congr_right ?_
      intro h
      exact ih (call.run s).2 h.android h.bluez
  exact hfrom _ ⟨rfl, rfl⟩ ⟨rfl, rfl⟩

/-! ### A pairing that is left open -/

/-- A platform that refuses to look devices up, as it does without the permission. -/
def deniedEnv : Android.Environment where
  controller := .virtualModel "android"
  spec := ⟨.v5_0, .dual⟩
  resolve _ := .bredrDefault
  clock n := ⟨n⟩
  remoteDevice _ := .error "Java exception was thrown"
  createBond _ := .ok false
  attempt _ := { openSocket := .ok (), incoming := [] }

/-- The pairing has started, the call has failed, and the log does not say so. -/
theorem pairing_left_open :
    let call := RealCall.androidPair deniedEnv (.pub .nil) ⟨fun _ _ => .cancel⟩
    let after := (call.run (.start BlueZ.poweredState)).2
    (call.run (.start BlueZ.poweredState)).1 = false ∧
      after.android.events.map (fun event => event.kind) = [.pairingStarted .justWorks] ∧
      ¬ AllBracketed (.start BlueZ.poweredState) [call] := by
  refine ⟨rfl, rfl, ?_⟩
  intro h
  have hclosed := h.1.android.pairings
  exact absurd hclosed (by decide)

end Pax
