import Pax.Transport.BlueZ.Obexd

/-!
# Is a completed transfer reported as completed?

Once a transfer is complete, the client can learn it from the object, while that is there, or from
the signal, if it was subscribed when that was sent (`State.Visible`). Nothing else tells it: a
status that cannot be read counts as running, until the deadline.

So a completed transfer is reported as failed once the object is removed with no signal on its way
(`Lost`), and otherwise only if the deadline is past before the client looks. `completed_isOk_iff`
says that this is all.

* What a step of either party does is listed once (`Daemon.Effect`, `Client.Effect`), and
  `transfer_next` says that these are the steps of the system.
* The daemon tells the truth: a signal on its way that says so is of a transfer that has completed,
  or failed (`Truthful`).
* In runs whose steps are all noticed (`Noticed`), a completion is to be seen until it is reported
  (`Seen`); any other step loses it (`lost_of_not_noticed`), and what is lost stays lost
  (`Lost.next`).
-/

namespace Pax
namespace BlueZ
namespace Obexd

/-! ### A step of the daemon -/

/-- What a step does to the transfer, and what it sends. -/
inductive Daemon.Effect : Daemon.Step → Daemon → Daemon → Option Daemon.Message → Prop where
  | accepted {props} :
    Effect (.accept props) .listening (.running .queued) (some (.reply (.ok props)))
  | refused {e} : Effect (.refuse e) .listening .refused (some (.reply (.error e)))
  | proceeded {step status status' signal} (hcomplete : Signal.status signal ≠ some "complete")
    (herror : Signal.status signal ≠ some "error") :
    Effect step (.running status) (.running status') (some (.signal signal))
  | completed {transferred status signal} (hstatus : Signal.status signal = some "complete") :
    Effect (.complete transferred) (.running status) (.complete true) (some (.signal signal))
  | failed {status signal} (hstatus : Signal.status signal = some "error") :
    Effect .fail (.running status) (.failed true) (some (.signal signal))
  | removed : Effect .remove (.complete true) (.complete false) none
  | removedFailed : Effect .remove (.failed true) (.failed false) none
  | other {daemon signal} (hpresent : daemon.status.isSome)
      (hstatus : Signal.status signal = none) :
    Effect (.other signal) daemon daemon (some (.signal signal))

theorem Running.text_ne (status : Running) : status.text ≠ "complete" ∧ status.text ≠ "error" := by
  cases status <;> decide

theorem Daemon.next_effect {daemon daemon' : Daemon} {step : Daemon.Step} {message : Option Message}
    (h : daemon.next step = some (daemon', message)) : Effect step daemon daemon' message := by
  unfold Daemon.next at h
  split at h
  case h_1 | h_2 | h_7 | h_8 =>
    cases h
    constructor
  case h_3 =>
    cases h
    -- a signal about the count alone has no status
    exact .proceeded nofun nofun
  case h_4 status =>
    cases h
    -- no text of a running transfer is a terminal one
    have hne := status.text_ne
    exact .proceeded (by simp [Signal.status, hne.1]) (by simp [Signal.status, hne.2])
  case h_5 transferred =>
    cases h
    -- with or without a count in front, the status is found
    refine .completed ?_
    cases transferred <;> rfl
  case h_6 =>
    cases h
    exact .failed rfl
  case h_9 =>
    split at h
    case isTrue hquiet =>
      cases h
      exact .other hquiet.1 hquiet.2
    case isFalse => cases h
  case h_10 => cases h

/-! ### A step of the client -/

namespace State

variable (s : State) (watch : Watch) (status : Option String) (client : Client)

@[simp] theorem look_daemon : (s.look watch status client).daemon = s.daemon := by
  unfold look
  split_ifs <;> rfl

@[simp] theorem look_reply : (s.look watch status client).reply = s.reply := by
  unfold look
  split_ifs <;> rfl

@[simp] theorem look_queue : (s.look watch status client).queue = s.queue := by
  unfold look
  split_ifs <;> rfl

/-- The deadline is past, and the client is about to look at it. -/
def Expired : Prop :=
  ∃ watch, s.client = .checking watch ∧
    overallDeadline.nanos ≤ (s.clock.saturatingSince watch.started).nanos

/-- The signal of the completion is waiting to be read. -/
def CompletionQueued : Prop := ∃ signal ∈ s.queue, Signal.status signal = some "complete"

/-- The client can still learn of the completion. -/
def Visible : Prop := s.daemon = .complete true ∨ s.CompletionQueued

end State

/-- What becomes of the client when it looks at a status: `client` is where it is then. -/
inductive Looked (status : Option String) (client : Client) : Prop where
  | complete (hstatus : status = some "complete") (n : UInt64)
      (hclient : client = .returned (.ok n))
  | error (hstatus : status = some "error") (e : TransportError)
    (hclient : client = .returned (.error e))
  | running (hcomplete : status ≠ some "complete") (herror : status ≠ some "error")
    (hclient : client.hasReturned = false)

theorem State.looked {s : State} {watch : Watch} {status : Option String} {client : Client}
    (h : client.hasReturned = false) : Looked status (s.look watch status client).client := by
  unfold State.look
  split_ifs with hcomplete herror
  · exact .complete hcomplete _ rfl
  · exact .error herror _ rfl
  · exact .running hcomplete herror h

/-- What a step does to the client and to its queue. -/
inductive Client.Effect (s s' : State) : Client.Step → Prop where
  /-- The client goes on. -/
  | goesOn {step} (hclient : s'.client.hasReturned = false) (hqueue : s'.queue = s.queue)
    (hsetup : ∀ detail, step ≠ .setupFails detail)
    (hexpired : step = .checkDeadline → ¬ s.Expired) :
    Effect s s' step
  | refused (detail : String) (hreply : s.reply = some (.error detail)) (e : TransportError)
    (hclient : s'.client = .returned (.error e)) (hqueue : s'.queue = s.queue) :
    Effect s s' .sendReturns
  | setupFailed {detail} (e : TransportError) (hclient : s'.client = .returned (.error e))
    (hqueue : s'.queue = s.queue) : Effect s s' (.setupFails detail)
  | expired (hexpired : s.Expired) (e : TransportError)
    (hclient : s'.client = .returned (.error e)) (hqueue : s'.queue = s.queue) :
    Effect s s' .checkDeadline
  | read (hlooked : Looked s.daemon.status s'.client) (hqueue : s'.queue = s.queue) :
    Effect s s' .readStatus
  | received (signal : Signal) (hqueue : s.queue = signal :: s'.queue)
    (hlooked : Looked (Signal.status signal) s'.client) : Effect s s' .receive

theorem Client.Effect.queue_subset {s s' : State} {step : Client.Step} (h : Effect s s' step) :
    s'.queue ⊆ s.queue := by
  cases h with
  | received signal hqueue => exact hqueue ▸ List.subset_cons_self _ _
  | goesOn _ hqueue | refused _ _ _ _ hqueue | setupFailed _ _ hqueue | expired _ _ _ hqueue
  | read _ hqueue => exact hqueue ▸ List.Subset.refl _

theorem State.take_spec (s : State) (watch : Watch) (signal : Signal) :
    (s.take watch signal).daemon = s.daemon ∧ (s.take watch signal).reply = s.reply ∧
      (s.take watch signal).queue = s.queue ∧
      Looked (Signal.status signal) (s.take watch signal).client := by
  unfold State.take
  split
  · exact ⟨State.look_daemon .., State.look_reply .., State.look_queue .., State.looked rfl⟩
  · exact ⟨State.look_daemon .., State.look_reply .., State.look_queue .., State.looked rfl⟩

theorem State.clientNext_effect {s s' : State} {step : Client.Step}
    (h : s.clientNext step = some s') :
    s'.daemon = s.daemon ∧ s'.reply = s.reply ∧ Client.Effect s s' step := by
  -- By the step: each is possible in one stage of the client only, and is refused elsewhere.
  cases step with
  | sendReturns =>
    simp only [State.clientNext] at h
    split at h <;> cases h
    case h_1 => exact ⟨rfl, rfl, .goesOn rfl rfl nofun nofun⟩
    case h_2 e _ hreply => exact ⟨rfl, rfl, .refused e hreply _ rfl rfl⟩
  | setupFails detail =>
    simp only [State.clientNext] at h
    split at h <;> cases h
    case h_1 => exact ⟨rfl, rfl, .setupFailed _ rfl rfl⟩
  | subscribe =>
    simp only [State.clientNext] at h
    split at h <;> cases h
    case h_1 => exact ⟨rfl, rfl, .goesOn rfl rfl nofun nofun⟩
  | readStatus =>
    simp only [State.clientNext] at h
    split at h <;> cases h
    case h_1 =>
      exact ⟨State.look_daemon .., State.look_reply ..,
        .read (State.looked rfl) (State.look_queue ..)⟩
  | checkDeadline =>
    simp only [State.clientNext] at h
    split at h
    case h_2 => cases h
    case h_1 watch hclient =>
      split at h <;> cases h
      case isTrue hpast => exact ⟨rfl, rfl, .expired ⟨watch, hclient, hpast⟩ _ rfl rfl⟩
      -- a deadline that is not past lets the client go on, which is what `hexpired` records
      case isFalse hpast =>
        refine ⟨rfl, rfl, .goesOn rfl rfl nofun fun _ hexpired => ?_⟩
        obtain ⟨watch', hclient', hpast'⟩ := hexpired
        cases hclient.symm.trans hclient'
        exact hpast hpast'
  -- a signal is taken when there is one in the queue
  | receive =>
    simp only [State.clientNext] at h
    split at h <;> cases h
    case h_1 watch since signal queue hclient hqueue =>
      -- taking a signal removes the head of the queue, and nothing else
      obtain ⟨hdaemon, hreply, hrest, hlooked⟩ := State.take_spec { s with queue } watch signal
      exact ⟨hdaemon, hreply, .received signal (hqueue.trans (congrArg _ hrest.symm)) hlooked⟩
  | pollTimeout =>
    simp only [State.clientNext] at h
    split at h
    case h_2 => cases h
    case h_1 =>
      split at h <;> cases h
      case isTrue => exact ⟨rfl, rfl, .goesOn rfl rfl nofun nofun⟩
  | streamEnds =>
    simp only [State.clientNext] at h
    split at h <;> cases h
    case h_1 => exact ⟨rfl, rfl, .goesOn rfl rfl nofun nofun⟩

/-- What a step is: one party's, with what it says, or time's. -/
theorem transfer_next {s s' : State} {step : Step} (h : transfer.next s step = some s') :
    s.client.hasReturned = false ∧
      ((∃ a daemon message, step = .daemon a ∧ Daemon.Effect a s.daemon daemon message ∧
          s' = { s with daemon }.deliver message) ∨
        (∃ a, step = .client a ∧ s'.daemon = s.daemon ∧ s'.reply = s.reply ∧
          Client.Effect s s' a) ∨
        ∃ d clock, step = .tick d ∧ s' = { s with clock }) := by
  simp only [transfer] at h
  split at h
  case isTrue => cases h
  case isFalse hrunning =>
    refine ⟨by simpa using hrunning, ?_⟩
    -- A run that has not returned takes a step of the daemon, of the client, or of the clock.
    cases step with
    | daemon a =>
      obtain ⟨⟨daemon, message⟩, hnext, rfl⟩ := Option.map_eq_some_iff.mp h
      exact .inl ⟨a, daemon, message, rfl, Daemon.next_effect hnext, rfl⟩
    | client a => exact .inr (.inl ⟨a, rfl, State.clientNext_effect h⟩)
    | tick d =>
      cases h
      exact .inr (.inr ⟨d, _, rfl, rfl⟩)

/-! ### Delivery -/

section Deliver

variable (s : State) (message : Option Daemon.Message)

@[simp] theorem State.deliver_daemon : (s.deliver message).daemon = s.daemon := by
  unfold State.deliver
  split
  · rfl
  · rfl
  · split_ifs <;> rfl

@[simp] theorem State.deliver_client : (s.deliver message).client = s.client := by
  unfold State.deliver
  split
  · rfl
  · rfl
  · split_ifs <;> rfl

variable {s} {message}

theorem State.deliver_reply {r : Except String Properties}
    (h : (s.deliver message).reply = some r) : s.reply = some r ∨ message = some (.reply r) := by
  unfold State.deliver at h
  split at h
  · exact .inl h
  · exact .inr (congrArg (fun r => r.map Daemon.Message.reply) h)
  · split_ifs at h <;> exact .inl h

theorem State.mem_deliver_queue {signal : Signal} (h : signal ∈ (s.deliver message).queue) :
    signal ∈ s.queue ∨ message = some (.signal signal) := by
  unfold State.deliver at h
  split at h
  · exact .inl h
  · exact .inl h
  · split_ifs at h
    -- subscribed: the signal joins the end of the queue
    · rcases List.mem_append.mp h with hold | hnew
      · exact .inl hold
      · exact .inr (by rw [List.mem_singleton.mp hnew])
    · exact .inl h

theorem State.queue_subset_deliver : s.queue ⊆ (s.deliver message).queue := by
  unfold State.deliver
  split
  · exact List.Subset.refl _
  · exact List.Subset.refl _
  · split_ifs
    · exact List.subset_append_left _ _
    · exact List.Subset.refl _

end Deliver

/-! ### The daemon tells the truth -/

def Daemon.Failed : Daemon → Prop
  | failed _ => True
  | _ => False

/-- If the signal says that the transfer is complete, or failed, it is. -/
structure Daemon.Bears (daemon : Daemon) (signal : Signal) : Prop where
  complete : Signal.status signal = some "complete" → daemon.Completed
  error : Signal.status signal = some "error" → daemon.Failed

/-- What is under way to the client is true. -/
structure Truthful (s : State) : Prop where
  reply : ∀ e, s.reply = some (.error e) → s.daemon = .refused
  signal : ∀ signal ∈ s.queue, s.daemon.Bears signal

section Daemon

variable {a : Daemon.Step} {daemon daemon' : Daemon} {message : Option Daemon.Message}

theorem Daemon.Bears.step {signal : Signal} (h : daemon.Bears signal)
    (heffect : Effect a daemon daemon' message) : daemon'.Bears signal := by
  constructor
  · intro hstatus
    have hbefore := h.complete hstatus
    cases heffect with
    -- a completed transfer stays so, object or no object
    | completed | removed => trivial
    | other => exact hbefore
    | accepted | refused | proceeded | failed | removedFailed => exact hbefore.elim
  · intro hstatus
    have hbefore := h.error hstatus
    cases heffect with
    | failed | removedFailed => trivial
    | other => exact hbefore
    | accepted | refused | proceeded | completed | removed => exact hbefore.elim

theorem Daemon.Effect.bears {signal : Signal}
    (h : Effect a daemon daemon' (some (.signal signal))) : daemon'.Bears signal := by
  cases h with
  | proceeded hcomplete herror => exact ⟨fun h => absurd h hcomplete, fun h => absurd h herror⟩
  | completed hstatus =>
    exact ⟨fun _ => trivial, fun h => absurd (hstatus.symm.trans h) (by decide)⟩
  | failed hstatus => exact ⟨fun h => absurd (hstatus.symm.trans h) (by decide), fun _ => trivial⟩
  | other hpresent hstatus =>
    exact ⟨fun h => absurd (hstatus.symm.trans h) nofun,
      fun h => absurd (hstatus.symm.trans h) nofun⟩

theorem Daemon.Effect.refused_of_reply {e : String}
    (h : Effect a daemon daemon' (some (.reply (.error e)))) : daemon' = .refused := by
  cases h
  rfl

theorem Daemon.Effect.refused_of_refused (h : Effect a .refused daemon' message) :
    daemon' = .refused := by
  cases h
  rfl

end Daemon

/-- **The daemon tells the truth**, whatever the interleaving. -/
theorem Truthful.next {s s' : State} {step : Step} (h : Truthful s)
    (hstep : transfer.next s step = some s') : Truthful s' := by
  obtain ⟨-, ⟨a, daemon, message, -, heffect, rfl⟩ | ⟨a, -, hdaemon, hreply, heffect⟩ |
      ⟨d, clock, rfl, rfl⟩⟩ :=
    transfer_next hstep
  · constructor
    · intro e he
      rw [State.deliver_daemon]
      rcases State.deliver_reply he with hold | rfl
      -- a daemon that refused does nothing more
      · exact (h.reply e hold ▸ heffect).refused_of_refused
      · exact heffect.refused_of_reply
    · intro signal hmem
      rw [State.deliver_daemon]
      rcases State.mem_deliver_queue hmem with hold | rfl
      · exact (h.signal signal hold).step heffect
      · exact heffect.bears
  · refine ⟨fun e he => hdaemon ▸ h.reply e (hreply ▸ he), ?_⟩
    intro signal hmem
    rw [hdaemon]
    exact h.signal signal (heffect.queue_subset hmem)
  · exact ⟨h.reply, h.signal⟩

/-! ### Runs in which the completion is noticed -/

/-- The completed transfer is not removed before the client has its signal, no call of the set-up
fails after the completion, and the deadline is not found past while the completion can be seen. -/
def Noticed (s : State) : Step → Prop
  | .daemon .remove => s.daemon = .complete true → s.CompletionQueued
  | .client (.setupFails _) => ¬ s.daemon.Completed
  | .client .checkDeadline => s.daemon.Completed → s.Visible → ¬ s.Expired
  | _ => True

/-- A completion is still to be seen, or has been reported as one. -/
structure Seen (s : State) : Prop where
  visible : s.daemon.Completed → s.client.hasReturned = false → s.Visible
  result : s.daemon.Completed → ∀ r, s.client = .returned r → ∃ n, r = .ok n

/-- The completed transfer has been reported as failed, or can no longer be seen. -/
def Lost (s : State) : Prop :=
  s.daemon.Completed ∧
    ((∃ e, s.client = .returned (.error e)) ∨ s.client.hasReturned = false ∧ ¬ s.Visible)

/-- How the transfer can be complete after a step of the daemon. -/
theorem Daemon.Effect.completed_cases {a : Daemon.Step} {daemon daemon' : Daemon}
    {message : Option Daemon.Message} (h : Effect a daemon daemon' message)
    (hcompleted : daemon'.Completed) :
    daemon' = .complete true ∨ (a = .remove ∧ daemon = .complete true) ∨ daemon' = daemon := by
  cases h with
  | completed => exact .inl rfl
  | removed => exact .inr (.inl ⟨rfl, rfl⟩)
  | other => exact .inr (.inr rfl)
  | accepted | refused | proceeded | failed | removedFailed => exact hcompleted.elim

theorem hasReturned_of_eq {client : Client} {r : Except TransportError UInt64}
    (h : client = .returned r) : client.hasReturned = true := h ▸ rfl

theorem Daemon.Completed.status {daemon : Daemon} (h : daemon.Completed) :
    daemon.status ≠ some "error" := by
  cases daemon with
  | complete present => cases present <;> simp [Daemon.status]
  | listening | refused | running | failed => exact h.elim

theorem Daemon.Completed.not_failed {daemon : Daemon} (h : daemon.Completed) : ¬ daemon.Failed := by
  cases daemon with
  | complete => exact not_false
  | listening | refused | running | failed => exact h.elim

/-- A step of the client keeps a completion to be seen, or reports it. This is the part of
`Seen.next` with the most cases. -/
theorem Seen.client {s s' : State} {a : Client.Step} (h : Seen s) (htruthful : Truthful s)
    (hnoticed : Noticed s (.client a)) (hrunning : s.client.hasReturned = false)
    (heffect : Client.Effect s s' a) (hdaemon : s'.daemon = s.daemon)
    (hcompleted : s.daemon.Completed) :
    (s'.client.hasReturned = false ∧ s'.Visible) ∨ ∃ n, s'.client = .returned (.ok n) := by
  -- what can be seen of the completion before the step
  have hvisible := h.visible hcompleted hrunning
  have hkept (hqueue : s'.queue = s.queue) : s'.Visible := by
    rw [State.Visible, State.CompletionQueued, hdaemon, hqueue]
    exact hvisible
  cases heffect with
  | goesOn hclient hqueue => exact .inl ⟨hclient, hkept hqueue⟩
  | refused detail hreply =>
    -- a refused transfer is not complete
    rw [htruthful.reply detail hreply] at hcompleted
    exact hcompleted.elim
  | setupFailed => exact absurd hcompleted hnoticed
  | expired hexpired => exact absurd hexpired (hnoticed hcompleted hvisible)
  | read hlooked hqueue =>
    cases hlooked with
    | complete _ n hclient => exact .inr ⟨n, hclient⟩
    -- the object of a completed transfer does not read as failed
    | error hstatus => exact absurd hstatus hcompleted.status
    | running _ _ hclient => exact .inl ⟨hclient, hkept hqueue⟩
  | received signal hqueue hlooked =>
    cases hlooked with
    | complete _ n hclient => exact .inr ⟨n, hclient⟩
    | error hstatus =>
      -- nor does any signal under way say so
      have hbears := htruthful.signal signal (hqueue ▸ List.mem_cons_self)
      exact absurd (hbears.error hstatus) hcompleted.not_failed
    | running hcomplete _ hclient =>
      -- The signal that was taken was another one.
      refine .inl ⟨hclient, hvisible.imp hdaemon.trans ?_⟩
      rintro ⟨other, hmem, hstatus⟩
      rcases List.mem_cons.mp (hqueue ▸ hmem) with rfl | hrest
      · exact absurd hstatus hcomplete
      · exact ⟨other, hrest, hstatus⟩

/-- A step keeps a completion to be seen, if it is noticed. -/
theorem Seen.next {s s' : State} {step : Step} (h : Seen s) (htruthful : Truthful s)
    (hnoticed : Noticed s step) (hstep : transfer.next s step = some s') : Seen s' := by
  obtain ⟨hrunning, ⟨a, daemon, message, rfl, heffect, rfl⟩ |
    ⟨a, rfl, hdaemon, hreply, heffect⟩ | ⟨d, clock, rfl, rfl⟩⟩ := transfer_next hstep
  · constructor
    · intro hcompleted _
      rw [State.deliver_daemon] at hcompleted
      have hqueued : s.CompletionQueued →
          State.CompletionQueued (State.deliver { s with daemon } message) :=
        fun ⟨signal, hmem, hstatus⟩ => ⟨signal, State.queue_subset_deliver hmem, hstatus⟩
      -- completed now, and so visible; or removed, with its signal queued; or as it was before
      rcases heffect.completed_cases hcompleted with rfl | ⟨rfl, hbefore⟩ | rfl
      · exact .inl (State.deliver_daemon ..)
      · exact .inr (hqueued (hnoticed hbefore))
      · exact (h.visible hcompleted hrunning).imp
          (fun hpresent => (State.deliver_daemon ..).trans hpresent) hqueued
    · intro _ r hr
      rw [State.deliver_client] at hr
      rw [hasReturned_of_eq hr] at hrunning
      cases hrunning
  -- A step of the client: it sees the completion, or the completion stays to be seen.
  · have hclient := h.client htruthful hnoticed hrunning heffect hdaemon
    rw [← hdaemon] at hclient
    constructor
    · intro hcompleted hgoing
      rcases hclient hcompleted with ⟨-, hvisible⟩ | ⟨n, hn⟩
      · exact hvisible
      · rw [hasReturned_of_eq hn] at hgoing
        cases hgoing
    · intro hcompleted r hr
      rcases hclient hcompleted with ⟨hgoing, -⟩ | ⟨n, hn⟩
      · rw [hasReturned_of_eq hr] at hgoing
        cases hgoing
      · exact ⟨n, by simpa using hr.symm.trans hn⟩
  -- the clock changes nothing of this
  · exact ⟨h.visible, h.result⟩

/-! ### Runs in which it is not -/

/-- A step that is not noticed loses the completion. -/
theorem lost_of_not_noticed {s s' : State} {step : Step} (hnoticed : ¬ Noticed s step)
    (hstep : transfer.next s step = some s') : Lost s' := by
  obtain ⟨hrunning, ⟨a, daemon, message, rfl, heffect, rfl⟩ |
    ⟨a, rfl, hdaemon, hreply, heffect⟩ | ⟨d, clock, rfl, rfl⟩⟩ := transfer_next hstep
  · cases a with
    | remove =>
      -- the object goes, and no signal of the completion is queued: nothing shows it any more
      obtain ⟨hbefore, hqueue⟩ := Classical.not_imp.mp hnoticed
      rw [hbefore] at heffect
      cases heffect with
      | removed => exact ⟨trivial, .inr ⟨hrunning, not_or.mpr ⟨nofun, hqueue⟩⟩⟩
    | accept | refuse | advance | proceed | complete | fail | other => exact absurd trivial hnoticed
  · cases a with
    | setupFails detail =>
      cases heffect with
      | goesOn _ _ hsetup => exact absurd rfl (hsetup detail)
      -- an error is returned for a transfer that is complete
      | setupFailed e hclient => exact ⟨hdaemon ▸ not_not.mp hnoticed, .inl ⟨e, hclient⟩⟩
    | checkDeadline =>
      simp only [Noticed, Classical.not_imp, not_not] at hnoticed
      -- the same with the deadline
      obtain ⟨hcompleted, -, hpast⟩ := hnoticed
      cases heffect with
      | goesOn _ _ _ hexpired => exact absurd hpast (hexpired rfl)
      | expired _ e hclient => exact ⟨hdaemon ▸ hcompleted, .inl ⟨e, hclient⟩⟩
    | sendReturns | subscribe | readStatus | receive | pollTimeout | streamEnds =>
      exact absurd trivial hnoticed
  · exact absurd trivial hnoticed

theorem complete_false_of_not_visible {s : State} (hcompleted : s.daemon.Completed)
    (h : ¬ s.Visible) : s.daemon = .complete false := by
  cases hdaemon : s.daemon with
  | complete present =>
    cases present with
    | true => exact absurd (.inl hdaemon) h
    | false => rfl
  | listening | refused | running | failed =>
    rw [hdaemon] at hcompleted
    exact hcompleted.elim

/-- What is lost stays lost: the client has returned, or there will be no signal and no object to
read. -/
theorem Lost.next {s s' : State} {step : Step} (h : Lost s)
    (hstep : transfer.next s step = some s') : Lost s' := by
  obtain ⟨hcompleted, ⟨e, he⟩ | ⟨-, hnot⟩⟩ := h
  · have hrunning := (transfer_next hstep).1
    rw [hasReturned_of_eq he] at hrunning
    cases hrunning
  -- not to be seen: the object is gone, and no signal of it is queued
  have hgone := complete_false_of_not_visible hcompleted hnot
  obtain ⟨-, hqueue⟩ := not_or.mp hnot
  obtain ⟨hrunning, ⟨a, daemon, message, rfl, heffect, rfl⟩ |
    ⟨a, rfl, hdaemon, hreply, heffect⟩ | ⟨d, clock, rfl, rfl⟩⟩ := transfer_next hstep
  · -- The object is gone, and whatever is still signalled is not the completion.
    rw [hgone] at heffect
    cases heffect with
    | other hpresent => cases hpresent
  · have hhidden (h : s'.queue ⊆ s.queue) : ¬ s'.Visible := by
      rintro (hpresent | ⟨signal, hmem, hstatus⟩)
      · cases (hdaemon.trans hgone).symm.trans hpresent
      · exact hqueue ⟨signal, h hmem, hstatus⟩
    have hsubset := heffect.queue_subset
    -- The client goes on without the completion, or ends with an error.
    refine ⟨hdaemon ▸ hcompleted, ?_⟩
    cases heffect with
    | goesOn hclient => exact .inr ⟨hclient, hhidden hsubset⟩
    | refused _ _ e hclient | setupFailed e hclient | expired _ e hclient => exact .inl ⟨e, hclient⟩
    | read hlooked =>
      cases hlooked with
      | complete hstatus => rw [hgone] at hstatus; cases hstatus
      | error _ e hclient => exact .inl ⟨e, hclient⟩
      | running _ _ hclient => exact .inr ⟨hclient, hhidden hsubset⟩
    | received signal hhead hlooked =>
      cases hlooked with
      | complete hstatus => exact absurd ⟨signal, hhead ▸ List.mem_cons_self, hstatus⟩ hqueue
      | error _ e hclient => exact .inl ⟨e, hclient⟩
      | running _ _ hclient => exact .inr ⟨hclient, hhidden hsubset⟩
  · exact ⟨hcompleted, .inr ⟨hrunning, hnot⟩⟩

/-! ### Which runs report a completion -/

theorem truthful_start (clock : Timestamp) : Truthful (State.start clock) :=
  ⟨nofun, fun _ h => absurd h List.not_mem_nil⟩

theorem seen_start (clock : Timestamp) : Seen (State.start clock) := ⟨nofun, nofun⟩

/-- **A completed transfer is reported as completed if and only if the completion is noticed.** In a
run in which `run_transfer` has returned, it has not returned an error for a completed transfer if
and only if each step of the run satisfies `Noticed`. -/
theorem completed_isOk_iff {clock : Timestamp} {steps : List Step} {s : State}
    {result : Except TransportError UInt64} (hrun : transfer.Run (State.start clock) steps s)
    (hreturned : s.client = .returned result) :
    (s.daemon.Completed → ∃ bytes, result = .ok bytes) ↔
      transfer.Meets Noticed (State.start clock) steps := by
  constructor
  · intro hok
    -- if some step is not noticed, the completion is lost there, and stays lost to the end
    by_contra hmeets
    obtain ⟨steps₁, s₁, step, s₂, steps₂, -, -, hnoticed, hstep, hrest⟩ := hrun.exists_not_ok hmeets
    obtain ⟨hcompleted, ⟨e, he⟩ | ⟨hrunning, -⟩⟩ : Lost s :=
      hrest.invariant (fun _ _ _ h => h.next) (lost_of_not_noticed hnoticed hstep)
    -- but then the result is an error
    · obtain ⟨bytes, rfl⟩ := hok hcompleted
      cases hreturned.symm.trans he
    · rw [hasReturned_of_eq hreturned] at hrunning
      cases hrunning
  · intro hmeets hcompleted
    obtain ⟨-, hseen⟩ := hrun.invariant_of_meets (I := fun s => Truthful s ∧ Seen s)
      (fun _ _ _ h hok hstep => ⟨h.1.next hstep, h.2.next h.1 hok hstep⟩) hmeets
      ⟨truthful_start clock, seen_start clock⟩
    exact hseen.result hcompleted result hreturned

/-- The transfer is complete when the client has subscribed, and the object is still there. -/
def completeAtOnce : List Step :=
  [.daemon (.accept [("Size", .u64 5)]), .daemon (.complete (some 5)), .client .sendReturns,
    .client .subscribe, .client .readStatus]

/-- The client reads the status of the object in time, and reports the transfer as completed. -/
theorem completed_isOk_iff_read : ∃ s result,
    transfer.Run (State.start ⟨0⟩) completeAtOnce s ∧ s.client = .returned result ∧
      ((s.daemon.Completed → ∃ bytes, result = .ok bytes) ↔
        transfer.Meets Noticed (State.start ⟨0⟩) completeAtOnce) :=
  ⟨_, _, rfl, rfl, completed_isOk_iff rfl rfl⟩

/-! ### A completion that is missed -/

/-- The transfer is over before the client has subscribed, and its object is removed. -/
def overAtOnce : List Step :=
  [.daemon (.accept [("Size", .u64 5)]), .daemon (.complete (some 5)), .daemon .remove,
    .client .sendReturns, .client .subscribe, .client .readStatus]

/-- The client waits for a signal in vain, and then polls the status of the transfer. -/
def waitInVain : List Step :=
  [.client .checkDeadline, .tick pollInterval, .client .pollTimeout, .client .readStatus]

/-- Twenty poll intervals later, the deadline is past, and the completed transfer is reported as
timed out. -/
theorem missed_completion_times_out :
    ∃ s, transfer.Run (State.start ⟨0⟩)
        (overAtOnce ++ (List.replicate 20 waitInVain).flatten ++ [.client .checkDeadline]) s ∧
      s.daemon.Completed ∧ s.client = .returned (.error (.timeout "obex push exceeded 300s")) :=
  ⟨_, rfl, trivial, rfl⟩

end Obexd
end BlueZ
end Pax
