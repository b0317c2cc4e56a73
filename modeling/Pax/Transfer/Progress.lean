import Pax.Framework.Lts
import Pax.Transport.Mock.Sessions

/-!
# Progress updates

`ProgressObserver` of `pax-transfer/src/progress.rs`: an observer that turns the events of transfers
into updates for a progress bar. It has one slot for the name of the object, which every
`TransferStarted` event overwrites, whoever sent it.

Transfers that go on at once send their events to the one observer, interleaved (`Interleaved`;
those of the mock backend are, `interleaved_of_run`). `rightly_named_iff` says when each update is
about the object whose event it was made from: the transfer that was started last has that name.

* `Transfer.stream` is an automaton of the events of one transfer, which has to start before it goes
  on.
* `lastStarted` is what is in the slot, read off the events (`object_after`).
* `onEvent_cases` tells the updates apart: that of a start has its own name, and any other has the
  one in the slot.
-/

namespace Pax

/-! ### The observer -/

/-- A transfer-oriented view of progress: an update for a progress bar. -/
structure ProgressUpdate where
  object : String
  transferred : UInt64
  total : UInt64
  done : Bool
  deriving DecidableEq, Repr

/-- The observer, with the object that was started last. -/
structure ProgressObserver where
  object : String
  total : UInt64

namespace ProgressObserver

def new : ProgressObserver := { object := "", total := 0 }

/-- What is passed to the callback for an event, if anything, and what is kept. -/
def onEvent (o : ProgressObserver) (event : TransitEvent) :
    ProgressObserver × Option ProgressUpdate :=
  match event.kind with
  | .transferStarted name total =>
    ({ object := name, total }, some { object := name, transferred := 0, total, done := false })
  | .transferProgress transferred total =>
    (o, some { object := o.object, transferred, total, done := false })
  | .transferCompleted bytes _ =>
    -- the total is not the one that the transfer was started with
    (o, some { object := o.object, transferred := bytes, total := bytes, done := true })
  | _ => (o, none)

/-- What the observer keeps after some events. -/
def after (events : List TransitEvent) (o : ProgressObserver) : ProgressObserver :=
  events.foldl (fun o event => (o.onEvent event).1) o

/-- The name in a `TransferStarted` event, and nothing for any other. -/
def startedName (event : TransitEvent) : Option String :=
  match event.kind with
  | .transferStarted name _ => some name
  | _ => none

/-- The name of the transfer that was started last among the events, if any was. -/
def lastStarted (events : List TransitEvent) : Option String :=
  (events.filterMap startedName).getLast?

/-- An event overwrites the name in the slot if it has one. -/
theorem object_onEvent (o : ProgressObserver) (event : TransitEvent) :
    (o.onEvent event).1.object = (startedName event).getD o.object := by
  obtain ⟨seq, at', origin, kind⟩ := event
  cases kind <;> rfl

/-- The slot holds the name of the transfer that was started last. -/
theorem object_after (events : List TransitEvent) :
    (after events new).object = (lastStarted events).getD "" := by
  -- On the events, the last of which decides: it starts a transfer, or the name stays.
  induction events using List.reverseRecOn with
  | nil => rfl
  | append_singleton events event ih =>
    have hlast : after (events ++ [event]) new = ((after events new).onEvent event).1 :=
      List.foldl_concat _ _ _ _
    rw [hlast, object_onEvent, ih, lastStarted, lastStarted, List.filterMap_append]
    cases hname : startedName event with
    | none => rw [List.filterMap_cons_none hname, List.filterMap_nil, List.append_nil]; rfl
    | some name =>
      rw [List.filterMap_cons_some hname, List.filterMap_nil, List.getLast?_concat]
      rfl

/-- The updates made of events that belong to transfers, each with the transfer of its event. -/
def updates {ι : Type} (o : ProgressObserver) :
    List (ι × TransitEvent) → List (ι × ProgressUpdate)
  | [] => []
  | p :: trace =>
    ((o.onEvent p.2).2.map (Prod.mk p.1)).toList ++ updates (o.onEvent p.2).1 trace

/-- An update is made of an event, with what the events before it have left. -/
theorem mem_updates {ι : Type} {i : ι} {u : ProgressUpdate} {o : ProgressObserver}
    {trace : List (ι × TransitEvent)} : (i, u) ∈ o.updates trace ↔
      ∃ pre event post, trace = pre ++ (i, event) :: post ∧
        ((after (pre.map Prod.snd) o).onEvent event).2 = some u := by
  -- On the trace: the update is that of the first event, or one of the rest.
  induction trace generalizing o with
  | nil => simp [updates]
  | cons p trace ih =>
    rw [updates, List.mem_append, ih]
    constructor
    · rintro (hhead | ⟨pre, event, post, rfl, hupdate⟩)
      · obtain ⟨j, event⟩ := p
        obtain ⟨u', hu', heq⟩ := Option.map_eq_some_iff.mp (Option.mem_toList.mp hhead)
        cases heq
        exact ⟨[], event, trace, rfl, hu'⟩
      · exact ⟨p :: pre, event, post, rfl, hupdate⟩
    · rintro ⟨pre, event, post, htrace, hupdate⟩
      cases pre with
      | nil =>
        cases htrace
        refine .inl (Option.mem_toList.mpr ?_)
        exact Option.map_eq_some_iff.mpr ⟨u, hupdate, rfl⟩
      | cons q pre =>
        cases htrace
        exact .inr ⟨pre, event, post, rfl, hupdate⟩

end ProgressObserver

/-! ### Streams -/

/-- A transfer: what is sent, how long it is, and to whom. -/
structure Transfer where
  object : String
  size : UInt64
  peer : DeviceId

/-- How far the events of a transfer have come: not started, going on, or over. -/
inductive StreamPhase where
  | waiting
  | running
  | ended
  deriving DecidableEq

/-- The events of a transfer: it starts, makes progress, and is completed or ends with an error. -/
def Transfer.stream (t : Transfer) : Lts StreamPhase Label where
  next phase label :=
    if label.1 = t.peer then
      match phase, label.2 with
      | .waiting, .transferStarted name total =>
        if name = t.object ∧ total = t.size then some .running else none
      | .running, .dataChunk _ _ => some .running
      | .running, .transferProgress _ total => if total = t.size then some .running else none
      | .running, .transferCompleted _ _ => some .ended
      | .running, .error _ => some .ended
      | _, _ => none
    else none

/-- Events of transfers, as far as they have come, interleaved. -/
def Interleaved {ι : Type} [DecidableEq ι] (transfers : ι → Transfer)
    (trace : List (ι × TransitEvent)) : Prop :=
  ∀ i, ∃ phase, (transfers i).stream.Run .waiting ((own trace i).map TransitEvent.label) phase

section Interleaved

variable {t : Transfer} {phase phase' : StreamPhase} {label : Label} {labels : List Label}

/-- A transfer starts once, with its name and its size, and all else comes later. -/
theorem Transfer.next_stream (h : t.stream.next phase label = some phase') :
    phase' ≠ .waiting ∧
      ((phase = .waiting ∧ label.2 = .transferStarted t.object t.size) ∨
        (phase = .running ∧ (∀ name total, label.2 ≠ .transferStarted name total) ∧
          ∀ transferred total, label.2 = .transferProgress transferred total →
            total = t.size)) := by
  simp only [Transfer.stream] at h
  split at h
  case isFalse => cases h
  case isTrue =>
    obtain ⟨peer, kind⟩ := label
    -- The event starts the transfer, or goes on with one that has started.
    cases phase with
    | waiting =>
      cases kind <;> first
        | cases h
        | skip
      case transferStarted name total =>
        dsimp only at h
        split at h
        next heq =>
          cases h
          obtain ⟨rfl, rfl⟩ := heq
          exact ⟨nofun, .inl ⟨rfl, rfl⟩⟩
        next => cases h
    | running =>
      cases kind <;> first
        | (cases h; exact ⟨nofun, .inr ⟨rfl, nofun, nofun⟩⟩)
        | cases h
        | skip
      case transferProgress transferred total =>
        dsimp only at h
        split at h
        next heq =>
          cases h
          refine ⟨nofun, .inr ⟨rfl, nofun, ?_⟩⟩
          rintro _ _ ⟨⟩
          exact heq
        next => cases h
    | ended => cases kind <;> cases h

/-- A stream that is no longer waiting has had the event that starts it. -/
theorem Transfer.started_of_run (h : t.stream.Run .waiting labels phase) :
    phase ≠ .waiting → ∃ label ∈ labels, label.2 = .transferStarted t.object t.size := by
  refine h.history (P := fun labels phase => phase ≠ .waiting →
    ∃ label ∈ labels, label.2 = .transferStarted t.object t.size) (fun hnot => absurd rfl hnot) ?_
  intro before phase label phase' hbefore hnext _
  obtain ⟨-, ⟨-, hstart⟩ | ⟨hrunning, -⟩⟩ := next_stream hnext
  · exact ⟨label, List.mem_append_right _ List.mem_cons_self, hstart⟩
  · obtain ⟨first, hmem, hfirst⟩ := hbefore (by rw [hrunning]; nofun)
    exact ⟨first, List.mem_append_left _ hmem, hfirst⟩

variable {ι : Type} [DecidableEq ι] {transfers : ι → Transfer} {trace : List (ι × TransitEvent)}
  {pre post : List (ι × TransitEvent)} {i : ι} {event : TransitEvent}

/-- An event of an interleaving is a step in the stream of its own transfer, after the earlier
ones of that. -/
theorem Interleaved.at_event (h : Interleaved transfers trace)
    (htrace : trace = pre ++ (i, event) :: post) : ∃ phase phase',
      (transfers i).stream.Run .waiting ((own pre i).map TransitEvent.label) phase ∧
      (transfers i).stream.next phase event.label = some phase' := by
  obtain ⟨last, hrun⟩ := h i
  have hown : own trace i = own pre i ++ event :: own post i := by
    rw [htrace, ← List.singleton_append, ← List.append_assoc, own_append, own_concat_self,
      List.append_assoc, List.singleton_append]
  rw [hown, List.map_append, List.map_cons] at hrun
  obtain ⟨phase, hpre, hrest⟩ := Lts.run_append.mp hrun
  obtain ⟨phase', hnext, -⟩ := Lts.run_cons.mp hrest
  exact ⟨phase, phase', hpre, hnext⟩

end Interleaved

/-! ### When the updates are right -/

section

variable {ι : Type}

/-- The bytes that are through and the total, as an event in the course of a transfer has them, and
whether it is the last one. -/
def reported : TransitEventKind → Option (UInt64 × UInt64 × Bool)
  | .transferProgress transferred total => some (transferred, total, false)
  | .transferCompleted bytes _ => some (bytes, bytes, true)
  | _ => none

/-- Each update made of an event of a transfer has the name of its object, and its size. -/
def RightlyNamed (transfers : ι → Transfer) (trace : List (ι × TransitEvent)) : Prop :=
  ∀ p ∈ ProgressObserver.new.updates trace,
    p.2.object = (transfers p.1).object ∧ p.2.total = (transfers p.1).size

/-- When an event in the course of a transfer comes, the transfer that was started last is one of an
object with the same name; and a transfer is completed with as many bytes as it has. -/
structure InTurn (transfers : ι → Transfer) (trace : List (ι × TransitEvent)) : Prop where
  named : ∀ pre i event post, trace = pre ++ (i, event) :: post → (reported event.kind).isSome →
    ProgressObserver.lastStarted (pre.map Prod.snd) = some (transfers i).object
  sized : ∀ p ∈ trace, ∀ bytes duration, p.2.kind = .transferCompleted bytes duration →
    bytes = (transfers p.1).size

instance (transfers : ι → Transfer) (trace : List (ι × TransitEvent)) :
    Decidable (RightlyNamed transfers trace) := inferInstanceAs (Decidable (∀ _ ∈ _, _))

/-- An update in the course of a transfer has the name that is kept. -/
theorem onEvent_of_reported {o : ProgressObserver} {event : TransitEvent}
    {transferred total : UInt64} {done : Bool}
    (h : reported event.kind = some (transferred, total, done)) :
    (o.onEvent event).2 = some { object := o.object, transferred, total, done } := by
  obtain ⟨seq, at', origin, kind⟩ := event
  cases kind <;> cases h <;> rfl

/-- The update of an event is that of a start, with its own name, or one with the name in the
slot. -/
theorem onEvent_cases {o : ProgressObserver} {event : TransitEvent} {u : ProgressUpdate}
    (h : (o.onEvent event).2 = some u) :
    (∃ name total, event.kind = .transferStarted name total ∧ u.object = name ∧ u.total = total) ∨
      ∃ transferred total done, reported event.kind = some (transferred, total, done) ∧
        u.object = o.object ∧ u.total = total := by
  obtain ⟨seq, at', origin, kind⟩ := event
  cases kind <;> cases h
  case transferStarted name total => exact .inl ⟨name, total, rfl, rfl, rfl⟩
  case transferProgress transferred total => exact .inr ⟨_, _, _, rfl, rfl, rfl⟩
  case transferCompleted bytes duration => exact .inr ⟨_, _, _, rfl, rfl, rfl⟩

variable [DecidableEq ι] {transfers : ι → Transfer}
  {trace pre post : List (ι × TransitEvent)} {i : ι}
  {event : TransitEvent}

/-- In the course of a transfer, some transfer has started: its own. -/
theorem Interleaved.lastStarted_ne_none (h : Interleaved transfers trace)
    (htrace : trace = pre ++ (i, event) :: post) (hreported : (reported event.kind).isSome) :
    ProgressObserver.lastStarted (pre.map Prod.snd) ≠ none := by
  obtain ⟨phase, phase', hpre, hnext⟩ := h.at_event htrace
  have hphase : phase ≠ .waiting := by
    obtain ⟨-, ⟨-, hstart⟩ | ⟨hrunning, -⟩⟩ := Transfer.next_stream hnext
    · have hkind : event.kind = .transferStarted _ _ := hstart
      rw [hkind] at hreported
      cases hreported
    · rw [hrunning]
      nofun
  obtain ⟨label, hlabel, hstart⟩ := Transfer.started_of_run hpre hphase
  obtain ⟨first, hfirst, rfl⟩ := List.mem_map.mp hlabel
  have hname : ProgressObserver.startedName first = some (transfers i).object := by
    have hkind : first.kind = .transferStarted _ _ := hstart
    rw [ProgressObserver.startedName, hkind]
  -- Its own start stands before it, so some transfer has started.
  have hmem : (transfers i).object ∈ (pre.map Prod.snd).filterMap ProgressObserver.startedName :=
    List.mem_filterMap.mpr ⟨first, List.mem_map_of_mem (mem_own.mp hfirst), hname⟩
  intro hnone
  rw [List.getLast?_eq_none_iff.mp hnone] at hmem
  cases hmem

/-- **The updates name the right object** if and only if no event in the course of a transfer comes
after the start of another one of a different name, and the totals are the sizes. -/
theorem rightly_named_iff (h : Interleaved transfers trace) :
    RightlyNamed transfers trace ↔ InTurn transfers trace := by
  -- The name that is shown is that of the last start, and each direction reads it off an update.
  constructor
  · intro hnamed
    -- an event in the course of a transfer is made into an update
    have hupdate {pre post : List (ι × TransitEvent)} {i : ι} {event : TransitEvent}
        {transferred total : UInt64} {done : Bool} (htrace : trace = pre ++ (i, event) :: post)
        (hreported : reported event.kind = some (transferred, total, done)) :
        (ProgressObserver.after (pre.map Prod.snd) .new).object = (transfers i).object ∧
          total = (transfers i).size := by
      apply hnamed (i, { object := _, transferred, total, done })
      exact ProgressObserver.mem_updates.mpr
        ⟨pre, event, post, htrace, onEvent_of_reported hreported⟩
    constructor
    · intro pre i event post htrace hreported
      obtain ⟨⟨transferred, total, done⟩, hsome⟩ := Option.isSome_iff_exists.mp hreported
      obtain ⟨hobject, -⟩ := hupdate htrace hsome
      obtain ⟨name, hname⟩ := Option.ne_none_iff_exists'.mp (h.lastStarted_ne_none htrace hreported)
      rw [ProgressObserver.object_after, hname] at hobject
      rw [hname]
      exact congrArg some hobject
    · rintro ⟨i, event⟩ hmem bytes duration hkind
      obtain ⟨pre, post, htrace⟩ := List.append_of_mem hmem
      have hreported : reported event.kind = some (bytes, bytes, true) := by
        rw [show event.kind = _ from hkind]
        rfl
      exact (hupdate htrace hreported).2
  · rintro hturn ⟨i, u⟩ hu
    obtain ⟨pre, event, post, htrace, hupdate⟩ := ProgressObserver.mem_updates.mp hu
    obtain ⟨phase, phase', -, hnext⟩ := h.at_event htrace
    obtain ⟨-, hstream⟩ := Transfer.next_stream hnext
    obtain ⟨name, total, hkind, hobject, htotal⟩ | ⟨transferred, total, done, hreported, hobject,
      htotal⟩ := onEvent_cases hupdate
    · -- a start says what its transfer is
      obtain ⟨-, hstart⟩ | ⟨-, hnostart, -⟩ := hstream
      · have hsame : TransitEventKind.transferStarted name total = .transferStarted _ _ :=
          hkind.symm.trans hstart
        cases hsame
        exact ⟨hobject, htotal⟩
      · exact absurd hkind (hnostart name total)
    · have hname := hturn.named pre i event post htrace (by rw [hreported]; rfl)
      rw [ProgressObserver.object_after, hname] at hobject
      refine ⟨hobject, htotal.trans ?_⟩
      cases hkind : event.kind with
      | transferProgress transferred' total' =>
        rw [hkind] at hreported
        cases hreported
        obtain ⟨-, hstart⟩ | ⟨-, -, hprogress⟩ := hstream
        · exact absurd (hkind.symm.trans hstart) (by nofun)
        · exact hprogress _ _ hkind
      | transferCompleted bytes duration =>
        rw [hkind] at hreported
        cases hreported
        refine hturn.sized (i, event) ?_ _ duration hkind
        rw [htrace]
        exact List.mem_append_right _ List.mem_cons_self
      | _ =>
        rw [hkind] at hreported
        cases hreported

end

/-! ### Two transfers -/

/-- Two transfers, a photo and a song, to two peers. -/
def photoAndSong : Bool → Transfer
  | false => { object := "photo.jpg", size := 2, peer := .pub .nil }
  | true => { object := "song.mp3", size := 3, peer := .pub ⟨.replicate 6 1⟩ }

/-- An event of one of the two transfers, with its index. -/
def eventOf (song : Bool) (kind : TransitEventKind) : Bool × TransitEvent :=
  (song, {
    seq := 0
    at' := ⟨0⟩
    origin := {
      local' := .virtualModel "pax-mock-0"
      peer := (photoAndSong song).peer
      spec := ⟨.v5_2, .brEdr⟩
      standards := .bredrDefault }
    kind })

/-- The events of the photo, and after them those of the song. -/
def oneByOne : List (Bool × TransitEvent) :=
  [eventOf false (.transferStarted "photo.jpg" 2), eventOf false (.transferProgress 2 2),
    eventOf false (.transferCompleted 2 .zero), eventOf true (.transferStarted "song.mp3" 3),
    eventOf true (.transferProgress 3 3), eventOf true (.transferCompleted 3 .zero)]

/-- Events in which the song starts before the photo is through. -/
def bothAtOnce : List (Bool × TransitEvent) :=
  [eventOf false (.transferStarted "photo.jpg" 2), eventOf true (.transferStarted "song.mp3" 3),
    eventOf false (.transferProgress 2 2), eventOf false (.transferCompleted 2 .zero),
    eventOf true (.transferProgress 3 3), eventOf true (.transferCompleted 3 .zero)]

theorem interleaved_oneByOne : Interleaved photoAndSong oneByOne
  | false => ⟨.ended, by decide⟩
  | true => ⟨.ended, by decide⟩

theorem interleaved_bothAtOnce : Interleaved photoAndSong bothAtOnce
  | false => ⟨.ended, by decide⟩
  | true => ⟨.ended, by decide⟩

/-- One transfer after the other is an interleaving in which both are in turn. -/
theorem inTurn_oneByOne : InTurn photoAndSong oneByOne :=
  (rightly_named_iff interleaved_oneByOne).mp (by decide)

/-- At once, the photo is reported under the name of the song. -/
theorem photo_named_song : Interleaved photoAndSong bothAtOnce ∧
    (false, { object := "song.mp3", transferred := 2, total := 2, done := true })
      ∈ ProgressObserver.new.updates bothAtOnce ∧
    ¬ RightlyNamed photoAndSong bothAtOnce :=
  ⟨interleaved_bothAtOnce, by decide, by decide⟩

/-! ### Pushes of the mock backend -/

namespace MockBackend

/-- A push that was not refused leaves the whole stream of its transfer in the log. -/
theorem run_stream_of_pushSession {known : List DeviceId} {table : AList fun _ : UInt64 => DeviceId}
    {conn : Connection} {file : OutboundFile} {log : List Label}
    {r : Except TransportError TransferReceipt} (h : PushSession known table conn file log r) :
    log = [] ∨ (Transfer.mk file.name file.len conn.peer).stream.Run .waiting log .ended := by
  obtain ⟨-, hnil, -⟩ | ⟨-, -, hnil, -⟩ | ⟨-, -, sizes, closing, rfl, hclosing⟩ := h
  · exact .inl hnil
  · exact .inl hnil
  · set t := Transfer.mk file.name file.len conn.peer with ht
    have hstart : t.stream.next .waiting (conn.peer, .transferStarted file.name file.len)
        = some .running := by
      simp only [Transfer.stream, ht, and_self, if_true]
    have hchunk (n : UInt64) :
        t.stream.next .running (conn.peer, .dataChunk .outbound n) = some .running := if_pos rfl
    have hprogress (transferred : UInt64) :
        t.stream.next .running (conn.peer, .transferProgress transferred file.len)
          = some .running := by
      simp only [Transfer.stream, ht, if_true]
    have hclosed : t.stream.next .running (conn.peer, closing) = some .ended := by
      obtain ⟨receipt, -, rfl⟩ | ⟨transferred, reason, -, rfl⟩ := hclosing
      · exact if_pos rfl
      · exact if_pos rfl
    have hchunks : t.stream.Run .running (chunkLog conn.peer file.len sizes) .running := by
      -- On the chunks: each is a chunk and its progress, with the transfer running.
      induction sizes with
      | nil => exact .nil _
      | cons size sizes ih => exact .cons (hchunk size.1) (.cons (hprogress size.2) ih)
    exact .inr (.cons hstart (hchunks.append (.cons hclosed (.nil _))))

section Run

variable {ι : Type} [DecidableEq ι] {α : ι → Type} {w : Pool mockSteps MockState α}

/-- The events that the observer is handed, each with the operation that hands it over. -/
def handedTrace (w : Pool mockSteps MockState α) : List (ι × TransitEvent) :=
  w.trace.filterMap fun p => (events.handed p.2).map (Prod.mk p.1)

end Run

/-- **Pushes of a mock backend** send their streams interleaved. -/
theorem interleaved_of_run {backend : MockBackend} {devices : List MockDevice} {ι : Type}
    [DecidableEq ι] {conns : ι → Connection} {files : ι → OutboundFile}
    {steps : List (ι × PairingResponse)}
    {w : Pool mockSteps MockState fun i => (MockOp.pushFile (conns i) (files i)).Result}
    (hrun : (system fun i => .pushFile (conns i) (files i)).Run
      (backend.start devices fun i => .pushFile (conns i) (files i)) steps w) :
    Interleaved (fun i => ⟨(files i).name, (files i).len, (conns i).peer⟩) (handedTrace w) := by
  intro i
  have hown : own (handedTrace w) i = events.handedBy (own w.trace i) := own_filterMap _ _ i
  rw [hown]
  change ∃ phase, Lts.Run _ _ (log w i) phase
  by_cases hbegun : own w.trace i = []
  · rw [log, hbegun]
    exact ⟨_, .nil _⟩
  obtain ⟨w₁, session, r, -, hsession, hlog, -⟩ := exists_session hrun i hbegun
  obtain hnil | hstream := run_stream_of_pushSession hsession
  · rw [hnil] at hlog
    rw [List.prefix_nil.mp hlog]
    exact ⟨_, .nil _⟩
  · obtain ⟨rest, rfl⟩ := hlog
    obtain ⟨phase, hfirst, -⟩ := Lts.run_append.mp hstream
    exact ⟨phase, hfirst⟩

end MockBackend

end Pax
