import Pax.Framework.Lts
import Pax.Transport.Android.ScanLine

/-!
# Live inquiries

`startDiscovery`, `drain` and `stopDiscovery` of the companion `PaxBluetooth`, called in this order
by `live_discover` of `pax-transport/src/android.rs`, while the platform broadcasts what it finds.
The buffer outlives the inquiries, a call that fails returns before it has stopped, and what is
broadcast between the drain and the stop stays in the buffer.

`unmixed_iff` says in which runs each call obtains what is broadcast during its own inquiry, and
`unmixed_iff_of_sound` what is left of the condition where nothing fails: nothing is broadcast
between a drain and the stop after it. `obtained_by_next` is a run in which a result comes up in the
next inquiry.

A result has a number that the program does not know of, by which the results of one device are told
apart. That the numbers in the buffer are distinct holds in every run (`numbered_next`). That
inquiries do not mix is kept by the steps that are `Fine`, and by no others (`unmixed_next`,
`not_unmixed_next`).
-/

namespace Pax
namespace Android

/-- A result that is broadcast, with the number of broadcasts before it. The number is not in the
program; it tells results apart whose lines are the same. -/
structure Found where
  id : ℕ
  line : JString
  deriving DecidableEq, Repr

/-! ### The companion -/

/-- The static fields of `PaxBluetooth`, and what the platform knows of it. -/
structure Companion where
  /-- `FOUND`. -/
  found : List Found
  /-- Whether `receiver` is set. -/
  receiver : Bool
  /-- Whether the platform delivers broadcasts to it. -/
  registered : Bool
  deriving DecidableEq, Repr

namespace Companion

/-- `onReceive`, if the broadcast is delivered. -/
def onReceive (c : Companion) (b : Found) : Companion :=
  if c.registered then { c with found := c.found ++ [b] } else c

/-- The first part of `startDiscovery`: a receiver is registered unless one is set. -/
def register (c : Companion) : Companion :=
  if c.receiver then c else { c with receiver := true, registered := true }

/-- `drain`: the results so far are handed over, and the buffer is empty. -/
def drain (c : Companion) : List Found × Companion := (c.found, { c with found := [] })

/-- `stopDiscovery`. That the receiver is already unregistered is ignored. -/
def stopDiscovery (c : Companion) : Companion :=
  if c.receiver then { c with receiver := false, registered := false } else c

end Companion

/-! ### Calls -/

/-- What the first step of a call comes to. -/
inductive Start where
  /-- The thread is not attached, or there is no companion class. -/
  | unreached
  /-- `registerReceiver` throws, and leaves the field set. -/
  | registerThrows
  /-- The adapter throws. -/
  | inquiryThrows
  | ok
  deriving DecidableEq, Repr

/-- What the step after the wait comes to. -/
inductive Drain where
  /-- The thread is not attached, the class is not found, or the call is dropped as it waits. -/
  | unreached
  /-- `drain` throws, after it has taken some results from the buffer. -/
  | throws (polled : ℕ)
  | ok
  deriving DecidableEq, Repr

/-- What `stopDiscovery` comes to, which `live_discover` ignores. -/
inductive Stop where
  | throws
  | ok
  deriving DecidableEq, Repr

/-- What is broadcast between the start and the stop of a call, or its end if it does not come to
the stop, and what it obtains. -/
structure Inquiry where
  during : List Found
  obtained : List Found
  deriving DecidableEq, Repr

/-- **The call obtains the results of its own inquiry**: each of them once, and no others. -/
def Inquiry.Exact (i : Inquiry) : Prop := i.obtained.Nodup ∧ ∀ b, b ∈ i.obtained ↔ b ∈ i.during

/-- How far the call has come that is under way. -/
inductive Phase where
  | idle
  | waiting (during : List Found)
  | drained (i : Inquiry)
  | stopped (i : Inquiry)
  deriving DecidableEq, Repr

/-- A broadcast, as the call under way sees it. -/
def Phase.broadcast (b : Found) : Phase → Phase
  | .idle => .idle
  | .waiting during => .waiting (during ++ [b])
  | .drained i => .drained { i with during := i.during ++ [b] }
  | .stopped i => .stopped i

/-- The companion, the call under way, the calls before it and the number of broadcasts. -/
structure Scanner where
  companion : Companion
  phase : Phase
  finished : List Inquiry
  count : ℕ
  deriving DecidableEq, Repr

/-- A broadcast of a device, or a step of a call. -/
inductive ScanStep where
  | broadcast (line : JString)
  | start (outcome : Start)
  | drain (outcome : Drain)
  | stop (outcome : Stop)
  /-- The lines are read off the array, unless the JNI fails. -/
  | read (ok : Bool)
  deriving DecidableEq, Repr

namespace Scanner

def init : Scanner := ⟨⟨[], false, false⟩, .idle, [], 0⟩

/-- The call under way returns, with these results, and another one may begin. -/
def finish (s : Scanner) (companion : Companion) (i : Inquiry) : Scanner :=
  { s with companion := companion, phase := .idle, finished := s.finished ++ [i] }

/-- The first step of a call: the companion is asked to start the inquiry. -/
def start (s : Scanner) : Start → Option Scanner
  | .unreached => some (s.finish s.companion ⟨[], []⟩)
  | .registerThrows =>
    if s.companion.receiver then none
    else some (s.finish { s.companion with receiver := true } ⟨[], []⟩)
  | .inquiryThrows => some (s.finish s.companion.register ⟨[], []⟩)
  | .ok => some { s with companion := s.companion.register, phase := .waiting [] }

/-- The step after the wait: the companion is asked for its results. -/
def drain (s : Scanner) (during : List Found) : Drain → Scanner
  | .unreached => s.finish s.companion ⟨during, []⟩
  | .throws polled =>
    s.finish { s.companion with found := s.companion.found.drop polled } ⟨during, []⟩
  | .ok => { s with
      companion := s.companion.drain.2
      phase := .drained ⟨during, s.companion.drain.1⟩ }

/-- `stopDiscovery`, whose failure is ignored: the call goes on to its results. -/
def stop (s : Scanner) (i : Inquiry) : Stop → Scanner
  | .throws => { s with phase := .stopped i }
  | .ok => { s with companion := s.companion.stopDiscovery, phase := .stopped i }

/-- The lines are read, and all are dropped if one of the JNI calls for it throws. -/
def read (s : Scanner) (i : Inquiry) : Bool → Scanner
  | false => s.finish s.companion { i with obtained := [] }
  | true => s.finish s.companion i

/-- A result is broadcast. It gets the next number, and the receiver keeps it if there is one. -/
def broadcast (s : Scanner) (line : JString) : Scanner where
  companion := s.companion.onReceive ⟨s.count, line⟩
  phase := s.phase.broadcast ⟨s.count, line⟩
  finished := s.finished
  count := s.count + 1

/-- Calls of `live_discover`, one after the other, and the broadcasts. -/
def system : Lts Scanner ScanStep where
  next s
    | .broadcast line => some (s.broadcast line)
    | .start outcome => if s.phase = .idle then s.start outcome else none
    | .drain outcome =>
      match s.phase with
      | .waiting during => some (s.drain during outcome)
      | _ => none
    | .stop outcome =>
      match s.phase with
      | .drained i => some (s.stop i outcome)
      | _ => none
    | .read ok =>
      match s.phase with
      | .stopped i => some (s.read i ok)
      | _ => none

/-! ### What is obtained -/

/-- **Inquiries do not mix**: each call has obtained the results of its own inquiry. While the call
under way waits, those that have been broadcast are in the buffer. -/
structure Unmixed (s : Scanner) : Prop where
  finished : ∀ i ∈ s.finished, i.Exact
  waiting : ∀ during, s.phase = .waiting during → ∀ b ∈ during, b ∈ s.companion.found
  drained : ∀ i, s.phase = .drained i → i.Exact
  stopped : ∀ i, s.phase = .stopped i → i.Exact

/-- The condition on a step. A result is not broadcast between the drain and the stop, nor while a
call waits whose receiver is not registered. What is drained was broadcast in the same inquiry. And
a call fails after its start only if nothing was broadcast in its inquiry. -/
def Fine (s : Scanner) : ScanStep → Prop
  | .broadcast _ =>
    (∀ during, s.phase = .waiting during → s.companion.registered) ∧ ∀ i, s.phase ≠ .drained i
  | .start _ => True
  | .drain .ok => ∀ during, s.phase = .waiting during → ∀ b ∈ s.companion.found, b ∈ during
  | .drain _ => ∀ during, s.phase = .waiting during → during = []
  | .stop _ => True
  | .read ok => ∀ i, s.phase = .stopped i → ok = false → i.during = []

/-- The numbers in the buffer go up, and are all in use. -/
structure Numbered (s : Scanner) : Prop where
  nodup : s.companion.found.Nodup
  found_lt : ∀ b ∈ s.companion.found, b.id < s.count
  obtained_lt : ∀ i, s.phase = .drained i → ∀ b ∈ i.obtained, b.id < s.count

variable {s s' : Scanner} {a : ScanStep} {c : Companion} {b x : Found} {i : Inquiry}
  {during : List Found} {line : JString}

@[simp] theorem found_register : c.register.found = c.found := by
  rw [Companion.register]
  split_ifs <;> rfl

@[simp] theorem found_stopDiscovery : c.stopDiscovery.found = c.found := by
  rw [Companion.stopDiscovery]
  split_ifs <;> rfl

theorem found_onReceive :
    (c.onReceive b).found = if c.registered then c.found ++ [b] else c.found := by
  rw [Companion.onReceive]
  split_ifs <;> rfl

/-- Nothing is broadcast, and nothing obtained. -/
theorem exact_nil : Inquiry.Exact ⟨[], []⟩ := ⟨.nil, fun _ => .rfl⟩

theorem exact_obtained_nil : Inquiry.Exact ⟨during, []⟩ ↔ during = [] := by
  constructor
  · intro h
    exact List.eq_nil_iff_forall_not_mem.mpr fun b hb => List.not_mem_nil ((h.2 b).mpr hb)
  · rintro rfl
    exact exact_nil

theorem broadcast_eq_waiting {p : Phase} {during' : List Found}
    (h : p.broadcast b = .waiting during') :
    ∃ during, p = .waiting during ∧ during' = during ++ [b] := by
  cases p with
  | waiting during => exact ⟨during, rfl, (Phase.waiting.inj h).symm⟩
  | idle => cases h
  | drained i => cases h
  | stopped i => cases h

theorem broadcast_eq_drained {p : Phase} (h : p.broadcast b = .drained i) :
    ∃ j, p = .drained j ∧ i = { j with during := j.during ++ [b] } := by
  cases p with
  | drained j => exact ⟨j, rfl, (Phase.drained.inj h).symm⟩
  | idle => cases h
  | waiting during => cases h
  | stopped j => cases h

theorem broadcast_eq_stopped {p : Phase} (h : p.broadcast b = .stopped i) : p = .stopped i := by
  cases p with
  | stopped j => exact h
  | idle => cases h
  | waiting during => cases h
  | drained j => cases h

/-- When a call returns, what it has obtained is judged as that of the calls before it. -/
theorem unmixed_finish :
    (s.finish c i).Unmixed ↔ (∀ j ∈ s.finished, j.Exact) ∧ i.Exact := by
  constructor
  · intro h
    refine ⟨fun j hj => h.finished j (List.mem_append_left _ hj), h.finished i ?_⟩
    exact List.mem_append_right _ (List.mem_singleton_self i)
  · rintro ⟨hfinished, hi⟩
    refine ⟨fun j hj => ?_, nofun, nofun, nofun⟩
    rcases List.mem_append.mp hj with hj | hj
    · exact hfinished j hj
    · exact List.mem_singleton.mp hj ▸ hi

theorem numbered_finish (h : s.Numbered) (hc : c.found.Sublist s.companion.found) :
    (s.finish c i).Numbered where
  nodup := h.nodup.sublist hc
  found_lt b hb := h.found_lt b (hc.subset hb)
  obtained_lt := nofun

/-- What a step does, kind by kind, with the condition under which it can be taken. -/
inductive Next (s : Scanner) : ScanStep → Scanner → Prop
  | broadcast (line : JString) : Next s (.broadcast line) (s.broadcast line)
  | failed (outcome : Start) (c : Companion) (hidle : s.phase = .idle) (houtcome : outcome ≠ .ok)
    (hc : c.found = s.companion.found) : Next s (.start outcome) (s.finish c ⟨[], []⟩)
  | started (hidle : s.phase = .idle) :
    Next s (.start .ok) { s with companion := s.companion.register, phase := .waiting [] }
  | drain (outcome : Drain) (during : List Found) (hphase : s.phase = .waiting during) :
    Next s (.drain outcome) (s.drain during outcome)
  | stop (outcome : Stop) (i : Inquiry) (hphase : s.phase = .drained i) :
    Next s (.stop outcome) (s.stop i outcome)
  | read (ok : Bool) (i : Inquiry) (hphase : s.phase = .stopped i) :
    Next s (.read ok) (s.read i ok)

theorem next_of_eq_some (h : system.next s a = some s') : Next s a s' := by
  -- By the label: each but a broadcast is possible in one phase only.
  cases a with
  | broadcast line =>
    obtain rfl := Option.some.inj h
    exact .broadcast line
  | start outcome =>
    have hidle : s.phase = .idle := by
      by_contra hne
      exact absurd ((if_neg hne).symm.trans h) nofun
    have hstart : s.start outcome = some s' := (if_pos hidle).symm.trans h
    cases outcome with
    | unreached =>
      obtain rfl := Option.some.inj hstart
      exact .failed _ _ hidle nofun rfl
    | registerThrows =>
      rw [start] at hstart
      split_ifs at hstart
      obtain rfl := Option.some.inj hstart
      exact .failed _ _ hidle nofun rfl
    | inquiryThrows =>
      obtain rfl := Option.some.inj hstart
      exact .failed _ _ hidle nofun found_register
    | ok =>
      obtain rfl := Option.some.inj hstart
      exact .started hidle
  | drain outcome =>
    simp only [system] at h
    split at h
    · next during hphase =>
      obtain rfl := Option.some.inj h
      exact .drain outcome during hphase
    · cases h
  | stop outcome =>
    simp only [system] at h
    split at h
    · next i hphase =>
      obtain rfl := Option.some.inj h
      exact .stop outcome i hphase
    · cases h
  | read ok =>
    simp only [system] at h
    split at h
    · next i hphase =>
      obtain rfl := Option.some.inj h
      exact .read ok i hphase
    · cases h

/-- The next result is a new one, as far as the buffer is concerned. -/
theorem not_mem_found (h : s.Numbered) : (⟨s.count, line⟩ : Found) ∉ s.companion.found :=
  fun hb => absurd (h.found_lt _ hb) (lt_irrefl s.count)

/-- The buffer is numbered in every state. -/
theorem numbered_next (h : s.Numbered) (hnext : system.next s a = some s') : s'.Numbered := by
  -- By the step: only a broadcast makes a new number, and all others hand lines on.
  cases next_of_eq_some hnext with
  | broadcast line =>
    have hfound := found_onReceive (c := s.companion) (b := ⟨s.count, line⟩)
    refine ⟨?_, fun b hb => ?_, fun i hi b hb => ?_⟩
    · change (s.companion.onReceive ⟨s.count, line⟩).found.Nodup
      rw [hfound]
      split_ifs
      · rw [← List.concat_eq_append, List.nodup_concat]
        exact ⟨not_mem_found h, h.nodup⟩
      · exact h.nodup
    · change b ∈ (s.companion.onReceive ⟨s.count, line⟩).found at hb
      rw [hfound] at hb
      split_ifs at hb
      · rcases List.mem_append.mp hb with hb | hb
        · exact Nat.lt_succ_of_lt (h.found_lt b hb)
        · exact List.mem_singleton.mp hb ▸ Nat.lt_succ_self _
      · exact Nat.lt_succ_of_lt (h.found_lt b hb)
    · obtain ⟨j, hj, rfl⟩ := broadcast_eq_drained hi
      exact Nat.lt_succ_of_lt (h.obtained_lt j hj b hb)
  | failed outcome c hidle houtcome hc => exact numbered_finish h (hc ▸ .refl _)
  | started hidle =>
    refine ⟨?_, fun b hb => h.found_lt b ?_, nofun⟩
    · exact found_register (c := s.companion) ▸ h.nodup
    · exact found_register (c := s.companion) ▸ hb
  | drain outcome during hphase =>
    cases outcome with
    | unreached => exact numbered_finish h (.refl _)
    | throws polled => exact numbered_finish h (List.drop_sublist _ _)
    | ok =>
      refine ⟨.nil, nofun, ?_⟩
      rintro i ⟨⟩ b hb
      exact h.found_lt b hb
  | stop outcome i hphase =>
    cases outcome with
    | throws => exact ⟨h.nodup, h.found_lt, nofun⟩
    | ok =>
      refine ⟨?_, fun b hb => h.found_lt b ?_, nofun⟩
      · exact found_stopDiscovery (c := s.companion) ▸ h.nodup
      · exact found_stopDiscovery (c := s.companion) ▸ hb
  | read ok i hphase =>
    cases ok with
    | false => exact numbered_finish h (.refl _)
    | true => exact numbered_finish h (.refl _)

/-- **A fine step keeps inquiries apart.** -/
theorem unmixed_next (hJ : s.Numbered) (h : s.Unmixed) (hfine : s.Fine a)
    (hnext : system.next s a = some s') : s'.Unmixed := by
  -- By the step: what is fine about it is what keeps the lines of two scans apart.
  cases next_of_eq_some hnext with
  | broadcast line =>
    refine ⟨h.finished, fun during' hd b hb => ?_, fun i hi => ?_, fun i hi => ?_⟩
    · obtain ⟨during, hphase, rfl⟩ := broadcast_eq_waiting hd
      change b ∈ (s.companion.onReceive ⟨s.count, line⟩).found
      rw [found_onReceive, if_pos (hfine.1 during hphase), List.mem_append]
      exact (List.mem_append.mp hb).imp_left (h.waiting during hphase b)
    · obtain ⟨j, hphase, -⟩ := broadcast_eq_drained hi
      exact absurd hphase (hfine.2 j)
    · exact h.stopped i (broadcast_eq_stopped hi)
  | failed outcome c hidle houtcome hc => exact unmixed_finish.mpr ⟨h.finished, exact_nil⟩
  | started hidle =>
    refine ⟨h.finished, ?_, nofun, nofun⟩
    rintro during ⟨⟩
    exact nofun
  | drain outcome during hphase =>
    cases outcome with
    | unreached =>
      exact unmixed_finish.mpr ⟨h.finished, exact_obtained_nil.mpr (hfine during hphase)⟩
    | throws polled =>
      exact unmixed_finish.mpr ⟨h.finished, exact_obtained_nil.mpr (hfine during hphase)⟩
    | ok =>
      refine ⟨h.finished, nofun, ?_, nofun⟩
      rintro i ⟨⟩
      exact ⟨hJ.nodup, fun b => ⟨hfine during hphase b, h.waiting during hphase b⟩⟩
  | stop outcome i hphase =>
    have hexact := h.drained i hphase
    cases outcome with
    | throws => exact ⟨h.finished, nofun, nofun, fun j hj => Phase.stopped.inj hj ▸ hexact⟩
    | ok => exact ⟨h.finished, nofun, nofun, fun j hj => Phase.stopped.inj hj ▸ hexact⟩
  | read ok i hphase =>
    cases ok with
    | false =>
      exact unmixed_finish.mpr ⟨h.finished, exact_obtained_nil.mpr (hfine i hphase rfl)⟩
    | true => exact unmixed_finish.mpr ⟨h.finished, h.stopped i hphase⟩

/-- **Any other step mixes them up**: a call that has returned has obtained too much or too
little, or the call under way will. -/
theorem not_unmixed_next (hJ : s.Numbered) (hfine : ¬ s.Fine a)
    (hnext : system.next s a = some s') : ¬ s'.Unmixed := by
  intro h
  apply hfine
  cases next_of_eq_some hnext with
  | broadcast line =>
    refine ⟨fun during hphase => ?_, fun i hphase => ?_⟩
    -- the result has not been added to the buffer
    · by_contra hunregistered
      have hphase' : (s.broadcast line).phase = .waiting (during ++ [⟨s.count, line⟩]) :=
        congrArg (Phase.broadcast _) hphase
      have hb := h.waiting _ hphase' ⟨s.count, line⟩
        (List.mem_append_right _ (List.mem_singleton_self _))
      change _ ∈ (s.companion.onReceive ⟨s.count, line⟩).found at hb
      rw [found_onReceive, if_neg hunregistered] at hb
      exact not_mem_found hJ hb
    -- nor has the call obtained it, which has drained the buffer
    · have hphase' : (s.broadcast line).phase =
          .drained { i with during := i.during ++ [⟨s.count, line⟩] } :=
        congrArg (Phase.broadcast _) hphase
      have hb := ((h.drained _ hphase').2 ⟨s.count, line⟩).mpr
        (List.mem_append_right _ (List.mem_singleton_self _))
      exact absurd (hJ.obtained_lt i hphase _ hb) (lt_irrefl s.count)
  | failed outcome c hidle houtcome hc => trivial
  | started hidle => trivial
  | drain outcome during hphase =>
    have hsame (during' : List Found) (hphase' : s.phase = .waiting during') : during' = during :=
      Phase.waiting.inj (hphase'.symm.trans hphase)
    cases outcome with
    | unreached =>
      intro during' hphase'
      exact hsame during' hphase' ▸ exact_obtained_nil.mp (unmixed_finish.mp h).2
    | throws polled =>
      intro during' hphase'
      exact hsame during' hphase' ▸ exact_obtained_nil.mp (unmixed_finish.mp h).2
    | ok =>
      intro during' hphase' b hb
      exact hsame during' hphase' ▸ (h.drained _ rfl).2 b |>.mp hb
  | stop outcome i hphase => trivial
  | read ok i hphase =>
    rintro j hphase' rfl
    obtain rfl := Phase.stopped.inj (hphase.symm.trans hphase')
    exact exact_obtained_nil.mp (unmixed_finish.mp h).2

theorem numbered_init : init.Numbered := ⟨.nil, nofun, nofun⟩

theorem unmixed_init : init.Unmixed := ⟨nofun, nofun, nofun, nofun⟩

/-- **When live inquiries do not mix**, in any state of a run: if and only if every step of the run
is fine. -/
theorem unmixed_iff {steps : List ScanStep} (h : system.Run init steps s) :
    system.Throughout Unmixed init steps ↔ system.Meets Fine init steps :=
  h.throughout_iff_meets (fun _ _ _ => numbered_next) (fun _ _ _ => unmixed_next)
    (fun _ _ _ => not_unmixed_next) numbered_init unmixed_init

/-- The line of a device without a name: there is nothing between its bars. -/
def speaker : JString := units "00:00:00:00:00:00||-57"

/-- A call that obtains what is broadcast while it waits, and nothing else. -/
theorem unmixed_iff_speaker :
    let steps : List ScanStep :=
      [.start .ok, .broadcast speaker, .drain .ok, .stop .ok, .read true]
    system.Run init steps
      ⟨⟨[], false, false⟩, .idle, [⟨[⟨0, speaker⟩], [⟨0, speaker⟩]⟩], 1⟩ ∧
      (system.Throughout Unmixed init steps ↔ system.Meets Fine init steps) := by
  have hrun : system.Run init
      [.start .ok, .broadcast speaker, .drain .ok, .stop .ok, .read true]
      ⟨⟨[], false, false⟩, .idle, [⟨[⟨0, speaker⟩], [⟨0, speaker⟩]⟩], 1⟩ := rfl
  exact ⟨hrun, unmixed_iff hrun⟩

/-- What is broadcast between the drain and the stop is lost to the call, and obtained by the next
one. -/
theorem obtained_by_next :
    system.Run init [.start .ok, .drain .ok, .broadcast speaker, .stop .ok, .read true, .start .ok,
        .drain .ok, .stop .ok, .read true]
      ⟨⟨[], false, false⟩, .idle, [⟨[⟨0, speaker⟩], []⟩, ⟨[], [⟨0, speaker⟩]⟩], 1⟩ ∧
    ¬ ∀ steps s, system.Run init steps s → s.Unmixed := by
  have hrun : system.Run init [.start .ok, .drain .ok, .broadcast speaker, .stop .ok, .read true,
      .start .ok, .drain .ok, .stop .ok, .read true]
      ⟨⟨[], false, false⟩, .idle, [⟨[⟨0, speaker⟩], []⟩, ⟨[], [⟨0, speaker⟩]⟩], 1⟩ := rfl
  refine ⟨hrun, fun h => ?_⟩
  have hexact := (h _ _ hrun).finished _ List.mem_cons_self
  exact absurd (exact_obtained_nil.mp hexact) nofun

/-! ### Calls that do not fail -/

/-- The step gets through: nothing throws, and no call is dropped. -/
def Sound : ScanStep → Prop
  | .broadcast _ => True
  | .start outcome => outcome = .ok
  | .drain outcome => outcome = .ok
  | .stop outcome => outcome = .ok
  | .read ok => ok = true

/-- Nothing is broadcast between the drain and the stop. -/
def Prompt (s : Scanner) : ScanStep → Prop
  | .broadcast _ => ∀ i, s.phase ≠ .drained i
  | _ => True

/-- The receiver is registered while a call waits, and the buffer has what is broadcast then. -/
def Clean (s : Scanner) : Prop :=
  s.companion.registered = s.companion.receiver ∧
    match s.phase with
    | .idle | .stopped _ => s.companion.registered = false ∧ s.companion.found = []
    | .waiting during => s.companion.registered = true ∧ ∀ b ∈ s.companion.found, b ∈ during
    | .drained _ => s.companion.found = []

theorem clean_init : init.Clean := ⟨rfl, rfl, rfl⟩

theorem Clean.waiting (h : s.Clean) (hphase : s.phase = .waiting during) :
    s.companion.registered = true ∧ ∀ b ∈ s.companion.found, b ∈ during := by
  have hw := h.2
  rwa [hphase] at hw

theorem fine_of_prompt (h : s.Clean) (hsound : Sound a) (hprompt : s.Prompt a) : s.Fine a := by
  cases a with
  | broadcast line => exact ⟨fun during hphase => (h.waiting hphase).1, hprompt⟩
  | start outcome => trivial
  | drain outcome =>
    obtain rfl : outcome = .ok := hsound
    exact fun during hphase => (h.waiting hphase).2
  | stop outcome => trivial
  | read ok =>
    obtain rfl : ok = true := hsound
    exact fun _ _ hfalse => nomatch hfalse

theorem prompt_of_fine (h : s.Fine a) : s.Prompt a := by
  cases a with
  | broadcast line => exact h.2
  | start outcome => trivial
  | drain outcome => trivial
  | stop outcome => trivial
  | read ok => trivial

theorem onReceive_of_not (h : c.registered = false) : c.onReceive b = c := by
  rw [Companion.onReceive, if_neg (h ▸ Bool.false_ne_true)]

theorem clean_broadcast (h : s.Clean) (hprompt : ∀ i, s.phase ≠ .drained i) :
    (s.broadcast line).Clean := by
  obtain ⟨hreceiver, hphase⟩ := h
  rw [Clean, Scanner.broadcast]
  -- The companion takes a line only while the scan that has registered it is waiting.
  cases hp : s.phase with
  | idle =>
    rw [hp] at hphase
    rw [onReceive_of_not hphase.1]
    exact ⟨hreceiver, hphase⟩
  | waiting during =>
    rw [hp] at hphase
    rw [Companion.onReceive, if_pos hphase.1]
    refine ⟨hreceiver, hphase.1, fun b hb => List.mem_append.mpr ?_⟩
    exact (List.mem_append.mp hb).imp_left (hphase.2 b)
  | drained i => exact absurd hp (hprompt i)
  | stopped i =>
    rw [hp] at hphase
    rw [onReceive_of_not hphase.1]
    exact ⟨hreceiver, hphase⟩

/-- Calls that do not fail leave neither a receiver nor results behind. -/
theorem clean_next (h : s.Clean) (hsound : Sound a) (hprompt : s.Prompt a)
    (hnext : system.next s a = some s') : s'.Clean := by
  obtain ⟨hreceiver, hphase⟩ := id h
  cases next_of_eq_some hnext with
  | broadcast line => exact clean_broadcast h hprompt
  | failed outcome c hidle houtcome hc => exact absurd hsound houtcome
  | started hidle =>
    rw [hidle] at hphase
    -- The receiver was free, so that registering sets it and empties the list.
    have hfree : s.companion.receiver = false := hreceiver ▸ hphase.1
    have hregister :
        s.companion.register = { s.companion with receiver := true, registered := true } :=
      if_neg (hfree ▸ Bool.false_ne_true)
    rw [Clean, hregister]
    refine ⟨rfl, rfl, fun b hb => ?_⟩
    change b ∈ s.companion.found at hb
    rwa [hphase.2] at hb
  | drain outcome during hp =>
    obtain rfl : outcome = .ok := hsound
    exact ⟨hreceiver, rfl⟩
  | stop outcome i hp =>
    obtain rfl : outcome = .ok := hsound
    rw [hp] at hphase
    rw [stop, Companion.stopDiscovery]
    split_ifs with hset
    · exact ⟨rfl, rfl, hphase⟩
    · exact ⟨hreceiver, hreceiver.trans (Bool.eq_false_of_not_eq_true hset), hphase⟩
  | read ok i hp =>
    obtain rfl : ok = true := hsound
    rw [hp] at hphase
    exact ⟨hreceiver, hphase⟩

/-- **Where nothing fails, inquiries do not mix** if and only if nothing is broadcast between a
drain and the stop after it. -/
theorem unmixed_iff_of_sound {steps : List ScanStep} (h : system.Run init steps s)
    (hsound : ∀ a ∈ steps, Sound a) :
    system.Throughout Unmixed init steps ↔ system.Meets Prompt init steps := by
  rw [unmixed_iff h]
  refine ⟨fun hfine => hfine.mono fun _ _ => prompt_of_fine, fun hprompt => ?_⟩
  exact hprompt.mono_of_invariant (fun _ _ => fine_of_prompt) (fun _ _ _ => clean_next) hsound
    clean_init

end Scanner
end Android
end Pax
