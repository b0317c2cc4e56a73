import Pax.Core.Event

/-!
# Split dimensions and metrics

`pax-diagnostics/src/metrics.rs`. A dimension maps an event to the label of its bucket
(`SplitBy.key`), and `Metrics` is the running summary of the events of a bucket. The counters are
64-bit and wrap.

`Metrics.record` is an accumulator; `summary` says what it accumulates: counts, a sum and the
earliest and latest timestamp of the events seen. `fromEvents_eq` is that the two agree for every
list of events, so everything else about metrics is a fact about counts, sums and minima.
-/

namespace Pax

/-- An axis to split an event stream along. -/
inductive SplitBy where
  | controller
  | spec
  | transport
  | radioStandard
  | portAuth
  | eventKind
  | peer
  deriving DecidableEq, Repr

namespace SplitBy

/-- A human title for the dimension. -/
def title : SplitBy → String
  | .controller => "Controller hardware"
  | .spec => "Bluetooth specification"
  | .transport => "Transport"
  | .radioStandard => "IEEE 802.15.x radio standard"
  | .portAuth => "IEEE 802.1X port-auth state"
  | .eventKind => "Event kind"
  | .peer => "Peer device"

/-- The label of the bucket an event belongs to. -/
def key (d : SplitBy) (event : TransitEvent) : String :=
  match d with
  | .controller => event.origin.local'.label
  | .spec => event.origin.spec.display
  | .transport => event.origin.spec.transport.display
  | .radioStandard => event.origin.standards.radio.dotted
  | .portAuth => event.origin.standards.portAuth.display
  | .eventKind => event.kind.label
  | .peer => event.origin.peer.display

end SplitBy

/-- A summary of a set of events. The counters are those of the source, and wrap. -/
structure Metrics where
  events : UInt64
  bytes : UInt64
  failures : UInt64
  warnings : UInt64
  firstAt : Option Timestamp
  lastAt : Option Timestamp
  deriving DecidableEq, Repr

/-- Whether `record` counts an event as a warning: its label says so. -/
def TransitEvent.isWarning (e : TransitEvent) : Bool := e.kind.label = "warning"

namespace Metrics

/-- The summary of no events. -/
def default : Metrics :=
  { events := 0, bytes := 0, failures := 0, warnings := 0, firstAt := none, lastAt := none }

/-- Fold one event into the running summary. -/
def record (m : Metrics) (event : TransitEvent) : Metrics :=
  { events := m.events + 1
    bytes := m.bytes + event.kind.payloadBytes
    failures := if event.kind.isFailure then m.failures + 1 else m.failures
    warnings := if event.isWarning then m.warnings + 1 else m.warnings
    firstAt := some (match m.firstAt with
      | some t => min t event.at'
      | none => event.at')
    lastAt := some (match m.lastAt with
      | some t => max t event.at'
      | none => event.at') }

/-- Build a summary from events, one after the other in the order of the list. -/
def fromEvents (events : List TransitEvent) : Metrics := events.foldl record default

/-- The wall-time span covered by the events. -/
def span (m : Metrics) : Duration :=
  match m.firstAt, m.lastAt with
  | some a, some b => b.saturatingSince a
  | _, _ => Duration.zero

/-- Whether the events have a failure among them. -/
def hasFailures (m : Metrics) : Bool := 0 < m.failures

/-! ### What is accumulated -/

/-- The payload bytes of a list of events, as a natural number: the byte counter is this number
modulo `2 ^ 64`. -/
def payload (events : List TransitEvent) : ℕ := (events.map fun e => e.kind.payloadBytes.toNat).sum

/-- Counts, payload and extreme timestamps of a list of events, as functions of the whole list. -/
def summary (events : List TransitEvent) : Metrics :=
  { events := UInt64.ofNat events.length
    bytes := UInt64.ofNat (payload events)
    failures := UInt64.ofNat (events.countP fun e => e.kind.isFailure)
    warnings := UInt64.ofNat (events.countP TransitEvent.isWarning)
    firstAt := (events.map TransitEvent.at').min?
    lastAt := (events.map TransitEvent.at').max? }

theorem payload_append (l₁ l₂ : List TransitEvent) :
    payload (l₁ ++ l₂) = payload l₁ + payload l₂ := by
  unfold payload
  rw [List.map_append, List.sum_append]

/-- The minimum of a list with one more element. -/
theorem min?_concat (l : List Timestamp) (t : Timestamp) :
    (l ++ [t]).min? = some (match l.min? with | some s => min s t | none => t) := by
  cases l with
  | nil => rfl
  | cons s l => rw [List.cons_append, List.min?_cons', List.min?_cons', List.foldl_concat]

/-- The maximum of a list with one more element. -/
theorem max?_concat (l : List Timestamp) (t : Timestamp) :
    (l ++ [t]).max? = some (match l.max? with | some s => max s t | none => t) := by
  cases l with
  | nil => rfl
  | cons s l => rw [List.cons_append, List.max?_cons', List.max?_cons', List.foldl_concat]

/-- A counter that is stepped by the events a predicate holds of, with one more event. -/
theorem ofNat_countP_concat (p : TransitEvent → Bool) (l : List TransitEvent) (e : TransitEvent) :
    UInt64.ofNat ((l ++ [e]).countP p)
      = if p e then UInt64.ofNat (l.countP p) + 1 else UInt64.ofNat (l.countP p) := by
  -- `UInt64.ofNat` is additive, so the counter may wrap and the equation still holds.
  rw [List.countP_append, List.countP_singleton, UInt64.ofNat_add]
  split
  · rfl
  · exact UInt64.add_zero _

/-- Recording one more event steps the summary. -/
theorem record_summary (l : List TransitEvent) (e : TransitEvent) :
    (summary l).record e = summary (l ++ [e]) := by
  unfold summary record
  -- One rewrite for each field: two counters, two extremes, the payload and the length.
  rw [ofNat_countP_concat, ofNat_countP_concat, List.map_append, List.map_singleton, min?_concat,
    max?_concat, payload_append, List.length_append, UInt64.ofNat_add, UInt64.ofNat_add]
  simp only [payload, List.map_singleton, List.sum_singleton, UInt64.ofNat_toNat,
    List.length_singleton]
  rfl

/-- **What `fromEvents` computes.** The accumulator holds the summary of the events that it has
seen. -/
theorem fromEvents_eq (events : List TransitEvent) : fromEvents events = summary events := by
  -- Induction from the end, since `record` is applied to the last event last.
  induction events using List.reverseRecOn with
  | nil => rfl
  | append_singleton l e ih =>
    unfold fromEvents at ih ⊢
    rw [List.foldl_concat, ih, record_summary]

/-! ### Reading a summary off -/

theorem min?_perm {l₁ l₂ : List Timestamp} (h : l₁.Perm l₂) : l₁.min? = l₂.min? := by
  ext t
  rw [List.min?_eq_some_iff, List.min?_eq_some_iff, h.mem_iff]
  simp only [h.mem_iff]

theorem max?_perm {l₁ l₂ : List Timestamp} (h : l₁.Perm l₂) : l₁.max? = l₂.max? := by
  ext t
  rw [List.max?_eq_some_iff, List.max?_eq_some_iff, h.mem_iff]
  simp only [h.mem_iff]

/-- Summaries do not depend on the order of the events, since counts, sums and minima do not. -/
theorem fromEvents_perm {l₁ l₂ : List TransitEvent} (h : l₁.Perm l₂) :
    fromEvents l₁ = fromEvents l₂ := by
  rw [fromEvents_eq, fromEvents_eq]
  unfold summary payload
  -- Each field of a summary is a quantity that permutations leave alone.
  rw [h.length_eq, (h.map _).sum_eq, h.countP_eq, h.countP_eq, min?_perm (h.map _),
    max?_perm (h.map _)]

/-- A count below `2 ^ 64` is read back from its counter. -/
theorem toNat_ofNat64 {n : ℕ} (h : n < 2 ^ 64) : (UInt64.ofNat n).toNat = n := by
  rw [UInt64.toNat_ofNat']
  exact Nat.mod_eq_of_lt h

theorem toNat_events {l : List TransitEvent} (h : l.length < 2 ^ 64) :
    (fromEvents l).events.toNat = l.length := by
  rw [fromEvents_eq]
  exact toNat_ofNat64 h

theorem toNat_failures {l : List TransitEvent} (h : l.length < 2 ^ 64) :
    (fromEvents l).failures.toNat = l.countP fun e => e.kind.isFailure := by
  rw [fromEvents_eq]
  exact toNat_ofNat64 (lt_of_le_of_lt List.countP_le_length h)

theorem toNat_warnings {l : List TransitEvent} (h : l.length < 2 ^ 64) :
    (fromEvents l).warnings.toNat = l.countP TransitEvent.isWarning := by
  rw [fromEvents_eq]
  exact toNat_ofNat64 (lt_of_le_of_lt List.countP_le_length h)

theorem toNat_bytes {l : List TransitEvent} (h : payload l < 2 ^ 64) :
    (fromEvents l).bytes.toNat = payload l := by
  rw [fromEvents_eq]
  exact toNat_ofNat64 h

theorem firstAt_fromEvents (l : List TransitEvent) :
    (fromEvents l).firstAt = (l.map TransitEvent.at').min? := by
  rw [fromEvents_eq]
  rfl

theorem lastAt_fromEvents (l : List TransitEvent) :
    (fromEvents l).lastAt = (l.map TransitEvent.at').max? := by
  rw [fromEvents_eq]
  rfl

/-- **First before last.** A summary of at least one event has both timestamps, in order. -/
theorem firstAt_le_lastAt {l : List TransitEvent} (hne : l ≠ []) :
    ∃ first last, (fromEvents l).firstAt = some first ∧ (fromEvents l).lastAt = some last ∧
      first ≤ last := by
  have hne' : l.map TransitEvent.at' ≠ [] := fun h => hne (List.map_eq_nil_iff.mp h)
  obtain ⟨first, hfirst⟩ := Option.isSome_iff_exists.mp (List.isSome_min?_of_ne_nil hne')
  obtain ⟨last, hlast⟩ := Option.isSome_iff_exists.mp (List.isSome_max?_of_ne_nil hne')
  refine ⟨first, last, (firstAt_fromEvents l).trans hfirst, (lastAt_fromEvents l).trans hlast, ?_⟩
  -- the earliest timestamp is one of those the latest bounds
  exact (List.max?_eq_some_iff.mp hlast).2 first (List.min?_eq_some_iff.mp hfirst).1

end Metrics

end Pax
