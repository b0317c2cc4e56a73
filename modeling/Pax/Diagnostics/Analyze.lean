import Pax.Diagnostics.Metrics
import Mathlib.Data.String.Basic
import Pax.Framework.SortedMap

/-!
# The analyzer

`pax-diagnostics/src/analyze.rs`: a captured event stream, its totals, its breakdown along a
dimension and the anomalies in it. The analyzer holds the events sorted by sequence number, which
is an invariant of its type, as is that a `Vec` of them has fewer than `2 ^ 63` elements.

The breakdown is one pass over the stream with an ordered map of accumulators, the total is another
pass with one accumulator, and the anomalies are a third with a classification of their own. The
three agree: `Partitions` says how the buckets make up the stream, and `length_anomalies` how
many anomalies there are. The one thing that does not add up by itself is the byte counter, which
may wrap in the total while it does not in the buckets.
-/

namespace Pax

/-- A `Vec` of events. A vector of a type of non-zero size has fewer than `2 ^ 63` elements. -/
abbrev EventVec := { events : List TransitEvent // events.length < 2 ^ 63 }

/-- A grouping of events along one dimension. -/
structure Breakdown where
  dimension : SplitBy
  buckets : SortedMap String Metrics

/-- A single flagged concern. -/
structure Anomaly where
  code : String
  detail : String
  seq : UInt64
  deriving DecidableEq, Repr

/-- The events under analysis, sorted by sequence number. -/
structure Analyzer where
  events : List TransitEvent
  fits : events.length < 2 ^ 63
  sorted : events.Pairwise (·.seq ≤ ·.seq)

/-- A complete diagnostic report. -/
structure DiagnosticReport where
  total : Metrics
  byController : Breakdown
  bySpec : Breakdown
  byTransport : Breakdown
  byRadioStandard : Breakdown
  byPortAuth : Breakdown
  byEventKind : Breakdown
  byPeer : Breakdown
  anomalies : List Anomaly

/-- The order that `sort_by_key` compares by. Events with the same number keep their order, as
the sort is stable. -/
def seqLe (e₁ e₂ : TransitEvent) : Prop := e₁.seq ≤ e₂.seq

instance : DecidableRel seqLe := fun e₁ e₂ => inferInstanceAs (Decidable (e₁.seq ≤ e₂.seq))

instance : Std.Total seqLe := ⟨fun e₁ e₂ => UInt64.le_total e₁.seq e₂.seq⟩

instance : IsTrans TransitEvent seqLe := ⟨fun _ _ _ h₁ h₂ => UInt64.le_trans h₁ h₂⟩

namespace Analyzer

/-- Build an analyzer from owned events, sorting them stably by sequence number. -/
def new (events : EventVec) : Analyzer where
  events := events.1.insertionSort seqLe
  fits := by
    rw [List.length_insertionSort]
    exact events.2
  sorted := List.pairwise_insertionSort seqLe events.1

/-- How many events are under analysis. -/
def eventCount (a : Analyzer) : ℕ := a.events.length

/-- Summary metrics across the whole stream. -/
def total (a : Analyzer) : Metrics := Metrics.fromEvents a.events

/-- Group the stream along a dimension, in one pass: each event is recorded in the bucket of its
label, which starts out empty. -/
def breakdown (a : Analyzer) (dimension : SplitBy) : Breakdown :=
  { dimension
    buckets := Grouping.groupFold dimension.key Metrics.record Metrics.default a.events }

/-- The anomaly an event is flagged as, if it is. A warning is flagged under its own code. -/
def anomaly (e : TransitEvent) : Option Anomaly :=
  let peer := e.origin.peer.display
  let ctrl := e.origin.local'.label
  match e.kind with
  | .error detail =>
    some { code := "error"
           detail := detail ++ " (peer " ++ peer ++ ", controller " ++ ctrl ++ ")"
           seq := e.seq }
  | .pairingFailed reason =>
    some { code := "pairing-failed", detail := reason ++ " (peer " ++ peer ++ ")", seq := e.seq }
  | .warning code detail =>
    some { code, detail := detail ++ " (peer " ++ peer ++ ")", seq := e.seq }
  | _ => none

/-- Every failure and warning in the stream. -/
def anomalies (a : Analyzer) : List Anomaly := a.events.filterMap anomaly

/-- The full multi-dimension report. -/
def report (a : Analyzer) : DiagnosticReport :=
  { total := a.total
    byController := a.breakdown .controller
    bySpec := a.breakdown .spec
    byTransport := a.breakdown .transport
    byRadioStandard := a.breakdown .radioStandard
    byPortAuth := a.breakdown .portAuth
    byEventKind := a.breakdown .eventKind
    byPeer := a.breakdown .peer
    anomalies := a.anomalies }

/-! ### Buckets -/

/-- The events of a stream that fall into a bucket. -/
def inBucket (d : SplitBy) (label : String) (events : List TransitEvent) : List TransitEvent :=
  events.filter (d.key · = label)

theorem lookup_breakdown (a : Analyzer) (d : SplitBy) (label : String) :
    (a.breakdown d).buckets.lookup label
      = if inBucket d label a.events = [] then none
        else some (Metrics.fromEvents (inBucket d label a.events)) :=
  Grouping.lookup_groupFold d.key Metrics.record Metrics.default a.events label

/-- A bucket is the summary of its own events, of which there is at least one. -/
theorem bucket_eq {a : Analyzer} {d : SplitBy} {label : String} {m : Metrics}
    (h : (label, m) ∈ (a.breakdown d).buckets.entries) :
    inBucket d label a.events ≠ [] ∧ m = Metrics.fromEvents (inBucket d label a.events) := by
  have hlookup := SortedMap.lookup_eq_some_iff.mpr h
  rw [lookup_breakdown] at hlookup
  split_ifs at hlookup with hnil
  exact ⟨hnil, (Option.some.inj hlookup).symm⟩

/-- A reading of the buckets that weighs their events adds up to the weight of the stream. -/
theorem sum_buckets (a : Analyzer) (d : SplitBy) (read : Metrics → ℕ) {weight : TransitEvent → ℕ}
    (hread : ∀ label, read (Metrics.fromEvents (inBucket d label a.events))
      = ((inBucket d label a.events).map weight).sum) :
    ((a.breakdown d).buckets.entries.map fun p => read p.2).sum = (a.events.map weight).sum := by
  -- The entries of the map are the groups, each with the summary of its own events.
  rw [← Grouping.sum_groups d.key Metrics.record Metrics.default weight a.events]
  congr 1
  apply List.map_congr_left
  rintro ⟨label, m⟩ hmem
  obtain ⟨-, rfl⟩ := bucket_eq hmem
  exact hread label

theorem length_inBucket_lt (a : Analyzer) (d : SplitBy) (label : String) :
    (inBucket d label a.events).length < 2 ^ 64 :=
  lt_of_le_of_lt (List.length_filter_le _ _) (lt_trans a.fits (by norm_num))

theorem payload_inBucket_le (a : Analyzer) (d : SplitBy) (label : String) :
    Metrics.payload (inBucket d label a.events) ≤ Metrics.payload a.events :=
  (List.filter_sublist.map _).sum_le_sum fun _ _ => Nat.zero_le _

/-- A count is a sum of weights, so that counts are added over the buckets as payloads are. -/
theorem countP_eq_sum (p : TransitEvent → Bool) (l : List TransitEvent) :
    l.countP p = (l.map fun e => if p e then 1 else 0).sum := by
  induction l with
  | nil => rfl
  | cons e l ih =>
    rw [List.countP_cons, List.map_cons, List.sum_cons, ih, Nat.add_comm]

theorem length_eq_sum (l : List TransitEvent) : l.length = (l.map fun _ => 1).sum := by
  simp

/-! ### The partition -/

/-- The buckets of a breakdown make up the stream: each is the summary of exactly the events with
its label, each event is in one and no bucket is empty, and counts and extreme timestamps over the
buckets are those of the total. -/
structure Partitions (a : Analyzer) (d : SplitBy) : Prop where
  bucket : ∀ label m, (a.breakdown d).buckets.lookup label = some m →
    m = Metrics.fromEvents (inBucket d label a.events)
  covered : ∀ e ∈ a.events, ∃ m, (a.breakdown d).buckets.lookup (d.key e) = some m
  inhabited : ∀ label m, (a.breakdown d).buckets.lookup label = some m →
    m.events ≠ 0 ∧ ∃ e ∈ a.events, d.key e = label
  events : ((a.breakdown d).buckets.entries.map fun p => p.2.events.toNat).sum
    = a.total.events.toNat
  failures : ((a.breakdown d).buckets.entries.map fun p => p.2.failures.toNat).sum
    = a.total.failures.toNat
  warnings : ((a.breakdown d).buckets.entries.map fun p => p.2.warnings.toNat).sum
    = a.total.warnings.toNat
  first : ((a.breakdown d).buckets.entries.filterMap fun p => p.2.firstAt).min? = a.total.firstAt
  last : ((a.breakdown d).buckets.entries.filterMap fun p => p.2.lastAt).max? = a.total.lastAt
  ordered : ∀ label m, (a.breakdown d).buckets.lookup label = some m →
    ∃ first last, m.firstAt = some first ∧ m.lastAt = some last ∧ first ≤ last

theorem first_buckets (a : Analyzer) (d : SplitBy) :
    ((a.breakdown d).buckets.entries.filterMap fun p => p.2.firstAt).min? = a.total.firstAt := by
  -- The earliest event of the stream is the earliest of its bucket.
  have hgroups := Grouping.extreme_groups d.key Metrics.record Metrics.default List.min? (· ≤ ·)
    (fun _ _ => List.min?_eq_some_iff) (fun _ h => Option.isSome_iff_exists.mp
      (List.isSome_min?_of_ne_nil h)) TransitEvent.at' a.events
  unfold total
  rw [Metrics.firstAt_fromEvents, ← hgroups]
  congr 1
  apply List.filterMap_congr
  rintro ⟨label, m⟩ hmem
  obtain ⟨-, rfl⟩ := bucket_eq hmem
  exact Metrics.firstAt_fromEvents _

theorem last_buckets (a : Analyzer) (d : SplitBy) :
    ((a.breakdown d).buckets.entries.filterMap fun p => p.2.lastAt).max? = a.total.lastAt := by
  -- As above, with the order turned round.
  have hgroups := Grouping.extreme_groups d.key Metrics.record Metrics.default List.max? (· ≥ ·)
    (fun _ _ => List.max?_eq_some_iff) (fun _ h => Option.isSome_iff_exists.mp
      (List.isSome_max?_of_ne_nil h)) TransitEvent.at' a.events
  unfold total
  rw [Metrics.lastAt_fromEvents, ← hgroups]
  congr 1
  apply List.filterMap_congr
  rintro ⟨label, m⟩ hmem
  obtain ⟨-, rfl⟩ := bucket_eq hmem
  exact Metrics.lastAt_fromEvents _

/-- **Every breakdown partitions the stream**, along every dimension. -/
theorem partitions (a : Analyzer) (d : SplitBy) : Partitions a d := by
  -- A vector is short enough for the 64-bit counters of events not to wrap.
  have hfits : a.events.length < 2 ^ 64 := lt_trans a.fits (by norm_num)
  have hentry : ∀ {label m}, (a.breakdown d).buckets.lookup label = some m →
      inBucket d label a.events ≠ [] ∧ m = Metrics.fromEvents (inBucket d label a.events) :=
    fun h => bucket_eq (SortedMap.lookup_eq_some_iff.mp h)
  exact
    { bucket := fun label m h => (hentry h).2
      covered := by
        intro e he
        have hne : inBucket d (d.key e) a.events ≠ [] :=
          List.ne_nil_of_mem (List.mem_filter.mpr ⟨he, decide_eq_true rfl⟩)
        rw [lookup_breakdown, if_neg hne]
        exact ⟨_, rfl⟩
      inhabited := by
        intro label m h
        obtain ⟨hne, rfl⟩ := hentry h
        refine ⟨fun hzero => hne ?_, ?_⟩
        · -- the counter is the number of events
          have hlen := Metrics.toNat_events (length_inBucket_lt a d label)
          rw [hzero] at hlen
          exact List.length_eq_zero_iff.mp hlen.symm
        · obtain ⟨e, he⟩ := List.exists_mem_of_ne_nil _ hne
          obtain ⟨hmem, hkey⟩ := List.mem_filter.mp he
          exact ⟨e, hmem, of_decide_eq_true hkey⟩
      -- the counts of the buckets add up, each being the number of its events of the kind
      events := calc
        _ = (a.events.map fun _ => 1).sum := sum_buckets a d (·.events.toNat) fun label =>
            (Metrics.toNat_events (length_inBucket_lt a d label)).trans (length_eq_sum _)
        _ = a.events.length := (length_eq_sum _).symm
        _ = a.total.events.toNat := (Metrics.toNat_events hfits).symm
      failures := calc
        _ = (a.events.map fun e => if e.kind.isFailure then 1 else 0).sum :=
            sum_buckets a d (·.failures.toNat) fun label =>
              (Metrics.toNat_failures (length_inBucket_lt a d label)).trans (countP_eq_sum _ _)
        _ = a.events.countP fun e => e.kind.isFailure := (countP_eq_sum _ _).symm
        _ = a.total.failures.toNat := (Metrics.toNat_failures hfits).symm
      warnings := calc
        _ = (a.events.map fun e => if e.isWarning then 1 else 0).sum :=
            sum_buckets a d (·.warnings.toNat) fun label =>
              (Metrics.toNat_warnings (length_inBucket_lt a d label)).trans (countP_eq_sum _ _)
        _ = a.events.countP TransitEvent.isWarning := (countP_eq_sum _ _).symm
        _ = a.total.warnings.toNat := (Metrics.toNat_warnings hfits).symm
      first := first_buckets a d
      last := last_buckets a d
      ordered := by
        intro label m h
        obtain ⟨hne, rfl⟩ := hentry h
        exact Metrics.firstAt_le_lastAt hne }

/-- The byte counters of the buckets add up to the payload of the stream while that fits 64
bits. -/
theorem sum_bytes (a : Analyzer) (d : SplitBy) (hbytes : Metrics.payload a.events < 2 ^ 64) :
    ((a.breakdown d).buckets.entries.map fun p => p.2.bytes.toNat).sum = a.total.bytes.toNat := by
  -- A bucket has no more payload than the stream, so its counter does not wrap either.
  have hread : ∀ label, (Metrics.fromEvents (inBucket d label a.events)).bytes.toNat
      = ((inBucket d label a.events).map fun e => e.kind.payloadBytes.toNat).sum :=
    fun label => Metrics.toNat_bytes (lt_of_le_of_lt (payload_inBucket_le a d label) hbytes)
  calc
    _ = Metrics.payload a.events := sum_buckets a d (·.bytes.toNat) hread
    _ = a.total.bytes.toNat := (Metrics.toNat_bytes hbytes).symm

/-! ### Anomalies -/

/-- A failure or a warning. -/
def isConcern (e : TransitEvent) : Bool := e.kind.isFailure || e.isWarning

/-- An event is flagged exactly when it is a failure or a warning, and under its own number. -/
theorem map_seq_anomaly (e : TransitEvent) :
    (anomaly e).map Anomaly.seq = if isConcern e then some e.seq else none := by
  obtain ⟨seq, at', origin, kind⟩ := e
  cases kind <;>
    simp [anomaly, isConcern, TransitEvent.isWarning, TransitEventKind.isFailure,
      TransitEventKind.label]

/-- **One anomaly for each concern**, in the order of the events. -/
theorem map_seq_anomalies (a : Analyzer) :
    a.anomalies.map Anomaly.seq = (a.events.filter isConcern).map TransitEvent.seq := by
  unfold anomalies
  -- Both sides are one `filterMap` over the events, so it is enough to look at one event.
  rw [List.map_filterMap, ← List.filterMap_eq_map, List.filterMap_filter]
  exact List.filterMap_congr fun e _ => map_seq_anomaly e

/-- No event is both a failure and a warning, so that the concerns are as many as the two
together. -/
theorem countP_isConcern (l : List TransitEvent) :
    l.countP isConcern
      = l.countP (fun e => e.kind.isFailure) + l.countP TransitEvent.isWarning := by
  induction l with
  | nil => rfl
  | cons e l ih =>
    -- The labels of failures and warnings differ, so an event counts once.
    have hone : (if isConcern e then 1 else 0)
        = (if e.kind.isFailure then 1 else 0) + (if e.isWarning then 1 else 0) := by
      obtain ⟨seq, at', origin, kind⟩ := e
      cases kind <;>
        simp [isConcern, TransitEvent.isWarning, TransitEventKind.isFailure,
          TransitEventKind.label]
    rw [List.countP_cons, List.countP_cons, List.countP_cons, ih, hone]
    omega

/-- The anomalies are as many as the total has failures and warnings. -/
theorem length_anomalies (a : Analyzer) :
    a.anomalies.length = a.total.failures.toNat + a.total.warnings.toNat := by
  have hfits : a.events.length < 2 ^ 64 := lt_trans a.fits (by norm_num)
  unfold total
  rw [Metrics.toNat_failures hfits, Metrics.toNat_warnings hfits, ← countP_isConcern,
    List.countP_eq_length_filter, ← List.length_map TransitEvent.seq, ← map_seq_anomalies,
    List.length_map]

/-- The anomalies are in the order of their numbers, since the events are. -/
theorem pairwise_anomalies (a : Analyzer) :
    (a.anomalies.map Anomaly.seq).Pairwise (· ≤ ·) := by
  rw [map_seq_anomalies]
  exact List.pairwise_map.mpr (a.sorted.filter isConcern)

/-- The analyzer holds the events it was given, each as often as it was given. -/
theorem perm_new (v : EventVec) : (new v).events.Perm v.1 := List.perm_insertionSort seqLe v.1

/-- **The analyzer's three passes agree.** For every list of events and every dimension the buckets
of the breakdown partition the stream and add up to the total, the byte counters among them as long
as the payload of the stream fits 64 bits. The anomalies are one for each failing or warning event,
in the order of the sequence numbers, and as many as the total counts; and the total of a non-empty
stream has its first timestamp before its last. -/
theorem breakdown_exact (v : EventVec) (d : SplitBy) :
    Partitions (new v) d ∧
      (Metrics.payload v.1 < 2 ^ 64 →
        (((new v).breakdown d).buckets.entries.map fun p => p.2.bytes.toNat).sum
          = (new v).total.bytes.toNat) ∧
      (new v).anomalies.length = (new v).total.failures.toNat + (new v).total.warnings.toNat ∧
      (new v).anomalies.map Anomaly.seq
        = ((new v).events.filter isConcern).map TransitEvent.seq ∧
      ((new v).anomalies.map Anomaly.seq).Pairwise (· ≤ ·) ∧
      (v.1 ≠ [] → ∃ first last, (new v).total.firstAt = some first ∧
        (new v).total.lastAt = some last ∧ first ≤ last) := by
  have hperm := perm_new v
  refine ⟨partitions (new v) d, ?_, length_anomalies (new v), map_seq_anomalies (new v),
    pairwise_anomalies (new v), ?_⟩
  · intro hbytes
    -- The payload of the sorted stream is that of the list given.
    apply sum_bytes (new v) d
    rwa [Metrics.payload, (hperm.map _).sum_eq]
  · intro hne
    apply Metrics.firstAt_le_lastAt
    intro hnil
    rw [hnil] at hperm
    exact hne hperm.symm.eq_nil

/-! ### The byte counter wraps -/

/-- A data chunk of `2 ^ 63` bytes over a transport. -/
def hugeChunk (seq : UInt64) (transport : Transport) : TransitEvent :=
  { seq
    at' := ⟨0⟩
    origin :=
      { local' := ControllerModel.virtualModel "mock-0"
        peer := DeviceId.pub BdAddr.nil
        spec := ⟨.v5_2, transport⟩
        standards := StandardsProfile.bredrDefault }
    kind := .dataChunk .outbound (UInt64.ofNat (2 ^ 63)) }

/-- Two chunks of `2 ^ 63` bytes, one over each transport: their payload is just what does not
fit. -/
def hugeStream : EventVec := ⟨[hugeChunk 0 .brEdr, hugeChunk 1 .le], by decide⟩

/-- Each bucket counts `2 ^ 63` bytes, and the total counts none: without a bound on the payload
the byte counters do not add up. -/
theorem hugeStream_bytes :
    (((new hugeStream).breakdown .transport).buckets.entries.map fun p => p.2.bytes.toNat).sum
        = 2 ^ 64 ∧
      (new hugeStream).total.bytes.toNat = 0 := by
  decide

end Analyzer

end Pax
