import Pax.Framework.Alone
import Pax.Transport.ChunkSizes
import Pax.Transport.Mock.Runs

/-!
# What a push on the mock comes to

A push on a live link, with no other operation in between: which bytes and chunks it reports, in its
receipt and by its events, and which virtual time it takes.

The loop over the chunks is described first (`Through`): pieces of the file go through until one
would exceed the limit of the device. That the pieces are cut evenly then turns the counts into
multiples of the chunk size, which gives the result and the events in closed form (`Account`,
`account_of_alone`).

The duration in the receipt is a difference of two readings of a 128-bit clock. It is the time that
was charged unless the clock has come round in between (`push_account`), and `slow_push_is_short` is
a push in which it does.
-/

namespace Pax
namespace MockBackend

open Chunking (runningTotals)
open Program (Alone alone_ask alone_bind alone_call_bind alone_done)

/-- The count that a progress event carries. -/
def progressCount : TransitEventKind → Option ℕ
  | .transferProgress transferred _ => some transferred.toNat
  | _ => none

/-- The counts that were reported, in order. -/
def progressCounts (events : List TransitEvent) : List ℕ :=
  events.filterMap fun event => progressCount event.kind

/-- The event that is stamped next, in this state. -/
def nextEvent (origin : EventOrigin) (kind : TransitEventKind) (s : MockState) : TransitEvent :=
  { seq := s.seq, at' := ⟨s.clockNs⟩, origin, kind }

/-- An event has been stamped and handed to the observer. -/
def emitted (origin : EventOrigin) (kind : TransitEventKind) (dt : Duration) (s : MockState) :
    MockState :=
  { s with
    seq := s.seq + 1
    clockNs := (s.clockNs + dt.nanos) % 2 ^ 128
    observed := s.observed ++ [nextEvent origin kind s] }

variable {α : Type} {s s' : MockState}

/-- With nothing in between, the observer has the event before anything else happens. -/
theorem alone_emit_bind {origin : EventOrigin} {kind : TransitEventKind} {dt : Duration}
    {rest : Unit → Steps α} {a : α} :
    Alone serve (emit origin kind dt >>= rest) s a s'
      ↔ Alone serve (rest ()) (emitted origin kind dt s) a s' := by
  constructor
  · intro h
    obtain ⟨_, hstamped⟩ := alone_call_bind.mp h
    obtain ⟨_, hhanded⟩ := alone_call_bind.mp hstamped
    exact hhanded
  · intro h
    exact alone_ask.mpr ⟨.cancel, alone_ask.mpr ⟨.cancel, h⟩⟩

/-! ### The loop over the chunks -/

variable {device : MockDevice} {pieces before after : List (List UInt8)} {piece : List UInt8}
  {transferred chunks : UInt64} {r : Except TransportError (UInt64 × UInt64)}
  {events : List TransitEvent}

/-- What the loop does with the pieces, `transferred` bytes and `chunks` chunks being through: the
pieces `before` go through as well, those `after` do not. -/
structure Through (device : MockDevice) (pieces : List (List UInt8)) (transferred chunks : UInt64)
    (s : MockState) (r : Except TransportError (UInt64 × UInt64)) (s' : MockState)
    (before after : List (List UInt8)) (events : List TransitEvent) : Prop where
  split : pieces = before ++ after
  observed : s'.observed = s.observed ++ events
  sizes : (chunkSizes events).sum = before.flatten.length
  counts : progressCounts events = runningTotals transferred.toNat before
  completed : completedSizes events = []
  clock : after = [] →
    s'.clockNs = (s.clockNs + before.length * device.perChunkLatency.nanos) % 2 ^ 128
  within : before ≠ [] → ∀ limit ∈ device.transferFailureAfter,
    transferred.toNat + before.flatten.length ≤ limit.toNat
  result : (after = [] ∧ r = .ok (transferred + UInt64.ofNat before.flatten.length,
      chunks + UInt64.ofNat before.length)) ∨
    ∃ limit piece rest, device.transferFailureAfter = some limit ∧ after = piece :: rest ∧
      limit.toNat < transferred.toNat + before.flatten.length + piece.length ∧
      r = .error (.transferFailed (transferred + UInt64.ofNat before.flatten.length)
        (linkFailure limit))

/-- What a chunk adds to the count, if that does not exceed 64 bits. -/
theorem toNat_add_length (hfits : transferred.toNat + piece.length < 2 ^ 64) :
    (transferred + UInt64.ofNat piece.length).toNat = transferred.toNat + piece.length := by
  rw [UInt64.toNat_add, UInt64.toNat_ofNat', Nat.add_mod_mod, Nat.mod_eq_of_lt hfits]

theorem Through.done (h : s.clockNs < 2 ^ 128) :
    Through device [] transferred chunks s (.ok (transferred, chunks)) s [] [] [] where
  split := rfl
  observed := (List.append_nil _).symm
  sizes := rfl
  counts := rfl
  completed := rfl
  clock _ := by rw [List.length_nil, Nat.zero_mul, Nat.add_zero, Nat.mod_eq_of_lt h]
  within hne := absurd rfl hne
  result := by
    refine .inl ⟨rfl, ?_⟩
    show _ = Except.ok (transferred + 0, chunks + 0)
    rw [UInt64.add_zero, UInt64.add_zero]

/-- The limit cuts the first piece off: the loop ends with the error. -/
theorem Through.cut {limit : UInt64} (hlimit : device.transferFailureAfter = some limit)
    (hover : limit.toNat < transferred.toNat + piece.length) (origin : EventOrigin)
    (dt : Duration) :
    Through device (piece :: pieces) transferred chunks s
      (.error (.transferFailed transferred (linkFailure limit)))
      (emitted origin (.error (linkFailure limit)) dt s) [] (piece :: pieces)
      [nextEvent origin (.error (linkFailure limit)) s] where
  split := rfl
  observed := rfl
  sizes := rfl
  counts := rfl
  completed := rfl
  clock hnil := absurd hnil (List.cons_ne_nil _ _)
  within hne := absurd rfl hne
  result := by
    refine .inr ⟨limit, piece, pieces, hlimit, rfl, hover, ?_⟩
    show _ = Except.error (TransportError.transferFailed (transferred + 0) (linkFailure limit))
    rw [UInt64.add_zero]

/-- The first piece goes through: it is reported by two events, and the loop goes on with the
others. -/
theorem Through.chunk (hfits : transferred.toNat + piece.length < 2 ^ 64)
    (hwithin : ∀ limit ∈ device.transferFailureAfter,
      transferred.toNat + piece.length ≤ limit.toNat) {origin : EventOrigin} {total : UInt64}
    {chunk progress : TransitEventKind}
    (hchunk : chunk = .dataChunk .outbound (.ofNat piece.length))
    (hprogress : progress = .transferProgress (transferred + .ofNat piece.length) total)
    (h : Through device pieces (transferred + .ofNat piece.length) (chunks + 1)
      (emitted origin progress .zero (emitted origin chunk device.perChunkLatency s)) r s' before
      after events) :
    Through device (piece :: pieces) transferred chunks s r s' (piece :: before) after
      (nextEvent origin chunk s
        :: nextEvent origin progress (emitted origin chunk device.perChunkLatency s)
        :: events) := by
  subst hchunk hprogress
  have hn : (UInt64.ofNat piece.length).toNat = piece.length := by
    rw [UInt64.toNat_ofNat', Nat.mod_eq_of_lt (by omega)]
  have hsum := toNat_add_length hfits
  have hflatten : (piece :: before).flatten.length = piece.length + before.flatten.length := by
    rw [List.flatten_cons, List.length_append]
  have hafter : transferred + UInt64.ofNat piece.length + UInt64.ofNat before.flatten.length
      = transferred + UInt64.ofNat (piece :: before).flatten.length := by
    rw [hflatten, UInt64.ofNat_add, UInt64.add_assoc]
  -- neither of the two events is a completed transfer, so that part is the same
  refine ⟨congrArg (piece :: ·) h.split, ?_, ?_, ?_, h.completed, ?_, ?_, ?_⟩
  · rw [h.observed]
    simp only [emitted, List.append_assoc]
    rfl
  · show (UInt64.ofNat piece.length).toNat + (chunkSizes events).sum = _
    rw [hn, h.sizes, hflatten]
  · show (transferred + UInt64.ofNat piece.length).toNat :: progressCounts events = _
    rw [h.counts, hsum]
    rfl
  · intro hnil
    -- the chunk takes the latency, and the report of it no time
    rw [h.clock hnil]
    show ((((s.clockNs + device.perChunkLatency.nanos) % 2 ^ 128) + 0) % 2 ^ 128
      + before.length * device.perChunkLatency.nanos) % 2 ^ 128 = _
    rw [Nat.add_zero, Nat.mod_mod, Nat.mod_add_mod, List.length_cons, Nat.succ_mul]
    congr 1
    omega
  · intro _ limit hlimit
    -- the last piece that went through is this one, or a later one
    cases before with
    | nil =>
      rw [hflatten]
      exact hwithin limit hlimit
    | cons next before =>
      have hle := h.within (List.cons_ne_nil _ _) limit hlimit
      omega
  · rcases h.result with ⟨hnil, hr⟩ | ⟨limit, last, rest, hlimit, hrest, hover, hr⟩
    · refine .inl ⟨hnil, ?_⟩
      rw [hr, hafter, List.length_cons, Nat.add_comm before.length, UInt64.ofNat_add,
        UInt64.add_assoc]
      rfl
    · refine .inr ⟨limit, last, rest, hlimit, hrest, ?_, ?_⟩
      · omega
      · rw [hr, hafter]

/-- **What the loop comes to** on its own, from any count that it has got to. -/
theorem through_of_alone {origin : EventOrigin} {total : UInt64}
    (hfits : transferred.toNat + pieces.flatten.length < 2 ^ 64) (hclock : s.clockNs < 2 ^ 128)
    (h : Alone serve (pushChunks device origin total pieces transferred chunks) s r s') :
    ∃ before after events, Through device pieces transferred chunks s r s' before after events := by
  -- Induction on the pieces: the first one goes through, or is the one that the limit cuts off.
  induction pieces generalizing transferred chunks s with
  | nil =>
    obtain ⟨rfl, rfl⟩ := alone_done.mp h
    exact ⟨[], [], [], .done hclock⟩
  | cons piece pieces ih =>
    rw [List.flatten_cons, List.length_append] at hfits
    have hpiece : transferred.toNat + piece.length < 2 ^ 64 := by omega
    have hsum := toNat_add_length hpiece
    rw [pushChunks] at h
    -- the limit is looked at before the chunk is sent
    split at h
    next limit hlimit =>
      obtain ⟨hlimit, hover⟩ := Option.filter_eq_some_iff.mp hlimit
      rw [decide_eq_true_eq, UInt64.lt_iff_toNat_lt, hsum] at hover
      have hend := alone_emit_bind.mp h
      obtain ⟨rfl, rfl⟩ := alone_done.mp hend
      exact ⟨_, _, _, .cut hlimit hover origin step⟩
    next hlimit =>
      have hwithin : ∀ limit ∈ device.transferFailureAfter,
          transferred.toNat + piece.length ≤ limit.toNat := by
        intro limit hmem
        have hle := Option.filter_eq_none_iff.mp hlimit limit hmem
        rw [decide_eq_true_eq, UInt64.not_lt, UInt64.le_iff_toNat_le, hsum] at hle
        exact hle
      have hchunk := alone_emit_bind.mp h
      have hprogress := alone_emit_bind.mp hchunk
      obtain ⟨before, after, events, hthrough⟩ :=
        ih (by rw [hsum]; omega) (Nat.mod_lt _ (by norm_num)) hprogress
      exact ⟨_, _, _, hthrough.chunk hpiece hwithin rfl rfl⟩

/-! ### The pieces of a file -/

section Slices

variable {size : ℕ} {data : List UInt8}

theorem flatten_sliceChunks (size : ℕ) (data : List UInt8) :
    (sliceChunks size data).flatten = data := by
  cases data with
  | nil => rfl
  | cons b data => exact Chunking.flatten_chunks size size _

theorem length_sliceChunks (hsize : 0 < size) :
    (sliceChunks size data).length = data.length ⌈/⌉ size := by
  cases data with
  | nil =>
    rw [List.length_nil, zero_ceilDiv]
    rfl
  | cons b data =>
    have h := Chunking.length_chunks size (List.cons_ne_nil b data)
    rwa [Nat.max_eq_left hsize] at h

/-- All of a file fits in one chunk. -/
theorem sliceChunks_of_le (hne : data ≠ [])
    (hle : data.length ≤ max size 1) : sliceChunks size data = [data] := by
  cases data with
  | nil => exact absurd rfl hne
  | cons b data => exact Chunking.chunks_of_le hle size

/-- The totals are multiples of the size, up to the length of the file. -/
theorem runningTotals_sliceChunks (hsize : 0 < size) :
    runningTotals 0 (sliceChunks size data)
      = (List.range (data.length ⌈/⌉ size)).map fun k => min ((k + 1) * size) data.length := by
  rw [← length_sliceChunks hsize]
  cases data with
  | nil => rfl
  | cons b data =>
    have h := Chunking.runningTotals_chunks size 0 (b :: data)
    simp only [Nat.max_eq_left hsize, Nat.zero_add] at h
    exact h

/-- Before any piece stand full ones, and it is no larger than they are. -/
theorem length_before (hsize : 0 < size) (h : sliceChunks size data = before ++ piece :: after) :
    before.flatten.length = size * before.length ∧ piece.length ≤ size := by
  cases data with
  | nil => exact absurd h.symm (List.append_ne_nil_of_right_ne_nil _ (List.cons_ne_nil _ _))
  | cons b data =>
    -- only the last piece can be shorter
    have hfull := Chunking.length_of_mem_before h
    have hpiece := Chunking.length_le_of_mem_chunks le_rfl piece
      (h ▸ List.mem_append_right before List.mem_cons_self)
    rw [Nat.max_eq_left hsize] at hfull hpiece
    refine ⟨?_, hpiece⟩
    rw [List.length_flatten, List.sum_eq_card_nsmul _ size, List.length_map, smul_eq_mul,
      Nat.mul_comm]
    intro n hn
    obtain ⟨c, hc, rfl⟩ := List.mem_map.mp hn
    exact hfull c hc

end Slices

/-! ### A push as a whole -/

/-- The bytes of a full chunk. -/
def fullChunk (device : MockDevice) : ℕ := max device.chunkSize.toNat 1

theorem fullChunk_pos (device : MockDevice) : 0 < fullChunk device :=
  lt_max_of_lt_right Nat.one_pos

/-- What a push reports, by its result and by its events. -/
structure Account (device : MockDevice) (file : OutboundFile) (events : List TransitEvent)
    (r : Except TransportError TransferReceipt) : Prop where
  ok_iff : (∃ receipt, r = .ok receipt) ↔
    ∀ limit ∈ device.transferFailureAfter, file.bytes.length ≤ limit.toNat
  completed : ∀ receipt, r = .ok receipt →
    receipt.bytes.toNat = file.bytes.length ∧
    receipt.chunks.toNat = file.bytes.length ⌈/⌉ fullChunk device ∧
    (chunkSizes events).sum = file.bytes.length ∧
    progressCounts events = (List.range (file.bytes.length ⌈/⌉ fullChunk device)).map
      fun k => min ((k + 1) * fullChunk device) file.bytes.length
  failed : ∀ e, r = .error e → ∃ limit ∈ device.transferFailureAfter, ∃ transferred reason,
    e = .transferFailed transferred reason ∧
    transferred.toNat = fullChunk device * (limit.toNat / fullChunk device) ∧
    (chunkSizes events).sum = transferred.toNat ∧ completedSizes events = []

variable {conn : Connection} {file : OutboundFile} {peer : DeviceId}

/-- On a live link, the loop comes first between the start and the end of the transfer. -/
theorem alone_pushFile {r : Except TransportError TransferReceipt}
    (hlive : s.connections.lookup conn.token = some peer) (hdevice : s.find conn.peer = some device)
    (h : Alone serve (pushFile conn file) s r s') :
    ∃ pushed s₁, Alone serve (pushChunks device conn.origin file.len
        (sliceChunks (fullChunk device) file.bytes) 0 0)
        (emitted conn.origin (.transferStarted file.name file.len) step s) pushed s₁ ∧
      ((∃ e, pushed = .error e ∧ r = .error e ∧ s' = s₁) ∨
        ∃ transferred chunks duration, pushed = .ok (transferred, chunks) ∧
          duration = ⟨s₁.clockNs - s.clockNs⟩ ∧
          r = .ok { objectName := file.name, bytes := transferred, chunks, duration } ∧
          s' = emitted conn.origin (.transferCompleted transferred duration) step s₁) := by
  obtain ⟨answer, hchecked⟩ := alone_call_bind.mp h
  -- The link is there, and so is the device, so that the push goes on.
  have hcheck : serve (.checkLink conn) answer s = (.ok device, s) := by
    simp only [serve, hlive, hdevice]
  rw [hcheck] at hchecked
  obtain ⟨_, hstarted⟩ := alone_call_bind.mp hchecked
  have hemitted := alone_emit_bind.mp hstarted
  obtain ⟨pushed, s₁, hpushed, hend⟩ := alone_bind.mp hemitted
  refine ⟨pushed, s₁, hpushed, ?_⟩
  cases pushed with
  | error e =>
    obtain ⟨rfl, rfl⟩ := alone_done.mp hend
    exact .inl ⟨e, rfl, rfl, rfl⟩
  | ok counts =>
    obtain ⟨_, hfinish⟩ := alone_call_bind.mp hend
    have hlast := alone_emit_bind.mp hfinish
    obtain ⟨rfl, rfl⟩ := alone_done.mp hlast
    exact .inr ⟨counts.1, counts.2, _, rfl, rfl, rfl, rfl⟩

/-- A push that is let through as one chunk stamps four events: the start, the chunk, the progress
and the end. The receipt has the bytes of the file, and neither the devices nor the connections
change. -/
theorem alone_push_once {peer : DeviceId} (hlive : s.connections.lookup conn.token = some peer)
    (hdevice : s.find conn.peer = some device) (hlimit : device.transferFailureAfter = none)
    (hone : sliceChunks (fullChunk device) file.bytes = [file.bytes])
    {r : Except TransportError TransferReceipt} (h : Alone serve (pushFile conn file) s r s') :
    (∃ receipt, r = .ok receipt ∧ receipt.bytes = UInt64.ofNat file.bytes.length) ∧
      s'.devices = s.devices ∧ s'.connections = s.connections ∧
      s'.observed.length = s.observed.length + 4 := by
  obtain ⟨pushed, s₁, hpushed, hend⟩ := alone_pushFile hlive hdevice h
  rw [hone, pushChunks, hlimit] at hpushed
  -- The one piece is all of the file, and its two events are followed by the last one.
  have hchunk := alone_emit_bind.mp hpushed
  have hprogress := alone_emit_bind.mp hchunk
  obtain ⟨rfl, rfl⟩ := alone_done.mp hprogress
  obtain ⟨e, he, -⟩ | ⟨transferred, chunks, duration, hcounts, -, rfl, rfl⟩ := hend
  · cases he
  · cases hcounts
    refine ⟨⟨_, rfl, UInt64.zero_add _⟩, rfl, rfl, ?_⟩
    simp only [emitted, List.length_append, List.length_singleton]

/-- The loop was through with all of a file: the account of a push that succeeds. -/
theorem Through.completed_account {s₁ : MockState} {bytes count : UInt64}
    (h : Through device (sliceChunks (fullChunk device) file.bytes) 0 0 s (.ok (bytes, count)) s₁
      before after events) (hslice : file.bytes.length < 2 ^ 63) (t : MockState)
    (conn : Connection) (duration : Duration) :
    Account device file
        (nextEvent conn.origin (.transferStarted file.name file.len) t :: events
          ++ [nextEvent conn.origin (.transferCompleted bytes duration) s₁])
        (.ok { objectName := file.name, bytes, chunks := count, duration }) ∧
      s₁.clockNs = (s.clockNs + count.toNat * device.perChunkLatency.nanos) % 2 ^ 128 := by
  have hsize := fullChunk_pos device
  rcases h.result with ⟨rfl, hr⟩ | ⟨_, _, _, _, _, _, hr⟩
  case inr => cases hr
  cases hr
  have hsplit := h.split
  rw [List.append_nil] at hsplit
  have hbytes : before.flatten.length = file.bytes.length := by
    rw [← hsplit, flatten_sliceChunks]
  -- All pieces went through, and there are as many as the file has.
  have hlength : before.length = file.bytes.length ⌈/⌉ fullChunk device := by
    rw [← hsplit, length_sliceChunks hsize]
  -- there are no more chunks than bytes, so both counts fit
  have hle : before.length ≤ file.bytes.length := by
    rw [hlength, ceilDiv_le_iff_le_mul hsize]
    exact Nat.le_mul_of_pos_left _ hsize
  have hcount (n : ℕ) (hn : n ≤ file.bytes.length) : (0 + UInt64.ofNat n).toNat = n := by
    rw [UInt64.zero_add, UInt64.toNat_ofNat', Nat.mod_eq_of_lt (by omega)]
  refine ⟨⟨?_, ?_, ?_⟩, ?_⟩
  · refine iff_of_true ⟨_, rfl⟩ fun limit hlimit => ?_
    by_cases hnil : before = []
    · rw [← hbytes, hnil]
      exact Nat.zero_le _
    · have hwithin := h.within hnil limit hlimit
      rwa [UInt64.toNat_zero, Nat.zero_add, hbytes] at hwithin
  · rintro receipt hr
    cases hr
    refine ⟨?_, ?_, ?_, ?_⟩
    · rw [hcount _ hbytes.le, hbytes]
    · rw [hcount _ hle, hlength]
    · show (chunkSizes (events ++ [_])).sum = _
      rw [chunkSizes_append, List.sum_append, h.sizes, hbytes]
      rfl
    · show progressCounts (events ++ [_]) = _
      rw [progressCounts, List.filterMap_append, ← progressCounts, h.counts, ← hsplit]
      show runningTotals 0 _ ++ [] = _
      rw [List.append_nil, runningTotals_sliceChunks hsize]
  · rintro e he
    cases he
  · rw [h.clock rfl, hcount _ hle]

/-- The limit cut the file off: the account of a push that fails. -/
theorem Through.failed_account {s₁ : MockState} {e : TransportError}
    (h : Through device (sliceChunks (fullChunk device) file.bytes) 0 0 s (.error e) s₁ before
      after events) (hslice : file.bytes.length < 2 ^ 63) (t : MockState) (conn : Connection) :
    Account device file (nextEvent conn.origin (.transferStarted file.name file.len) t :: events)
      (.error e) := by
  have hsize := fullChunk_pos device
  rcases h.result with ⟨_, hr⟩ | ⟨limit, piece, rest, hlimit, rfl, hover, hr⟩
  case inl => cases hr
  cases hr
  rw [UInt64.toNat_zero, Nat.zero_add] at hover
  obtain ⟨hfull, hpiece⟩ := length_before hsize h.split
  have hlength : before.flatten.length + piece.length ≤ file.bytes.length := by
    have hsplit := congrArg (List.length ∘ List.flatten) h.split
    simp only [Function.comp_apply, flatten_sliceChunks, List.flatten_append, List.flatten_cons,
      List.length_append] at hsplit
    omega
  have hcount : (0 + UInt64.ofNat before.flatten.length).toNat = before.flatten.length := by
    rw [UInt64.zero_add, UInt64.toNat_ofNat', Nat.mod_eq_of_lt (by omega)]
  -- the full chunks before the limit are those that went through
  have hdiv : limit.toNat / fullChunk device = before.length := by
    apply Nat.div_eq_of_lt_le
    · rw [Nat.mul_comm, ← hfull]
      by_cases hnil : before = []
      · rw [hnil]
        exact Nat.zero_le _
      · have hwithin := h.within hnil limit hlimit
        rwa [UInt64.toNat_zero, Nat.zero_add] at hwithin
    · rw [Nat.succ_mul, Nat.mul_comm, ← hfull]
      omega
  refine ⟨?_, ?_, ?_⟩
  · refine iff_of_false ?_ fun hall => ?_
    · rintro ⟨receipt, hr⟩
      cases hr
    · have hle := hall limit hlimit
      omega
  · rintro receipt hr
    cases hr
  · rintro e he
    cases he
    refine ⟨limit, hlimit, _, _, rfl, ?_, ?_, h.completed⟩
    · rw [hcount, hfull, hdiv]
    · rw [hcount]
      exact h.sizes

/-- A clock that wraps shows the time that has passed just if it did not. -/
theorem mod_sub_eq_iff {start passed size : ℕ} (hpassed : 0 < passed) (hsize : 0 < size) :
    (start + passed) % size - start = passed ↔ start + passed < size := by
  have hlt := Nat.mod_lt (start + passed) hsize
  constructor
  · intro h
    omega
  · intro h
    rw [Nat.mod_eq_of_lt h, Nat.add_sub_cancel_left]

/-- **What a push on a live link comes to**: what its result and its events report, and the time
it is charged. -/
theorem account_of_alone {r : Except TransportError TransferReceipt}
    (hlive : s.connections.lookup conn.token = some peer) (hdevice : s.find conn.peer = some device)
    (hslice : file.bytes.length < 2 ^ 63) (h : Alone serve (pushFile conn file) s r s') :
    ∃ events, s'.observed = s.observed ++ events ∧ Account device file events r ∧
      ∀ receipt, r = .ok receipt → receipt.duration.nanos
        = (s.clockNs + (step.nanos + receipt.chunks.toNat * device.perChunkLatency.nanos)) % 2 ^ 128
          - s.clockNs := by
  obtain ⟨pushed, s₁, hpushed, hend⟩ := alone_pushFile hlive hdevice h
  -- The counts of the loop do not come round, the file being short enough.
  have hfits : (0 : UInt64).toNat + (sliceChunks (fullChunk device) file.bytes).flatten.length
      < 2 ^ 64 := by
    rw [flatten_sliceChunks, UInt64.toNat_zero]
    omega
  obtain ⟨before, after, events, hthrough⟩ :=
    through_of_alone hfits (Nat.mod_lt _ (by norm_num)) hpushed
  have hobserved : s₁.observed
      = s.observed ++ nextEvent conn.origin (.transferStarted file.name file.len) s :: events := by
    rw [hthrough.observed]
    simp only [emitted, List.append_assoc]
    rfl
  obtain ⟨e, rfl, rfl, rfl⟩ | ⟨bytes, count, duration, rfl, rfl, rfl, rfl⟩ := hend
  · refine ⟨_, hobserved, hthrough.failed_account hslice s conn, ?_⟩
    rintro receipt hr
    cases hr
  · obtain ⟨haccount, hclock⟩ :=
      hthrough.completed_account hslice s conn ⟨s₁.clockNs - s.clockNs⟩
    refine ⟨_, ?_, haccount, ?_⟩
    · show s₁.observed ++ [_] = _
      rw [hobserved, List.append_assoc]
    · rintro receipt hr
      cases hr
      show s₁.clockNs - s.clockNs = _
      rw [hclock]
      show ((s.clockNs + step.nanos) % 2 ^ 128 + _) % 2 ^ 128 - _ = _
      rw [Nat.mod_add_mod, Nat.add_assoc]

/-- **The account of a push on the mock.** A push on a live link to a scripted device, with no
other operation in between, returns, and its result and its events are as `Account` says. The
duration of a completed one is 1 ms and the latency of its chunks if and only if the virtual clock
stays below `2 ^ 128` nanoseconds. -/
theorem push_account {s : MockState} {conn : Connection} {file : OutboundFile} {device : MockDevice}
    {peer : DeviceId} (hlive : s.connections.lookup conn.token = some peer)
    (hdevice : s.find conn.peer = some device) (hslice : file.bytes.length < 2 ^ 63) :
    (∃ r s', Alone serve (pushFile conn file) s r s') ∧
      ∀ r s', Alone serve (pushFile conn file) s r s' →
        ∃ events, s'.observed = s.observed ++ events ∧ Account device file events r ∧
          ∀ receipt, r = .ok receipt →
            (receipt.duration.nanos
                = 1000000 + receipt.chunks.toNat * device.perChunkLatency.nanos ↔
              s.clockNs + 1000000 + receipt.chunks.toNat * device.perChunkLatency.nanos
                < 2 ^ 128) := by
  refine ⟨Program.exists_alone serve _ s, fun r s' h => ?_⟩
  obtain ⟨events, hobserved, haccount, hduration⟩ := account_of_alone hlive hdevice hslice h
  refine ⟨events, hobserved, haccount, fun receipt hr => ?_⟩
  -- The difference of the readings is the time that was charged, if that fits.
  rw [hduration receipt hr, Nat.add_assoc]
  show (s.clockNs + (1000000 + _)) % 2 ^ 128 - s.clockNs = 1000000 + _ ↔ _
  exact mod_sub_eq_iff (by omega) (by norm_num)

/-! ### Two devices -/

/-- A connection to the only device of a backend. -/
def firstLink (device : MockDevice) : Connection :=
  { peer := device.info.id, local' := quietBackend.controller, spec := device.spec
    standards := device.standards, token := 1 }

/-- The state of the backend with that connection. -/
def linkedTo (device : MockDevice) : MockState :=
  emitted (device.origin quietBackend.controller) .connected step
    { MockState.init [device] with
      nextToken := 2
      connections := (MockState.init [device]).connections.insert 1 device.info.id }

theorem find_init (device : MockDevice) :
    (MockState.init [device]).find device.info.id = some device :=
  List.find?_cons_of_pos (decide_eq_true rfl)

theorem find_linkedTo (device : MockDevice) :
    (linkedTo device).find device.info.id = some device :=
  find_init device

theorem lookup_linkedTo (device : MockDevice) :
    (linkedTo device).connections.lookup (firstLink device).token = some device.info.id :=
  AList.lookup_insert _

/-- It is the one that `connect` returns, in the state that it leaves. -/
theorem alone_connect {device : MockDevice} {r : Except TransportError Connection} :
    Alone serve (quietBackend.connect device.info.id) (.init [device]) r s'
      ↔ r = .ok (firstLink device) ∧ s' = linkedTo device := by
  -- The device is found in the first state, whatever is answered.
  have hfound (answer : PairingResponse) :
      (serve (.lookup device.info.id) answer (.init [device])).1 = some device := find_init device
  constructor
  · intro h
    obtain ⟨answer, hlooked⟩ := alone_ask.mp h
    rw [hfound answer] at hlooked
    obtain ⟨_, hopened⟩ := alone_ask.mp hlooked
    have hend := alone_emit_bind.mp hopened
    obtain ⟨rfl, rfl⟩ := alone_done.mp hend
    exact ⟨rfl, rfl⟩
  · rintro ⟨rfl, rfl⟩
    refine alone_ask.mpr ⟨.cancel, ?_⟩
    rw [hfound]
    exact alone_ask.mpr ⟨.cancel, alone_emit_bind.mpr (alone_done.mpr ⟨rfl, rfl⟩)⟩

/-- A note of three bytes. -/
def note : OutboundFile := { name := "note.txt", mimeType := none, bytes := [1, 2, 3] }

/-- A letter of eleven bytes. -/
def letter : OutboundFile :=
  { name := "letter.txt", mimeType := none, bytes := [1, 2, 3, 4, 5, 6, 7, 8, 9, 10, 11] }

/-- A phone that takes four bytes at a time, and no more than `limit` of them in all. -/
def smallPhone (limit : UInt64) : MockDevice :=
  { phone with chunkSize := 4, transferFailureAfter := some limit }

/-- The letter takes three chunks, the last one of three bytes. With room for twelve bytes it goes
through, in 4 ms. With room for ten, the first two chunks go through, and the third one fails. -/
theorem push_account_letter :
    (∃ receipt s' events,
      Alone serve (pushFile (firstLink (smallPhone 12)) letter) (linkedTo (smallPhone 12))
        (.ok receipt) s' ∧ s'.observed = (linkedTo (smallPhone 12)).observed ++ events ∧
      receipt.bytes.toNat = 11 ∧ receipt.chunks.toNat = 3 ∧ receipt.duration.nanos = 4000000 ∧
      (chunkSizes events).sum = 11 ∧ progressCounts events = [4, 8, 11]) ∧
    ∃ transferred reason s' events,
      Alone serve (pushFile (firstLink (smallPhone 10)) letter) (linkedTo (smallPhone 10))
        (.error (.transferFailed transferred reason)) s' ∧
      s'.observed = (linkedTo (smallPhone 10)).observed ++ events ∧
      transferred.toNat = 8 ∧ (chunkSizes events).sum = 8 ∧ completedSizes events = [] := by
  have hlength : letter.bytes.length < 2 ^ 63 := by decide
  constructor
  · obtain ⟨⟨r, s', hpush⟩, haccount⟩ := push_account (lookup_linkedTo (smallPhone 12))
      (find_linkedTo (smallPhone 12)) hlength
    obtain ⟨events, hobserved, h, hduration⟩ := haccount r s' hpush
    obtain ⟨receipt, rfl⟩ := h.ok_iff.mpr fun limit hlimit => by
      obtain rfl := Option.some.inj hlimit
      decide
    obtain ⟨hbytes, hchunks, hsum, hprogress⟩ := h.completed receipt rfl
    have hthree : receipt.chunks.toNat = 3 := hchunks
    have hnanos : 1000000 + receipt.chunks.toNat * (smallPhone 12).perChunkLatency.nanos
        = 4000000 := by
      rw [hthree]
      rfl
    refine ⟨receipt, s', events, hpush, hobserved, hbytes, hthree, ?_, hsum, hprogress⟩
    rw [← hnanos]
    refine (hduration receipt rfl).mpr ?_
    rw [Nat.add_assoc, hnanos]
    decide
  · obtain ⟨⟨r, s', hpush⟩, haccount⟩ := push_account (lookup_linkedTo (smallPhone 10))
      (find_linkedTo (smallPhone 10)) hlength
    obtain ⟨events, hobserved, h, -⟩ := haccount r s' hpush
    cases r with
    | ok receipt =>
      -- the letter is longer than ten bytes
      exact absurd (h.ok_iff.mp ⟨receipt, rfl⟩ 10 rfl) (by decide)
    | error e =>
      obtain ⟨limit, hlimit, transferred, reason, rfl, htransferred, hsum, hnone⟩ := h.failed e rfl
      obtain rfl := Option.some.inj hlimit
      have height : transferred.toNat = 8 := htransferred
      exact ⟨transferred, reason, s', events, hpush, hobserved, height, hsum.trans height, hnone⟩

/-- A phone that takes `2 ^ 128 - 1` nanoseconds for a chunk. -/
def slowPhone : MockDevice := { phone with perChunkLatency := ⟨2 ^ 128 - 1⟩ }

/-- The clock comes round while the note is pushed, so that the receipt has a duration of less
than what was charged. -/
theorem slow_push_is_short : ∃ receipt s',
    Alone serve (quietBackend.connect slowPhone.info.id) (.init [slowPhone])
      (.ok (firstLink slowPhone)) (linkedTo slowPhone) ∧
    Alone serve (pushFile (firstLink slowPhone) note) (linkedTo slowPhone) (.ok receipt) s' ∧
      receipt.duration.nanos
        ≠ 1000000 + receipt.chunks.toNat * slowPhone.perChunkLatency.nanos := by
  obtain ⟨r, s', hpush⟩ := Program.exists_alone serve (pushFile (firstLink slowPhone) note)
    (linkedTo slowPhone)
  obtain ⟨events, -, h, hduration⟩ := account_of_alone (lookup_linkedTo slowPhone)
    (find_linkedTo slowPhone) (by decide) hpush
  obtain ⟨receipt, rfl⟩ := h.ok_iff.mpr fun limit hlimit =>
    absurd hlimit (by simp [slowPhone, phone])
  obtain ⟨-, hchunks, -⟩ := h.completed receipt rfl
  have hone : receipt.chunks.toNat = 1 := hchunks
  refine ⟨receipt, s', alone_connect.mpr ⟨rfl, rfl⟩, hpush, ?_⟩
  -- one millisecond after the start of the clock, the chunk takes it back to where it was
  rw [hduration receipt rfl, hone]
  decide

end MockBackend
end Pax
