import Pax.Transport.Android.FaultyPush
import Pax.Transport.BlueZ.Completion
import Pax.Transport.BlueZ.Staging

/-!
# Progress accounts for every byte

Both real backends turn absolute counts into data chunks. On BlueZ the counts are what `obexd`
signals, as `run_transfer` takes them in, and the size it concludes with; on Android they are what
the peer has acknowledged. `deltas_account` says that for counts that never go down the chunks of a
push add up to what its result reports (`Accounts`).

* On BlueZ two running totals are kept: one in the loop of `run_transfer`, which is what its result
  is made from, and one in the closure that makes the chunks. `Told` keeps them together, step by
  step of the client and of `obexd` (`Told.next`), and so along a run (`told_of_run`).
* That counts do not go down is an assumption there (`Rising`), since the closure drops what would
  be a decrease. On Android it is proved.
* `Carries` of `Pax.Transport.ChunkSizes` says which sizes a step adds to the log, and the increases
  of the counts are summed up in `Pax.Framework.Increases`.
-/

namespace Pax

open Increases (increases)

/-- The data chunks of a push, and the counts of its completion, account for its result. -/
def Accounts (r : Except TransportError TransferReceipt) (chunks completed : List ℕ) : Prop :=
  match r with
  | .ok receipt => (∀ n ∈ chunks, 0 < n) ∧ chunks.sum = receipt.bytes.toNat ∧
      completed = [receipt.bytes.toNat] ∧ receipt.chunks.toNat = max chunks.length 1
  | .error (.transferFailed transferred _) => chunks.sum = transferred.toNat
  | .error _ => True

/-- The number of chunks of a receipt, which is one at least. -/
theorem toNat_max_chunks {n : ℕ} (h : n < 2 ^ 64) :
    (max (UInt64.ofNat n) 1).toNat = max n 1 := by
  have hn : (UInt64.ofNat n).toNat = n := UInt64.toNat_ofNat_of_lt' h
  -- the maximum of two numbers of 64 bits is the maximum of what they stand for
  show (if UInt64.ofNat n ≤ 1 then 1 else UInt64.ofNat n).toNat = _
  split
  · next hle =>
    have hle := UInt64.le_iff_toNat_le.mp hle
    change (UInt64.ofNat n).toNat ≤ 1 at hle
    show 1 = _
    omega
  · next hgt =>
    have hgt := UInt64.lt_iff_toNat_lt.mp (UInt64.not_le.mp hgt)
    change 1 < (UInt64.ofNat n).toNat at hgt
    omega

/-- The increases of counts account for a receipt that is made out for the last of them. -/
theorem accounts_ok {receipt : TransferReceipt} {ns : List ℕ}
    (hsum : (increases 0 ns).sum = receipt.bytes.toNat)
    (hchunks : receipt.chunks = max (UInt64.ofNat (increases 0 ns).length) 1) :
    Accounts (.ok receipt) (increases 0 ns) [receipt.bytes.toNat] := by
  have hlength := Increases.length_increases_le 0 ns
  have hfits := receipt.bytes.toNat_lt
  refine ⟨Increases.pos_of_mem_increases, hsum, rfl, ?_⟩
  rw [hchunks]
  exact toNat_max_chunks (by omega)

/-! ### BlueZ -/

namespace BlueZ

namespace Obexd

/-- The count that the client stands at: the bytes that it knows to be transferred. There is none
in an error that carries no count. -/
def Client.count : Client → Option UInt64
  | sending | subscribing _ => some 0
  | reading watch | checking watch | waiting watch _ => some watch.transferred
  | returned (.ok bytes) => some bytes
  | returned (.error (.transferFailed transferred _)) => some transferred
  | returned (.error _) => none

/-- A signal that is taken does not carry a smaller count than the one the client stands at. -/
def Rising (s : State) (step : Step) : Prop :=
  step = .client .receive → ∀ watch since signal queue n, s.client = .waiting watch since →
    s.queue = signal :: queue → Signal.transferred signal = some n → watch.transferred ≤ n

/-- The counts told to `on_progress` never go down, and the last of them is the one that the client
stands at. -/
structure Told (s : State) : Prop where
  last : ∀ n, s.client.count = some n → s.progress.getLastD 0 = n
  sorted : s.progress.Pairwise (· ≤ ·)

theorem told_start (clock : Timestamp) : Told (.start clock) :=
  ⟨fun _ h => Option.some.inj h, .nil⟩

theorem told_of_count {s : State} {count : UInt64} (hclient : s.client.count = some count)
    (hlast : s.progress.getLastD 0 = count) (hsorted : s.progress.Pairwise (· ≤ ·)) : Told s := by
  refine ⟨fun n hn => ?_, hsorted⟩
  rw [hclient] at hn
  rw [hlast, Option.some.inj hn]

/-- Where the client stands at no count, none needs to be told. -/
theorem told_of_none {s : State} (hclient : s.client.count = none)
    (hsorted : s.progress.Pairwise (· ≤ ·)) : Told s :=
  ⟨fun _ hn => absurd (hclient.symm.trans hn) (Option.some_ne_none _).symm, hsorted⟩

/-- The client goes on at the same count, without telling anything. -/
theorem Told.goesOn {s : State} {client : Client} (h : Told s)
    (hcount : client.count = s.client.count) : Told { s with client } :=
  ⟨fun n hn => h.last n (hcount.symm.trans hn), h.sorted⟩

/-- A count that is no smaller than the last one may be told. -/
theorem pairwise_concat {counts : List UInt64} {n : UInt64} (h : counts.Pairwise (· ≤ ·))
    (hle : counts.getLastD 0 ≤ n) : (counts ++ [n]).Pairwise (· ≤ ·) := by
  refine List.pairwise_append.mpr ⟨h, List.pairwise_singleton _ _, fun c hc m hm => ?_⟩
  have hlast : c ≤ counts.getLast (List.ne_nil_of_mem hc) := h.rel_getLast hc
  rw [List.getLastD_eq_getLast?, List.getLast?_eq_some_getLast (List.ne_nil_of_mem hc)] at hle
  rw [List.mem_singleton.mp hm]
  exact UInt64.le_trans hlast hle

/-- A look at a status tells the count that is returned. -/
theorem told_look {s : State} {watch : Watch} {status : Option String} {client : Client}
    (hclient : client.count = some watch.transferred)
    (hlast : s.progress.getLastD 0 = watch.transferred) (hsorted : s.progress.Pairwise (· ≤ ·)) :
    Told (s.look watch status client) := by
  unfold State.look
  split_ifs
  -- a transfer that is complete tells the size, where that is larger than its count
  · refine told_of_count rfl List.getLastD_concat (pairwise_concat hsorted ?_)
    rw [hlast]
    show watch.transferred
      ≤ (if watch.total ≤ watch.transferred then watch.transferred else watch.total)
    split
    · exact UInt64.le_refl _
    · next h => exact (UInt64.le_total _ _).resolve_right h
  · exact told_of_count rfl hlast hsorted
  · exact told_of_count hclient hlast hsorted

/-- A signal is told before its status is looked at. -/
theorem told_take {s : State} {watch : Watch} {signal : Signal}
    (hlast : s.progress.getLastD 0 = watch.transferred) (hsorted : s.progress.Pairwise (· ≤ ·))
    (hrising : ∀ n, Signal.transferred signal = some n → watch.transferred ≤ n) :
    Told (s.take watch signal) := by
  unfold State.take
  split
  · next n hn =>
    refine told_look rfl List.getLastD_concat (pairwise_concat hsorted ?_)
    rw [hlast]
    exact hrising n hn
  · exact told_look rfl hlast hsorted

theorem Told.client {s s' : State} {step : Client.Step} (h : Told s)
    (hrising : Rising s (.client step)) (hnext : s.clientNext step = some s') : Told s' := by
  unfold State.clientNext at hnext
  -- By the step: a count is told where the client looks at a status or takes a signal, and nowhere
  -- else.
  cases step with
  | sendReturns =>
    dsimp only at hnext
    split at hnext <;> cases hnext
    case h_1 hclient _ => exact h.goesOn (congrArg Client.count hclient).symm
    case h_2 => exact told_of_none rfl h.sorted
  | setupFails detail =>
    dsimp only at hnext
    split at hnext <;> cases hnext
    case h_1 => exact told_of_none rfl h.sorted
  | subscribe =>
    dsimp only at hnext
    split at hnext <;> cases hnext
    case h_1 total hclient =>
      exact told_of_count rfl (h.last 0 (congrArg Client.count hclient)) h.sorted
  -- where a status is looked at, a further count may be told
  | readStatus =>
    dsimp only at hnext
    split at hnext <;> cases hnext
    case h_1 watch hclient =>
      exact told_look rfl (h.last _ (congrArg Client.count hclient)) h.sorted
  | checkDeadline =>
    dsimp only at hnext
    split at hnext
    case h_2 => cases hnext
    case h_1 watch hclient =>
      split at hnext <;> cases hnext
      case isTrue => exact told_of_none rfl h.sorted
      case isFalse => exact h.goesOn (congrArg Client.count hclient).symm
  | receive =>
    dsimp only at hnext
    split at hnext <;> cases hnext
    case h_1 watch since signal queue hclient hqueue =>
      exact told_take (h.last _ (congrArg Client.count hclient)) h.sorted
        fun n hn => hrising rfl watch since signal queue n hclient hqueue hn
  | pollTimeout =>
    dsimp only at hnext
    split at hnext
    case h_2 => cases hnext
    case h_1 watch since hclient _ =>
      split at hnext <;> cases hnext
      case isTrue => exact h.goesOn (congrArg Client.count hclient).symm
  | streamEnds =>
    dsimp only at hnext
    split at hnext <;> cases hnext
    case h_1 watch since hclient _ =>
      exact told_of_count rfl (h.last _ (congrArg Client.count hclient)) h.sorted

theorem Told.next {s s' : State} {step : Step} (h : Told s) (hrising : Rising s step)
    (hnext : transfer.next s step = some s') : Told s' := by
  simp only [transfer] at hnext
  split at hnext
  case isTrue => cases hnext
  case isFalse =>
    cases step with
    | daemon a =>
      obtain ⟨⟨daemon, message⟩, -, rfl⟩ := Option.map_eq_some_iff.mp hnext
      -- what the daemon sends is told when the client takes it
      have hprogress : (State.deliver { s with daemon } message).progress = s.progress := by
        unfold State.deliver
        split
        · rfl
        · rfl
        · split_ifs <;> rfl
      have hclient : (State.deliver { s with daemon } message).client = s.client :=
        State.deliver_client ..
      constructor
      · rw [hprogress, hclient]
        exact h.last
      · rw [hprogress]
        exact h.sorted
    -- Only the client tells the counts that have come to it.
    | client a => exact h.client hrising hnext
    | tick d =>
      cases hnext
      exact ⟨h.last, h.sorted⟩

/-- **Whatever `run_transfer` returns, it has told**: the size of a completed transfer, and the
count of a failed one. -/
theorem told_of_run {clock : Timestamp} {steps : List Step} {s : State}
    (hrun : transfer.Run (.start clock) steps s)
    (hrising : transfer.Meets Rising (.start clock) steps) : Told s :=
  hrun.invariant_of_meets (fun _ _ _ h hok hnext => h.next hok hnext) hrising (told_start clock)

end Obexd

theorem carries_emit (env : Environment) (peer : DeviceId) (kind : TransitEventKind) (s : State) :
    Carries s.events (s.emit env peer kind).events kind.chunkSize.toList
      kind.completedSize.toList :=
  Carries.one s.events _

/-- One count: if it is above the last one the difference is reported as a chunk, and otherwise
nothing is. -/
theorem run_reportCount (env : Environment) (call : PushCall) (n : UInt64)
    (acc : Progress × State) :
    (reportCount env call acc n).1.last = n ∧
      ((acc.1.last.toNat < n.toNat ∧
          (reportCount env call acc n).1.chunks = acc.1.chunks + 1 ∧
          Carries acc.2.events (reportCount env call acc n).2.events
            [n.toNat - acc.1.last.toNat] []) ∨
        (n.toNat ≤ acc.1.last.toNat ∧ (reportCount env call acc n).1.chunks = acc.1.chunks ∧
          Carries acc.2.events (reportCount env call acc n).2.events [] [])) := by
  obtain ⟨progress, s⟩ := acc
  have hdelta := toNat_saturatingSub progress.last n
  have hpos := saturatingSub_pos_iff progress.last n
  unfold reportCount onProgress
  dsimp only
  generalize (if progress.last ≤ n then n - progress.last else 0) = delta at hdelta hpos ⊢
  -- A count above the last one is reported as a chunk of the difference; any other as progress
  -- only.
  split
  · next hlt =>
    refine ⟨rfl, .inl ⟨hpos.mp hlt, rfl, ?_⟩⟩
    rw [← hdelta]
    exact (carries_emit env call.conn.peer (.dataChunk .outbound delta) s).trans
      (carries_emit env call.conn.peer (.transferProgress _ _) _)
  · next hnot =>
    refine ⟨rfl, .inr ⟨Nat.not_lt.mp fun hlt => hnot (hpos.mpr hlt), rfl, ?_⟩⟩
    exact carries_emit env call.conn.peer (.transferProgress _ _) s

/-- **All counts of a push**: each increase is reported as a chunk. -/
theorem foldl_reportCount (env : Environment) (call : PushCall) (counts : List UInt64)
    (acc : Progress × State) :
    (counts.foldl (reportCount env call) acc).1.last = counts.getLastD acc.1.last ∧
      (counts.foldl (reportCount env call) acc).1.chunks = acc.1.chunks
        + UInt64.ofNat (increases acc.1.last.toNat (counts.map UInt64.toNat)).length ∧
      Carries acc.2.events (counts.foldl (reportCount env call) acc).2.events
        (increases acc.1.last.toNat (counts.map UInt64.toNat)) [] := by
  induction counts generalizing acc with
  | nil => exact ⟨rfl, (UInt64.add_zero _).symm, .refl _⟩
  | cons n counts ih =>
    obtain ⟨hlast, hstep⟩ := run_reportCount env call n acc
    obtain ⟨hlast', hchunks, hcarries⟩ := ih (reportCount env call acc n)
    rw [hlast] at hlast' hchunks hcarries
    rw [List.foldl_cons, List.getLastD_cons, List.map_cons]
    obtain ⟨hlt, hone, hcarried⟩ | ⟨hle, hnone, hcarried⟩ := hstep
    -- as on Android, but a count that does not rise is still told as progress
    · rw [Increases.increases_of_lt hlt]
      refine ⟨hlast', ?_, hcarried.trans hcarries⟩
      rw [hchunks, hone, List.length_cons, UInt64.add_assoc, Nat.add_comm, UInt64.ofNat_add]
      rfl
    · rw [Increases.increases_of_le hle]
      exact ⟨hlast', by rw [hchunks, hnone], hcarried.trans hcarries⟩

/-- What `object_push` reports and returns: it fails before it comes to the transfer, or it is the
transfer, in any interleaving with `obexd` in which the counts never go down. -/
inductive PushAttempt.Occurs (attempt : PushAttempt) : Prop
  | unopened (e : String) (hcounts : attempt.counts = [])
    (hresult : attempt.result = .error (Obexd.zerr e)) : Occurs attempt
  | transferred (clock : Timestamp) (steps : List Obexd.Step) (w : Obexd.State)
    (hrun : Obexd.transfer.Run (.start clock) steps w)
    (hrising : Obexd.transfer.Meets Obexd.Rising (.start clock) steps)
    (hreturned : w.client = .returned attempt.result) (hcounts : attempt.counts = w.progress) :
    Occurs attempt

/-- The counts never go down, and the last one is the one that the result gives. -/
theorem PushAttempt.Occurs.told {attempt : PushAttempt} (h : attempt.Occurs) :
    (∀ n, (Obexd.Client.returned attempt.result).count = some n →
      attempt.counts.getLastD 0 = n) ∧ attempt.counts.Pairwise (· ≤ ·) := by
  cases h with
  | unopened e hcounts hresult =>
    rw [hresult, hcounts]
    exact ⟨nofun, .nil⟩
  | transferred clock steps w hrun hrising hreturned hcounts =>
    have htold := Obexd.told_of_run hrun hrising
    rw [hcounts, ← hreturned]
    exact ⟨htold.last, htold.sorted⟩

/-- The increases of counts that never go down add up to the last one: what the chunks say is
what was transferred. -/
theorem sum_increases_counts {counts : List UInt64} (hsorted : counts.Pairwise (· ≤ ·)) :
    (increases 0 (counts.map UInt64.toNat)).sum = (counts.getLastD 0).toNat := by
  have hnat : (0 :: counts.map UInt64.toNat).Pairwise (· ≤ ·) := by
    refine List.pairwise_cons.mpr ⟨fun n _ => Nat.zero_le n, List.pairwise_map.mpr ?_⟩
    exact hsorted.imp UInt64.le_iff_toNat_le.mp
  have hall := Increases.add_sum_increases hnat
  rw [Nat.zero_add] at hall
  rw [hall, ← UInt64.toNat_zero]
  exact List.getLastD_map

/-- **The counts of a push account for its result.** -/
theorem accounts_pushFile (env : Environment) (call : PushCall) {attempt : PushAttempt}
    (hoccurs : attempt.Occurs) (s : State) :
    ∃ r s' chunks completed, Outcome.split ((pushFile env call attempt).run s) = (r, s') ∧
      Carries s.events s'.events chunks completed ∧ Accounts r chunks completed := by
  obtain ⟨htold, hsorted⟩ := hoccurs.told
  cases hstaged : attempt.staged with
  | error e =>
    -- a file that is not staged is not started either
    refine ⟨.error (stagingError e), s, [], [], ?_, .refl _, trivial⟩
    unfold pushFile EStateM.run
    simp only [hstaged]
    rfl
  | ok u =>
    have hstarted : Carries s.events _ [] [] :=
      carries_emit env call.conn.peer (.transferStarted call.file.name call.file.len) s
    obtain ⟨-, hchunks, hcarries⟩ := foldl_reportCount env call attempt.counts
      ({ last := 0, chunks := 0 }, s.emit env call.conn.peer
        (.transferStarted call.file.name call.file.len))
    have hreported : Carries s.events _
        (increases 0 (attempt.counts.map UInt64.toNat)) [] := hstarted.trans hcarries
    have hsum := sum_increases_counts hsorted
    unfold pushFile EStateM.run
    simp only [hstaged]
    generalize attempt.counts.foldl (reportCount env call) ({ last := 0, chunks := 0 },
      s.emit env call.conn.peer (.transferStarted call.file.name call.file.len)) = acc
      at hchunks hreported ⊢
    obtain ⟨progress, s₁⟩ := acc
    change progress.chunks = 0 + _ at hchunks
    rw [UInt64.zero_add] at hchunks
    cases hresult : attempt.result with
    | ok bytes =>
      -- the chunks add up to the last count, and that is the one that is returned
      have hlast : attempt.counts.getLastD 0 = bytes := by
        refine htold _ ?_
        rw [hresult]
        rfl
      have hended (duration : Duration) := hreported.trans
        (carries_emit env call.conn.peer (.transferCompleted bytes duration) s₁)
      refine ⟨_, _, _, _, rfl, hended _, ?_⟩
      show Accounts _ (increases 0 _ ++ []) [bytes.toNat]
      rw [List.append_nil]
      exact accounts_ok (hsum.trans (congrArg UInt64.toNat hlast)) (congrArg (max · 1) hchunks)
    | error e =>
      have hended := hreported.trans (carries_emit env call.conn.peer (.error e.display) s₁)
      refine ⟨_, _, _, _, rfl, hended, ?_⟩
      show Accounts _ (increases 0 _ ++ []) []
      rw [List.append_nil]
      cases e with
      | transferFailed transferred reason =>
        have hlast : attempt.counts.getLastD 0 = transferred := by
          refine htold _ ?_
          rw [hresult]
          rfl
        exact hsum.trans (congrArg UInt64.toNat hlast)
      | _ => trivial

end BlueZ

/-! ### Android -/

namespace Android

open ObexOpp (IoError)

/-- **The counts of a push account for its result.** -/
theorem accounts_pushFileOver (env : Environment) (writes : ℕ → List (Option IoError))
    (conn : Connection) {file : OutboundFile}
    (hslice : file.bytes.length < 2 ^ 63) (s : State) :
    ∃ r s' chunks completed,
      Outcome.split ((pushFileOver env writes conn file).run s) = (r, s') ∧
      Carries s.events s'.events chunks completed ∧ Accounts r chunks completed := by
  cases hopen : (env.attempt s.pushes.length).openSocket with
  | error e =>
    obtain ⟨s', hrun, hcarries⟩ := run_pushFileOver_error writes conn file hopen
    exact ⟨_, s', [], [], congrArg Outcome.split hrun, hcarries, trivial⟩
  | ok u =>
    obtain ⟨result, pipe, hsession, hsorted, hle, hall⟩ :=
      counts_of_session env writes file s.pushes.length
    have hfits : ∀ n ∈ pipe.progress, n < 2 ^ 64 := by
      intro n hn
      have hn := hle n hn
      omega
    have hsum := Increases.add_sum_increases hsorted
    rw [Nat.zero_add] at hsum
    obtain ⟨s', duration, hrun, hcarries⟩ := run_pushFileOver_session conn hopen hsession hfits
    refine ⟨_, s', _, _, hrun, hcarries, ?_⟩
    cases result with
    | ok u =>
      -- the receipt has the length of the file, and all of it was acknowledged
      have hfits : file.bytes.length < 2 ^ 64 := hslice.trans (by norm_num)
      have hlen : file.len.toNat = file.bytes.length := UInt64.toNat_ofNat_of_lt' hfits
      exact accounts_ok (hsum.trans ((hall rfl).trans hlen.symm)) rfl
    | error e =>
      cases e with
      -- only this error gives a count
      | rejected stage code =>
        have hlast : (UInt64.ofNat (pipe.progress.getLastD 0)).toNat
            = pipe.progress.getLastD 0 := by
          refine UInt64.toNat_ofNat_of_lt' ?_
          rw [List.getLastD_eq_getLast?]
          cases hget : pipe.progress.getLast? with
          | none => exact Nat.two_pow_pos 64
          | some n => exact hfits n (List.mem_of_getLast? hget)
        exact hsum.trans hlast.symm
      | _ => trivial

end Android

/-! ### Both -/

/-- **Progress accounts for every byte.** On BlueZ it is assumed that the counts never go down; on
Android they do not, whatever the peer answers and whichever write fails. -/
theorem deltas_account (env : BlueZ.Environment) (call : BlueZ.PushCall)
    (attempt : BlueZ.PushAttempt) (s : BlueZ.State) (hoccurs : attempt.Occurs)
    (env' : Android.Environment)
    (writes : ℕ → List (Option ObexOpp.IoError)) (conn : Connection) (file : OutboundFile)
    (t : Android.State) (hslice : file.bytes.length < 2 ^ 63) :
    (∃ r s', Outcome.split ((BlueZ.pushFile env call attempt).run s) = (r, s') ∧
      Accounts r (chunkSizes (s'.events.drop s.events.length))
        (completedSizes (s'.events.drop s.events.length))) ∧
    ∃ r t', Outcome.split ((Android.pushFileOver env' writes conn file).run t) = (r, t') ∧
      Accounts r (chunkSizes (t'.events.drop t.events.length))
        (completedSizes (t'.events.drop t.events.length)) := by
  constructor
  -- On both platforms, the events of the push are those that were added to the log.
  · obtain ⟨r, s', chunks, completed, hrun, hcarries, haccounts⟩ :=
      BlueZ.accounts_pushFile env call hoccurs s
    refine ⟨r, s', hrun, ?_⟩
    rw [hcarries.since.1, hcarries.since.2]
    exact haccounts
  · obtain ⟨r, t', chunks, completed, hrun, hcarries, haccounts⟩ :=
      Android.accounts_pushFileOver env' writes conn hslice t
    refine ⟨r, t', hrun, ?_⟩
    rw [hcarries.since.1, hcarries.since.2]
    exact haccounts

/-- Whether a step rises, which can be seen from the state it is taken in. -/
def BlueZ.Obexd.risesIn (s : State) : Bool :=
  match s.client, s.queue with
  | .waiting watch _, signal :: _ => (Signal.transferred signal).all fun n => watch.transferred ≤ n
  | _, _ => true

instance (s : BlueZ.Obexd.State) (step : BlueZ.Obexd.Step) :
    Decidable (BlueZ.Obexd.Rising s step) :=
  decidable_of_iff (step = .client .receive → BlueZ.Obexd.risesIn s = true) <| by
    refine imp_congr_right fun _ => ⟨?_, fun h => ?_⟩
    · intro h watch since signal queue n hclient hqueue hn
      rw [BlueZ.Obexd.risesIn, hclient, hqueue] at h
      dsimp only at h
      rw [hn] at h
      exact of_decide_eq_true h
    · unfold BlueZ.Obexd.risesIn
      split
      next watch since signal queue hclient hqueue =>
        cases hn : BlueZ.Obexd.Signal.transferred signal with
        | none => rfl
        | some n => exact decide_eq_true (h watch since signal queue n hclient hqueue hn)
      next => rfl

/-- A transfer of five bytes: `obexd` signals two bytes, the same two again and four, and then the
whole file with the status `complete`. The client reads the status before it waits for a signal. -/
def BlueZ.Obexd.signalled : List Step :=
  [.daemon (.accept [("Size", .u64 5)]), .client .sendReturns, .client .subscribe,
    .client .readStatus, .client .checkDeadline,
    .daemon (.proceed .active), .client .receive, .client .readStatus, .client .checkDeadline,
    .daemon (.advance 2), .daemon (.advance 2), .client .receive,
    .client .readStatus, .client .checkDeadline, .client .receive,
    .client .readStatus, .client .checkDeadline, .daemon (.advance 4), .client .receive,
    .client .readStatus, .client .checkDeadline, .daemon (.complete (some 5)), .client .receive]

/-- A file of five bytes, as it is pushed on BlueZ. -/
def fiveBytes : BlueZ.PushCall :=
  { BlueZ.sameName false with
    file := { name := "five.bin", mimeType := none, bytes := [1, 2, 3, 4, 5] } }

/-- A peer that takes packets of at most 255 bytes, accepts three of them and the DISCONNECT. -/
def threePackets : Android.Environment where
  controller := .virtualModel "android"
  spec := ⟨.v5_0, .dual⟩
  resolve _ := .bredrDefault
  clock n := ⟨n⟩
  remoteDevice _ := .ok ()
  createBond _ := .ok true
  attempt _ :=
    { openSocket := .ok ()
      incoming := [.bytes [0xA0, 0x00, 0x07, 0x10, 0x00, 0x00, 0xFF], .bytes [0x90, 0x00, 0x03],
        .bytes [0x90, 0x00, 0x03], .bytes [0xA0, 0x00, 0x03], .bytes [0xA0, 0x00, 0x03]] }

/-- A file of 500 bytes, which takes three packets of the size that the peer allows. -/
def ballad : OutboundFile :=
  { name := "song.mp3", mimeType := none, bytes := List.replicate 500 7 }

/-- The receipt that a push returns, if it succeeds. -/
def receipt? {σ : Type} (outcome : Except TransportError TransferReceipt × σ) :
    Option (UInt64 × UInt64) :=
  outcome.1.toOption.map fun receipt => (receipt.bytes, receipt.chunks)

/-- Two pushes that succeed. On BlueZ the count that is signalled twice makes one chunk, so that the
counts 2, 2, 4, 5 and 5 (the last one told when the transfer is found complete) are three chunks; on
Android the first of the three packets has room for fewer bytes. -/
theorem deltas_account_counted :
    (∃ r s', Outcome.split ((BlueZ.pushFile BlueZ.idleEnv fiveBytes
        ⟨.ok (), [2, 2, 4, 5, 5], .ok 5⟩).run BlueZ.noEvents) = (r, s') ∧
      receipt? (r, s') = some (5, 3) ∧ chunkSizes s'.events = [2, 2, 1] ∧
      Accounts r (chunkSizes s'.events) (completedSizes s'.events)) ∧
    ∃ r t', Outcome.split ((Android.pushFileOver threePackets (fun _ => [])
        fiveBytes.conn ballad).run ⟨0, 0, [], []⟩) = (r, t') ∧
      receipt? (r, t') = some (500, 3) ∧ chunkSizes t'.events = [223, 249, 28] ∧
      Accounts r (chunkSizes t'.events) (completedSizes t'.events) := by
  have hoccurs : BlueZ.PushAttempt.Occurs ⟨.ok (), [2, 2, 4, 5, 5], .ok 5⟩ := by
    refine .transferred ⟨0⟩ BlueZ.Obexd.signalled _ rfl ?_ rfl rfl
    decide
  have hslice : ballad.bytes.length < 2 ^ 63 := by
    rw [ballad, List.length_replicate]
    norm_num
  obtain ⟨⟨r, s', hbluez, haccounts⟩, r', t', handroid, haccounts'⟩ :=
    deltas_account BlueZ.idleEnv fiveBytes ⟨.ok (), [2, 2, 4, 5, 5], .ok 5⟩ BlueZ.noEvents hoccurs
      threePackets (fun _ => []) fiveBytes.conn ballad ⟨0, 0, [], []⟩ hslice
  -- The receipts and the chunks of the two pushes are computed.
  have hcounted : receipt? (r, s') = some (5, 3) ∧ chunkSizes (r, s').2.events = [2, 2, 1] := by
    rw [← hbluez]
    decide +kernel
  have hcounted' : receipt? (r', t') = some (500, 3) ∧
      chunkSizes (r', t').2.events = [223, 249, 28] := by
    rw [← handroid]
    decide +kernel
  exact ⟨⟨r, s', hbluez, hcounted.1, hcounted.2, haccounts⟩,
    r', t', handroid, hcounted'.1, hcounted'.2, haccounts'⟩

end Pax
