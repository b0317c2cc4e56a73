import Pax.Diagnostics.Analyze
import Pax.Transfer.LinkRelease

/-!
# Byte accounting from the backend to the report

The recorder of a mock backend has the `DataChunk` events of every push, the analyzer adds up their
bytes, and a push that returns says how many bytes it transferred, in its receipt or in its error.
The two add up to the same (`byte_accounting`), in total and for each peer, over all attempts of all
clients, retried ones included; and each attempt that found its link live started one transfer and
ended it.

All counts are of 64 bits. The sums of the report are those of the attempts up to multiples of
`2 ^ 64`, and the very sums where these stay below that; in `bytes_come_round` four pushes of
`2 ^ 62` bytes come to a report of none.

The proof is by attempt: what one operation stamps is balanced by what it returns (`Balanced`), and
balance is kept by putting operations one after the other (`balanced_interpreted`) and clients side
by side (`balanced_of_own`). An upload is a program over operations, so that the retries need no
argument of their own.
-/

namespace Pax
namespace MockBackend

open Program (Alone call Returns Interpreted)

/-! ### What is counted -/

/-- The bytes that an attempt to push says it transferred, in its receipt or in its error. -/
def transferredBytes : Except TransportError TransferReceipt → UInt64
  | .ok receipt => receipt.bytes
  | .error (.transferFailed transferred _) => transferred
  | .error _ => 0

/-- A push attempt that has returned, by its peer and its result. -/
def attempt? : Exchange mockSteps → Option (DeviceId × Except TransportError TransferReceipt)
  | ⟨.returned (.pushFile conn _) result, _⟩ => some (conn.peer, result)
  | _ => none

/-- The push attempts that have returned, with their peers and results. -/
def attempts (es : List (Exchange mockSteps)) :
    List (DeviceId × Except TransportError TransferReceipt) := es.filterMap attempt?

/-- The exchange is the look-up of a push that found its link live. -/
def foundLink : Exchange mockSteps → Bool
  | ⟨.checkLink _, .ok _⟩ => true
  | _ => false

/-- An attempt that found its link live says anything but that there is no connection. -/
def FoundLive (attempt : DeviceId × Except TransportError TransferReceipt) : Bool :=
  attempt.2 ≠ .error (.notConnected attempt.1)

def isStarted : TransitEventKind → Bool
  | .transferStarted _ _ => true
  | _ => false

def isCompleted : TransitEventKind → Bool
  | .transferCompleted _ _ => true
  | _ => false

def isError : TransitEventKind → Bool
  | .error _ => true
  | _ => false

/-- The bytes of the event that the exchange stamps, if its peer is of the sort. -/
def carried (p : DeviceId → Bool) : Exchange mockSteps → UInt64
  | ⟨.stamp origin kind _, _⟩ => if p origin.peer then kind.payloadBytes else 0
  | _ => 0

/-- The bytes that attempts with peers of a sort say they transferred. -/
def moved (p : DeviceId → Bool) (e : Exchange mockSteps) : UInt64 :=
  match attempt? e with
  | some attempt => if p attempt.1 then transferredBytes attempt.2 else 0
  | none => 0

/-- What is stamped goes with what is returned: the starts with the links found, the errors with
the failures, and the bytes with the bytes, for each sort of peers. -/
structure Balanced (es : List (Exchange mockSteps)) : Prop where
  bytes : ∀ p, (es.map (carried p)).sum = (es.map (moved p)).sum
  ended : es.countP (stamps fun _ kind => isStarted kind)
    = es.countP (stamps fun _ kind => isCompleted kind)
      + es.countP (stamps fun _ kind => isError kind)
  looked : es.countP (stamps fun _ kind => isStarted kind) = es.countP foundLink
  live : es.countP (stamps fun _ kind => isStarted kind)
    = es.countP fun e => (attempt? e).any FoundLive

namespace Balanced

variable {es es' : List (Exchange mockSteps)}

theorem nil : Balanced [] := ⟨fun _ => rfl, rfl, rfl, rfl⟩

theorem append (h : Balanced es) (h' : Balanced es') : Balanced (es ++ es') where
  bytes p := by
    rw [List.map_append, List.map_append, List.sum_append, List.sum_append, h.bytes, h'.bytes]
  ended := by
    rw [List.countP_append, List.countP_append, List.countP_append, h.ended, h'.ended]
    omega
  looked := by rw [List.countP_append, List.countP_append, h.looked, h'.looked]
  live := by rw [List.countP_append, List.countP_append, h.live, h'.live]

end Balanced

/-! ### One operation -/

section Operation

variable {backend : MockBackend} {es : List (Exchange mockSteps)}

/-- The bytes that are through when the loop over the chunks ends. -/
def through : Except TransportError (UInt64 × UInt64) → UInt64
  | .ok (transferred, _) => transferred
  | .error (.transferFailed transferred _) => transferred
  | .error _ => 0

/-- An event whose kind moves no bytes carries none, for any sort of peers. -/
theorem carried_eq_zero (p : DeviceId → Bool) {origin : EventOrigin} {kind : TransitEventKind}
    {dt : Duration} {event : TransitEvent} (h : kind.payloadBytes = 0) :
    carried p ⟨.stamp origin kind dt, event⟩ = 0 := by
  show (if p origin.peer then kind.payloadBytes else 0) = 0
  rw [h, ite_self]

/-- The loop over the chunks carries what is through at its end and was not at its beginning. -/
theorem Chunked.sum_carried {origin : EventOrigin} {total transferred : UInt64}
    {r : Except TransportError (UInt64 × UInt64)} (h : Chunked origin total transferred es r)
    {p : DeviceId → Bool} (hp : p origin.peer = true) :
    transferred + (es.map (carried p)).sum = through r := by
  -- On the loop: each chunk adds its bytes to what is through, and a failure adds nothing.
  induction h with
  | done transferred chunks => exact UInt64.add_zero _
  | failed transferred reason event =>
    have hzero : carried p ⟨.stamp origin (.error reason) step, event⟩ = 0 := carried_eq_zero p rfl
    rw [List.map_cons, List.sum_cons, hzero]
    exact UInt64.add_zero _
  | @chunk transferred n dt es r event event' h ih =>
    have hchunk : carried p ⟨.stamp origin (.dataChunk .outbound n) dt, event⟩ = n := if_pos hp
    have hprogress : carried p
        ⟨.stamp origin (.transferProgress (transferred + n) total) .zero, event'⟩ = 0 :=
      carried_eq_zero p rfl
    have hsum : carried p ⟨.onEvent event, ()⟩ = 0 ∧ carried p ⟨.onEvent event', ()⟩ = 0 :=
      ⟨rfl, rfl⟩
    simp only [List.map_cons, List.sum_cons, hchunk, hprogress, hsum, zero_add]
    rw [← ih, UInt64.add_assoc]

/-- For other peers the chunks of a push carry nothing. -/
theorem Chunked.sum_carried_of_other {origin : EventOrigin} {total transferred : UInt64}
    {r : Except TransportError (UInt64 × UInt64)} (h : Chunked origin total transferred es r)
    {p : DeviceId → Bool} (hp : p origin.peer = false) : (es.map (carried p)).sum = 0 := by
  have hstamp (kind : TransitEventKind) (dt : Duration) (event : TransitEvent) :
      carried p ⟨.stamp origin kind dt, event⟩ = 0 := if_neg (by rw [hp]; exact Bool.false_ne_true)
  have hevent (event : TransitEvent) : carried p ⟨.onEvent event, ()⟩ = 0 := rfl
  induction h with
  | done transferred chunks => rfl
  | failed transferred reason event =>
    simp only [List.map_cons, List.sum_cons, hstamp, hevent, List.map_nil, List.sum_nil, zero_add]
  | chunk event event' h ih =>
    simp only [List.map_cons, List.sum_cons, hstamp, hevent, zero_add]
    exact ih

theorem Chunked.sum_carried_of_start {origin : EventOrigin} {total : UInt64}
    {r : Except TransportError (UInt64 × UInt64)} (h : Chunked origin total 0 es r)
    (p : DeviceId → Bool) :
    (es.map (carried p)).sum = if p origin.peer then through r else 0 := by
  cases hp : p origin.peer with
  | true =>
    rw [if_pos rfl, ← h.sum_carried hp]
    exact (UInt64.zero_add _).symm
  | false => exact h.sum_carried_of_other hp

/-- The loop stamps an error if it fails, and no other event about the transfer as a whole. -/
theorem Chunked.countP_eq {origin : EventOrigin} {total transferred : UInt64}
    {r : Except TransportError (UInt64 × UInt64)} (h : Chunked origin total transferred es r) :
    es.countP (stamps fun _ kind => isStarted kind) = 0 ∧
      es.countP (stamps fun _ kind => isCompleted kind) = 0 ∧
      es.countP (stamps fun _ kind => isError kind) = (if r.toOption.isSome then 0 else 1) ∧
      es.countP foundLink = 0 := by
  induction h with
  | done transferred chunks => exact ⟨rfl, rfl, rfl, rfl⟩
  | failed transferred reason event => exact ⟨rfl, rfl, rfl, rfl⟩
  | chunk event event' h ih => exact ih

/-- If the loop over the chunks fails, it is as a transfer that is cut off. -/
theorem Chunked.eq_transferFailed {origin : EventOrigin} {total transferred : UInt64}
    {e : TransportError} (h : Chunked origin total transferred es (.error e)) :
    ∃ transferred reason, e = .transferFailed transferred reason := by
  generalize hr : Except.error e = r at h
  induction h with
  | done transferred chunks => cases hr
  | failed transferred reason event =>
    cases hr
    exact ⟨transferred, reason, rfl⟩
  | chunk event event' h ih => exact ih hr

/-- No operation marks its own return: that comes after it. -/
theorem attempt?_eq_none {op : MockOp} {r : op.Result} (h : Returns (backend.run op) es r) :
    ∀ e ∈ es, attempt? e = none := by
  rintro ⟨c, reply⟩ he
  -- The steps of an operation are its own, its events, and the stamping of these.
  rcases (built_run backend op).calls h _ he with hholds | ⟨event, hevent⟩ | hstamp
  · cases c <;> first | rfl | (cases op <;> cases hholds)
  · cases hevent
    rfl
  · obtain ⟨origin, kind, dt, hcall, -⟩ := hstamp
    cases hcall
    rfl

theorem attempts_append (first second : List (Exchange mockSteps)) :
    attempts (first ++ second) = attempts first ++ attempts second :=
  List.filterMap_append

/-- An operation returns once, and that is the only attempt in what it does. -/
theorem attempts_perform {op : MockOp} {r : op.Result} (h : Returns (backend.perform op) es r) :
    attempts es = (attempt? ⟨.returned op r, ()⟩).toList := by
  obtain ⟨es', rfl, hrun⟩ := returns_perform h
  have hnone : attempts es' = [] := List.filterMap_eq_nil_iff.mpr (attempt?_eq_none hrun)
  rw [attempts_append, hnone, List.nil_append, attempts]
  cases h : attempt? ⟨.returned op r, ()⟩ <;> simp [h]

/-- An operation is balanced if what it stamps goes with what it returns. -/
theorem balanced_of_run {op : MockOp} {r : op.Result} (h : Returns (backend.run op) es r)
    (hbytes : ∀ p, (es.map (carried p)).sum = moved p ⟨.returned op r, ()⟩)
    (hended : es.countP (stamps fun _ kind => isStarted kind)
      = es.countP (stamps fun _ kind => isCompleted kind)
        + es.countP (stamps fun _ kind => isError kind))
    (hlooked : es.countP (stamps fun _ kind => isStarted kind) = es.countP foundLink)
    (hlive : es.countP (stamps fun _ kind => isStarted kind)
      = ((attempt? ⟨.returned op r, ()⟩).any FoundLive).toNat) :
    Balanced (es ++ [⟨.returned op r, ()⟩]) := by
  -- Only the mark at the end tells of the result, so the steps before it carry no attempt.
  have hnone := attempt?_eq_none h
  constructor
  · intro p
    have hmoved : (es.map (moved p)).sum = 0 := by
      apply List.sum_eq_zero
      intro n hn
      obtain ⟨e, he, rfl⟩ := List.mem_map.mp hn
      rw [moved, hnone e he]
    have hmark : carried p ⟨.returned op r, ()⟩ = 0 := rfl
    rw [List.map_append, List.map_append, List.sum_append, List.sum_append, hbytes, hmoved,
      zero_add, List.map_singleton, List.map_singleton, List.sum_singleton, List.sum_singleton,
      hmark, add_zero]
  · rw [List.countP_append, List.countP_append, List.countP_append, hended]
    rfl
  · rw [List.countP_append, List.countP_append, hlooked]
    rfl
  · have hattempts : es.countP (fun e => (attempt? e).any FoundLive) = 0 := by
      apply List.countP_eq_zero.mpr
      intro e he
      rw [hnone e he]
      exact Bool.false_ne_true
    have hmark : stamps (fun _ kind => isStarted kind) ⟨.returned op r, ()⟩ = false := rfl
    rw [List.countP_append, List.countP_append, hlive, hattempts, List.countP_singleton,
      List.countP_singleton, hmark]
    cases (attempt? ⟨.returned op r, ()⟩).any FoundLive <;> rfl

/-- A push is balanced by its result, unless it did not know the peer. -/
theorem balanced_push {conn : Connection} {file : OutboundFile}
    {r : Except TransportError TransferReceipt}
    (h : Returns (backend.run (.pushFile conn file)) es r)
    (hknown : ∀ e, es = [⟨.checkLink conn, .error e⟩] → e = .notConnected conn.peer) :
    Balanced (es ++ [⟨.returned (.pushFile conn file) r, ()⟩]) := by
  -- A push is refused at the look-up, breaks in the middle, or goes through.
  cases push_of_returns h with
  | refused e =>
    obtain rfl := hknown e rfl
    apply balanced_of_run h
    · intro p
      show _ = if p conn.peer then 0 else 0
      rw [ite_self]
      rfl
    · rfl
    · rfl
    · simp [attempt?, FoundLive, stamps]
  | @failed device es e start started hchunks =>
    obtain ⟨transferred, reason, rfl⟩ := hchunks.eq_transferFailed
    obtain ⟨hstarted, hcompleted, herror, hlook⟩ := hchunks.countP_eq
    apply balanced_of_run h
    · intro p
      simp only [List.map_cons, List.sum_cons, carried, TransitEventKind.payloadBytes, ite_self,
        zero_add]
      exact hchunks.sum_carried_of_start p
    · simp only [List.countP_cons, hstarted, hcompleted, herror]
      rfl
    · simp only [List.countP_cons, hstarted, hlook]
      rfl
    · simp only [List.countP_cons, hstarted]
      rfl
  | @completed device es transferred chunks start finish started completed hchunks =>
    obtain ⟨hstarted, hcompleted, herror, hlook⟩ := hchunks.countP_eq
    apply balanced_of_run h
    · intro p
      simp only [List.map_append, List.map_cons, List.sum_append, List.sum_cons, List.map_nil,
        List.sum_nil, carried, TransitEventKind.payloadBytes, ite_self, zero_add, add_zero]
      exact hchunks.sum_carried_of_start p
    · simp only [List.countP_append, List.countP_cons, hstarted, hcompleted, herror]
      rfl
    · simp only [List.countP_append, List.countP_cons, hstarted, hlook]
      rfl
    · simp only [List.countP_append, List.countP_cons, hstarted]
      rfl

/-- Every operation but a push stamps nothing that counts, and so is balanced. -/
theorem balanced_other {op : MockOp} {r : op.Result} (h : Returns (backend.run op) es r)
    (hop : ∀ conn file, op ≠ .pushFile conn file) :
    Balanced (es ++ [⟨.returned op r, ()⟩]) := by
  -- None of its steps carries bytes, starts or ends a transfer, or looks a link up.
  have hfree : ∀ e ∈ es, (∀ p, carried p e = 0) ∧ stamps (fun _ kind => isStarted kind) e = false ∧
      stamps (fun _ kind => isCompleted kind) e = false ∧
      stamps (fun _ kind => isError kind) e = false ∧ foundLink e = false := by
    rintro ⟨c, reply⟩ he
    rcases (built_run backend op).calls h _ he with hholds | ⟨event, hevent⟩ | hstamp
    · cases c <;>
        first
        | exact ⟨fun _ => rfl, rfl, rfl, rfl, rfl⟩
        | (cases op <;> first | exact absurd rfl (hop _ _) | cases hholds)
    · cases hevent
      exact ⟨fun _ => rfl, rfl, rfl, rfl, rfl⟩
    · obtain ⟨origin, kind, dt, hcall, hemits⟩ := hstamp
      cases hcall
      cases kind <;>
        first
        | exact ⟨fun p => carried_eq_zero p rfl, rfl, rfl, rfl, rfl⟩
        | (cases op <;> first | exact absurd rfl (hop _ _) | cases hemits)
  have hzero {q : Exchange mockSteps → Bool} (hq : ∀ e ∈ es, q e = false) : es.countP q = 0 :=
    List.countP_eq_zero.mpr fun e he => by rw [hq e he]; exact Bool.false_ne_true
  apply balanced_of_run h
  · intro p
    have hmoved : moved p ⟨.returned op r, ()⟩ = 0 := by
      cases op <;> first | rfl | exact absurd rfl (hop _ _)
    rw [hmoved]
    apply List.sum_eq_zero
    intro n hn
    obtain ⟨e, he, rfl⟩ := List.mem_map.mp hn
    exact (hfree e he).1 p
  · rw [hzero fun e he => (hfree e he).2.1, hzero fun e he => (hfree e he).2.2.1,
      hzero fun e he => (hfree e he).2.2.2.1]
  · rw [hzero fun e he => (hfree e he).2.1, hzero fun e he => (hfree e he).2.2.2.2]
  · rw [hzero fun e he => (hfree e he).2.1]
    cases op <;> first | rfl | exact absurd rfl (hop _ _)

end Operation

/-! ### One client -/

section Client

variable {backend : MockBackend} {known : List DeviceId} {es : List (Exchange mockSteps)}

/-- A connection that was handed out is to a device there is. -/
theorem peer_mem_of_connect {target : DeviceId} {conn : Connection}
    (h : Returns (backend.connect target) es (.ok conn))
    (hanswered : ∀ e ∈ es, AnsweredWith known e) : conn.peer ∈ known := by
  obtain ⟨-, hr⟩ | ⟨device, token, dt, event, rfl, hr⟩ := returns_connect h
  · cases hr
  · cases hr
    obtain ⟨s, answer, hids, hreply⟩ := hanswered _ List.mem_cons_self
    have hfound : s.find target = some device := hreply
    by_contra hnot
    rw [← hids, ← find_eq_none, hfound] at hnot
    cases hnot

theorem balanced_perform {op : MockOp} {r : op.Result} (h : Returns (backend.perform op) es r)
    (hanswered : ∀ e ∈ es, AnsweredWith known e)
    (hpeer : ∀ conn file, op = .pushFile conn file → conn.peer ∈ known) : Balanced es := by
  obtain ⟨es', rfl, hrun⟩ := returns_perform h
  -- Only a push counts; what the others do is free of it.
  by_cases hpush : ∃ conn file, op = .pushFile conn file
  · obtain ⟨conn, file, rfl⟩ := hpush
    apply balanced_push hrun
    rintro e rfl
    -- a link that is not live is the only one that is refused
    obtain ⟨s, answer, hids, hreply⟩ := hanswered _ List.mem_cons_self
    simp only [serve] at hreply
    split at hreply
    · exact (Except.error.inj hreply).symm
    · split at hreply
      next hnone =>
        rw [find_eq_none, hids] at hnone
        exact absurd (hpeer conn file rfl) hnone
      next => cases hreply
  · exact balanced_other hrun fun conn file hop => hpush ⟨conn, file, hop⟩

/-- **Operations one after the other** are balanced, as each of them is. -/
theorem balanced_interpreted {cs : List (Exchange linkOps)}
    (h : Interpreted backend.performLink cs es) (hanswered : ∀ e ∈ es, AnsweredWith known e)
    (hpeer : ∀ c ∈ cs, ∀ conn, Upload.OnLink conn c.call → conn.peer ∈ known) : Balanced es := by
  -- On the operations, each of which comes to a balance of its own.
  induction h with
  | nil => exact .nil
  | @cons c reply cs es es' hfirst _ ih =>
    have hone : Balanced es := by
      apply balanced_perform hfirst fun e he => hanswered e (List.mem_append_left _ he)
      intro conn file hop
      cases c with
      | pushFile conn' file' =>
        cases hop
        exact hpeer _ List.mem_cons_self conn rfl
      | _ => cases hop
    apply hone.append
    exact ih (fun e he => hanswered e (List.mem_append_right _ he))
      fun c' hc' => hpeer c' (List.mem_cons_of_mem _ hc')

/-- An upload is balanced: it pushes on the connection that it has made, whose peer is known. -/
theorem balanced_upload {target : DeviceId} {cs : List (Exchange linkOps)}
    (hcs : Upload.ConnectsFirst target cs) (h : Interpreted backend.performLink cs es)
    (hanswered : ∀ e ∈ es, AnsweredWith known e) : Balanced es := by
  apply balanced_interpreted h hanswered
  obtain ⟨e, rfl⟩ | ⟨conn, cs', rfl, honlink⟩ := hcs
  · intro c hc conn' hconn'
    obtain rfl := List.mem_singleton.mp hc
    cases hconn'
  · obtain ⟨es', hperform, hmem⟩ := h.of_mem List.mem_cons_self
    obtain ⟨es₁, rfl, hconnect⟩ := returns_perform hperform
    have hknown : conn.peer ∈ known := by
      apply peer_mem_of_connect hconnect
      intro e he
      exact hanswered e (hmem e (List.mem_append_left _ he))
    intro c hc conn' hconn'
    rcases List.mem_cons.mp hc with rfl | hc
    · cases hconn'
    · -- all other calls are on that one connection
      have hsame : conn' = conn := by
        have hon := honlink c hc
        obtain ⟨call, reply⟩ := c
        cases call with
        | connect target => cases hon
        | disconnect conn'' => exact hconn'.symm.trans hon
        | pushFile conn'' file => exact hconn'.symm.trans hon
      rw [hsame]
      exact hknown

theorem balanced_call {c : ClientCall} {r : c.Reply} (h : Returns (backend.performCall c) es r)
    (hanswered : ∀ e ∈ es, AnsweredWith known e) : Balanced es := by
  cases c with
  | uploadFile target file options =>
    obtain ⟨cs, hreturns, hcs⟩ := Program.returns_interpret h
    exact balanced_upload (Upload.connectsFirst_uploadFile hreturns) hcs hanswered
  | uploadFiles target files options =>
    obtain ⟨cs, hreturns, hcs⟩ := Program.returns_interpret h
    exact balanced_upload (Upload.connectsFirst_uploadFiles hreturns) hcs hanswered
  | discover filter => exact balanced_perform h hanswered (by rintro _ _ ⟨⟩)
  | pair target => exact balanced_perform h hanswered (by rintro _ _ ⟨⟩)
  | disconnect conn => exact balanced_perform h hanswered (by rintro _ _ ⟨⟩)

/-- **What a client stamps goes with what its attempts return.** -/
theorem balanced_client {β : Type} {client : Program clientCalls β} {b : β}
    (h : Returns (client.interpret backend.performCall) es b)
    (hanswered : ∀ e ∈ es, AnsweredWith known e) : Balanced es := by
  obtain ⟨cs, -, hcs⟩ := Program.returns_interpret h
  clear h
  induction hcs with
  | nil => exact .nil
  | cons hfirst _ ih =>
    have hone := balanced_call hfirst fun e he => hanswered e (List.mem_append_left _ he)
    exact hone.append (ih fun e he => hanswered e (List.mem_append_right _ he))

end Client

/-! ### Sums in 64 bits -/

section Sums

variable {β : Type}

/-- A sum in 64 bits is the sum of the values, up to multiples of `2 ^ 64`. -/
theorem ofNat_sum (l : List β) (f : β → UInt64) :
    UInt64.ofNat ((l.map fun a => (f a).toNat).sum) = (l.map f).sum := by
  induction l with
  | nil => rfl
  | cons a l ih =>
    rw [List.map_cons, List.map_cons, List.sum_cons, List.sum_cons, UInt64.ofNat_add, ih,
      UInt64.ofNat_toNat]

theorem sum_filter (l : List β) (q : β → Bool) (f : β → UInt64) :
    ((l.filter q).map f).sum = (l.map fun a => if q a then f a else 0).sum := by
  induction l with
  | nil => rfl
  | cons a l ih =>
    rw [List.map_cons, List.sum_cons, List.filter_cons]
    split
    · rw [List.map_cons, List.sum_cons, ih]
    · rw [ih]
      exact (UInt64.zero_add _).symm

theorem sum_filterMap {γ : Type} (l : List β) (g : β → Option γ) (f : γ → UInt64) :
    ((l.filterMap g).map f).sum = (l.map fun a => ((g a).map f).getD 0).sum := by
  induction l with
  | nil => rfl
  | cons a l ih =>
    rw [List.map_cons, List.sum_cons, List.filterMap_cons]
    cases g a with
    | none =>
      dsimp only
      rw [ih]
      exact (UInt64.zero_add _).symm
    | some c =>
      dsimp only
      rw [List.map_cons, List.sum_cons, ih]
      rfl

/-- The bytes that exchanges say were transferred are those of the attempts with peers of the
sort. -/
theorem sum_moved (es : List (Exchange mockSteps)) (p : DeviceId → Bool) :
    (es.map (moved p)).sum
      = (((attempts es).filter fun a => p a.1).map fun a => transferredBytes a.2).sum := by
  rw [sum_filter, attempts, sum_filterMap]
  congr 1
  apply List.map_congr_left
  intro e _
  rw [moved]
  cases attempt? e <;> rfl

/-- The bytes that exchanges carry are those of the labels stamped for peers of the sort. -/
theorem sum_carried (es : List (Exchange mockSteps)) (p : DeviceId → Bool) :
    (es.map (carried p)).sum
      = (((stamped es).filter fun l => p l.1).map fun l => l.2.payloadBytes).sum := by
  rw [sum_filter, stamped, sum_filterMap]
  congr 1
  apply List.map_congr_left
  rintro ⟨c, reply⟩ _
  cases c <;> rfl

/-- A summary of events has the sum of their bytes. -/
theorem bytes_fromEvents (l : List TransitEvent) :
    (Metrics.fromEvents l).bytes = (l.map fun event => event.kind.payloadBytes).sum := by
  rw [Metrics.fromEvents_eq]
  exact ofNat_sum l fun event => event.kind.payloadBytes

end Sums

/-! ### All clients -/

section Run

variable {backend : MockBackend} {devices : List MockDevice} {ι : Type} [DecidableEq ι]
  {α : ι → Type} {clients : (i : ι) → Program clientCalls (α i)}
  {steps : List (ι × PairingResponse)} {w : Pool mockSteps MockState α}

/-- If what each client has done is balanced, so is the trace of them all. -/
theorem balanced_of_own {trace : List (ι × Exchange mockSteps)} (h : ∀ i, Balanced (own trace i)) :
    Balanced (trace.map Prod.snd) where
  bytes p := rel_sum_of_own (R := fun a b : UInt64 => a = b) rfl
    (fun a b c d hab hcd => congrArg₂ (· + ·) hab hcd) fun i => (h i).bytes p
  ended := by
    rw [countP_eq_sum, countP_eq_sum, countP_eq_sum, ← List.sum_map_add]
    refine rel_sum_of_own (R := fun a b : ℕ => a = b) rfl
      (fun a b c d hab hcd => congrArg₂ (· + ·) hab hcd) fun i => ?_
    rw [List.sum_map_add, ← countP_eq_sum, ← countP_eq_sum, ← countP_eq_sum]
    exact (h i).ended
  looked := countP_eq_of_own fun i => (h i).looked
  live := countP_eq_of_own fun i => (h i).live

/-- When no client is in progress, what all of them stamped goes with what their attempts
returned. -/
theorem balanced_trace
    (hreached : Pool.Reached serve (.init devices)
      (fun i => (clients i).interpret backend.performCall) w) (hrest : w.Quiescent) :
    Balanced (w.trace.map Prod.snd) := by
  apply balanced_of_own
  intro i
  rcases hreached.atRest (hrest i) with hnil | ⟨a, hreturns⟩
  · rw [hnil]
    exact .nil
  · apply balanced_client hreturns
    intro e he
    exact answeredWith_of_mem hreached (mem_own.mp he)

/-- The attempts of all clients, in the order in which they have returned. -/
def allAttempts (w : Pool mockSteps MockState α) :
    List (DeviceId × Except TransportError TransferReceipt) := attempts (w.trace.map Prod.snd)

/-- When no client is in progress, the recorder has what was stamped. -/
theorem observed_perm
    (hreached : Pool.Reached serve (.init devices)
      (fun i => (clients i).interpret backend.performCall) w) (hrest : w.Quiescent) :
    w.shared.observed.Perm (events.allTaken w) := by
  rw [(logged_of_served hreached.served).observed_eq]
  exact Publication.handed_perm_taken (fun i => publishes_client (clients i)) hreached hrest

/-- The recorded events of peers of a sort have the bytes that the attempts with them say. -/
theorem sum_recorded
    (hreached : Pool.Reached serve (.init devices)
      (fun i => (clients i).interpret backend.performCall) w) (hrest : w.Quiescent)
    {recorded : List TransitEvent} (hrecorded : recorded.Perm w.shared.observed)
    (p : DeviceId → Bool) :
    (Metrics.fromEvents (recorded.filter fun event => p event.origin.peer)).bytes
      = UInt64.ofNat
        (((allAttempts w).filter fun a => p a.1).map fun a =>
          (transferredBytes a.2).toNat).sum := by
  -- The recorder has the events in the order of their numbers, and a sum has no order.
  have hperm := hrecorded.trans (observed_perm hreached hrest)
  have hlabels : (events.allTaken w).map TransitEvent.label = stamped (w.trace.map Prod.snd) :=
    labels_of_answered hreached.served.answered
  calc (Metrics.fromEvents (recorded.filter fun event => p event.origin.peer)).bytes
      = ((recorded.filter fun event => p event.origin.peer).map
          fun event => event.kind.payloadBytes).sum := bytes_fromEvents _
    _ = (((events.allTaken w).filter fun event => p event.origin.peer).map
          fun event => event.kind.payloadBytes).sum := ((hperm.filter _).map _).sum_eq
    _ = (((stamped (w.trace.map Prod.snd)).filter fun l => p l.1).map
          fun l => l.2.payloadBytes).sum := by
        rw [← hlabels, List.filter_map, List.map_map]
        rfl
    _ = ((w.trace.map Prod.snd).map (carried p)).sum := (sum_carried _ p).symm
    _ = ((w.trace.map Prod.snd).map (moved p)).sum := (balanced_trace hreached hrest).bytes p
    _ = (((allAttempts w).filter fun a => p a.1).map fun a => transferredBytes a.2).sum :=
        sum_moved _ p
    _ = _ := (ofNat_sum _ _).symm

/-- The transfers that were started have ended, and are as many as the attempts on a live link. -/
theorem countP_recorded
    (hreached : Pool.Reached serve (.init devices)
      (fun i => (clients i).interpret backend.performCall) w) (hrest : w.Quiescent) :
    w.shared.observed.countP (fun event => isStarted event.kind)
        = w.shared.observed.countP (fun event => isCompleted event.kind)
          + w.shared.observed.countP (fun event => isError event.kind) ∧
      w.shared.observed.countP (fun event => isStarted event.kind)
        = (w.trace.map Prod.snd).countP foundLink ∧
      w.shared.observed.countP (fun event => isStarted event.kind)
        = (allAttempts w).countP FoundLive := by
  have hbalanced := balanced_trace hreached hrest
  have hcount (q : TransitEventKind → Bool) : w.shared.observed.countP (fun event => q event.kind)
      = (w.trace.map Prod.snd).countP (stamps fun _ kind => q kind) := by
    rw [(observed_perm hreached hrest).countP_eq]
    exact countP_taken hreached.served fun _ kind => q kind
  have hlive : (w.trace.map Prod.snd).countP (fun e => (attempt? e).any FoundLive)
      = (allAttempts w).countP FoundLive := by
    rw [allAttempts, attempts, List.countP_filterMap]
    apply List.countP_congr
    intro e _
    cases attempt? e <;> rfl
  rw [hcount, hcount, hcount, ← hlive]
  exact ⟨hbalanced.ended, hbalanced.looked, hbalanced.live⟩

end Run

/-- The bytes of a peer in the breakdown by peer; a peer that does not occur has none. -/
def peerBytes (a : Analyzer) (id : DeviceId) : UInt64 :=
  ((a.breakdown .peer).buckets.lookup id.display).elim 0 Metrics.bytes

/-- They are those of its events: no two peers are displayed alike. -/
theorem peerBytes_eq (a : Analyzer) (id : DeviceId) : peerBytes a id
    = (Metrics.fromEvents (a.events.filter fun event => event.origin.peer = id)).bytes := by
  have hbucket : Analyzer.inBucket .peer id.display a.events
      = a.events.filter fun event => event.origin.peer = id := by
    apply List.filter_congr
    intro event _
    exact decide_eq_decide.mpr DeviceId.display_injective.eq_iff
  rw [peerBytes, Analyzer.lookup_breakdown, hbucket]
  split
  next hnil =>
    rw [hnil]
    rfl
  next => rfl

/-- **Byte accounting.** For clients of a mock backend that call it as they like, interleaved in any
way, when none of them is in progress: the bytes in the analyzer's total are the sum of what the
push attempts say they transferred, as a 64-bit number like each of them, and so are the bytes of
each peer over the attempts with it; and the transfers that were started are as many as those
completed and those cut off by an error, and as many as the attempts that found their link live. -/
theorem byte_accounting {backend : MockBackend} {devices : List MockDevice} {ι : Type}
    [DecidableEq ι] {α : ι → Type} {clients : (i : ι) → Program clientCalls (α i)}
    {steps : List (ι × PairingResponse)} {w : Pool mockSteps MockState α}
    (hrun : (Pool.system serve).Run (backend.startClients devices clients) steps w)
    (hrest : w.Quiescent) (recorded : EventVec) (hrecorded : recorded.1 = w.shared.observed) :
    (Analyzer.new recorded).total.bytes
        = UInt64.ofNat ((allAttempts w).map fun a => (transferredBytes a.2).toNat).sum ∧
      (∀ id, peerBytes (Analyzer.new recorded) id = UInt64.ofNat
        (((allAttempts w).filter fun a => a.1 = id).map
          fun a => (transferredBytes a.2).toNat).sum) ∧
      w.shared.observed.countP (fun event => isStarted event.kind)
        = w.shared.observed.countP (fun event => isCompleted event.kind)
          + w.shared.observed.countP (fun event => isError event.kind) ∧
      w.shared.observed.countP (fun event => isStarted event.kind)
        = (w.trace.map Prod.snd).countP foundLink ∧
      w.shared.observed.countP (fun event => isStarted event.kind)
        = (allAttempts w).countP FoundLive := by
  have hreached := Pool.reached_of_run hrun
  have hsorted : (Analyzer.new recorded).events.Perm w.shared.observed := by
    rw [← hrecorded]
    exact List.perm_insertionSort seqLe recorded.1
  refine ⟨?_, ?_, countP_recorded hreached hrest⟩
  · have hsum := sum_recorded hreached hrest hsorted fun _ => true
    rw [List.filter_true, List.filter_true] at hsum
    exact hsum
  · intro id
    rw [peerBytes_eq]
    exact sum_recorded hreached hrest hsorted fun peer => peer = id

/-- A client that sends it a file of four bytes, with one retry. -/
def uploader (_ : Unit) : Program clientCalls (Except TransportError TransferReceipt) :=
  call (I := clientCalls) (.uploadFile flakyPhone.info.id
    { name := "photo.jpg", mimeType := none, bytes := [1, 2, 3, 4] }
    { retries := 1, disconnectAfter := true })

/-- A client whose push fails twice: the report has the bytes of both attempts. -/
theorem byte_accounting_retried : ∃ w, ∃ recorded : EventVec,
    (Pool.system serve).Run (quietBackend.startClients [flakyPhone] uploader)
        (List.replicate 31 ((), .cancel)) w ∧ recorded.1 = w.shared.observed ∧
      (Analyzer.new recorded).total.bytes = 4 ∧
      peerBytes (Analyzer.new recorded) flakyPhone.info.id = 4 ∧
      w.shared.observed.countP (fun event => isError event.kind) = 2 := by
  let p (w : Pool mockSteps MockState fun _ : Unit => Except TransportError TransferReceipt) :
      Bool :=
    (w.task ()).value?.isSome && decide (w.shared.observed.length < 2 ^ 63 ∧
      ((allAttempts w).map fun a => (transferredBytes a.2).toNat).sum = 4 ∧
      (((allAttempts w).filter fun a => a.1 = flakyPhone.info.id).map
        fun a => (transferredBytes a.2).toNat).sum = 4 ∧
      w.shared.observed.countP (fun event => isStarted event.kind) = 2 ∧
      w.shared.observed.countP (fun event => isCompleted event.kind) = 0)
  have hcomputed : ((Pool.system serve).exec (quietBackend.startClients [flakyPhone] uploader)
      (List.replicate 31 ((), .cancel))).any p = true := by decide +kernel
  obtain ⟨w, hrun, hp⟩ := Lts.exists_run_of_any hcomputed
  obtain ⟨hdone, hp⟩ := Bool.and_eq_true_iff.mp hp
  obtain ⟨hfits, hall, hphone, hstarted, hcompleted⟩ := of_decide_eq_true hp
  -- All the clients have returned.
  have hrest : w.Quiescent := by
    intro i
    obtain ⟨a, ha⟩ := Option.isSome_iff_exists.mp hdone
    exact .inr ⟨a, Program.value?_eq_some.mp ha⟩
  obtain ⟨htotal, hpeer, hended, -, -⟩ :=
    byte_accounting hrun hrest ⟨w.shared.observed, hfits⟩ rfl
  refine ⟨w, ⟨w.shared.observed, hfits⟩, hrun, rfl, ?_, ?_, ?_⟩
  · rw [htotal, hall]
    rfl
  · rw [hpeer, hphone]
    rfl
  · omega

/-! ### A total that does not fit -/

section Beyond

variable {backend : MockBackend} {conn : Connection} {file : OutboundFile} {device : MockDevice}
  {es : List (Exchange mockSteps)} {s s' : MockState}

/-- Copies of a file that is one chunk are pushed one after the other, each in one attempt. -/
theorem copies_of_returns {peer : DeviceId} (hlive : s.connections.lookup conn.token = some peer)
    (hdevice : s.find conn.peer = some device) (hlimit : device.transferFailureAfter = none)
    (hone : sliceChunks (fullChunk device) file.bytes = [file.bytes]) {n : ℕ}
    {receipts : List TransferReceipt} {r : Except TransportError (List TransferReceipt)}
    (h : Returns ((Upload.pushAll conn 0 (List.replicate n file) receipts).interpret
      backend.performLink) es r) (hserved : Served serve s es s') :
    (attempts es).map (fun a => transferredBytes a.2)
        = List.replicate n (UInt64.ofNat file.bytes.length) ∧
      s'.observed.length = s.observed.length + 4 * n := by
  induction n generalizing s es receipts with
  | zero =>
    obtain ⟨rfl, rfl⟩ := Program.returns_done.mp h
    obtain rfl := hserved.eq_of_nil
    exact ⟨rfl, rfl⟩
  | succ n ih =>
    obtain ⟨es₁, pushed, es₂, rfl, hfirst, hrest⟩ := Program.returns_bind.mp h
    obtain ⟨s₁, hserved₁, hserved₂⟩ := hserved.split
    have halone : Alone serve (pushFile conn file) s pushed s₁ :=
      alone_perform.mp ⟨es₁, hfirst, hserved₁⟩
    obtain ⟨⟨receipt, rfl, hbytes⟩, hdevices, hconnections, hlength⟩ :=
      alone_push_once hlive hdevice hlimit hone halone
    rw [← hconnections] at hlive
    rw [MockState.find, ← hdevices] at hdevice
    obtain ⟨hattempts, hobserved⟩ := ih hlive hdevice hrest hserved₂
    have hattempt : attempts es₁ = [(conn.peer, .ok receipt)] := attempts_perform hfirst
    constructor
    · rw [attempts_append, List.map_append, hattempt, hattempts, List.replicate_succ, ← hbytes]
      rfl
    · rw [hobserved, hlength]
      omega

/-- An upload to the one device there is connects and then pushes the files, if it is to keep the
connection. -/
theorem returns_uploadFiles_init {device : MockDevice} {files : List OutboundFile}
    {options : UploadOptions} (hkeep : options.disconnectAfter = false)
    {r : Except TransportError (List TransferReceipt)}
    (h : Returns ((Upload.uploadFiles device.info.id files options).interpret
      quietBackend.performLink) es r) (hserved : Served serve (.init [device]) es s') :
    ∃ es₁ es₂, es = es₁ ++ es₂ ∧ attempts es₁ = [] ∧
      Returns ((Upload.pushAll (firstLink device) options.retries files []).interpret
        quietBackend.performLink) es₂ r ∧ Served serve (linkedTo device) es₂ s' := by
  obtain ⟨es₁, connected, es₂, rfl, hfirst, hrest⟩ := Program.returns_bind.mp h
  obtain ⟨s₁, hserved₁, hserved₂⟩ := hserved.split
  have hconnect : Alone serve (quietBackend.connect device.info.id) (.init [device]) connected s₁ :=
    alone_perform.mp ⟨es₁, hfirst, hserved₁⟩
  obtain ⟨rfl, rfl⟩ := alone_connect.mp hconnect
  change Returns ((Upload.thenDisconnect (firstLink device) options
    (Upload.pushAll (firstLink device) options.retries files [])).interpret
      quietBackend.performLink) es₂ r at hrest
  rw [Upload.thenDisconnect, hkeep, Program.interpret_bind] at hrest
  obtain ⟨es₃, pushed, rest, rfl, hall, hdone⟩ := Program.returns_bind.mp hrest
  obtain ⟨rfl, rfl⟩ := Program.returns_done.mp hdone
  rw [List.append_nil] at hserved₂ ⊢
  exact ⟨es₁, es₃, rfl, attempts_perform hfirst, hall, hserved₂⟩

end Beyond

/-- A phone that takes `2 ^ 62` bytes in one chunk, so that the push needs few steps. -/
def roomyPhone : MockDevice := { phone with chunkSize := 4611686018427387904 }

/-- A file of `2 ^ 62` bytes, a fourth of what the counts can hold. -/
def diskImage : OutboundFile :=
  { name := "disk.img", mimeType := none, bytes := List.replicate (2 ^ 62) 0 }

/-- A client that sends four copies of the file, which add up to `2 ^ 64` bytes. -/
def copier (_ : Unit) : Program clientCalls (Except TransportError (List TransferReceipt)) :=
  call (I := clientCalls) (.uploadFiles roomyPhone.info.id (List.replicate 4 diskImage)
    { retries := 0, disconnectAfter := false })

theorem sliceChunks_diskImage :
    sliceChunks (fullChunk roomyPhone) diskImage.bytes = [diskImage.bytes] := by
  have hlength : diskImage.bytes.length = 2 ^ 62 := List.length_replicate
  apply sliceChunks_of_le
  · intro hnil
    rw [hnil] at hlength
    exact absurd hlength (by decide)
  · rw [hlength]
    decide

/-- The total comes round: the four attempts say `2 ^ 62` bytes each, and the analyzer none. -/
theorem bytes_come_round : ∃ steps w, ∃ recorded : EventVec,
    (Pool.system serve).Run (quietBackend.startClients [roomyPhone] copier) steps w ∧
      w.Quiescent ∧ recorded.1 = w.shared.observed ∧
      (Analyzer.new recorded).total.bytes.toNat = 0 ∧
      ((allAttempts w).map fun a => (transferredBytes a.2).toNat).sum = 2 ^ 64 := by
  obtain ⟨steps, w, es, r, hrun, htask, htrace, hreturns, hserved⟩ :=
    Pool.exists_run_done (H := serve) (quietBackend.startClients [roomyPhone] copier) ()
  have hrest : w.Quiescent := fun _ => .inr ⟨r, by rw [htask, Function.update_self]⟩
  -- the client's one call is the upload, which connects and then pushes
  obtain ⟨es, r', rest, rfl, hupload, hdone⟩ := Program.returns_bind.mp hreturns
  obtain ⟨rfl, rfl⟩ := Program.returns_done.mp hdone
  rw [List.append_nil] at htrace hserved
  obtain ⟨es₁, es₂, rfl, hnone, hpushes, hserved₂⟩ := returns_uploadFiles_init rfl hupload hserved
  obtain ⟨hattempts, hlength⟩ := copies_of_returns (lookup_linkedTo roomyPhone)
    (find_linkedTo roomyPhone) rfl sliceChunks_diskImage hpushes hserved₂
  have hbytes : (UInt64.ofNat diskImage.bytes.length).toNat = 2 ^ 62 := by
    rw [diskImage, List.length_replicate]
    rfl
  -- Four files of 2 ^ 62 bytes, all of which went through: the sum is 2 ^ 64, which is zero in 64
  -- bits.
  have hsum : ((allAttempts w).map fun a => (transferredBytes a.2).toNat).sum = 2 ^ 64 := by
    have hall : allAttempts w = attempts es₂ := by
      have hmap : w.trace.map Prod.snd = es₁ ++ es₂ := by
        rw [htrace, startClients, Pool.start, List.nil_append, List.map_map]
        exact List.map_id _
      rw [allAttempts, hmap, attempts_append, hnone, List.nil_append]
    calc ((allAttempts w).map fun a => (transferredBytes a.2).toNat).sum
        = (((attempts es₂).map fun a => transferredBytes a.2).map UInt64.toNat).sum := by
          rw [hall, List.map_map]
          rfl
      _ = (List.replicate 4 (2 ^ 62)).sum := by rw [hattempts, List.map_replicate, hbytes]
      _ = 2 ^ 64 := by decide
  have hfits : w.shared.observed.length < 2 ^ 63 := by
    rw [hlength]
    decide
  refine ⟨steps, w, ⟨w.shared.observed, hfits⟩, hrun, hrest, rfl, ?_, hsum⟩
  have hrecorded := sum_recorded (Pool.reached_of_run hrun) hrest
    (List.perm_insertionSort seqLe w.shared.observed) fun _ => true
  rw [List.filter_true, List.filter_true, hsum] at hrecorded
  exact congrArg UInt64.toNat hrecorded

end MockBackend
end Pax
