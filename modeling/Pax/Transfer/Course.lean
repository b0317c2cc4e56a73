import Pax.Framework.Attempts
import Pax.Transfer.Session

/-!
# The course of an upload

What the backend sees of an upload of several files, whatever it replies: the files in order, each
pushed until a result does not ask for another attempt or the attempts run out, and nothing more
once a file has failed. `PushCourse` says which pushes those are and what the upload comes to. It
describes the paths of the loop over the files in both directions (`returns_pushAll`).

* `Tried` is a file that was pushed, with the results of its attempts.
* `PushCourse` lists the files tried and gives the result of the loop; `pushCourse_cons` takes it
  apart by the first file, as the loop does.
* `Closing` is what comes after the transfer: the disconnect, if it is asked for, whose reply
  changes nothing.
-/

namespace Pax
namespace Upload

open Program (Returns)

/-- What a push comes to: its receipt, or the error with which it failed. -/
abbrev PushResult := Except TransportError TransferReceipt

/-- A push of the file on the connection, with its result. -/
def pushed (conn : Connection) (file : OutboundFile) (result : PushResult) : Exchange linkOps :=
  ⟨.pushFile conn file, result⟩

/-- A file with what its pushes came to, in order, and what the last of them did. -/
structure Tried where
  file : OutboundFile
  results : List PushResult
  outcome : PushResult

/-- The pushes of the file that were tried, with their results. -/
def Tried.pushes (conn : Connection) (t : Tried) : List (Exchange linkOps) :=
  t.results.map (pushed conn t.file)

/-- The pushes of `files`, at most `bound` of each, as far as they have been `tried`, and what the
upload then comes to. -/
structure PushCourse (bound : ℕ) (files : List OutboundFile) (tried : List Tried)
    (r : Except TransportError (List TransferReceipt)) : Prop where
  /-- Strictly in order. -/
  inOrder : tried.map Tried.file <+: files
  attempts : ∀ t ∈ tried, Attempts (transient isFinalPush) bound t.results t.outcome
  /-- Nothing is pushed after a file that has failed. -/
  succeeded : ∀ t ∈ tried.dropLast, ∃ receipt, t.outcome = .ok receipt
  /-- One receipt for each file, if all of them have succeeded. -/
  ok_iff : ∀ receipts, r = .ok receipts ↔
    tried.map Tried.file = files ∧ tried.map Tried.outcome = receipts.map .ok
  error_iff : ∀ e, r = .error e ↔ ∃ t, tried.getLast? = some t ∧ t.outcome = .error e

/-! ### One file -/

theorem pushFrom_eq_attempt (conn : Connection) (file : OutboundFile) (made left : ℕ)
    (last : TransportError) :
    pushFrom conn file left last
      = Program.attempt (I := linkOps) (.pushFile conn file) (transient isFinalPush)
          (fun _ result => result) made left (.error last) := by
  -- On the pushes that are left: both make one, and stop at a receipt or at a final error.
  induction left generalizing made last with
  | zero => rfl
  | succ left ih =>
    rw [pushFrom, Program.attempt]
    show Program.ask (I := linkOps) _ _ = _
    congr 1
    funext result
    cases result with
    | ok receipt => rfl
    | error e =>
      show (if isFinalPush e then .done (.error e) else pushFrom conn file left e)
        = if (!isFinalPush e) = true then _ else _
      cases isFinalPush e with
      | true => rfl
      | false => exact ih (made + 1) e

/-- **The pushes of one file.** There is at least one, so that what is returned is its result. -/
theorem returns_pushWithRetries {conn : Connection} {file : OutboundFile} {retries : UInt32}
    {es : List (Exchange linkOps)} {r : PushResult} :
    Returns (pushWithRetries conn file retries) es r ↔
      ∃ results, es = results.map (pushed conn file) ∧
        Attempts (transient isFinalPush) (saturatingSucc retries) results r := by
  rw [pushWithRetries, pushFrom_eq_attempt conn file 0]
  refine Program.returns_attempt.trans ?_
  constructor
  · rintro (⟨hzero, -⟩ | ⟨results, r', rfl, h, rfl⟩)
    · exact absurd hzero (by have := one_le_saturatingSucc retries; omega)
    · exact ⟨results, rfl, h⟩
  · rintro ⟨results, rfl, h⟩
    exact .inr ⟨results, r, rfl, h, rfl⟩

/-! ### Several files -/

section Course

variable {bound : ℕ} {file : OutboundFile} {files : List OutboundFile} {t : Tried}
  {tried : List Tried} {r : Except TransportError (List TransferReceipt)}

/-- Without files there is nothing to push, and the upload has no receipts. -/
theorem pushCourse_nil : PushCourse bound [] tried r ↔ tried = [] ∧ r = .ok [] := by
  constructor
  · intro h
    obtain rfl : tried = [] := List.map_eq_nil_iff.mp (List.prefix_nil.mp h.inOrder)
    exact ⟨rfl, (h.ok_iff []).mpr ⟨rfl, rfl⟩⟩
  · rintro ⟨rfl, rfl⟩
    refine ⟨List.prefix_rfl, by simp, by simp, fun receipts => ?_, by simp⟩
    simp [eq_comm]

/-- If the first file did not fail, the last one that was tried is among the others. -/
theorem failed_cons {receipt : TransferReceipt} (houtcome : t.outcome = .ok receipt)
    (e : TransportError) :
    (∃ t', (t :: tried).getLast? = some t' ∧ t'.outcome = .error e) ↔
      ∃ t', tried.getLast? = some t' ∧ t'.outcome = .error e := by
  cases tried with
  | nil => simp [houtcome]
  | cons t' tried => rw [List.getLast?_cons_cons]

/-- If the first file has succeeded, all have if all the others have. -/
theorem completed_cons {receipt : TransferReceipt} (hfile : t.file = file)
    (houtcome : t.outcome = .ok receipt) (receipts : List TransferReceipt) :
    ((t :: tried).map Tried.file = file :: files ∧
        (t :: tried).map Tried.outcome = receipts.map .ok) ↔
      ∃ rest, receipts = receipt :: rest ∧ tried.map Tried.file = files ∧
        tried.map Tried.outcome = rest.map .ok := by
  rw [List.map_cons, List.map_cons, hfile, houtcome, List.cons_inj_right]
  constructor
  · rintro ⟨hfiles, houtcomes⟩
    obtain ⟨receipt', rest, rfl, heq, hrest⟩ := List.map_eq_cons_iff.mp houtcomes.symm
    obtain rfl := Except.ok.inj heq
    exact ⟨rest, rfl, hfiles, hrest.symm⟩
  · rintro ⟨rest, rfl, hfiles, houtcomes⟩
    exact ⟨hfiles, congrArg (.ok receipt :: ·) houtcomes⟩

/-- If the first file fails, the upload fails with it, and no other file is tried. -/
theorem PushCourse.fail {e : TransportError} (hfile : t.file = file)
    (hattempts : Attempts (transient isFinalPush) bound t.results t.outcome)
    (houtcome : t.outcome = .error e) : PushCourse bound (file :: files) [t] (.error e) where
  inOrder := ⟨files, congrArg (· :: files) hfile⟩
  attempts t' ht' := List.mem_singleton.mp ht' ▸ hattempts
  succeeded t' ht' := absurd ht' List.not_mem_nil
  ok_iff receipts := by cases receipts <;> simp [houtcome]
  error_iff e' := by simp [houtcome]

/-- The first file succeeds, and the upload goes on with the others. -/
theorem PushCourse.cons {receipt : TransferReceipt} (hfile : t.file = file)
    (hattempts : Attempts (transient isFinalPush) bound t.results t.outcome)
    (houtcome : t.outcome = .ok receipt) (h : PushCourse bound files tried r) :
    PushCourse bound (file :: files) (t :: tried) (r.map (receipt :: ·)) where
  inOrder := by
    rw [List.map_cons, hfile]
    exact List.cons_prefix_cons.mpr ⟨rfl, h.inOrder⟩
  attempts t' ht' := by
    rcases List.mem_cons.mp ht' with rfl | ht'
    · exact hattempts
    · exact h.attempts t' ht'
  succeeded t' ht' := by
    cases tried with
    | nil => cases ht'
    | cons t₁ tried =>
      rcases List.mem_cons.mp ht' with rfl | ht'
      · exact ⟨receipt, houtcome⟩
      · exact h.succeeded t' ht'
  ok_iff receipts := by
    rw [completed_cons hfile houtcome]
    cases r with
    | error e =>
      have hnot (rest : List TransferReceipt) := (h.ok_iff rest).not.mp (by simp)
      simp [Except.map, hnot]
    | ok rest' =>
      simp only [← h.ok_iff, Except.map, Except.ok.injEq]
      constructor
      · rintro rfl
        exact ⟨rest', rfl, rfl⟩
      · rintro ⟨rest, rfl, rfl⟩
        rfl
  error_iff e := by
    rw [failed_cons houtcome, ← h.error_iff]
    cases r <;> simp [Except.map]

/-- What follows a file that has succeeded is the course of the others. -/
theorem PushCourse.of_cons {receipt : TransferReceipt}
    (h : PushCourse bound (file :: files) (t :: tried) r) (houtcome : t.outcome = .ok receipt) :
    ∃ r', PushCourse bound files tried r' ∧ r = r'.map (receipt :: ·) := by
  obtain ⟨hfile, horder⟩ := List.cons_prefix_cons.mp h.inOrder
  have hattempts : ∀ t' ∈ tried, Attempts (transient isFinalPush) bound t'.results t'.outcome :=
    fun t' ht' => h.attempts t' (List.mem_cons_of_mem t ht')
  -- All but the last of the tried files were accepted, and so were all but the last of the others.
  have hsucceeded : ∀ t' ∈ tried.dropLast, ∃ receipt', t'.outcome = .ok receipt' := by
    intro t' ht'
    refine h.succeeded t' ?_
    rw [List.dropLast_cons_of_ne_nil (by rintro rfl; cases ht')]
    exact List.mem_cons_of_mem t ht'
  have hok (receipts : List TransferReceipt) : r = .ok receipts ↔ ∃ rest, receipts = receipt :: rest
      ∧ tried.map Tried.file = files ∧ tried.map Tried.outcome = rest.map .ok :=
    (h.ok_iff receipts).trans (completed_cons hfile houtcome receipts)
  have herror (e : TransportError) := (h.error_iff e).trans (failed_cons houtcome e)
  cases r with
  | error e =>
    refine ⟨.error e, ⟨horder, hattempts, hsucceeded, fun receipts => ?_, fun e' => ?_⟩, rfl⟩
    · have hnot := (hok (receipt :: receipts)).not.mp (by simp)
      simpa using hnot
    · exact (Iff.intro (fun h => by cases h; rfl) fun h => by cases h; rfl).trans (herror e')
  | ok receipts =>
    obtain ⟨rest, rfl, hfiles, houtcomes⟩ := (hok receipts).mp rfl
    refine ⟨.ok rest, ⟨horder, hattempts, hsucceeded, fun receipts => ?_, fun e' => ?_⟩, rfl⟩
    · have hrest := hok (receipt :: receipts)
      simpa using hrest
    · have hnot := (herror e').not.mp (by simp)
      simpa using hnot

/-- **A course by its first file**: it fails, and with it the upload, or it has a receipt, and
the course goes on with the other files. -/
theorem pushCourse_cons : PushCourse bound (file :: files) tried r ↔
    ∃ t rest, tried = t :: rest ∧ t.file = file ∧
      Attempts (transient isFinalPush) bound t.results t.outcome ∧
      ((∃ e, t.outcome = .error e ∧ rest = [] ∧ r = .error e) ∨
        ∃ receipt r', t.outcome = .ok receipt ∧ PushCourse bound files rest r' ∧
          r = r'.map (receipt :: ·)) := by
  constructor
  · intro h
    cases tried with
    | nil =>
      -- the upload comes to something, so a file was tried
      cases r with
      | ok receipts => exact absurd ((h.ok_iff receipts).mp rfl).1 (by simp)
      | error e => exact absurd ((h.error_iff e).mp rfl) (by simp)
    | cons t rest =>
      obtain ⟨hfile, horder⟩ := List.cons_prefix_cons.mp h.inOrder
      have hfirst := h.attempts t List.mem_cons_self
      refine ⟨t, rest, rfl, hfile, hfirst, ?_⟩
      cases houtcome : t.outcome with
      | error e =>
        have hnil : rest = [] := by
          cases rest with
          | nil => rfl
          | cons t' rest =>
            obtain ⟨receipt, hok⟩ := h.succeeded t List.mem_cons_self
            cases houtcome.symm.trans hok
        subst hnil
        exact .inl ⟨e, rfl, rfl, (h.error_iff e).mpr ⟨t, rfl, houtcome⟩⟩
      | ok receipt =>
        obtain ⟨r', hrest, rfl⟩ := h.of_cons houtcome
        exact .inr ⟨receipt, r', rfl, hrest, rfl⟩
  · rintro ⟨t, rest, rfl, hfile, hattempts, ⟨e, houtcome, rfl, rfl⟩ |
      ⟨receipt, r', houtcome, h, rfl⟩⟩
    · exact .fail hfile hattempts houtcome
    · exact .cons hfile hattempts houtcome h

end Course

/-- **The loop over the files**, with the receipts so far. -/
theorem returns_pushAll {conn : Connection} {retries : UInt32} {files : List OutboundFile}
    {receipts : List TransferReceipt} {es : List (Exchange linkOps)}
    {r : Except TransportError (List TransferReceipt)} :
    Returns (pushAll conn retries files receipts) es r ↔
      ∃ tried r', es = tried.flatMap (Tried.pushes conn) ∧
        PushCourse (saturatingSucc retries) files tried r' ∧ r = r'.map (receipts ++ ·) := by
  -- On the files: the first is tried to its end, and the others only once it has a receipt. The
  -- receipts so far stand before those of the others.
  induction files generalizing receipts es r with
  | nil =>
    simp only [pushAll, pushCourse_nil]
    constructor
    · intro h
      obtain ⟨rfl, rfl⟩ := Program.returns_done.mp h
      exact ⟨[], .ok [], rfl, ⟨rfl, rfl⟩, by simp [Except.map]⟩
    · rintro ⟨tried, r', rfl, ⟨rfl, rfl⟩, rfl⟩
      exact Program.returns_done.mpr ⟨rfl, by simp [Except.map]⟩
  | cons file files ih =>
    simp only [pushAll, pushCourse_cons, Program.returns_bind, returns_pushWithRetries]
    constructor
    · rintro ⟨_, outcome, es', rfl, ⟨results, rfl, hattempts⟩, hrest⟩
      cases outcome with
      | error e =>
        obtain ⟨rfl, rfl⟩ := Program.returns_done.mp hrest
        exact ⟨[⟨file, results, .error e⟩], .error e, by simp [Tried.pushes],
          ⟨_, _, rfl, rfl, hattempts, .inl ⟨e, rfl, rfl, rfl⟩⟩, rfl⟩
      | ok receipt =>
        obtain ⟨tried, r', rfl, hcourse, rfl⟩ := ih.mp hrest
        refine ⟨⟨file, results, .ok receipt⟩ :: tried, r'.map (receipt :: ·), rfl,
          ⟨_, _, rfl, rfl, hattempts, .inr ⟨receipt, r', rfl, hcourse, rfl⟩⟩, ?_⟩
        cases r' <;> simp [Except.map]
    · rintro ⟨_, r', rfl, ⟨t, tried, rfl, rfl, hattempts, hrest⟩, rfl⟩
      refine ⟨t.pushes conn, t.outcome, tried.flatMap (Tried.pushes conn), rfl,
        ⟨t.results, rfl, hattempts⟩, ?_⟩
      rcases hrest with ⟨e, houtcome, rfl, rfl⟩ | ⟨receipt, r'', houtcome, hcourse, rfl⟩
      · rw [houtcome]
        exact Program.returns_done.mpr ⟨rfl, rfl⟩
      · rw [houtcome]
        refine ih.mpr ⟨tried, r'', rfl, hcourse, ?_⟩
        cases r'' <;> simp [Except.map]

/-! ### The connection around them -/

/-- What is called on the connection once the transfer is over: a disconnect, if it is asked for. -/
def Closing (conn : Connection) (options : UploadOptions) (es : List (Exchange linkOps)) : Prop :=
  if options.disconnectAfter then
    ∃ reply : Except TransportError Unit, es = [⟨.disconnect conn, reply⟩]
  else es = []

/-- Once the transfer is over, there is no call but the disconnect. -/
theorem Closing.reply {conn : Connection} {options : UploadOptions} {es : List (Exchange linkOps)}
    {e : Exchange linkOps} (h : Closing conn options es) (he : e ∈ es) :
    ∃ reply : Except TransportError Unit, e = ⟨.disconnect conn, reply⟩ := by
  unfold Closing at h
  split at h
  · obtain ⟨reply, rfl⟩ := h
    exact ⟨reply, List.mem_singleton.mp he⟩
  · obtain rfl := h
    exact absurd he List.not_mem_nil

theorem returns_thenDisconnect {α : Type} {conn : Connection} {options : UploadOptions}
    {transfer : Links (Except TransportError α)} {es : List (Exchange linkOps)}
    {r : Except TransportError α} :
    Returns (thenDisconnect conn options transfer) es r ↔
      ∃ es' closing, es = es' ++ closing ∧ Returns transfer es' r ∧
        Closing conn options closing := by
  rw [thenDisconnect, Program.returns_bind]
  unfold Closing
  -- The disconnect is made if the options ask for it, and its answer is thrown away.
  by_cases hafter : options.disconnectAfter
  · simp only [hafter, if_true]
    constructor
    · rintro ⟨es', result, es'', rfl, htransfer, hclose⟩
      obtain ⟨reply, _, rfl, hend⟩ := Program.returns_call_bind hclose
      obtain ⟨rfl, rfl⟩ := Program.returns_done.mp hend
      exact ⟨es', _, rfl, htransfer, reply, rfl⟩
    · rintro ⟨es', _, rfl, htransfer, reply, rfl⟩
      exact ⟨es', r, _, rfl, htransfer, Program.returns_ask.mpr ⟨reply, [], rfl, .nil _⟩⟩
  · simp only [hafter]
    constructor
    · rintro ⟨es', result, es'', rfl, htransfer, hend⟩
      obtain ⟨rfl, rfl⟩ := Program.returns_done.mp hend
      exact ⟨es', [], rfl, htransfer, rfl⟩
    · rintro ⟨es', _, rfl, htransfer, rfl⟩
      exact ⟨es', r, [], rfl, htransfer, .nil _⟩

theorem returns_withConnection {α : Type} {target : DeviceId}
    {transfer : Connection → Links (Except TransportError α)} {es : List (Exchange linkOps)}
    {r : Except TransportError α} :
    Returns (withConnection target transfer) es r ↔
      (∃ e, es = [⟨.connect target, .error e⟩] ∧ r = .error e) ∨
        ∃ (conn : Connection) (es' : List (Exchange linkOps)),
          es = ⟨.connect target, .ok conn⟩ :: es' ∧ Returns (transfer conn) es' r := by
  constructor
  · intro h
    obtain ⟨connected, es', rfl, hrest⟩ := Program.returns_call_bind h
    -- A target that cannot be connected to is the error of the upload; nothing else is called.
    cases connected with
    | error e =>
      obtain ⟨rfl, rfl⟩ := Program.returns_done.mp hrest
      exact .inl ⟨e, rfl, rfl⟩
    | ok conn => exact .inr ⟨conn, es', rfl, hrest⟩
  · rintro (⟨e, rfl, rfl⟩ | ⟨conn, es', rfl, h⟩)
    · exact .cons _ (.nil _)
    · exact .cons _ h

/-- **What an upload of several files does**, whatever the backend replies: once there is a
connection, the files in order, each with its attempts, up to the first that fails. -/
theorem uploadFiles_course (target : DeviceId) (files : List OutboundFile)
    (options : UploadOptions) (es : List (Exchange linkOps))
    (r : Except TransportError (List TransferReceipt)) :
    Returns (uploadFiles target files options) es r ↔
      (∃ e, es = [⟨.connect target, .error e⟩] ∧ r = .error e) ∨
        ∃ (conn : Connection) (tried : List Tried) (closing : List (Exchange linkOps)),
          es = ⟨.connect target, .ok conn⟩ :: tried.flatMap (Tried.pushes conn) ++ closing ∧
            PushCourse (saturatingSucc options.retries) files tried r ∧
            Closing conn options closing := by
  rw [uploadFiles, returns_withConnection]
  refine or_congr_right (exists_congr fun conn => ?_)
  simp only [returns_thenDisconnect, returns_pushAll]
  constructor
  · rintro ⟨_, rfl, _, closing, rfl, ⟨tried, r', rfl, hcourse, rfl⟩, hclosing⟩
    refine ⟨tried, closing, rfl, ?_, hclosing⟩
    cases r' <;> exact hcourse
  · rintro ⟨tried, closing, rfl, hcourse, hclosing⟩
    refine ⟨_, rfl, _, closing, rfl, ⟨tried, r, rfl, hcourse, ?_⟩, hclosing⟩
    cases r <;> simp [Except.map]

end Upload
end Pax
