import Pax.Framework.FileSystem
import Pax.Framework.Lts
import Pax.Framework.Outcome
import Pax.Transport.BlueZ.Pair

/-!
# Pushing files on BlueZ

`BlueZBackend::push_file` and `stage_temp_file` of `pax-transport/src/bluez.rs`. `obexd` transfers
from a path, so a push stages its payload in a file of the temporary directory, gives `obexd` the
path, and unlinks it on return (the `Drop` of `StagedFile`).

Any number of pushes go on at once. Each is a state machine of its own (`Phase`) whose steps are the
system calls it makes, what `object_push` reports back, and the reads of `obexd`; `pushes` is the
system of all of them over one file system. `Next` lists its steps with what each of them leads to,
and is what the proofs about runs go through (`next_of_eq_some`).

A push by itself is also a computation (`pushFile`), given what the environment does in it; that the
two agree is `exists_attempt_of_run`. The results about one push are stated of the computation, and
the results about many of the system (`Pax.Transport.BlueZ.Staging`).
-/

namespace Pax
namespace BlueZ

/-! ### The staged path -/

/-- What the path of a staged file depends on beside the name of the object. `isAlphanumeric` is
`char::is_alphanumeric`. -/
structure Host where
  tempDir : String
  pid : UInt32
  isAlphanumeric : Char → Bool

namespace Host

variable (host : Host)

/-- The characters of the name that are kept. -/
def keeps (c : Char) : Bool := host.isAlphanumeric c || c == '.' || c == '-' || c == '_'

/-- The name in the staged path: a character that is not kept is an underscore. -/
def safe (name : String) : String := name.map fun c => if host.keeps c then c else '_'

/-- The path of a staged file. Two files of the same safe name have the same path. -/
def stagedPath (name : String) : String :=
  host.tempDir ++ "/" ++ ("pax-obex-" ++ toString host.pid ++ "-" ++ host.safe name)

/-- The character is an underscore in the staged path. -/
def Blank (c : Char) : Prop := c = '_' ∨ host.keeps c = false

instance (c : Char) : Decidable (host.Blank c) := inferInstanceAs (Decidable (_ ∨ _))

/-- The names differ at most where both have an underscore in the staged path. -/
def Collide (a b : String) : Prop :=
  List.Forall₂ (fun c d => c = d ∨ host.Blank c ∧ host.Blank d) a.toList b.toList

variable {host}

theorem keep_eq_iff {c d : Char} :
    (if host.keeps c then c else '_') = (if host.keeps d then d else '_')
      ↔ c = d ∨ host.Blank c ∧ host.Blank d := by
  rw [Blank, Blank]
  by_cases hc : host.keeps c <;> by_cases hd : host.keeps d <;> simp only [hc, hd] <;> grind

/-- **Two pushes share a path if and only if their names collide**, within one process. -/
theorem stagedPath_eq_iff {a b : String} :
    host.stagedPath a = host.stagedPath b ↔ host.Collide a b := by
  rw [stagedPath, stagedPath, Collide]
  -- directory, prefix and process id are the same; the rest is compared character by character
  rw [String.append_right_inj, String.append_right_inj, safe, safe, ← String.toList_inj,
    String.toList_map, String.toList_map, ← List.forall₂_eq_eq_eq, List.forall₂_map_left_iff,
    List.forall₂_map_right_iff]
  simp only [keep_eq_iff]

end Host

/-! ### One push -/

/-- A call of `push_file`, with what it is given. -/
structure PushCall where
  conn : Connection
  file : OutboundFile

/-- The progress closure's captures: the count reported last, and the chunks so far. -/
structure Progress where
  last : UInt64
  chunks : UInt64

/-- The error if the file cannot be staged. -/
def stagingError (e : String) : TransportError := .backend ("staging temp file: " ++ e)

section

variable (env : Environment) (call : PushCall)

/-- The progress closure of `push_file`. -/
def onProgress (transferred : UInt64) (progress : Progress) (s : State) : Progress × State :=
  -- `saturating_sub`: a count that went down is no chunk, but it is still reported
  let delta := if progress.last ≤ transferred then transferred - progress.last else 0
  let report (s : State) :=
    s.emit env call.conn.peer (.transferProgress transferred call.file.len)
  if 0 < delta then
    ({ last := transferred, chunks := progress.chunks + 1 },
      report (s.emit env call.conn.peer (.dataChunk .outbound delta)))
  else ({ progress with last := transferred }, report s)

/-- What `push_file` makes of the result of `object_push`. -/
def conclude (start : Timestamp) (progress : Progress) (result : Except TransportError UInt64)
    (s : State) : Except TransportError TransferReceipt × State :=
  match result with
  | .ok bytes =>
    -- the bytes are those `object_push` returned, not the length of the payload
    let duration := (env.clock s.events.length).saturatingSince start
    (.ok { objectName := call.file.name, bytes, chunks := max progress.chunks 1, duration },
      s.emit env call.conn.peer (.transferCompleted bytes duration))
  | .error e => (.error e, s.emit env call.conn.peer (.error e.display))

end

/-- How far a call has come, from `stage_temp_file` to the removal of the staged file. -/
inductive Phase where
  | idle
  /-- In `stage_temp_file`, with the file open and so many bytes written. -/
  | staging (start : Timestamp) (node written : ℕ)
  /-- In `object_push`, with the file staged. -/
  | pushing (start : Timestamp) (progress : Progress)
  /-- About to return, and to drop the staged file. -/
  | ended (result : Except TransportError TransferReceipt)
  | returned (result : Except TransportError TransferReceipt)

namespace Phase

/-- The call has opened its file and not yet unlinked it. -/
def Live : Phase → Prop
  | staging .. | pushing .. | ended _ => True
  | idle | returned _ => False

/-- The file of the call is staged, and its transfer not over. -/
def Pushing : Phase → Prop
  | pushing .. => True
  | _ => False

end Phase

/-! ### All of them -/

/-- A step of a call, or of `obexd` on its behalf. -/
inductive Step (ι : Type) where
  /-- `File::create`. -/
  | create (i : ι)
  | createFails (i : ι) (e : String)
  /-- A write of `write_all`, which takes `n` bytes. -/
  | write (i : ι) (n : ℕ)
  | writeFails (i : ι) (e : String)
  /-- The file is staged, and its path given to `object_push`. -/
  | push (i : ι)
  /-- `obexd` reads the path it was given. -/
  | read (i : ι)
  | progress (i : ι) (transferred : UInt64)
  /-- `object_push` returns. -/
  | finish (i : ι) (result : Except TransportError UInt64)
  /-- The staged file is dropped on return. -/
  | remove (i : ι)

/-- The state of all calls. `found i` is what `obexd` found at the path of the `i`-th call, each
time it read it. -/
structure World (ι : Type) where
  fs : FileSystem String
  phase : ι → Phase
  found : ι → List (Option (List UInt8))
  backend : State

variable {ι : Type} [DecidableEq ι]

/-- No call has been made. -/
def World.start (fs : FileSystem String) (backend : State) : World ι where
  fs
  phase _ := .idle
  found _ := []
  backend

/-- The `i`-th call goes to a phase. -/
def World.enter (w : World ι) (i : ι) (phase : Phase) : World ι :=
  { w with phase := Function.update w.phase i phase }

section

variable (env : Environment) (host : Host) (calls : ι → PushCall)

/-- Where the `i`-th call stages its file. -/
def pathOf (i : ι) : String := host.stagedPath (calls i).file.name

def payload (i : ι) : List UInt8 := (calls i).file.bytes

/-- The pushes of `calls`, interleaved. -/
def pushes : Lts (World ι) (Step ι) where
  next w step :=
    match step with
    | .create i =>
      match w.phase i with
      | .idle =>
        -- `File::create` opens what is there under this name, if anything is
        let start := env.clock w.backend.events.length
        let (fs, node) := w.fs.create (pathOf host calls i)
        some { w.enter i (.staging start node 0) with fs }
      | _ => none
    | .createFails i e =>
      match w.phase i with
      | .idle => some (w.enter i (.returned (.error (stagingError e))))
      | _ => none
    | .write i n =>
      match w.phase i with
      | .staging start node written =>
        if 0 < n ∧ written + n ≤ (payload calls i).length then
          -- a write goes to the descriptor's file, whatever its name denotes by now
          let piece := ((payload calls i).drop written).take n
          some { w.enter i (.staging start node (written + n)) with
            fs := w.fs.write node written piece }
        else none
      | _ => none
    | .writeFails i e =>
      -- What was written stays where it is: there is no `StagedFile` yet to drop.
      match w.phase i with
      | .staging .. => some (w.enter i (.returned (.error (stagingError e))))
      | _ => none
    | .push i =>
      match w.phase i with
      | .staging start _ written =>
        if written = (payload calls i).length then
          -- `write_all` returns when nothing is left, and only then is the start reported
          let event := .transferStarted (calls i).file.name (calls i).file.len
          some { w.enter i (.pushing start { last := 0, chunks := 0 }) with
            backend := w.backend.emit env (calls i).conn.peer event }
        else none
      | _ => none
    | .read i =>
      match w.phase i with
      | .pushing .. =>
        -- `obexd` opens by path, and no descriptor is passed to it
        let content := w.fs.read (pathOf host calls i)
        some { w with found := Function.update w.found i (w.found i ++ [content]) }
      | _ => none
    | .progress i transferred =>
      match w.phase i with
      | .pushing start progress =>
        let (progress, backend) := onProgress env (calls i) transferred progress w.backend
        some { w.enter i (.pushing start progress) with backend }
      | _ => none
    | .finish i result =>
      match w.phase i with
      | .pushing start progress =>
        let (result, backend) := conclude env (calls i) start progress result w.backend
        some { w.enter i (.ended result) with backend }
      | _ => none
    | .remove i =>
      match w.phase i with
      | .ended result =>
        some { w.enter i (.returned result) with fs := w.fs.remove (pathOf host calls i) }
      | _ => none

/-- The steps, each with the phase it is taken in and with what it leads to. -/
inductive Next (w : World ι) : Step ι → World ι → Prop
  | create {i : ι} (hphase : w.phase i = .idle) :
    Next w (.create i)
      { w.enter i (.staging (env.clock w.backend.events.length)
          (w.fs.create (pathOf host calls i)).2 0) with
        fs := (w.fs.create (pathOf host calls i)).1 }
  | createFails {i : ι} (e : String) (hphase : w.phase i = .idle) :
    Next w (.createFails i e) (w.enter i (.returned (.error (stagingError e))))
  | write {i : ι} {n : ℕ} {start : Timestamp} {node written : ℕ}
    (hphase : w.phase i = .staging start node written)
    (hle : written + n ≤ (payload calls i).length) :
    Next w (.write i n)
      { w.enter i (.staging start node (written + n)) with
        fs := w.fs.write node written (((payload calls i).drop written).take n) }
  | writeFails {i : ι} {start : Timestamp} {node written : ℕ} (e : String)
    (hphase : w.phase i = .staging start node written) :
    Next w (.writeFails i e) (w.enter i (.returned (.error (stagingError e))))
  | push {i : ι} {start : Timestamp} {node : ℕ}
    (hphase : w.phase i = .staging start node (payload calls i).length) :
    Next w (.push i)
      { w.enter i (.pushing start { last := 0, chunks := 0 }) with
        backend := w.backend.emit env (calls i).conn.peer
          (.transferStarted (calls i).file.name (calls i).file.len) }
  | read {i : ι} {start : Timestamp} {progress : Progress}
    (hphase : w.phase i = .pushing start progress) :
    Next w (.read i)
      { w with found :=
          Function.update w.found i (w.found i ++ [w.fs.read (pathOf host calls i)]) }
  | progress {i : ι} {start : Timestamp} {progress : Progress} (transferred : UInt64)
    (hphase : w.phase i = .pushing start progress) :
    Next w (.progress i transferred)
      { w.enter i (.pushing start (onProgress env (calls i) transferred progress w.backend).1) with
        backend := (onProgress env (calls i) transferred progress w.backend).2 }
  | finish {i : ι} {start : Timestamp} {progress : Progress}
    (result : Except TransportError UInt64) (hphase : w.phase i = .pushing start progress) :
    Next w (.finish i result)
      { w.enter i (.ended (conclude env (calls i) start progress result w.backend).1) with
        backend := (conclude env (calls i) start progress result w.backend).2 }
  | remove {i : ι} {result : Except TransportError TransferReceipt}
    (hphase : w.phase i = .ended result) :
    Next w (.remove i)
      { w.enter i (.returned result) with fs := w.fs.remove (pathOf host calls i) }

variable {env host calls} {w w' : World ι} {step : Step ι}

/-- **What a step is**: one of those listed in `Next`. -/
theorem next_of_eq_some (h : (pushes env host calls).next w step = some w') :
    Next env host calls w step w' := by
  -- By the step: each is possible in one phase of its push only.
  cases step with
  | create i =>
    simp only [pushes] at h
    split at h <;> cases h
    case h_1 hphase => exact .create hphase
  | createFails i e =>
    simp only [pushes] at h
    split at h <;> cases h
    case h_1 hphase => exact .createFails e hphase
  | write i n =>
    simp only [pushes] at h
    split at h
    case h_2 => cases h
    case h_1 hphase =>
      split at h <;> cases h
      case isTrue hle => exact .write hphase hle.2
  | writeFails i e =>
    simp only [pushes] at h
    split at h <;> cases h
    case h_1 hphase => exact .writeFails e hphase
  | push i =>
    simp only [pushes] at h
    split at h
    case h_2 => cases h
    case h_1 hphase =>
      split at h <;> cases h
      case isTrue hall =>
        subst hall
        exact .push hphase
  | read i =>
    simp only [pushes] at h
    split at h <;> cases h
    case h_1 hphase => exact .read hphase
  | progress i transferred =>
    simp only [pushes] at h
    split at h <;> cases h
    case h_1 hphase => exact .progress transferred hphase
  | finish i result =>
    simp only [pushes] at h
    split at h <;> cases h
    case h_1 hphase => exact .finish result hphase
  | remove i =>
    simp only [pushes] at h
    split at h <;> cases h
    case h_1 hphase => exact .remove hphase

end

/-! ### A push by itself -/

/-- The environment's side of a push: what staging the file comes to, the counts that `object_push`
reports, and its result. -/
structure PushAttempt where
  staged : Except String Unit
  counts : List UInt64
  result : Except TransportError UInt64

section

variable (env : Environment) (call : PushCall)

/-- The progress closure is called with a count, once for each that `object_push` reports. -/
def reportCount (acc : Progress × State) (transferred : UInt64) : Progress × State :=
  onProgress env call transferred acc.1 acc.2

/-- Push one object: stage it, report what `object_push` reports, and conclude. -/
def pushFile (attempt : PushAttempt) : EStateM TransportError State TransferReceipt := fun s =>
  let start := env.clock s.events.length
  match attempt.staged with
  | .error e => .error (stagingError e) s
  | .ok () =>
    let s := s.emit env call.conn.peer (.transferStarted call.file.name call.file.len)
    let (progress, s) := attempt.counts.foldl (reportCount env call) ({ last := 0, chunks := 0 }, s)
    let (result, s) := conclude env call start progress attempt.result s
    Outcome.ofExcept result s

/-- How far a push that began in `s` has come, and what it has done to the backend. -/
def Stands (s : State) : Phase → State → Prop
  | .idle, backend => backend = s
  | .staging start _ _, backend => start = env.clock s.events.length ∧ backend = s
  | .pushing start progress, backend => start = env.clock s.events.length ∧ ∃ counts : List UInt64,
    (progress, backend) = counts.foldl (reportCount env call) ({ last := 0, chunks := 0 },
      s.emit env call.conn.peer (.transferStarted call.file.name call.file.len))
  | .ended result, backend | .returned result, backend =>
    ∃ attempt, Outcome.split ((pushFile env call attempt).run s) = (result, backend)

theorem stands_next {host : Host} {s : State} {step : Step Unit} {w w' : World Unit}
    (h : Stands env call s (w.phase ()) w.backend)
    (hnext : (pushes env host fun _ => call).next w step = some w') :
    Stands env call s (w'.phase ()) w'.backend := by
  have henter (w : World Unit) (phase : Phase) : (w.enter () phase).phase () = phase := by
    rw [World.enter]
    dsimp only
    rw [Function.update_self]
  -- What was done of the push so far is what `pushFile` has done by then; each step takes it one
  -- further.
  cases next_of_eq_some hnext with
  | create hphase =>
    rw [hphase] at h
    obtain rfl : w.backend = s := h
    rw [henter]
    exact ⟨rfl, rfl⟩
  | createFails e hphase =>
    rw [hphase] at h
    obtain rfl : w.backend = s := h
    rw [henter]
    exact ⟨⟨.error e, [], .ok 0⟩, rfl⟩
  | write hphase hle =>
    rw [hphase] at h
    rw [henter]
    exact h
  | writeFails e hphase =>
    rw [hphase] at h
    obtain ⟨-, hbackend⟩ := h
    rw [henter]
    exact ⟨⟨.error e, [], .ok 0⟩, congrArg _ hbackend.symm⟩
  | push hphase =>
    rw [hphase] at h
    obtain ⟨hstart, hbackend⟩ := h
    rw [henter]
    refine ⟨hstart, [], ?_⟩
    rw [← hbackend]
    rfl
  | read hphase => exact h
  | progress transferred hphase =>
    rw [hphase] at h
    obtain ⟨hstart, counts, hcounts⟩ := h
    rw [henter]
    -- one more count
    refine ⟨hstart, counts ++ [transferred], ?_⟩
    rw [List.foldl_append, ← hcounts]
    rfl
  | finish result hphase =>
    rw [hphase] at h
    obtain ⟨hstart, counts, hcounts⟩ := h
    rw [henter]
    refine ⟨⟨.ok (), counts, result⟩, ?_⟩
    unfold pushFile EStateM.run
    simp only [← hcounts, Outcome.split_ofExcept, ← hstart]
  | remove hphase =>
    rw [hphase] at h
    rw [henter]
    exact h

/-- **A push by itself** is what the steps of a call come to. -/
theorem exists_attempt_of_run {host : Host} {fs : FileSystem String} {s : State}
    {steps : List (Step Unit)} {w : World Unit} {result : Except TransportError TransferReceipt}
    (hrun : (pushes env host fun _ => call).Run (.start fs s) steps w)
    (hreturned : w.phase () = .returned result) :
    ∃ attempt, Outcome.split ((pushFile env call attempt).run s) = (result, w.backend) := by
  let I (w : World Unit) : Prop := Stands env call s (w.phase ()) w.backend
  have hinit : I (.start fs s) := rfl
  have hstands : I w := hrun.invariant (fun _ _ _ h hnext => stands_next env call h hnext) hinit
  dsimp only [I] at hstands
  rw [hreturned] at hstands
  exact hstands

end

end BlueZ
end Pax
