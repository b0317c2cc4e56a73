import Mathlib.Logic.Function.Basic
import Mathlib.Data.List.TakeDrop

/-!
# Files, names and open descriptors

A name links to a file, and an open descriptor denotes a file rather than a name: it keeps writing
to its file when another process truncates it, or unlinks the name. Files are numbered in the order
they were made and numbers are not used again. No file has two names here, and that is part of the
type (`link_inj`).
-/

/-- The files of a machine. A name links to the number of a file, each file has a content, and
the next number is above all that were used. -/
structure FileSystem (Path : Type) where
  link : Path → Option ℕ
  content : ℕ → List UInt8
  /-- The number of the next file to be made. -/
  fresh : ℕ
  link_lt : ∀ {p n}, link p = some n → n < fresh
  link_inj : ∀ {p q n}, link p = some n → link q = some n → p = q

namespace FileSystem

/-- A machine with no files. The first file will have number 0. -/
def empty (Path : Type) : FileSystem Path where
  link _ := none
  content _ := []
  fresh := 0
  link_lt := nofun
  link_inj := nofun

/-- What `old` reads after `bytes` are written at `offset`; a gap is filled with zeros. -/
def overwrite (old : List UInt8) (offset : ℕ) (bytes : List UInt8) : List UInt8 :=
  (old ++ List.replicate (offset - old.length) 0).take offset ++ bytes
    ++ old.drop (offset + bytes.length)

theorem overwrite_length (old bytes : List UInt8) :
    overwrite old old.length bytes = old ++ bytes := by
  simp [overwrite]

variable {Path : Type} (fs : FileSystem Path)

/-- The content of the file that a name links to, if there is one. -/
def read (p : Path) : Option (List UInt8) := (fs.link p).map fs.content

/-- Write to an open file at an offset, whatever names may link to it. What is there beyond the
bytes written stays. -/
def write (n offset : ℕ) (bytes : List UInt8) : FileSystem Path :=
  { fs with content := Function.update fs.content n (overwrite (fs.content n) offset bytes) }

def truncate (n : ℕ) : FileSystem Path :=
  { fs with content := Function.update fs.content n [] }

variable [DecidableEq Path]

/-- Link a name to a new file, empty as all files are at first. -/
def make (p : Path) : FileSystem Path where
  link := Function.update fs.link p (some fs.fresh)
  content := Function.update fs.content fs.fresh []
  fresh := fs.fresh + 1
  link_lt {q n} hq := by
    rcases eq_or_ne q p with rfl | hne
    · simp only [Function.update_self, Option.some.injEq] at hq
      omega
    · rw [Function.update_of_ne hne] at hq
      exact Nat.lt_succ_of_lt (fs.link_lt hq)
  link_inj {q r n} hq hr := by
    -- Every file there was is older than the new one.
    rcases eq_or_ne q p with rfl | hqp <;> rcases eq_or_ne r q with rfl | hrq
    · rfl
    · rw [Function.update_self, Option.some.injEq] at hq
      rw [Function.update_of_ne hrq] at hr
      have := fs.link_lt hr
      omega
    · rfl
    · rw [Function.update_of_ne hqp] at hq
      rcases eq_or_ne r p with rfl | hrp
      · rw [Function.update_self, Option.some.injEq] at hr
        have := fs.link_lt hq
        omega
      · rw [Function.update_of_ne hrp] at hr
        exact fs.link_inj hq hr

/-- Open a file for writing: the one of that name, truncated, or a new one. The second component is
the descriptor. -/
def create (p : Path) : FileSystem Path × ℕ :=
  match fs.link p with
  | some n => (fs.truncate n, n)
  | none => (fs.make p, fs.fresh)

/-- Unlink a name. The file stays for those who have it open, and nothing happens if there is no
such name. -/
def remove (p : Path) : FileSystem Path :=
  { fs with
    link := Function.update fs.link p none
    link_lt := fun {q n} hq => by
      rcases eq_or_ne q p with rfl | hne
      · simp at hq
      · rw [Function.update_of_ne hne] at hq
        exact fs.link_lt hq
    link_inj := fun {q r n} hq hr => by
      rcases eq_or_ne q p with rfl | hqp
      · simp at hq
      · rcases eq_or_ne r p with rfl | hrp
        · simp at hr
        · rw [Function.update_of_ne hqp] at hq
          rw [Function.update_of_ne hrp] at hr
          exact fs.link_inj hq hr }

variable {fs} {p q : Path} {m n offset : ℕ} {bytes : List UInt8}

/-! ### Under one's own name -/

omit [DecidableEq Path] in
@[simp] theorem link_write : (fs.write n offset bytes).link = fs.link := rfl

omit [DecidableEq Path] in
@[simp] theorem content_write :
    (fs.write n offset bytes).content n = overwrite (fs.content n) offset bytes :=
  Function.update_self ..

@[simp] theorem link_create : (fs.create p).1.link p = some (fs.create p).2 := by
  rw [create]
  split
  · assumption
  · simp [make]

@[simp] theorem content_create : (fs.create p).1.content (fs.create p).2 = [] := by
  rw [create]
  split <;> simp [make, truncate]

@[simp] theorem read_create : (fs.create p).1.read p = some [] := by
  rw [read, link_create, Option.map_some, content_create]

@[simp] theorem read_remove : (fs.remove p).read p = none := by simp [read, remove]

/-! ### Under the other names -/

variable (fs) in
/-- A name denotes the same file in `fs'`, with the same content. -/
structure SameAt (fs' : FileSystem Path) (p : Path) : Prop where
  link : fs'.link p = fs.link p
  content : ∀ {n}, fs.link p = some n → fs'.content n = fs.content n

omit [DecidableEq Path] in
theorem SameAt.refl (p : Path) : fs.SameAt fs p := ⟨rfl, fun _ => rfl⟩

omit [DecidableEq Path] in
theorem SameAt.read {fs' : FileSystem Path} (h : fs.SameAt fs' p) : fs'.read p = fs.read p := by
  rw [FileSystem.read, FileSystem.read, h.link]
  cases hp : fs.link p with
  | none => rfl
  | some n => rw [Option.map_some, Option.map_some, h.content hp]

theorem sameAt_create (h : q ≠ p) : fs.SameAt (fs.create p).1 q := by
  rw [create]
  split
  case h_1 m hm =>
    -- an existing file is truncated; it has no other name
    refine ⟨rfl, fun {n} hq => Function.update_of_ne ?_ _ _⟩
    rintro rfl
    exact h (fs.link_inj hq hm)
  case h_2 hm =>
    -- a new file is none that a name denoted before
    refine ⟨Function.update_of_ne h _ _, fun {n} hq => Function.update_of_ne ?_ _ _⟩
    exact Nat.ne_of_lt (fs.link_lt hq)

omit [DecidableEq Path] in
theorem sameAt_write (h : q ≠ p) (hp : fs.link p = some n) :
    fs.SameAt (fs.write n offset bytes) q := by
  refine ⟨rfl, fun {m} hq => Function.update_of_ne ?_ _ _⟩
  rintro rfl
  exact h (fs.link_inj hq hp)

theorem sameAt_remove (h : q ≠ p) : fs.SameAt (fs.remove p) q :=
  ⟨Function.update_of_ne h _ _, fun _ => rfl⟩

end FileSystem
