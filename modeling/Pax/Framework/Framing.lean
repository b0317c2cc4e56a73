import Mathlib.Tactic

/-!
# Splitting a stream into self-delimiting frames

A frame format is a function `frameLen` that reads the length of the first frame off the front of
the input. `splitFrames` cuts an input into the frames it announces. A frame is self-delimiting
when its own front announces its length whatever follows it, and a concatenation of such frames is
cut back into exactly these frames (`splitFrames_flatten`).
-/

namespace Framing

variable {α : Type}

/-- Cut the input into the frames `frameLen` announces; `none` when a length is missing, is zero or
runs past the end. -/
def splitFrames (frameLen : List α → Option ℕ) (input : List α) : Option (List (List α)) :=
  if _hne : input = [] then some []
  else
    match frameLen input with
    | none => none
    | some n =>
      if _hn : 0 < n ∧ n ≤ input.length then
        (splitFrames frameLen (input.drop n)).map (input.take n :: ·)
      else none
termination_by input.length
decreasing_by
  -- A frame has a positive length, so what is left of the input is shorter.
  have := List.length_pos_of_ne_nil _hne
  rw [List.length_drop]
  omega

/-- A frame whose front announces its length, whatever follows. -/
structure SelfDelimiting (frameLen : List α → Option ℕ) (frame : List α) : Prop where
  ne_nil : frame ≠ []
  announces : ∀ rest, frameLen (frame ++ rest) = some frame.length

variable {frameLen : List α → Option ℕ}

theorem splitFrames_nil : splitFrames frameLen [] = some [] := by
  rw [splitFrames, dif_pos rfl]

/-- The first frame comes off, and the rest is split on its own. -/
theorem splitFrames_append {frame : List α} (h : SelfDelimiting frameLen frame) (rest : List α) :
    splitFrames frameLen (frame ++ rest) = (splitFrames frameLen rest).map (frame :: ·) := by
  have hne : frame ++ rest ≠ [] := by simp [h.ne_nil]
  -- The announced length is that of the frame, which is there in full.
  have hn : 0 < frame.length ∧ frame.length ≤ (frame ++ rest).length :=
    ⟨List.length_pos_of_ne_nil h.ne_nil, by simp⟩
  rw [splitFrames, dif_neg hne]
  simp only [h.announces rest]
  rw [dif_pos hn, List.drop_left, List.take_left]

/-- **Unique splitting.** A concatenation of self-delimiting frames is cut back into them. -/
theorem splitFrames_flatten (frames : List (List α))
    (h : ∀ f ∈ frames, SelfDelimiting frameLen f) :
    splitFrames frameLen frames.flatten = some frames := by
  induction frames with
  | nil => exact splitFrames_nil
  | cons f fs ih =>
    rw [List.flatten_cons, splitFrames_append (h f List.mem_cons_self),
      ih fun g hg => h g (List.mem_cons_of_mem f hg), Option.map_some]

end Framing
