import Mathlib.Tactic

/-!
# Exact reads from a segmented stream

A byte transport hands out what it receives in pieces of its own choosing: `read` fills a buffer
with one piece, or with as much of it as fits. `readExact` is the loop that keeps reading until the
buffer is full. `delivered` forgets the segmentation: it is the sequence of elements the transport
will ever hand out, with the error that ends it. The two are tied by `readExact_of_le` and
`readExact_of_lt`: an exact read depends on the delivered sequence alone, so a reader built on
`readExact` cannot tell two segmentations of one stream apart.
-/

namespace Segments

variable {α ε : Type}

/-- What one call of `read` meets on the stream: a piece of data, a call that was interrupted, or
a failure. -/
inductive ReadEvent (α ε : Type) where
  /-- Elements are available; an empty piece is how a transport reports its end. -/
  | bytes (piece : List α)
  /-- The call was interrupted before it transferred anything, and is retried. -/
  | interrupted
  /-- The call failed. -/
  | fail (e : ε)
  deriving DecidableEq, Repr

/-- Read exactly `n` elements: keep reading until they are there, retrying an interrupted call, and
fail with `eof` when the transport ends first. A piece longer than what is still wanted stays in
the transport. An empty request makes no call. -/
def readExact (eof : ε) : ℕ → List (ReadEvent α ε) → Except ε (List α) × List (ReadEvent α ε)
  | 0, evs => (.ok [], evs)
  | _ + 1, [] => (.error eof, [])
  | n + 1, .interrupted :: evs => readExact eof (n + 1) evs
  | _ + 1, .fail e :: evs => (.error e, evs)
  | n + 1, .bytes piece :: evs =>
    if piece = [] then (.error eof, evs)
    else if piece.length ≤ n + 1 then
      match readExact eof (n + 1 - piece.length) evs with
      | (.ok rest, evs') => (.ok (piece ++ rest), evs')
      | (.error e, evs') => (.error e, evs')
    else (.ok (piece.take (n + 1)), .bytes (piece.drop (n + 1)) :: evs)

/-- Everything the transport will hand out, and the error that ends it. -/
def delivered (eof : ε) : List (ReadEvent α ε) → List α × ε
  | [] => ([], eof)
  | .interrupted :: evs => delivered eof evs
  | .fail e :: _ => ([], e)
  | .bytes piece :: evs =>
    if piece = [] then ([], eof)
    else (piece ++ (delivered eof evs).1, (delivered eof evs).2)

variable {eof : ε}

@[simp] theorem delivered_nil : delivered eof ([] : List (ReadEvent α ε)) = ([], eof) := rfl

@[simp] theorem delivered_interrupted (evs : List (ReadEvent α ε)) :
    delivered eof (.interrupted :: evs) = delivered eof evs := rfl

@[simp] theorem delivered_fail (e : ε) (evs : List (ReadEvent α ε)) :
    delivered eof (.fail e :: evs) = ([], e) := rfl

theorem delivered_bytes {piece : List α} (h : piece ≠ []) (evs : List (ReadEvent α ε)) :
    delivered eof (.bytes piece :: evs)
      = (piece ++ (delivered eof evs).1, (delivered eof evs).2) := by
  rw [delivered, if_neg h]

/-- **An exact read of what is there.** It returns the next `n` delivered elements and leaves the
others, whatever the segmentation. -/
theorem readExact_of_le (evs : List (ReadEvent α ε)) :
    ∀ {n : ℕ}, n ≤ (delivered eof evs).1.length →
      ∃ evs', readExact eof n evs = (.ok ((delivered eof evs).1.take n), evs') ∧
        delivered eof evs' = ((delivered eof evs).1.drop n, (delivered eof evs).2) := by
  -- Induction on the calls still to come; an interrupted one changes nothing on either side.
  induction evs with
  | nil =>
    intro n h
    obtain rfl : n = 0 := Nat.le_zero.mp h
    exact ⟨[], rfl, rfl⟩
  | cons ev evs ih =>
    intro n h
    cases n with
    | zero => exact ⟨ev :: evs, rfl, rfl⟩
    | succ n =>
      cases ev with
      | interrupted => exact ih h
      | fail e => exact absurd h (by simp)
      | bytes piece =>
        by_cases hp : piece = []
        -- An empty piece is the end of the transport: nothing is delivered behind it.
        · rw [delivered, if_pos hp] at h
          exact absurd h (by simp)
        rw [delivered_bytes hp] at h ⊢
        by_cases hle : piece.length ≤ n + 1
        · -- the whole piece is wanted: read on for the rest
          obtain ⟨evs', hread, hdel⟩ :=
            ih (n := n + 1 - piece.length) (by rw [List.length_append] at h; omega)
          refine ⟨evs', ?_, ?_⟩
          · rw [readExact, if_neg hp, if_pos hle, hread, List.take_append,
              List.take_of_length_le hle]
          · rw [hdel, List.drop_append, List.drop_of_length_le hle, List.nil_append]
        · -- the piece is longer than the request: the remainder stays
          have hlt : n + 1 < piece.length := Nat.lt_of_not_le hle
          have hrest : piece.drop (n + 1) ≠ [] := by
            intro hnil
            have := congrArg List.length hnil
            rw [List.length_drop, List.length_nil] at this
            omega
          refine ⟨.bytes (piece.drop (n + 1)) :: evs, ?_, ?_⟩
          · rw [readExact, if_neg hp, if_neg hle, List.take_append_of_le_length hlt.le]
          · rw [delivered_bytes hrest, List.drop_append_of_le_length hlt.le]

/-- **An exact read past the end.** It fails with the error that ends the stream. -/
theorem readExact_of_lt (evs : List (ReadEvent α ε)) :
    ∀ {n : ℕ}, (delivered eof evs).1.length < n →
      ∃ evs', readExact eof n evs = (.error (delivered eof evs).2, evs') := by
  induction evs with
  | nil =>
    intro n h
    obtain ⟨m, rfl⟩ := Nat.exists_eq_add_one_of_ne_zero (Nat.ne_of_gt (Nat.zero_lt_of_lt h))
    exact ⟨[], rfl⟩
  | cons ev evs ih =>
    intro n h
    -- The request is not empty, so the loop does make a call.
    obtain ⟨m, rfl⟩ := Nat.exists_eq_add_one_of_ne_zero (Nat.ne_of_gt (Nat.zero_lt_of_lt h))
    cases ev with
    | interrupted => exact ih h
    | fail e => exact ⟨evs, rfl⟩
    | bytes piece =>
      by_cases hp : piece = []
      · exact ⟨evs, by rw [readExact, if_pos hp, delivered, if_pos hp]⟩
      rw [delivered_bytes hp] at h ⊢
      have hlen : piece.length + (delivered eof evs).1.length < m + 1 := by
        simpa using h
      -- What is delivered falls short, so the piece is used up and the loop reads on.
      have hle : piece.length ≤ m + 1 := by omega
      obtain ⟨evs', hread⟩ := ih (n := m + 1 - piece.length) (by omega)
      exact ⟨evs', by rw [readExact, if_neg hp, if_pos hle, hread]⟩

end Segments
