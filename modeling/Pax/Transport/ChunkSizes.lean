import Pax.Core.Event

/-!
# The sizes that events carry

The real backends are told absolute counts, and report a `DataChunk` for each increase. These are
the sizes of the chunks among events, and the byte counts of completed transfers. `Carries` says of
two logs which sizes are in what the one adds to the other, and is composed along the steps of a
push.
-/

namespace Pax

/-- The size of a data chunk. -/
def TransitEventKind.chunkSize : TransitEventKind → Option ℕ
  | .dataChunk _ bytes => some bytes.toNat
  | _ => none

/-- The byte count of a completed transfer. -/
def TransitEventKind.completedSize : TransitEventKind → Option ℕ
  | .transferCompleted bytes _ => some bytes.toNat
  | _ => none

/-- The sizes of the data chunks, in order. -/
def chunkSizes (events : List TransitEvent) : List ℕ := events.filterMap (·.kind.chunkSize)

/-- The byte counts of the completed transfers, in order. -/
def completedSizes (events : List TransitEvent) : List ℕ := events.filterMap (·.kind.completedSize)

@[simp] theorem chunkSizes_nil : chunkSizes [] = [] := rfl

@[simp] theorem completedSizes_nil : completedSizes [] = [] := rfl

@[simp] theorem chunkSizes_append (es es' : List TransitEvent) :
    chunkSizes (es ++ es') = chunkSizes es ++ chunkSizes es' := List.filterMap_append

@[simp] theorem completedSizes_append (es es' : List TransitEvent) :
    completedSizes (es ++ es') = completedSizes es ++ completedSizes es' := List.filterMap_append

/-- One log continues another, by chunks and completed transfers of these sizes. -/
def Carries (log log' : List TransitEvent) (chunks completed : List ℕ) : Prop :=
  ∃ es, log' = log ++ es ∧ chunkSizes es = chunks ∧ completedSizes es = completed

variable {log log' log'' : List TransitEvent} {chunks chunks' completed completed' : List ℕ}

theorem Carries.refl (log : List TransitEvent) : Carries log log [] [] :=
  ⟨[], (List.append_nil log).symm, rfl, rfl⟩

theorem Carries.one (log : List TransitEvent) (event : TransitEvent) :
    Carries log (log ++ [event]) event.kind.chunkSize.toList event.kind.completedSize.toList := by
  refine ⟨[event], rfl, ?_, ?_⟩
  · rw [chunkSizes, List.filterMap_cons]
    cases event.kind.chunkSize <;> rfl
  · rw [completedSizes, List.filterMap_cons]
    cases event.kind.completedSize <;> rfl

theorem Carries.trans (h : Carries log log' chunks completed)
    (h' : Carries log' log'' chunks' completed') :
    Carries log log'' (chunks ++ chunks') (completed ++ completed') := by
  obtain ⟨es, rfl, rfl, rfl⟩ := h
  obtain ⟨es', rfl, rfl, rfl⟩ := h'
  exact ⟨es ++ es', List.append_assoc .., chunkSizes_append es es', completedSizes_append es es'⟩

/-- The sizes are those of the events since, which a caller can read off the log. -/
theorem Carries.since (h : Carries log log' chunks completed) :
    chunkSizes (log'.drop log.length) = chunks ∧
      completedSizes (log'.drop log.length) = completed := by
  obtain ⟨es, rfl, hchunks, hcompleted⟩ := h
  rw [List.drop_left]
  exact ⟨hchunks, hcompleted⟩

/-- The difference of two counts as the source computes it, with zero in place of what would be
negative. -/
theorem toNat_saturatingSub (last n : UInt64) :
    (if last ≤ n then n - last else 0).toNat = n.toNat - last.toNat := by
  split
  · next hle => exact UInt64.toNat_sub_of_le n last hle
  · next hgt =>
    have hlt := UInt64.lt_iff_toNat_lt.mp (UInt64.not_le.mp hgt)
    rw [Nat.sub_eq_zero_of_le hlt.le]
    rfl

/-- There is a difference, and so a chunk, exactly if the count went up. -/
theorem saturatingSub_pos_iff (last n : UInt64) :
    0 < (if last ≤ n then n - last else 0) ↔ last.toNat < n.toNat := by
  rw [UInt64.lt_iff_toNat_lt, toNat_saturatingSub]
  exact Nat.sub_pos_iff_lt

end Pax
