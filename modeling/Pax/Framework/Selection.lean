import Mathlib.Tactic

/-!
# Selecting from a list up to a limit

`firstAccepted p limit l` are the elements of `l` that are accepted, in order, at most `limit` of
them. A loop that goes through the list and keeps what is accepted can look at the limit before it
keeps an element (`keepBefore`), or after it has kept one (`keepAfter`). The second loop keeps one
element where the limit is zero, and apart from that both select the same.
-/

namespace Selection

variable {α : Type*} (p : α → Bool)

/-- The elements of the list that are accepted, in order, and no more of them than the limit
says. -/
def firstAccepted (limit : Option ℕ) (l : List α) : List α :=
  match limit with
  | none => l.filter p
  | some n => (l.filter p).take n

/-- There is a limit, and as much has been kept already as it says. -/
def full (limit : Option ℕ) (out : List α) : Bool := limit.any fun n => n ≤ out.length

/-- Stop where an element is accepted that there is no room for. -/
def keepBefore (limit : Option ℕ) : List α → (out : List α) → List α
  | [], out => out
  | a :: l, out =>
    if p a then if full limit out then out else keepBefore limit l (out ++ [a])
    else keepBefore limit l out

/-- Stop where there is no more room after an element is kept. -/
def keepAfter (limit : Option ℕ) : List α → (out : List α) → List α
  | [], out => out
  | a :: l, out =>
    if p a then if full limit (out ++ [a]) then out ++ [a] else keepAfter limit l (out ++ [a])
    else keepAfter limit l out

variable {p} {limit : Option ℕ} {l out : List α} {a : α} {n : ℕ}

theorem firstAccepted_sublist : (firstAccepted p limit l).Sublist l := by
  cases limit with
  | none => exact List.filter_sublist
  | some n => exact (List.take_sublist n _).trans List.filter_sublist

theorem firstAccepted_cons_of_not (h : ¬ p a = true) :
    firstAccepted p limit (a :: l) = firstAccepted p limit l := by
  unfold firstAccepted
  rw [List.filter_cons_of_neg h]

theorem firstAccepted_zero (l : List α) : firstAccepted p (some 0) l = [] :=
  @List.take_zero α (l.filter p)

/-- **A loop that looks first selects up to the limit**: it adds what is accepted, as long as
there is room beside what was kept before. -/
theorem keepBefore_eq (l out : List α) : keepBefore p limit l out
    = out ++ firstAccepted p (limit.map fun n => n - out.length) l := by
  -- On the list, for any list of what was kept before.
  induction l generalizing out with
  | nil => cases limit <;> simp [keepBefore, firstAccepted]
  | cons a l ih =>
    rw [keepBefore]
    by_cases ha : p a = true
    · rw [if_pos ha]
      cases limit with
      | none =>
        rw [if_neg (by simp [full]), ih, List.append_assoc]
        simp only [firstAccepted, Option.map_none, List.filter_cons_of_pos ha,
          List.singleton_append]
      | some n =>
        rw [full, Option.any_some]
        by_cases hfull : n ≤ out.length
        · have hzero : n - out.length = 0 := by omega
          rw [if_pos (decide_eq_true hfull), Option.map_some, hzero, firstAccepted_zero,
            List.append_nil]
        -- what is kept takes one of the places that are left
        · have hroom : n - out.length = (n - (out ++ [a]).length) + 1 := by
            rw [List.length_append, List.length_singleton]
            omega
          rw [if_neg (by simpa using hfull), ih, List.append_assoc]
          simp only [firstAccepted, Option.map_some, hroom, List.filter_cons_of_pos ha,
            List.take_succ_cons, List.singleton_append]
    · rw [if_neg ha, firstAccepted_cons_of_not ha]
      exact ih out

/-- The two loops go the same way while there is room. They differ in what they do where there is
none from the start. -/
theorem keepAfter_eq_keepBefore (hroom : full limit out = false) :
    keepAfter p limit l out = keepBefore p limit l out := by
  -- On the list. The two loops differ in when they look at the limit: after a device is kept, or
  -- before the next one is.
  induction l generalizing out with
  | nil => rfl
  | cons a l ih =>
    rw [keepAfter, keepBefore, if_neg (Bool.eq_false_iff.mp hroom)]
    by_cases ha : p a = true
    · rw [if_pos ha, if_pos ha]
      by_cases hfull : full limit (out ++ [a]) = true
      · -- without room the first loop keeps nothing more
        rw [if_pos hfull, keepBefore_eq]
        cases limit with
        | none => cases hfull
        | some n =>
          have hzero : n - (out ++ [a]).length = 0 := by
            have hle := of_decide_eq_true hfull
            omega
          rw [Option.map_some, hzero, firstAccepted_zero, List.append_nil]
      · rw [if_neg hfull]
        exact ih (Bool.eq_false_iff.mpr hfull)
    · rw [if_neg ha, if_neg ha]
      exact ih hroom

/-- **A loop that looks afterwards selects up to the limit**, where that is not zero. -/
theorem keepAfter_nil (hlimit : limit ≠ some 0) :
    keepAfter p limit l [] = firstAccepted p limit l := by
  have hroom : full limit ([] : List α) = false := by
    cases limit with
    | none => rfl
    | some n =>
      have hn : n ≠ 0 := fun hzero => hlimit (congrArg some hzero)
      exact decide_eq_false (by rw [List.length_nil]; omega)
  rw [keepAfter_eq_keepBefore hroom, keepBefore_eq]
  cases limit <;> rfl

/-- Where the limit is zero, it keeps the first element that is accepted. -/
theorem keepAfter_zero : keepAfter p (some 0) l [] = firstAccepted p (some 1) l := by
  induction l with
  | nil => rfl
  | cons a l ih =>
    rw [keepAfter]
    by_cases ha : p a = true
    · have hfull : full (some 0) ([] ++ [a]) = true := rfl
      rw [if_pos ha, if_pos hfull]
      simp only [firstAccepted, List.filter_cons_of_pos ha, List.nil_append, List.take_succ_cons,
        List.take_zero]
    · rw [if_neg ha, ih, firstAccepted_cons_of_not ha]

/-- **When a loop that looks afterwards selects up to the limit**: that is not zero, or nothing is
accepted. -/
theorem keepAfter_eq_iff :
    keepAfter p limit l [] = firstAccepted p limit l ↔ limit = some 0 → ∀ a ∈ l, ¬ p a = true := by
  constructor
  · rintro h rfl a ha hpa
    rw [keepAfter_zero, firstAccepted_zero] at h
    -- the first element that is accepted would be kept
    have hnil := (List.take_eq_nil_iff.mp h).resolve_left one_ne_zero
    exact List.not_mem_nil (hnil ▸ List.mem_filter.mpr ⟨ha, hpa⟩)
  · intro h
    by_cases hlimit : limit = some 0
    · subst hlimit
      rw [keepAfter_zero, firstAccepted_zero]
      simp only [firstAccepted, List.filter_eq_nil_iff.mpr (h rfl), List.take_nil]
    · exact keepAfter_nil hlimit

/-! ### Trying only the first ones -/

/-- If the first `n` are all accepted, they are those that are selected. -/
theorem firstAccepted_of_take (h : ∀ a ∈ l.take n, p a = true) :
    firstAccepted p (some n) l = l.take n := by
  have hsplit : l.filter p = l.take n ++ (l.drop n).filter p := by
    conv_lhs => rw [← List.take_append_drop n l]
    rw [List.filter_append, List.filter_eq_self.mpr h]
  rw [firstAccepted, hsplit]
  by_cases hn : n ≤ l.length
  · rw [List.take_left' (List.length_take_of_le hn)]
  · have hle : l.length ≤ n := by omega
    rw [List.drop_of_length_le hle, List.filter_nil, List.append_nil, List.take_take, min_self]

/-- If the list is no longer than the limit, then all that is accepted is selected. -/
theorem firstAccepted_of_length_le (h : l.length ≤ n) :
    firstAccepted p (some n) l = l.filter p :=
  List.take_of_length_le ((List.length_filter_le p l).trans h)

end Selection
