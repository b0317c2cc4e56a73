import Mathlib.Tactic

/-!
# Absolute counts, told as increases

Who is told one absolute count after the other can pass on by how much each is above the one before.
Counts that repeat are no increase, and none is passed on for them (`increases`). Of counts that
never go down nothing is lost and nothing told twice: `add_sum_increases`.
-/

namespace Increases

/-- By how much each count is above the one before, where it is; `last` is the one before all. -/
def increases : (last : ℕ) → List ℕ → List ℕ
  | _, [] => []
  | last, n :: ns => if last < n then (n - last) :: increases n ns else increases n ns

variable {last n : ℕ} {ns : List ℕ}

@[simp] theorem increases_nil (last : ℕ) : increases last [] = [] := rfl

theorem increases_of_lt (h : last < n) : increases last (n :: ns) = (n - last) :: increases n ns :=
  if_pos h

theorem increases_of_le (h : n ≤ last) : increases last (n :: ns) = increases n ns :=
  if_neg (Nat.not_lt.mpr h)

/-- No increase is zero: a count that repeats the one before it is passed over. -/
theorem pos_of_mem_increases : ∀ d ∈ increases last ns, 0 < d := by
  induction ns generalizing last with
  | nil => exact nofun
  | cons n ns ih =>
    rcases Nat.lt_or_ge last n with h | h
    · rw [increases_of_lt h]
      intro d hd
      rcases List.mem_cons.mp hd with rfl | hd
      · omega
      · exact ih d hd
    · rw [increases_of_le h]
      exact ih

/-- **Counts that never go down are the sums of their increases.** -/
theorem add_sum_increases (h : (last :: ns).Pairwise (· ≤ ·)) :
    last + (increases last ns).sum = ns.getLastD last := by
  induction ns generalizing last with
  | nil => rfl
  | cons n ns ih =>
    obtain ⟨hle, hrest⟩ := List.pairwise_cons.mp h
    have hn := hle n List.mem_cons_self
    have hsum := ih hrest
    rw [List.getLastD_cons, ← hsum]
    rcases Nat.lt_or_ge last n with hlt | hge
    · rw [increases_of_lt hlt, List.sum_cons]
      omega
    · rw [increases_of_le hge]
      omega

/-- There are at most as many increases as they add up to, since each of them is at least one. -/
theorem length_increases_le (last : ℕ) (ns : List ℕ) :
    (increases last ns).length ≤ (increases last ns).sum := by
  have hall : ∀ d ∈ increases last ns, 1 ≤ d := pos_of_mem_increases
  have hsum := List.card_nsmul_le_sum _ 1 hall
  rwa [smul_eq_mul, mul_one] at hsum

end Increases
