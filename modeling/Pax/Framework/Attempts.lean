import Pax.Framework.Program

/-!
# The results of bounded attempts

A call is made until its reply does not ask for another attempt, or the attempts run out.
`Attempts` says which lists of results such a loop can have gone through, and which of them it ends
with: every result before the last asks for another attempt, and the last one does not unless there
are as many as there may be. These are the paths of the program that is the loop
(`returns_attempt`).
-/

/-- The results of a loop of at most `bound` attempts that ends with `last`. -/
structure Attempts {β : Type*} (again : β → Bool) (bound : ℕ) (results : List β) (last : β) :
    Prop where
  /-- The loop ends with the last attempt. -/
  getLast_eq : results.getLast? = some last
  /-- Another attempt is only made if a result asks for it. -/
  retried : ∀ r ∈ results.dropLast, again r = true
  length_le : results.length ≤ bound
  /-- The loop does not end early. -/
  settled : results.length < bound → again last = false

namespace Attempts

variable {β : Type*} {again : β → Bool} {bound : ℕ} {results : List β} {r last : β}

theorem ne_nil (h : Attempts again bound results last) : results ≠ [] := by
  rintro rfl
  cases h.getLast_eq

theorem length_pos (h : Attempts again bound results last) : 0 < results.length :=
  List.length_pos_of_ne_nil h.ne_nil

theorem last_mem (h : Attempts again bound results last) : last ∈ results :=
  List.mem_of_getLast? h.getLast_eq

/-- Without an attempt there is no result: the list of results ends with the last one, so it is
not empty. -/
theorem not_zero : ¬ Attempts again 0 results last := fun h =>
  absurd (Nat.lt_of_lt_of_le h.length_pos h.length_le) (Nat.lt_irrefl 0)

/-- The loop ends with its first attempt if that does not ask for another one, or if there may be
no more. -/
theorem single (h : bound = 0 ∨ again r = false) : Attempts again (bound + 1) [r] r where
  getLast_eq := rfl
  retried _ hr := absurd hr List.not_mem_nil
  length_le := Nat.le_add_left 1 bound
  settled hlt := by
    rw [List.length_singleton] at hlt
    exact h.resolve_left (by omega)

/-- The loop goes on after its first attempt if that asks for another one, and then goes through
what is left of the results. -/
theorem cons (hr : again r = true) (h : Attempts again bound results last) :
    Attempts again (bound + 1) (r :: results) last where
  getLast_eq := by rw [List.getLast?_cons, h.getLast_eq, Option.getD_some]
  retried r' hr' := by
    rw [List.dropLast_cons_of_ne_nil h.ne_nil] at hr'
    rcases List.mem_cons.mp hr' with rfl | hr'
    · exact hr
    · exact h.retried r' hr'
  length_le := Nat.succ_le_succ h.length_le
  settled hlt := h.settled (Nat.lt_of_succ_lt_succ hlt)

/-- **By the first attempt**: the loop is over with it, or goes on with one attempt less. -/
theorem cons_iff : Attempts again (bound + 1) (r :: results) last ↔
    (results = [] ∧ last = r ∧ (bound = 0 ∨ again r = false)) ∨
      (again r = true ∧ Attempts again bound results last) := by
  constructor
  -- What the conditions on the whole list say of its first result, and of the rest.
  · intro h
    cases results with
    | nil =>
      obtain rfl : r = last := Option.some.inj h.getLast_eq
      refine .inl ⟨rfl, rfl, or_iff_not_imp_left.mpr fun hbound => h.settled ?_⟩
      rw [List.length_singleton]
      omega
    | cons r' results =>
      refine .inr ⟨h.retried r List.mem_cons_self, ?_, fun x hx => ?_, ?_, fun hlt => ?_⟩
      · rw [← h.getLast_eq, List.getLast?_cons_cons]
      · exact h.retried x (List.mem_cons_of_mem r hx)
      · exact Nat.le_of_succ_le_succ h.length_le
      · exact h.settled (Nat.succ_lt_succ hlt)
  · rintro (⟨rfl, rfl, h⟩ | ⟨hr, h⟩)
    · exact single h
    · exact cons hr h

end Attempts

/-- Whether a failure is worth another attempt; a success is not. -/
def transient {ε α : Type*} (isFinal : ε → Bool) : Except ε α → Bool
  | .ok _ => false
  | .error e => !isFinal e

namespace Program

variable {I : Interface} {γ : Type} {c : I.Call} {again : I.Reply c → Bool}
  {report : ℕ → I.Reply c → γ}

/-- Make the call up to `left` more times, after `made` attempts, as long as a reply asks for it.
What is returned is the `report` on the last attempt and how many there were, or `last` if there is
no attempt left. -/
def attempt (c : I.Call) (again : I.Reply c → Bool) (report : ℕ → I.Reply c → γ) :
    (made left : ℕ) → (last : γ) → Program I γ
  | _, 0, last => .done last
  | made, left + 1, _ => .ask c fun r =>
    if again r then attempt c again report (made + 1) left (report (made + 1) r)
    else .done (report (made + 1) r)

/-- **The paths of the loop.** It has made one call for each result of a list that bounded
attempts may go through, and reports the last result with the number of attempts. -/
theorem returns_attempt {made left : ℕ} {last g : γ} {es : List (Exchange I)} :
    Returns (attempt c again report made left last) es g ↔
      (left = 0 ∧ es = [] ∧ g = last) ∨
        ∃ results r, es = results.map (⟨c, ·⟩) ∧ Attempts again left results r ∧
          g = report (made + results.length) r := by
  -- on the attempts left; each of them is one result
  induction left generalizing made last es with
  | zero =>
    rw [attempt, returns_done]
    constructor
    · exact fun h => .inl ⟨rfl, h⟩
    · rintro (⟨-, h⟩ | ⟨results, r, -, h, -⟩)
      · exact h
      · exact absurd h Attempts.not_zero
  | succ left ih =>
    rw [attempt, returns_ask]
    constructor
    · rintro ⟨r, es', rfl, hrest⟩
      right
      by_cases hr : again r = true
      · rw [if_pos hr, ih] at hrest
        obtain ⟨rfl, rfl, rfl⟩ | ⟨results, last', rfl, h, rfl⟩ := hrest
        · exact ⟨[r], r, rfl, .single (.inl rfl), rfl⟩
        · refine ⟨r :: results, last', rfl, h.cons hr, ?_⟩
          rw [List.length_cons, Nat.add_right_comm, Nat.add_assoc]
      · rw [if_neg hr, returns_done] at hrest
        obtain ⟨rfl, rfl⟩ := hrest
        exact ⟨[r], r, rfl, .single (.inr (Bool.eq_false_iff.mpr hr)), rfl⟩
    · rintro (⟨hzero, -⟩ | ⟨results, last', rfl, h, rfl⟩)
      · exact absurd hzero (Nat.succ_ne_zero left)
      · obtain ⟨r, results, rfl⟩ := List.exists_cons_of_ne_nil h.ne_nil
        refine ⟨r, results.map (⟨c, ·⟩), rfl, ?_⟩
        obtain ⟨rfl, rfl, hover⟩ | ⟨hr, h⟩ := Attempts.cons_iff.mp h
        · split
          · next hr =>
            -- the reply asks for another attempt, but there is none left
            obtain rfl := hover.resolve_right (by simp [hr])
            exact returns_done.mpr ⟨rfl, rfl⟩
          · exact returns_done.mpr ⟨rfl, rfl⟩
        · rw [if_pos hr, ih]
          refine .inr ⟨results, last', rfl, h, ?_⟩
          rw [List.length_cons, Nat.add_right_comm, Nat.add_assoc]

end Program
