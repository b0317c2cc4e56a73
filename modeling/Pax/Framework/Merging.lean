import Mathlib.Tactic

/-!
# Merging by a key

`mergeFirst key l l'` adds to `l` the elements of `l'` whose key is not there yet. Of each key the
first element is kept (`firstOf_mergeFirst`), and if no key is in `l` twice, none is in the result.
-/

namespace Merging

variable {α κ : Type*} [DecidableEq κ] (key : α → κ)

/-- Go through `l'`, and add to `l` each element whose key is not there yet. -/
def mergeFirst (l l' : List α) : List α :=
  l'.foldl (fun merged a => if merged.any fun b => key b = key a then merged else merged ++ [a]) l

/-- The first element of the list that has the key `k`, if there is one. -/
def firstOf (k : κ) (l : List α) : Option α := l.find? fun a => key a = k

variable {key} {l l' : List α} {a : α} {k : κ}

theorem mergeFirst_cons : mergeFirst key l (a :: l')
    = mergeFirst key (if l.any fun b => key b = key a then l else l ++ [a]) l' := rfl

theorem any_key_iff : (l.any fun b => key b = key a) = true ↔ key a ∈ l.map key := by
  rw [List.any_eq_true, List.mem_map]
  simp only [decide_eq_true_eq]

theorem firstOf_eq_none : firstOf key k l = none ↔ k ∉ l.map key := by
  rw [firstOf, List.find?_eq_none, List.mem_map]
  simp only [decide_eq_true_eq, not_exists, not_and]

theorem key_of_firstOf (h : firstOf key k l = some a) : key a = k ∧ a ∈ l := by
  rw [firstOf] at h
  have hkey := List.find?_some h
  exact ⟨of_decide_eq_true hkey, List.mem_of_find?_eq_some h⟩

/-- The key of an element of the list has a first element in it, which need not be this one. -/
theorem exists_firstOf (h : a ∈ l) : ∃ b, firstOf key (key a) l = some b := by
  refine Option.ne_none_iff_exists'.mp fun hnone => ?_
  exact firstOf_eq_none.mp hnone (List.mem_map_of_mem h)

/-- **No key is in the result twice**, if none was in the first list twice. The second list may
repeat its keys. -/
theorem nodup_mergeFirst (h : (l.map key).Nodup) : ((mergeFirst key l l').map key).Nodup := by
  induction l' generalizing l with
  | nil => exact h
  | cons a l' ih =>
    rw [mergeFirst_cons]
    split
    · exact ih h
    · next hnew =>
      refine ih ?_
      rw [List.map_append, List.map_singleton, ← List.concat_eq_append]
      exact h.concat fun hmem => hnew (any_key_iff.mpr hmem)

/-- **Of each key the first element is kept**, out of both lists one after the other. -/
theorem firstOf_mergeFirst : firstOf key k (mergeFirst key l l') = firstOf key k (l ++ l') := by
  induction l' generalizing l with
  | nil => rw [List.append_nil, mergeFirst, List.foldl_nil]
  | cons a l' ih =>
    rw [mergeFirst_cons, ih]
    split
    · next hseen =>
      rw [firstOf, firstOf, List.find?_append, List.find?_append]
      cases hfirst : l.find? fun b => key b = k with
      | some b => rfl
      | none =>
        -- `a` has a key that is in `l`, and `k` is not
        have hne : key a ≠ k := by
          rintro rfl
          exact firstOf_eq_none.mp hfirst (any_key_iff.mp hseen)
        rw [List.find?_cons_of_neg (by simpa using hne)]
    · rw [List.append_assoc, List.singleton_append]

/-- In a list without double keys each element is the first of its key. -/
theorem firstOf_of_mem (hnodup : (l.map key).Nodup) (h : a ∈ l) :
    firstOf key (key a) l = some a := by
  obtain ⟨b, hfirst⟩ : ∃ b, firstOf key (key a) l = some b := exists_firstOf h
  obtain ⟨hkey, hb⟩ := key_of_firstOf hfirst
  rw [hfirst, List.inj_on_of_nodup_map hnodup hb h hkey]

/-- **What a key stands for after merging** is the first element, from the first list if it is
there. -/
theorem exists_mem_mergeFirst_iff {p : α → Bool} (h : (l.map key).Nodup) :
    (∃ a ∈ mergeFirst key l l', key a = k ∧ p a = true)
      ↔ ∃ a, firstOf key k (l ++ l') = some a ∧ p a = true := by
  constructor
  · rintro ⟨a, ha, rfl, hp⟩
    have hfirst := firstOf_of_mem (nodup_mergeFirst h) ha
    rw [firstOf_mergeFirst] at hfirst
    exact ⟨a, hfirst, hp⟩
  · rintro ⟨a, hfirst, hp⟩
    rw [← firstOf_mergeFirst] at hfirst
    obtain ⟨hkey, ha⟩ := key_of_firstOf hfirst
    exact ⟨a, ha, hkey, hp⟩

end Merging
