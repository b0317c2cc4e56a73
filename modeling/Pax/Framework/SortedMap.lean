import Mathlib.Tactic

/-!
# Ordered maps and grouping

`SortedMap` is a map kept as a strictly sorted list of entries, the way an ordered tree is read out.
Its invariant is a field, so two maps with the same lookups are equal (`SortedMap.ext_lookup`).

`groupFold` splits a stream by a key and folds each group on its own, in one pass that updates the
entry of each element's key. Every group is the fold over exactly the elements with its key, in
stream order (`lookup_groupFold`), and quantities that add up over a stream add up over its groups
(`sum_groups`).
-/

/-- A map as the list of its entries, strictly sorted by their keys, so that no key has two
entries. -/
structure SortedMap (κ V : Type) [LinearOrder κ] where
  entries : List (κ × V)
  sorted : (entries.map Prod.fst).Pairwise (· < ·)

namespace SortedMap

variable {κ V : Type} [LinearOrder κ]

def empty : SortedMap κ V := { entries := [], sorted := List.Pairwise.nil }

/-- The value of the first entry with the key `k` in a list of entries. -/
def lookupIn (k : κ) : List (κ × V) → Option V
  | [] => none
  | (k', v) :: rest => if k = k' then some v else lookupIn k rest

def lookup (m : SortedMap κ V) (k : κ) : Option V := lookupIn k m.entries

/-- Put `f` of the old value at `k`, keeping the entries sorted. -/
def upsertIn (k : κ) (f : Option V → V) : List (κ × V) → List (κ × V)
  | [] => [(k, f none)]
  | (k', v) :: rest =>
    if k < k' then (k, f none) :: (k', v) :: rest
    else if k = k' then (k', f (some v)) :: rest
    else (k', v) :: upsertIn k f rest

theorem mem_keys_upsertIn {k k' : κ} {f : Option V → V} {entries : List (κ × V)}
    (h : k' ∈ (upsertIn k f entries).map Prod.fst) : k' = k ∨ k' ∈ entries.map Prod.fst := by
  -- On the entries, by where the key belongs: before the first, at it, or further down.
  induction entries with
  | nil =>
    rw [upsertIn, List.map_singleton, List.mem_singleton] at h
    exact .inl h
  | cons e rest ih =>
    rw [upsertIn] at h
    split_ifs at h with hlt heq
    · exact List.mem_cons.mp h
    · exact .inr h
    · rcases List.mem_cons.mp h with rfl | h
      · exact .inr List.mem_cons_self
      · rcases ih h with hk | hk
        · exact .inl hk
        · exact .inr (List.mem_cons_of_mem _ hk)

theorem sorted_upsertIn (k : κ) (f : Option V → V) {entries : List (κ × V)}
    (h : (entries.map Prod.fst).Pairwise (· < ·)) :
    ((upsertIn k f entries).map Prod.fst).Pairwise (· < ·) := by
  induction entries with
  | nil => exact List.pairwise_singleton _ _
  | cons e rest ih =>
    obtain ⟨hhead, htail⟩ := List.pairwise_cons.mp h
    rw [upsertIn]
    split_ifs with hlt heq
    · -- the new key comes first
      refine List.pairwise_cons.mpr ⟨?_, h⟩
      intro k' hk'
      rcases List.mem_cons.mp hk' with rfl | hk'
      · exact hlt
      · exact hlt.trans (hhead k' hk')
    · exact h
    · refine List.pairwise_cons.mpr ⟨?_, ih htail⟩
      intro k' hk'
      -- A key behind the head is the new one or was there before.
      rcases mem_keys_upsertIn hk' with rfl | hk'
      · exact lt_of_le_of_ne (not_lt.mp hlt) (Ne.symm heq)
      · exact hhead k' hk'

/-- Put `f` of the old value at the key `k`, where the old value may be none. -/
def upsert (m : SortedMap κ V) (k : κ) (f : Option V → V) : SortedMap κ V :=
  { entries := upsertIn k f m.entries, sorted := sorted_upsertIn k f m.sorted }

/-! ### Lookups -/

@[simp] theorem lookup_empty (k : κ) : (empty : SortedMap κ V).lookup k = none := rfl

theorem lookupIn_eq_none {k : κ} {entries : List (κ × V)} (h : k ∉ entries.map Prod.fst) :
    lookupIn k entries = none := by
  induction entries with
  | nil => rfl
  | cons e rest ih =>
    rw [List.map_cons, List.mem_cons, not_or] at h
    rw [lookupIn, if_neg h.1, ih h.2]

theorem lookupIn_upsertIn (k k' : κ) (f : Option V → V) {entries : List (κ × V)}
    (h : (entries.map Prod.fst).Pairwise (· < ·)) :
    lookupIn k' (upsertIn k f entries)
      = if k' = k then some (f (lookupIn k entries)) else lookupIn k' entries := by
  induction entries with
  | nil => rfl
  | cons e rest ih =>
    obtain ⟨hhead, htail⟩ := List.pairwise_cons.mp h
    obtain ⟨k₀, v₀⟩ := e
    rw [upsertIn]
    by_cases hlt : k < k₀
    · -- below every key: there was no entry
      have habsent : k ∉ ((k₀, v₀) :: rest).map Prod.fst := by
        intro hmem
        rcases List.mem_cons.mp hmem with rfl | hmem
        · exact lt_irrefl _ hlt
        · exact lt_asymm hlt (hhead k hmem)
      rw [if_pos hlt, lookupIn, lookupIn_eq_none habsent]
    by_cases heq : k = k₀
    · subst heq
      rw [if_neg hlt, if_pos rfl, lookupIn, lookupIn, if_pos rfl, lookupIn]
      by_cases hk : k' = k
      · rw [if_pos hk, if_pos hk]
      · rw [if_neg hk, if_neg hk, if_neg hk]
    -- The key belongs further down, and the head is left as it is.
    rw [if_neg hlt, if_neg heq, lookupIn, ih htail, lookupIn, if_neg heq, lookupIn]
    by_cases hk : k' = k
    · subst hk
      rw [if_neg heq, if_pos rfl, if_pos rfl]
    · rw [if_neg hk, if_neg hk]

/-- **An update changes one lookup**, that of its own key, and leaves all others. -/
theorem lookup_upsert (m : SortedMap κ V) (k k' : κ) (f : Option V → V) :
    (m.upsert k f).lookup k' = if k' = k then some (f (m.lookup k)) else m.lookup k' :=
  lookupIn_upsertIn k k' f m.sorted

theorem lookupIn_eq_some_iff {k : κ} {v : V} {entries : List (κ × V)}
    (h : (entries.map Prod.fst).Pairwise (· < ·)) :
    lookupIn k entries = some v ↔ (k, v) ∈ entries := by
  induction entries with
  | nil => simp [lookupIn]
  | cons e rest ih =>
    obtain ⟨hhead, htail⟩ := List.pairwise_cons.mp h
    obtain ⟨k', v'⟩ := e
    rw [lookupIn, List.mem_cons]
    by_cases hk : k = k'
    -- the key is that of the head, and of no other entry
    · subst hk
      have habsent : (k, v) ∉ rest := fun hmem =>
        lt_irrefl k (hhead k (List.mem_map_of_mem hmem))
      simp only [if_true, Option.some.injEq, Prod.mk.injEq, true_and, habsent, or_false]
      exact eq_comm
    · simp [hk, ih htail]

/-- The entries of a map are what its lookups find, since no key has two of them. -/
theorem lookup_eq_some_iff {m : SortedMap κ V} {k : κ} {v : V} :
    m.lookup k = some v ↔ (k, v) ∈ m.entries := lookupIn_eq_some_iff m.sorted

/-- **Maps are equal when their lookups are**: a strictly sorted list is determined by its
elements. -/
theorem ext_lookup {m m' : SortedMap κ V} (h : ∀ k, m.lookup k = m'.lookup k) : m = m' := by
  have hmem : ∀ p, p ∈ m.entries ↔ p ∈ m'.entries := by
    rintro ⟨k, v⟩
    rw [← lookup_eq_some_iff, ← lookup_eq_some_iff, h k]
  -- A strictly sorted list is determined by its members.
  have hentries : m.entries = m'.entries :=
    List.Pairwise.eq_of_mem_iff (r := fun p q : κ × V => p.1 < q.1)
      (List.pairwise_map.mp m.sorted) (List.pairwise_map.mp m'.sorted) hmem
  cases m
  cases m'
  cases hentries
  rfl

end SortedMap

/-! ### Grouping a stream -/

namespace Grouping

variable {α κ V : Type} [LinearOrder κ]

/-- Fold each group of a stream on its own, in one pass over the stream. -/
def groupFold (key : α → κ) (step : V → α → V) (init : V) (l : List α) : SortedMap κ V :=
  l.foldl (fun m a => m.upsert (key a) fun old => step (old.getD init) a) SortedMap.empty

variable (key : α → κ) (step : V → α → V) (init : V)

/-- **A group is the fold over its own elements**, in stream order; a key no element has is not
in the map. -/
theorem lookup_groupFold (l : List α) (k : κ) :
    (groupFold key step init l).lookup k
      = if l.filter (key · = k) = [] then none
        else some ((l.filter (key · = k)).foldl step init) := by
  -- Induction from the end, in the direction in which the one pass updates the map.
  induction l using List.reverseRecOn with
  | nil => rfl
  | append_singleton l a ih =>
    have hpass : groupFold key step init (l ++ [a])
        = (groupFold key step init l).upsert (key a) fun old => step (old.getD init) a :=
      List.foldl_concat _ _ _ _
    rw [hpass, SortedMap.lookup_upsert, List.filter_append]
    by_cases hk : k = key a
    · subst hk
      have hlast : [a].filter (fun b => decide (key b = key a)) = [a] := by simp
      rw [if_pos rfl, hlast, if_neg (by simp), List.foldl_append, ih]
      -- the first element of a group starts from `init`
      by_cases hnil : l.filter (fun b => decide (key b = key a)) = []
      · rw [if_pos hnil, hnil]
        rfl
      · rw [if_neg hnil]
        rfl
    · have hnone : [a].filter (fun b => decide (key b = k)) = [] := by
        simp [Ne.symm hk]
      rw [if_neg hk, hnone, List.append_nil, ih]

/-- The keys of the map are the keys of the elements: there is a group for each key of the
stream, and no other. -/
theorem mem_keys_groupFold (l : List α) (k : κ) :
    k ∈ (groupFold key step init l).entries.map Prod.fst ↔ ∃ a ∈ l, key a = k := by
  constructor
  -- A group is not empty, and any of its elements has its key.
  · intro hk
    obtain ⟨⟨k', v⟩, hmem, rfl⟩ := List.mem_map.mp hk
    have hlookup := SortedMap.lookup_eq_some_iff.mpr hmem
    rw [lookup_groupFold] at hlookup
    split_ifs at hlookup with hnil
    obtain ⟨a, ha⟩ := List.exists_mem_of_ne_nil _ hnil
    rw [List.mem_filter, decide_eq_true_eq] at ha
    exact ⟨a, ha⟩
  · rintro ⟨a, ha, rfl⟩
    have hne : l.filter (fun b => decide (key b = key a)) ≠ [] :=
      List.ne_nil_of_mem (List.mem_filter.mpr ⟨ha, decide_eq_true rfl⟩)
    have hlookup := lookup_groupFold key step init l (key a)
    rw [if_neg hne] at hlookup
    exact List.mem_map.mpr ⟨_, SortedMap.lookup_eq_some_iff.mp hlookup, rfl⟩

/-- Weights add up over any duplicate-free list of keys that covers the elements. -/
theorem sum_fibers (weight : α → ℕ) {keys : List κ} (hnodup : keys.Nodup) (l : List α)
    (hcover : ∀ a ∈ l, key a ∈ keys) :
    (keys.map fun k => ((l.filter (key · = k)).map weight).sum).sum = (l.map weight).sum := by
  induction l with
  | nil => simp
  | cons a l ih =>
    -- The new element weighs in at one key of the list, its own.
    have hsplit : ∀ k, (((a :: l).filter (key · = k)).map weight).sum
        = (if k = key a then weight a else 0) + ((l.filter (key · = k)).map weight).sum := by
      intro k
      by_cases hk : key a = k
      · simp [hk]
      · simp [hk, Ne.symm hk]
    have hone : (keys.map fun k => if k = key a then weight a else 0).sum = weight a := by
      rw [← List.sum_toFinset _ hnodup, Finset.sum_ite_eq' keys.toFinset (key a),
        if_pos (List.mem_toFinset.mpr (hcover a List.mem_cons_self))]
    simp only [hsplit]
    rw [List.sum_map_add, hone, ih fun b hb => hcover b (List.mem_cons_of_mem a hb),
      List.map_cons, List.sum_cons]

/-- **Weights add up over the groups**: each element is in one group, that of its key. -/
theorem sum_groups (weight : α → ℕ) (l : List α) :
    ((groupFold key step init l).entries.map fun p =>
      ((l.filter (key · = p.1)).map weight).sum).sum = (l.map weight).sum := by
  have hnodup : ((groupFold key step init l).entries.map Prod.fst).Nodup :=
    (groupFold key step init l).sorted.imp ne_of_lt
  have hsum := sum_fibers key weight hnodup l fun a ha =>
    (mem_keys_groupFold key step init l (key a)).mpr ⟨a, ha, rfl⟩
  rwa [List.map_map] at hsum

/-- **Extremes are extremes of the groups.** `select` picks from a list an element that stands in
the relation `r` to all of them, such as the minimum or the maximum. -/
theorem extreme_groups {T : Type} (select : List T → Option T) (r : T → T → Prop) [Std.Antisymm r]
    [IsTrans T r] (hselect : ∀ xs t, select xs = some t ↔ t ∈ xs ∧ ∀ s ∈ xs, r t s)
    (hsome : ∀ xs, xs ≠ [] → ∃ t, select xs = some t) (f : α → T) (l : List α) :
    select ((groupFold key step init l).entries.filterMap fun p =>
      select ((l.filter (key · = p.1)).map f)) = select (l.map f) := by
  -- an extreme of a group is an element's value, and every element has one in its group
  have hof : ∀ t ∈ (groupFold key step init l).entries.filterMap fun p =>
      select ((l.filter (key · = p.1)).map f), ∃ a ∈ l, f a = t := by
    intro t ht
    obtain ⟨p, -, hp⟩ := List.mem_filterMap.mp ht
    obtain ⟨a, ha, hfa⟩ := List.mem_map.mp ((hselect _ _).mp hp).1
    exact ⟨a, (List.mem_filter.mp ha).1, hfa⟩
  have hgroup : ∀ a ∈ l, ∃ t ∈ (groupFold key step init l).entries.filterMap fun p =>
      select ((l.filter (key · = p.1)).map f), r t (f a) := by
    intro a ha
    have hmem : a ∈ l.filter (key · = key a) := List.mem_filter.mpr ⟨ha, decide_eq_true rfl⟩
    obtain ⟨p, hp, hkey⟩ := List.mem_map.mp
      ((mem_keys_groupFold key step init l (key a)).mpr ⟨a, ha, rfl⟩)
    obtain ⟨t, ht⟩ := hsome ((l.filter (key · = key a)).map f)
      (List.ne_nil_of_mem (List.mem_map_of_mem hmem))
    refine ⟨t, List.mem_filterMap.mpr ⟨p, hp, by rw [hkey]; exact ht⟩, ?_⟩
    exact ((hselect _ _).mp ht).2 (f a) (List.mem_map_of_mem hmem)
  ext t
  rw [hselect, hselect]
  constructor
  · rintro ⟨ht, hall⟩
    -- An extreme of the extremes bounds every element by way of the extreme of its group.
    obtain ⟨a, ha, rfl⟩ := hof t ht
    refine ⟨List.mem_map_of_mem ha, ?_⟩
    intro s hs
    obtain ⟨b, hb, rfl⟩ := List.mem_map.mp hs
    obtain ⟨u, hu, hub⟩ := hgroup b hb
    exact IsTrans.trans _ _ _ (hall u hu) hub
  · rintro ⟨ht, hall⟩
    obtain ⟨a, ha, rfl⟩ := List.mem_map.mp ht
    -- Conversely, an extreme element is the extreme of its group, by antisymmetry.
    obtain ⟨u, hu, hua⟩ := hgroup a ha
    obtain ⟨b, hb, rfl⟩ := hof u hu
    have heq : f a = f b := antisymm (hall _ (List.mem_map_of_mem hb)) hua
    refine ⟨heq ▸ hu, ?_⟩
    intro s hs
    obtain ⟨c, hc, rfl⟩ := hof s hs
    exact hall _ (List.mem_map_of_mem hc)

end Grouping
