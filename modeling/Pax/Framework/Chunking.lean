import Mathlib.Algebra.Order.Floor.Div
import Mathlib.Tactic

/-!
# Cutting a payload into bounded pieces

`chunks first rest data` cuts `data` greedily into a first piece of at most `first` elements and
further pieces of at most `rest`, a bound of zero counting as one. There is always at least one
piece; the payload's end closes the last one. `runningTotals` are the cumulative sizes a consumer
that acknowledges piece after piece reports. Where both bounds are the same, the pieces and the
totals have a closed form.
-/

namespace Chunking

variable {α : Type}

/-- Cut greedily: a first piece of at most `first` elements, then pieces of at most `rest`. -/
def chunks (first rest : ℕ) (data : List α) : List (List α) :=
  if _h : data.length ≤ max first 1 then [data]
  else data.take (max first 1) :: chunks rest rest (data.drop (max first 1))
termination_by data.length
decreasing_by
  rw [List.length_drop]
  omega

theorem chunks_of_le {first : ℕ} {data : List α} (h : data.length ≤ max first 1) (rest : ℕ) :
    chunks first rest data = [data] := by
  rw [chunks, dif_pos h]

theorem chunks_of_lt {first : ℕ} {data : List α} (h : max first 1 < data.length) (rest : ℕ) :
    chunks first rest data
      = data.take (max first 1) :: chunks rest rest (data.drop (max first 1)) := by
  rw [chunks, dif_neg (Nat.not_le.mpr h)]

theorem chunks_ne_nil (first rest : ℕ) (data : List α) : chunks first rest data ≠ [] := by
  rw [chunks]
  split <;> simp

/-- How long the pieces are only depends on how long the payload is. -/
theorem map_length_chunks {data data' : List α} (hlength : data.length = data'.length)
    (first rest : ℕ) :
    (chunks first rest data).map List.length = (chunks first rest data').map List.length := by
  induction first, data using chunks.induct rest generalizing data' with
  | case1 first data h =>
    have h' : data'.length ≤ max first 1 := hlength.symm.le.trans h
    rw [chunks_of_le h, chunks_of_le h', List.map_singleton, List.map_singleton, hlength]
  | case2 first data h ih =>
    have hlt : max first 1 < data.length := Nat.lt_of_not_le h
    have hlt' : max first 1 < data'.length := hlt.trans_le hlength.le
    have hdrop : (data.drop (max first 1)).length = (data'.drop (max first 1)).length := by
      rw [List.length_drop, List.length_drop, hlength]
    rw [chunks_of_lt hlt, chunks_of_lt hlt', List.map_cons, List.map_cons, ih hdrop,
      List.length_take, List.length_take, hlength]

/-- The pieces put together are the payload: nothing is lost in between, or sent twice. -/
theorem flatten_chunks (first rest : ℕ) (data : List α) :
    (chunks first rest data).flatten = data := by
  -- Induction along the cutting: the bound of the first piece changes with each cut.
  induction first, data using chunks.induct rest with
  | case1 first data h => rw [chunks_of_le h, List.flatten_singleton]
  | case2 first data h ih =>
    rw [chunks_of_lt (Nat.lt_of_not_le h), List.flatten_cons, ih, List.take_append_drop]

/-- No piece of a non-empty payload is empty, since a bound of zero counts as one. -/
theorem ne_nil_of_mem_chunks {first rest : ℕ} {data : List α} (hne : data ≠ []) :
    ∀ c ∈ chunks first rest data, c ≠ [] := by
  induction first, data using chunks.induct rest with
  | case1 first data h =>
    intro c hc
    rw [chunks_of_le h, List.mem_singleton] at hc
    exact hc ▸ hne
  | case2 first data h ih =>
    intro c hc
    have hlt := Nat.lt_of_not_le h
    rw [chunks_of_lt hlt] at hc
    rcases List.mem_cons.mp hc with rfl | hc
    -- A cut is made only where more than a piece is left, so neither side of it is empty.
    · intro hnil
      have hlen := congrArg List.length hnil
      rw [List.length_take, List.length_nil] at hlen
      omega
    · refine ih ?_ c hc
      intro hnil
      have hlen := congrArg List.length hnil
      rw [List.length_drop, List.length_nil] at hlen
      omega

/-- If the first bound is the smaller one, then every piece respects the second one. -/
theorem length_le_of_mem_chunks {first rest : ℕ} {data : List α} (hfirst : first ≤ rest) :
    ∀ c ∈ chunks first rest data, c.length ≤ max rest 1 := by
  induction first, data using chunks.induct rest with
  -- All that is left fits into the piece, or a piece is cut off and the others follow.
  | case1 first data h =>
    intro c hc
    rw [chunks_of_le h, List.mem_singleton] at hc
    subst hc
    omega
  | case2 first data h ih =>
    intro c hc
    rw [chunks_of_lt (Nat.lt_of_not_le h)] at hc
    rcases List.mem_cons.mp hc with rfl | hc
    · rw [List.length_take]
      omega
    · exact ih le_rfl c hc

/-- Every piece but the first respects the second bound, whatever the first one is. -/
theorem length_le_of_mem_tail_chunks {first rest : ℕ} {data : List α} :
    ∀ c ∈ (chunks first rest data).tail, c.length ≤ max rest 1 := by
  intro c hc
  -- Behind the first piece, the cutting starts afresh with the second bound.
  by_cases h : data.length ≤ max first 1
  · rw [chunks_of_le h] at hc
    exact absurd hc List.not_mem_nil
  · rw [chunks_of_lt (Nat.lt_of_not_le h)] at hc
    exact length_le_of_mem_chunks le_rfl c hc

/-! ### Cumulative sizes -/

/-- The cumulative sizes of a list of pieces, counted from `start`. -/
def runningTotals (start : ℕ) : List (List α) → List ℕ
  | [] => []
  | c :: cs => (start + c.length) :: runningTotals (start + c.length) cs

@[simp] theorem runningTotals_nil (start : ℕ) :
    runningTotals start ([] : List (List α)) = [] := rfl

@[simp] theorem runningTotals_cons (start : ℕ) (c : List α) (cs : List (List α)) :
    runningTotals start (c :: cs)
      = (start + c.length) :: runningTotals (start + c.length) cs := rfl

/-- Every total is past the start when the pieces are non-empty. -/
theorem lt_of_mem_runningTotals {start : ℕ} {cs : List (List α)} (hne : ∀ c ∈ cs, c ≠ []) :
    ∀ t ∈ runningTotals start cs, start < t := by
  induction cs generalizing start with
  | nil => intro t ht; exact absurd ht List.not_mem_nil
  | cons c cs ih =>
    intro t ht
    have hc : 0 < c.length := List.length_pos_of_ne_nil (hne c List.mem_cons_self)
    rcases List.mem_cons.mp ht with rfl | ht
    · omega
    · have := ih (fun d hd => hne d (List.mem_cons_of_mem c hd)) t ht
      omega

/-- No total is before the start, or past the size of all the pieces. -/
theorem mem_runningTotals_bounds {start : ℕ} {cs : List (List α)} :
    ∀ t ∈ runningTotals start cs, start ≤ t ∧ t ≤ start + cs.flatten.length := by
  induction cs generalizing start with
  | nil => exact nofun
  | cons c cs ih =>
    rw [List.flatten_cons, List.length_append]
    intro t ht
    rcases List.mem_cons.mp ht with rfl | ht
    · omega
    · have hrest := ih t ht
      omega

/-- The totals never go down, from the start on, even if there are empty pieces among them. -/
theorem pairwise_le_runningTotals (start : ℕ) (cs : List (List α)) :
    (start :: runningTotals start cs).Pairwise (· ≤ ·) := by
  refine List.pairwise_cons.mpr ⟨fun t ht => (mem_runningTotals_bounds t ht).1, ?_⟩
  induction cs generalizing start with
  | nil => exact .nil
  | cons c cs ih =>
    exact List.pairwise_cons.mpr ⟨fun t ht => (mem_runningTotals_bounds t ht).1, ih _⟩

/-- The totals of non-empty pieces strictly increase, so that no total is told twice. -/
theorem pairwise_runningTotals {start : ℕ} {cs : List (List α)} (hne : ∀ c ∈ cs, c ≠ []) :
    (runningTotals start cs).Pairwise (· < ·) := by
  induction cs generalizing start with
  | nil => exact List.Pairwise.nil
  | cons c cs ih =>
    have hne' : ∀ d ∈ cs, d ≠ [] := fun d hd => hne d (List.mem_cons_of_mem c hd)
    exact List.Pairwise.cons (lt_of_mem_runningTotals hne') (ih hne')

/-- The last total is the size of all the pieces together, on top of where the count has started. -/
theorem getLast?_runningTotals {start : ℕ} {cs : List (List α)} (hne : cs ≠ []) :
    (runningTotals start cs).getLast? = some (start + cs.flatten.length) := by
  induction cs generalizing start with
  | nil => exact absurd rfl hne
  | cons c cs ih =>
    cases cs with
    | nil => simp
    | cons d ds =>
      have hrest : (runningTotals (start + c.length) (d :: ds)).getLast?
          = some (start + c.length + (d :: ds).flatten.length) := ih (List.cons_ne_nil d ds)
      rw [runningTotals_cons, List.flatten_cons, List.length_append, ← Nat.add_assoc, ← hrest]
      exact List.getLast?_cons_cons

/-! ### Even cutting -/

section Even

variable {size : ℕ} {data : List α}

/-- Induction along an even cutting, in which all pieces have the same bound. -/
@[elab_as_elim]
theorem even_induction (size : ℕ) {motive : List α → Prop}
    (last : ∀ data, data.length ≤ max size 1 → motive data)
    (cut : ∀ data, max size 1 < data.length → motive (data.drop (max size 1)) → motive data)
    (data : List α) : motive data := by
  by_cases h : data.length ≤ max size 1
  · exact last data h
  · exact cut data (Nat.lt_of_not_le h) (even_induction size last cut _)
termination_by data.length
decreasing_by
  rw [List.length_drop]
  omega

/-- The pieces are as many as fit, the last one counting in full. -/
theorem length_chunks (size : ℕ) (hne : data ≠ []) :
    (chunks size size data).length = data.length ⌈/⌉ max size 1 := by
  have hsize : 0 < max size 1 := lt_max_of_lt_right Nat.one_pos
  rw [Nat.ceilDiv_eq_add_pred_div]
  induction data using even_induction size with
  | last data h =>
    have hpos : 0 < data.length := List.length_pos_of_ne_nil hne
    rw [chunks_of_le h, List.length_singleton]
    symm
    apply Nat.div_eq_of_lt_le <;> omega
  -- A full piece is cut off, which takes one bound off the length and one off the quotient.
  | cut data h ih =>
    have hrest : data.drop (max size 1) ≠ [] := by
      rw [Ne, List.drop_eq_nil_iff]
      omega
    have hlength : data.length + max size 1 - 1
        = data.length - max size 1 + max size 1 - 1 + max size 1 := by omega
    rw [chunks_of_lt h, List.length_cons, ih hrest, List.length_drop, hlength,
      Nat.add_div_right _ hsize]

/-- Every piece that is followed by another one is full: only the last one may be shorter. -/
theorem length_of_mem_before {before after : List (List α)} {piece : List α}
    (h : chunks size size data = before ++ piece :: after) :
    ∀ c ∈ before, c.length = max size 1 := by
  induction data using even_induction size generalizing before with
  -- There is one piece, so none is followed by another.
  | last data hlast =>
    rw [chunks_of_le hlast] at h
    cases before with
    | nil => exact fun c hc => absurd hc List.not_mem_nil
    | cons first before =>
      have hlength := congrArg List.length h
      simp at hlength
  -- The first piece is full since more than a full piece was left, and the others by induction.
  | cut data hcut ih =>
    rw [chunks_of_lt hcut] at h
    cases before with
    | nil => exact fun c hc => absurd hc List.not_mem_nil
    | cons first before =>
      obtain ⟨rfl, hrest⟩ := List.cons.inj h
      intro c hc
      rcases List.mem_cons.mp hc with rfl | hc
      · exact List.length_take_of_le hcut.le
      · exact ih hrest c hc

/-- The totals are multiples of the bound, up to the size of the payload. -/
theorem runningTotals_chunks (size start : ℕ) (data : List α) :
    runningTotals start (chunks size size data)
      = (List.range (chunks size size data).length).map fun k =>
          start + min ((k + 1) * max size 1) data.length := by
  induction data using even_induction size generalizing start with
  | last data h =>
    rw [chunks_of_le h, List.length_singleton, List.range_one, List.map_singleton,
      runningTotals_cons, runningTotals_nil, Nat.zero_add, Nat.one_mul, Nat.min_eq_right h]
  -- The first total is a full piece, and the others are those of the rest, moved up by it.
  | cut data h ih =>
    rw [chunks_of_lt h, runningTotals_cons, ih, List.length_cons, List.range_succ_eq_map,
      List.map_cons, List.map_map, List.length_take_of_le h.le, Nat.zero_add, Nat.one_mul,
      Nat.min_eq_left h.le]
    congr 1
    apply List.map_congr_left
    intro k _
    show start + max size 1 + min ((k + 1) * max size 1) (data.drop (max size 1)).length
      = start + min ((k + 1 + 1) * max size 1) data.length
    rw [List.length_drop, Nat.succ_mul (k + 1)]
    omega

end Even

end Chunking
