import Pax.Framework.Text

/-!
# Lines of text

Words that are joined by a mark can be taken apart if the mark is in none of them. Used twice, this
is how a report is read: once for the characters of its lines, and once for its lines, which an
empty one cuts into blocks. A number that is printed with leading zeros can still be told.
-/

namespace Text

/-- A list whose elements can be told under `f`. -/
theorem map_inj_of_mem {α γ : Type} {f : α → γ} {P : α → Prop} {as bs : List α}
    (hf : ∀ a b, P a → P b → f a = f b → a = b) (has : ∀ a ∈ as, P a) (hbs : ∀ b ∈ bs, P b)
    (h : as.map f = bs.map f) : as = bs := by
  induction as generalizing bs with
  | nil => exact (List.map_eq_nil_iff.mp h.symm).symm
  | cons a as ih =>
    obtain ⟨b, bs', rfl, hhead, htail⟩ := List.map_eq_cons_iff.mp h.symm
    obtain ⟨hb, hbs'⟩ := List.forall_mem_cons.mp hbs
    obtain ⟨ha, has'⟩ := List.forall_mem_cons.mp has
    rw [hf a b ha hb hhead.symm, ih has' hbs' htail.symm]

section Joined

variable {β : Type} {mark : β} {words words' : List (List β)}

/-- What stands before the first mark, and what behind it. -/
theorem append_mark_inj {l l' r r' : List β} (hl : mark ∉ l) (hl' : mark ∉ l')
    (h : l ++ mark :: r = l' ++ mark :: r') : l = l' ∧ r = r' := by
  -- On both lists at once: neither has the mark, so that they end at the same place.
  induction l generalizing l' with
  | nil =>
    cases l' with
    | nil => exact ⟨rfl, (List.cons.inj h).2⟩
    | cons c l' => exact absurd ((List.cons.inj h).1 ▸ List.mem_cons_self) hl'
  | cons b l ih =>
    cases l' with
    | nil => exact absurd ((List.cons.inj h).1 ▸ List.mem_cons_self) hl
    | cons c l' =>
      obtain ⟨rfl, hrest⟩ := List.cons.inj h
      obtain ⟨rfl, rfl⟩ := ih (List.not_mem_of_not_mem_cons hl) (List.not_mem_of_not_mem_cons hl')
        hrest
      exact ⟨rfl, rfl⟩

/-- Something comes of words that are not empty. -/
theorem intercalate_ne_nil (hwords : ∀ w ∈ words, w ≠ []) (hne : words ≠ []) :
    [mark].intercalate words ≠ [] := by
  cases words with
  | nil => exact absurd rfl hne
  | cons w words =>
    have hw : w ≠ [] := hwords w List.mem_cons_self
    cases words with
    | nil =>
      rw [List.intercalate_singleton]
      exact hw
    | cons w' words =>
      rw [List.intercalate_cons_cons, List.append_assoc]
      exact List.append_ne_nil_of_left_ne_nil hw _

/-- The words, each with the mark after it. -/
def terminated (mark : β) (words : List (List β)) : List β := words.flatMap (· ++ [mark])

/-- The words, each with the mark before it. -/
def headed (mark : β) (words : List (List β)) : List β := words.flatMap (mark :: ·)

theorem terminated_append (mark : β) (words words' : List (List β)) :
    terminated mark (words ++ words') = terminated mark words ++ terminated mark words' :=
  List.flatMap_append

/-- Blocks of words, each after an empty one. -/
theorem terminated_headed (mark : β) (blocks : List (List (List β))) :
    terminated mark (headed [] blocks) =
      headed mark (blocks.map (terminated mark)) := by
  induction blocks with
  | nil => rfl
  | cons block blocks ih =>
    calc terminated mark (headed [] (block :: blocks))
        = terminated mark ([] :: block) ++ terminated mark (headed [] blocks) :=
          terminated_append mark ([] :: block) (headed [] blocks)
      _ = mark :: terminated mark block ++ headed mark (blocks.map (terminated mark)) := by
          rw [ih]
          rfl

theorem terminated_eq (mark : β) (words : List (List β)) :
    terminated mark words = [mark].intercalate (words ++ [[]]) := by
  induction words with
  | nil => rfl
  | cons w words ih =>
    have hrest : words ++ [[]] ≠ [] := List.append_ne_nil_of_right_ne_nil _ (List.cons_ne_nil _ _)
    rw [List.cons_append, List.intercalate_cons_of_ne_nil hrest, ← ih]
    rfl

theorem cons_headed_eq (mark : β) (first : List β) (words : List (List β)) :
    first ++ headed mark words = [mark].intercalate (first :: words) := by
  induction words generalizing first with
  | nil => rw [headed, List.flatMap_nil, List.append_nil, List.intercalate_singleton]
  | cons w words ih =>
    rw [List.intercalate_cons_cons, ← ih, headed, List.flatMap_cons, ← headed]
    simp

variable [DecidableEq β]

/-- Words that are joined by a mark that is in none of them can be told from the text. -/
theorem intercalate_inj (hwords : ∀ w ∈ words, mark ∉ w) (hwords' : ∀ w ∈ words', mark ∉ w)
    (hne : words ≠ []) (hne' : words' ≠ [])
    (h : [mark].intercalate words = [mark].intercalate words') : words = words' := by
  calc words = ([mark].intercalate words).splitOn mark :=
        (List.splitOn_intercalate mark hwords hne).symm
    _ = ([mark].intercalate words').splitOn mark := by rw [h]
    _ = words' := List.splitOn_intercalate mark hwords' hne'

/-- Joined words are the words, of which there may be none. -/
theorem intercalate_inj_of_ne_nil (hwords : ∀ w ∈ words, mark ∉ w ∧ w ≠ [])
    (hwords' : ∀ w ∈ words', mark ∉ w ∧ w ≠ [])
    (h : [mark].intercalate words = [mark].intercalate words') : words = words' := by
  by_cases hne : words = []
  · subst hne
    by_contra hne'
    exact intercalate_ne_nil (fun w hw => (hwords' w hw).2) (Ne.symm hne') h.symm
  · by_cases hne' : words' = []
    · subst hne'
      exact absurd h (intercalate_ne_nil (fun w hw => (hwords w hw).2) hne)
    · exact intercalate_inj (fun w hw => (hwords w hw).1) (fun w hw => (hwords' w hw).1) hne hne' h

/-- **What ends with a mark each** can be told apart. -/
theorem terminated_inj (hwords : ∀ w ∈ words, mark ∉ w) (hwords' : ∀ w ∈ words', mark ∉ w)
    (h : terminated mark words = terminated mark words') : words = words' := by
  have hlast {ws : List (List β)} (hws : ∀ w ∈ ws, mark ∉ w) : ∀ w ∈ ws ++ [[]], mark ∉ w := by
    intro w hw
    rcases List.mem_append.mp hw with hw | hw
    · exact hws w hw
    · rw [List.mem_singleton.mp hw]
      exact List.not_mem_nil
  rw [terminated_eq, terminated_eq] at h
  refine List.append_cancel_right (intercalate_inj (hlast hwords) (hlast hwords') ?_ ?_ h)
  · simp
  · simp

/-- **What starts with a mark each** can be told apart, also after something else. -/
theorem headed_inj {first first' : List β} (hfirst : mark ∉ first) (hfirst' : mark ∉ first')
    (hwords : ∀ w ∈ words, mark ∉ w) (hwords' : ∀ w ∈ words', mark ∉ w)
    (h : first ++ headed mark words = first' ++ headed mark words') :
    first = first' ∧ words = words' := by
  rw [cons_headed_eq, cons_headed_eq] at h
  have heq := intercalate_inj (List.forall_mem_cons.mpr ⟨hfirst, hwords⟩)
    (List.forall_mem_cons.mpr ⟨hfirst', hwords'⟩) (List.cons_ne_nil _ _) (List.cons_ne_nil _ _) h
  exact List.cons.inj heq

end Joined

/-! ### Hexadecimal numbers -/

variable {cs : List Char} {ds ds' : List ℕ}

/-- The digits that characters are. -/
theorem Digits.unique {radix : ℕ} (h : Digits radix cs ds) (h' : Digits radix cs ds') :
    ds = ds' := by
  induction h generalizing ds' with
  | nil =>
    cases h'
    rfl
  | cons hd _ ih =>
    cases h' with
    | cons hd' hrest' =>
      have heq := Option.some.inj (hd.symm.trans hd')
      rw [heq, ih hrest']

/-- `{:0width$X}` of a number. -/
def upperHex (width n : ℕ) : List Char :=
  ((Nat.toDigits 16 n).map Char.toUpper).leftpad width '0'

/-- Zeros in front of the digits do not change the number. -/
theorem ofDigits_zeros (radix k : ℕ) (ds : List ℕ) :
    ofDigits radix 0 (List.replicate k 0 ++ ds) = ofDigits radix 0 ds := by
  induction k with
  | zero => rfl
  | succ k ih =>
    calc ofDigits radix 0 (List.replicate (k + 1) 0 ++ ds)
        = ofDigits radix (0 * radix + 0) (List.replicate k 0 ++ ds) := rfl
      _ = ofDigits radix 0 (List.replicate k 0 ++ ds) := by rw [Nat.zero_mul]
      _ = ofDigits radix 0 ds := ih

theorem exists_digits_upperHex (width n : ℕ) :
    ∃ ds, Digits 16 (upperHex width n) ds ∧ ofDigits 16 0 ds = n := by
  obtain ⟨ds, hds, hvalue⟩ := exists_digits_toDigits_of (by norm_num) (by decide : ∀ d < 16,
    digit 16 d.digitChar = some d) n
  have hupper : Digits 16 ((Nat.toDigits 16 n).map Char.toUpper) ds := by
    rw [Digits, List.forall₂_map_left_iff]
    exact hds.imp fun c d hcd => (digit_toUpper c).trans hcd
  have hzeros (k : ℕ) : Digits 16 (List.replicate k '0') (List.replicate k 0) := by
    induction k with
    | zero => exact .nil
    | succ k ih => exact .cons (by decide) ih
  exact ⟨_, List.rel_append (hzeros _) hupper, by rw [ofDigits_zeros, hvalue]⟩

/-- **A padded number can be told** from its text, however wide the text is. -/
theorem upperHex_inj {width n m : ℕ} (h : upperHex width n = upperHex width m) : n = m := by
  obtain ⟨ds, hds, hn⟩ := exists_digits_upperHex width n
  obtain ⟨ds', hds', hm⟩ := exists_digits_upperHex width m
  rw [h] at hds
  rw [← hn, ← hm, hds.unique hds']

/-- There are only digits in the text of a number, so no mark that is no digit. -/
theorem not_mem_upperHex {c : Char} (hc : digit 16 c = none) (width n : ℕ) :
    c ∉ upperHex width n := by
  obtain ⟨ds, hds, -⟩ := exists_digits_upperHex width n
  exact fun hmem => hds.digit_ne_none hmem hc

end Text
