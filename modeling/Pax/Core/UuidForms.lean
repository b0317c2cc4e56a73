import Pax.Core.UuidText

/-!
# The texts that are UUIDs

`Uuid::from_str` of `pax-core/src/uuid.rs` is documented for four forms: digits grouped by hyphens,
the same 32 digits alone, and the 4 or 8 digits of a short value (`Uuid.Documented`).

What it accepts is more (`exists_fromStr_ok`). It deletes hyphens wherever they stand
(`Uuid.Misgrouped`), and the number parser takes a plus sign (`Uuid.Signed`). A text passes without
being a UUID in just these two ways (`accepts_forms_iff`), and `hyphen_and_sign` has an example of
each.
-/

namespace Pax

open Text
open String (utf8Len utf8Len_cons)

variable {cs : List Char} {s : String}

/-- Nothing but hexadecimal digits, of either letter case. -/
def HexDigits (cs : List Char) : Prop := ∀ c ∈ cs, IsHexDigit c

theorem utf8Len_of_hexDigits (h : HexDigits cs) : utf8Len cs = cs.length := by
  induction cs with
  | nil => rfl
  | cons c cs ih =>
    obtain ⟨hc, hcs⟩ := List.forall_mem_cons.mp h
    rw [utf8Len_cons, ih hcs, hc.utf8Size, List.length_cons]

theorem exists_digits_iff : (∃ digits, Digits 16 cs digits) ↔ HexDigits cs := by
  constructor
  · rintro ⟨digits, hdigits⟩ c hc
    exact isSome_digit_iff.mp (Option.isSome_iff_ne_none.mpr (hdigits.digit_ne_none hc))
  · intro h
    induction cs with
    | nil => exact ⟨[], .nil⟩
    | cons c cs ih =>
      obtain ⟨hc, hcs⟩ := List.forall_mem_cons.mp h
      obtain ⟨d, hd⟩ := Option.isSome_iff_exists.mp (isSome_digit_iff.mpr hc)
      obtain ⟨digits, hdigits⟩ := ih hcs
      exact ⟨d :: digits, .cons hd hdigits⟩

/-- Digits write a number of their width: on top of a value that has been read, at most as much
as the width allows. -/
theorem ofDigits_lt {digits : List ℕ} (h : Digits 16 cs digits) (value : ℕ) :
    ofDigits 16 value digits < (value + 1) * 16 ^ digits.length := by
  -- `ofDigits` takes the digits from the front, so the value read so far is generalised
  induction h generalizing value with
  | nil =>
    rw [List.length_nil, pow_zero, mul_one]
    exact Nat.lt_succ_self value
  | @cons _ d _ digits hc _ ih =>
    have hd := digit_lt hc
    calc ofDigits 16 value (d :: digits)
        = ofDigits 16 (value * 16 + d) digits := rfl
      _ < (value * 16 + d + 1) * 16 ^ digits.length := ih _
      _ ≤ ((value + 1) * 16) * 16 ^ digits.length := Nat.mul_le_mul_right _ (by omega)
      _ = (value + 1) * 16 ^ (d :: digits).length := by rw [List.length_cons, pow_succ']; ring

/-- **What is read as a number of a width**: digits, or a plus sign and one digit less. -/
theorem exists_parse_ok {width : ℕ} (hwidth : 1 < width) (hlen : utf8Len cs = width) :
    (∃ n, parseUnsigned 16 (16 ^ width) cs = .ok n) ↔
      (cs.length = width ∧ HexDigits cs) ∨
        ∃ ds, cs = '+' :: ds ∧ ds.length + 1 = width ∧ HexDigits ds := by
  have hplus : ('+' : Char).utf8Size = 1 := by decide
  simp only [parseUnsigned_eq_ok (by norm_num : 0 < 16) (by positivity : 0 < 16 ^ width)]
  constructor
  · rintro ⟨n, -, ds, digits, rfl | rfl, -, hdigits, -⟩
    · have hds := exists_digits_iff.mp ⟨digits, hdigits⟩
      exact .inl ⟨utf8Len_of_hexDigits hds ▸ hlen, hds⟩
    · have hds := exists_digits_iff.mp ⟨digits, hdigits⟩
      rw [utf8Len_cons, utf8Len_of_hexDigits hds, hplus] at hlen
      exact .inr ⟨ds, rfl, hlen, hds⟩
  -- Digits up to the width are a number that fits in it.
  · have hread (ds : List Char) (hds : HexDigits ds) (hle : ds.length ≤ width) :
        ∃ digits, Digits 16 ds digits ∧ ofDigits 16 0 digits < 16 ^ width := by
      obtain ⟨digits, hdigits⟩ := exists_digits_iff.mpr hds
      have hlt := ofDigits_lt hdigits 0
      have hlength := List.Forall₂.length_eq hdigits
      rw [zero_add, one_mul, ← hlength] at hlt
      exact ⟨digits, hdigits, hlt.trans_le (Nat.pow_le_pow_right (by norm_num) hle)⟩
    -- the plus sign takes the place of a digit, so what is read after it is smaller still
    rintro (⟨hlength, hds⟩ | ⟨ds, rfl, hlength, hds⟩)
    · obtain ⟨digits, hdigits, hlt⟩ := hread cs hds hlength.le
      exact ⟨_, hlt, cs, digits, .inl rfl, List.ne_nil_of_length_pos (by omega), hdigits, rfl⟩
    · obtain ⟨digits, hdigits, hlt⟩ := hread ds hds (by omega)
      exact ⟨_, hlt, ds, digits, .inr rfl, List.ne_nil_of_length_pos (by omega), hdigits, rfl⟩

namespace Uuid

/-! ### Documented forms -/

/-- Digits grouped by hyphens as 8-4-4-4-12. -/
inductive Grouped : List Char → Prop
  | intro (a b c d e : List Char) (ha : a.length = 8) (hb : b.length = 4) (hc : c.length = 4)
    (hd : d.length = 4) (he : e.length = 12)
    (hdigits : HexDigits (a ++ b ++ c ++ d ++ e)) :
    Grouped (a ++ '-' :: (b ++ '-' :: (c ++ '-' :: (d ++ '-' :: e))))

/-- One of the forms without hyphens: 32, 8 or 4 digits, and nothing else. -/
def Bare (cs : List Char) : Prop :=
  (cs.length = 4 ∨ cs.length = 8 ∨ cs.length = 32) ∧ HexDigits cs

/-- The text has one of the documented forms. -/
def Documented (s : String) : Prop := Grouped s.toList ∨ Bare s.toList

/-- A plus sign where a digit is due: before 3 or 7 digits, or as the first of a pair. -/
def Signed (cs : List Char) : Prop :=
  (∃ ds, cs = '+' :: ds ∧ (ds.length = 3 ∨ ds.length = 7) ∧ HexDigits ds) ∨
    cs.length = 32 ∧ Loose cs ∧ '+' ∈ cs

/-- There are hyphens, and they are not those of the groups, but what is left without them is
digits of some form. -/
def Misgrouped (s : String) : Prop :=
  '-' ∈ s.toList ∧ ¬ Grouped s.toList ∧ Bare (stripped s)

theorem not_isHexDigit_hyphen : ¬ IsHexDigit '-' := by decide

/-- Digits have no hyphens to delete. -/
theorem filter_of_hexDigits (h : HexDigits cs) : cs.filter (· ≠ '-') = cs := by
  refine List.filter_eq_self.mpr fun c hc => decide_eq_true ?_
  rintro rfl
  exact not_isHexDigit_hyphen (h '-' hc)

theorem Grouped.bare (h : Grouped cs) : Bare (cs.filter (· ≠ '-')) := by
  obtain ⟨a, b, c, d, e, ha, hb, hc, hd, he, hdigits⟩ := h
  have hhyphen (cs : List Char) : ('-' :: cs).filter (· ≠ '-') = cs.filter (· ≠ '-') :=
    List.filter_cons_of_neg (by decide)
  have hgroups : (a ++ '-' :: (b ++ '-' :: (c ++ '-' :: (d ++ '-' :: e)))).filter (· ≠ '-')
      = a ++ b ++ c ++ d ++ e := by
    rw [← filter_of_hexDigits hdigits]
    simp only [List.filter_append, hhyphen, List.append_assoc]
  rw [hgroups]
  refine ⟨.inr (.inr ?_), hdigits⟩
  simp only [List.length_append]
  omega

theorem Grouped.length (h : Grouped cs) : cs.length = 36 := by
  obtain ⟨a, b, c, d, e, ha, hb, hc, hd, he, -⟩ := h
  simp only [List.length_append, List.length_cons]
  omega

/-- Without its hyphens, a documented form is digits. -/
theorem Documented.bare (h : Documented s) : Bare (stripped s) := by
  rcases h with h | h
  · exact h.bare
  · rw [stripped, filter_of_hexDigits h.2]
    exact h

/-- Digits that are left of a text are a documented form, unless hyphens are misplaced. -/
theorem documented_iff_of_bare (h : Bare (stripped s)) : Documented s ↔ ¬ Misgrouped s := by
  constructor
  · rintro (hgrouped | hbare) ⟨hhyphen, hnot, -⟩
    · exact hnot hgrouped
    · exact not_isHexDigit_hyphen (hbare.2 '-' hhyphen)
  · intro hnot
    by_cases hhyphen : '-' ∈ s.toList
    · exact .inl (by_contra fun hgrouped => hnot ⟨hhyphen, hgrouped, h⟩)
    -- without hyphens nothing was deleted
    · have hall : s.toList.filter (· ≠ '-') = s.toList := by
        refine List.filter_eq_self.mpr fun c hc => decide_eq_true ?_
        rintro rfl
        exact hhyphen hc
      exact .inr (hall ▸ h)

/-- What has a sign in the place of a digit is not digits alone. -/
theorem Signed.not_bare (h : Signed cs) : ¬ Bare cs := by
  intro hbare
  have hplus : '+' ∈ cs := by
    rcases h with ⟨ds, rfl, -⟩ | ⟨-, -, hplus⟩
    · exact List.mem_cons_self
    · exact hplus
  exact not_isHexDigit_plus (hbare.2 '+' hplus)

/-! ### Accepted texts -/

theorem length_of_loose (h : Loose cs) : utf8Len cs = cs.length := by
  induction h with
  | nil => rfl
  | cons c d cs hc hd _ ih =>
    rw [utf8Len_cons, utf8Len_cons, utf8Size_plus_or_digit hc, hd.utf8Size, ih]
    simp only [List.length_cons]

/-- Sixteen pairs that are read are 32 digits, unless there is a sign among them. -/
theorem loose_iff (h : cs.length = 32) : Loose cs ↔ HexDigits cs ∨ Loose cs ∧ '+' ∈ cs := by
  constructor
  · intro hloose
    by_cases hplus : '+' ∈ cs
    · exact .inr ⟨hloose, hplus⟩
    · exact .inl (loose_and_not_mem_iff.mp ⟨hloose, hplus⟩).2
  · rintro (hdigits | ⟨hloose, -⟩)
    · exact (loose_and_not_mem_iff.mpr ⟨by omega, hdigits⟩).1
    · exact hloose

/-- What is accepted has a byte for each character, so that lengths in bytes and in characters
agree. -/
theorem utf8Len_of_accepted (h : Bare cs ∨ Signed cs) : utf8Len cs = cs.length := by
  rcases h with hbare | ⟨ds, rfl, -, hds⟩ | ⟨-, hloose, -⟩
  · exact utf8Len_of_hexDigits hbare.2
  · rw [utf8Len_cons, utf8Len_of_hexDigits hds, List.length_cons]
    rfl
  · exact length_of_loose hloose

/-- Of the texts of a short form, those that are accepted are digits, or a sign and digits. -/
theorem accepted_iff_of_short {width : ℕ} (hwidth : width = 4 ∨ width = 8)
    (hlen : utf8Len cs = width) : Bare cs ∨ Signed cs ↔ cs.length = width ∧ HexDigits cs ∨
      ∃ ds, cs = '+' :: ds ∧ ds.length + 1 = width ∧ HexDigits ds := by
  constructor
  · intro h
    have hlength := utf8Len_of_accepted h
    rcases h with ⟨-, hdigits⟩ | ⟨ds, rfl, -, hds⟩ | ⟨h32, -, -⟩
    · exact .inl ⟨by omega, hdigits⟩
    · rw [List.length_cons] at hlength
      exact .inr ⟨ds, rfl, by omega, hds⟩
    -- A long text is not short.
    · omega
  · rintro (⟨hlength, hdigits⟩ | ⟨ds, rfl, hlength, hds⟩)
    · exact .inl ⟨by omega, hdigits⟩
    · exact .inr (.inl ⟨ds, rfl, by omega, hds⟩)

theorem accepted_iff_of_long (hlen : utf8Len cs = 32) : Bare cs ∨ Signed cs ↔ Loose cs := by
  constructor
  · intro h
    have hlength := utf8Len_of_accepted h
    rcases h with ⟨-, hdigits⟩ | ⟨ds, rfl, hshort, -⟩ | ⟨-, hloose, -⟩
    · exact (loose_iff (by omega)).mpr (.inl hdigits)
    -- A short text with a sign is not long.
    · rw [List.length_cons] at hlength
      omega
    · exact hloose
  · intro hloose
    have hlength := length_of_loose hloose
    rcases (loose_iff (by omega)).mp hloose with hdigits | hsign
    · exact .inl ⟨by omega, hdigits⟩
    · exact .inr (.inr ⟨by omega, hsign⟩)

theorem not_error {ε α : Type} {e : ε} : ¬ ∃ a : α, (.error e : Except ε α) = .ok a := by
  rintro ⟨a, h⟩
  cases h

theorem not_some_error {ε α : Type} {e : ε} :
    ¬ ∃ a : α, some (.error e : Except ε α) = some (.ok a) := by
  rintro ⟨a, h⟩
  cases h

theorem not_none {ε α : Type} : ¬ ∃ a : α, (none : Option (Except ε α)) = some (.ok a) := by
  rintro ⟨a, h⟩
  cases h

/-- **What `from_str` accepts**: a text that without its hyphens is digits, or has signs among
them. -/
theorem exists_fromStr_ok (s : String) :
    (∃ u, fromStr s = some (.ok u)) ↔ Bare (stripped s) ∨ Signed (stripped s) := by
  rw [fromStr]
  split_ifs with h4 h8 h32
  -- the short values are read as one number each
  · rw [accepted_iff_of_short (.inl rfl) h4, ← exists_parse_ok (by norm_num) h4]
    show _ ↔ ∃ n, parseUnsigned 16 (2 ^ 16) _ = .ok n
    cases parseUnsigned 16 (2 ^ 16) (stripped s) with
    | error e => exact iff_of_false not_some_error not_error
    | ok n => exact iff_of_true ⟨_, rfl⟩ ⟨n, rfl⟩
  · rw [accepted_iff_of_short (.inr rfl) h8, ← exists_parse_ok (by norm_num) h8]
    show _ ↔ ∃ n, parseUnsigned 16 (2 ^ 32) _ = .ok n
    cases parseUnsigned 16 (2 ^ 32) (stripped s) with
    | error e => exact iff_of_false not_some_error not_error
    | ok n => exact iff_of_true ⟨_, rfl⟩ ⟨n, rfl⟩
  -- the long ones are read pair by pair, and a pair may begin with a sign
  · have hpairs : (∃ bytes, pairsFrom 16 (stripped s) = some (.ok bytes)) ↔ Loose (stripped s) :=
      exists_pairsFrom_ok h32
    rw [accepted_iff_of_long h32, ← hpairs, hexPairs_eq_pairsFrom]
    cases pairsFrom 16 (stripped s) with
    | none => exact iff_of_false not_none not_none
    | some r =>
      cases r with
      | error e => exact iff_of_false not_some_error not_some_error
      | ok bytes => exact iff_of_true ⟨_, rfl⟩ ⟨bytes, rfl⟩
  -- any other length is refused, and no accepted text has one
  · refine iff_of_false not_some_error fun h => ?_
    have hlength := utf8Len_of_accepted h
    rcases h with ⟨hlengths, -⟩ | ⟨ds, hds, hlengths, -⟩ | ⟨hlengths, -⟩
    · omega
    · rw [hds, List.length_cons] at hlength
      rw [hds] at h4 h8
      omega
    · omega

/-- **When exactly the documented forms are accepted**: unless a plus sign stands for a digit, or
the digits of some form stand among misplaced hyphens. -/
theorem accepts_forms_iff (s : String) :
    ((∃ u, fromStr s = some (.ok u)) ↔ Documented s) ↔
      ¬ (Signed (stripped s) ∨ Misgrouped s) := by
  rw [exists_fromStr_ok, not_or]
  constructor
  · intro h
    have hsigned : ¬ Signed (stripped s) := fun hsigned =>
      hsigned.not_bare (h.mp (.inr hsigned)).bare
    -- misgrouped digits are accepted, so they would be a documented form
    refine ⟨hsigned, fun hmis => ?_⟩
    exact (documented_iff_of_bare hmis.2.2).mp (h.mp (.inl hmis.2.2)) hmis
  · rintro ⟨hsigned, hmis⟩
    constructor
    · intro h
      have hbare := h.resolve_right hsigned
      exact (documented_iff_of_bare hbare).mpr hmis
    · intro h
      exact .inl h.bare

/-- A hyphen after the first of four digits, and a sign before three digits. Both texts are
accepted, though neither has a documented form, and all their characters are ASCII. -/
theorem hyphen_and_sign :
    (fromStr "1-80a" = some (.ok (fromU16 0x180a)) ∧ ¬ Documented "1-80a") ∧
    (fromStr "+80a" = some (.ok (fromU16 0x80a)) ∧ ¬ Documented "+80a") ∧
    ¬ ∀ s : String, (∀ c ∈ s.toList, c.toNat < 128) →
      ((∃ u, fromStr s = some (.ok u)) ↔ Documented s) := by
  -- Neither text has one of the documented forms, for its length and for its sign.
  have hhyphen : ¬ Documented "1-80a" := by
    rintro (hgrouped | hbare)
    · exact absurd hgrouped.length (by decide)
    · exact absurd (hbare.2 '-' (by decide)) (by decide)
  have hsign : ¬ Documented "+80a" := fun h =>
    absurd (h.bare.2 '+' (by decide)) (by decide)
  have hread : fromStr "+80a" = some (.ok (fromU16 0x80a)) := by decide
  have hascii : ∀ c ∈ "+80a".toList, c.toNat < 128 := by simp
  refine ⟨⟨by decide, hhyphen⟩, ⟨hread, hsign⟩, fun h => ?_⟩
  exact hsign ((h "+80a" hascii).mp ⟨_, hread⟩)

end Uuid
end Pax
