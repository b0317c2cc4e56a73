import Pax.Core.Device
import Pax.Framework.HexPairs

/-!
# Addresses as text

`BdAddr::from_str` of `pax-core/src/address.rs`. The text is split at colons, or at dashes if there
are none, and each part is read as a number in hexadecimal and must be two bytes wide.

* `fromStr_eq_ok` says what is accepted, part by part (`Octet`).
* `accepts_addresses_iff` says when that is an address (`Denotes`). The parser of numbers takes a
  plus sign, and so does this one: `plus_for_zero` is such a text.
* `text_roundTrip` says that what `Display` prints is read back, and so is every spelling
  (`Spelling`) of the same digits, whatever the letter case, the separators and the white space
  around the digits.
-/

namespace Pax
namespace BdAddr

open Text
open String (utf8Len utf8Len_cons utf8Len_append)

/-! ### Parsing -/

/-- The loop over the parts of the text `s`, with the octets read so far and their number. Every
refusal is about the whole text, whichever part it comes from. -/
def fromParts (s : String) :
    List (List Char) → (octets : Vector UInt8 6) → (count : ℕ) → Except CoreError BdAddr
  | [], octets, count => if count ≠ 6 then .error (.invalidAddress s) else .ok ⟨octets⟩
  | part :: parts, octets, count =>
    if h : count < 6 then
      match parseU8 (trim part) with
      | .error _ => .error (.invalidAddress s)
      | .ok byte =>
        if utf8Len (trim part) ≠ 2 then .error (.invalidAddress s)
        else fromParts s parts (octets.set count byte) (count + 1)
    else .error (.invalidAddress s)

/-- `from_str`. A text with a colon is split at its colons even if there are dashes in it, which
are then in some part and are refused there. -/
def fromStr (s : String) : Except CoreError BdAddr :=
  if ':' ∈ s.toList then fromParts s (s.toList.splitOn ':') (.replicate 6 0) 0
  else if '-' ∈ s.toList then fromParts s (s.toList.splitOn '-') (.replicate 6 0) 0
  else .error (.invalidAddress s)

/-- The character that the text is split at. There is none if the text has neither a colon nor a
dash. -/
def Separates (s : String) (sep : Char) : Prop :=
  sep = ':' ∧ ':' ∈ s.toList ∨ sep = '-' ∧ ':' ∉ s.toList ∧ '-' ∈ s.toList

/-- The part is taken for an octet: it has two characters, with white space around them, that are
read as a number. -/
def Octet (part : List Char) (b : UInt8) : Prop :=
  ∃ c d, trim part = [c, d] ∧ parseU8 [c, d] = .ok b

variable {s : String} {part : List Char} {b : UInt8} {a : BdAddr}

theorem octet_iff : Octet part b ↔ parseU8 (trim part) = .ok b ∧ utf8Len (trim part) = 2 := by
  constructor
  · rintro ⟨c, d, htrim, hread⟩
    obtain ⟨hc, hd⟩ := exists_parseU8_pair.mp ⟨b, hread⟩
    refine ⟨htrim ▸ hread, ?_⟩
    rw [htrim, utf8Len_cons, utf8Len_cons, utf8Size_plus_or_digit hc, hd.utf8Size]
    rfl
  · rintro ⟨hread, hlen⟩
    obtain ⟨c, d, htrim⟩ := eq_pair_of_parseU8 hread hlen
    exact ⟨c, d, htrim, htrim ▸ hread⟩

/-- One turn of the loop, as long as there is a place left for an octet. -/
theorem fromParts_cons {parts : List (List Char)} {octets : Vector UInt8 6} {count : ℕ}
    (h : count < 6) : fromParts s (part :: parts) octets count = .ok a ↔
      ∃ byte, Octet part byte ∧ fromParts s parts (octets.set count byte) (count + 1) = .ok a := by
  rw [fromParts, dif_pos h]
  simp only [octet_iff]
  cases hread : parseU8 (trim part) with
  -- A part that is not read ends the loop, as one of another width does.
  | error e =>
    refine iff_of_false nofun ?_
    rintro ⟨byte, ⟨⟨⟩, -⟩, -⟩
  | ok byte =>
    dsimp only
    split_ifs with hlen
    · refine iff_of_false nofun ?_
      rintro ⟨byte', ⟨-, hlen'⟩, -⟩
      exact hlen hlen'
    · constructor
      · intro hrest
        exact ⟨byte, ⟨rfl, not_not.mp hlen⟩, hrest⟩
      · rintro ⟨byte', ⟨hbyte, -⟩, hrest⟩
        obtain rfl := Except.ok.inj hbyte
        exact hrest

theorem fromParts_eq_ok {parts : List (List Char)} {octets : Vector UInt8 6} {count : ℕ}
    (hcount : count ≤ 6) : fromParts s parts octets count = .ok a ↔
      ∃ bytes, List.Forall₂ Octet parts bytes ∧
        a.octets.toList = octets.toList.take count ++ bytes := by
  have hsize (bytes : Vector UInt8 6) : bytes.toList.length = 6 := by simp
  induction parts generalizing octets count with
  | nil =>
    -- No part is left: the address is there if six octets have been read.
    rw [fromParts]
    split_ifs with hne
    · refine iff_of_false nofun ?_
      rintro ⟨bytes, ⟨⟩, hoctets⟩
      have hlength := congrArg List.length hoctets
      rw [List.append_nil, hsize, List.length_take, hsize] at hlength
      omega
    · obtain rfl := not_not.mp hne
      rw [List.take_of_length_le (hsize octets).le]
      constructor
      · rintro ⟨⟩
        exact ⟨[], .nil, (List.append_nil _).symm⟩
      · rintro ⟨bytes, ⟨⟩, hoctets⟩
        rw [List.append_nil, Vector.toList_inj] at hoctets
        rw [← hoctets]
  | cons part parts ih =>
    by_cases h : count < 6
    -- A part for a place that is still free: the octet is the next one.
    · have htake (byte : UInt8) : (octets.set count byte).toList.take (count + 1)
          = octets.toList.take count ++ [byte] := by
        rw [Vector.toList_set, List.take_add_one, List.take_set_of_le le_rfl,
          List.getElem?_set_self ((hsize octets).symm ▸ h)]
        rfl
      rw [fromParts_cons h]
      constructor
      · rintro ⟨byte, hoctet, hrest⟩
        obtain ⟨bytes, hbytes, hoctets⟩ := (ih (by omega)).mp hrest
        rw [htake, List.append_assoc] at hoctets
        exact ⟨byte :: bytes, .cons hoctet hbytes, hoctets⟩
      · rintro ⟨bytes, hbytes, hoctets⟩
        cases hbytes with
        | cons hoctet hrest =>
          refine ⟨_, hoctet, (ih (by omega)).mpr ⟨_, hrest, ?_⟩⟩
          rw [htake, List.append_assoc]
          exact hoctets
    -- a seventh part
    · rw [fromParts, dif_neg h]
      refine iff_of_false nofun ?_
      rintro ⟨bytes, hbytes, hoctets⟩
      have hlength := congrArg List.length hoctets
      have hparts := hbytes.length_eq
      rw [List.length_append, hsize, List.length_take, hsize] at hlength
      rw [List.length_cons] at hparts
      omega

/-- **What is accepted.** The separator splits the text into as many parts as an address has
octets, and each of them is taken for the octet in its place. -/
theorem fromStr_eq_ok : fromStr s = .ok a ↔
    ∃ sep, Separates s sep ∧ List.Forall₂ Octet (s.toList.splitOn sep) a.octets.toList := by
  have hparts (sep : Char) : fromParts s (s.toList.splitOn sep) (.replicate 6 0) 0 = .ok a ↔
      List.Forall₂ Octet (s.toList.splitOn sep) a.octets.toList := by
    rw [fromParts_eq_ok (Nat.zero_le 6)]
    simp
  rw [fromStr]
  split_ifs with hcolon hdash
  -- The text has a colon, so it is split there.
  · rw [hparts]
    constructor
    · exact fun h => ⟨':', .inl ⟨rfl, hcolon⟩, h⟩
    · rintro ⟨sep, ⟨rfl, -⟩ | ⟨rfl, hno, -⟩, h⟩
      · exact h
      · exact absurd hcolon hno
  -- There is no colon, but a dash.
  · rw [hparts]
    constructor
    · exact fun h => ⟨'-', .inr ⟨rfl, hcolon, hdash⟩, h⟩
    · rintro ⟨sep, ⟨rfl, hyes⟩ | ⟨rfl, -, -⟩, h⟩
      · exact absurd hyes hcolon
      · exact h
  · refine iff_of_false nofun ?_
    rintro ⟨sep, ⟨rfl, hyes⟩ | ⟨rfl, -, hyes⟩, -⟩
    · exact hcolon hyes
    · exact hdash hyes

/-! ### What is an address -/

/-- The part is two hexadecimal digits, with white space around them, which write the octet. -/
def DigitPair (part : List Char) (b : UInt8) : Prop := ∃ c d, trim part = [c, d] ∧ Spells [c, d] [b]

/-- **The text is an address**: it has one kind of separator, which splits it into six parts, and
these are the octets in two digits each. -/
def Denotes (s : String) (a : BdAddr) : Prop :=
  ∃ sep other, (sep = ':' ∧ other = '-' ∨ sep = '-' ∧ other = ':') ∧ sep ∈ s.toList ∧
    other ∉ s.toList ∧ List.Forall₂ DigitPair (s.toList.splitOn sep) a.octets.toList

/-- The part is two hexadecimal digits, or a plus sign and one digit: this is what is taken for
some octet. -/
def LoosePair (part : List Char) : Prop :=
  ∃ c d, trim part = [c, d] ∧ (c = '+' ∨ IsHexDigit c) ∧ IsHexDigit d

/-- Six parts of two characters each, which are all taken for octets, and one of them starts with
a plus sign. -/
def Signed (s : String) : Prop :=
  ∃ sep, Separates s sep ∧ (s.toList.splitOn sep).length = 6 ∧
    (∀ part ∈ s.toList.splitOn sep, LoosePair part) ∧
    ∃ part ∈ s.toList.splitOn sep, ∃ d, trim part = ['+', d]

theorem exists_octet_iff : (∃ b, Octet part b) ↔ LoosePair part := by
  constructor
  · rintro ⟨b, c, d, htrim, hread⟩
    exact ⟨c, d, htrim, exists_parseU8_pair.mp ⟨b, hread⟩⟩
  · rintro ⟨c, d, htrim, hpair⟩
    obtain ⟨b, hread⟩ := exists_parseU8_pair.mpr hpair
    exact ⟨b, c, d, htrim, hread⟩

/-- The text is split in one way: at colons, if it has any. -/
theorem Separates.unique {sep sep' : Char} (h : Separates s sep) (h' : Separates s sep') :
    sep = sep' := by
  rcases h with ⟨rfl, hcolon⟩ | ⟨rfl, hno, -⟩ <;> rcases h' with ⟨rfl, hcolon'⟩ | ⟨rfl, hno', -⟩
  · rfl
  · exact absurd hcolon hno'
  · exact absurd hcolon' hno
  · rfl

theorem Denotes.separates (h : Denotes s a) : ∃ sep, Separates s sep ∧
    List.Forall₂ DigitPair (s.toList.splitOn sep) a.octets.toList := by
  obtain ⟨sep, other, ⟨rfl, rfl⟩ | ⟨rfl, rfl⟩, hsep, hother, hpairs⟩ := h
  · exact ⟨':', .inl ⟨rfl, hsep⟩, hpairs⟩
  · exact ⟨'-', .inr ⟨rfl, hother, hsep⟩, hpairs⟩

/-- A dash is neither white space nor a digit, and so is in no part that is accepted. -/
theorem not_mem_of_digitPair (h : DigitPair part b) : '-' ∉ part := by
  obtain ⟨c, d, htrim, hspells⟩ := h
  intro hdash
  have hmem := mem_trim hdash (by decide)
  rw [htrim] at hmem
  cases hspells with
  | cons hc hd _ _ =>
    have hnone := digit_minus 16
    rcases List.mem_pair.mp hmem with rfl | rfl
    · exact Option.some_ne_none _ (hc.symm.trans hnone)
    · exact Option.some_ne_none _ (hd.symm.trans hnone)

/-- If each part is taken for some octet, then the parts are taken for octets together. -/
theorem exists_octets {parts : List (List Char)} (h : ∀ part ∈ parts, LoosePair part) :
    ∃ bytes, List.Forall₂ Octet parts bytes := by
  induction parts with
  | nil => exact ⟨[], .nil⟩
  | cons part parts ih =>
    obtain ⟨b, hb⟩ := exists_octet_iff.mpr (h part List.mem_cons_self)
    obtain ⟨bytes, hbytes⟩ := ih fun part hpart => h part (List.mem_cons_of_mem _ hpart)
    exact ⟨b :: bytes, .cons hb hbytes⟩

/-- An element of a list has its counterpart in every list that goes together with it. -/
theorem exists_of_forall₂ {α β : Type} {R : α → β → Prop} {l : List α} {u : List β}
    (h : List.Forall₂ R l u) {a : α} (ha : a ∈ l) : ∃ b, R a b := by
  induction h with
  | nil => cases ha
  | cons hab _ ih =>
    rcases List.mem_cons.mp ha with rfl | ha
    · exact ⟨_, hab⟩
    · exact ih ha

/-- A part that is taken for an octet is two digits, unless it starts with a plus sign. -/
theorem Octet.digitPair (h : Octet part b) (hplus : ∀ d, trim part ≠ ['+', d]) :
    DigitPair part b := by
  obtain ⟨c, d, htrim, hread⟩ := h
  rcases parseU8_pair_eq_ok.mp hread with ⟨rfl, -⟩ | ⟨high, low, hc, hd, hb⟩
  · exact absurd htrim (hplus d)
  · exact ⟨c, d, htrim, .cons hc hd hb .nil⟩

theorem not_digitPair_of_plus {d : Char} (htrim : trim part = ['+', d]) : ¬ DigitPair part b := by
  rintro ⟨c, d', htrim', hspells⟩
  obtain ⟨rfl, rfl⟩ : '+' = c ∧ d = d' := by simpa using htrim.symm.trans htrim'
  cases hspells with
  | cons hc _ _ _ => exact Option.some_ne_none _ (hc.symm.trans (digit_plus 16))

/-- **When only addresses are accepted**: a text is accepted as what it denotes, unless it has a
plus sign in the place of a digit and would be an address otherwise. -/
theorem accepts_addresses_iff (s : String) :
    (∀ a, fromStr s = .ok a → Denotes s a) ↔ ¬ Signed s := by
  constructor
  -- The octets that the parts are taken for are an address, which the text would denote.
  · rintro h ⟨sep, hsep, hlength, hall, part, hpart, d, htrim⟩
    obtain ⟨bytes, hbytes⟩ := exists_octets hall
    have hsize : bytes.toArray.size = 6 := hbytes.length_eq.symm.trans hlength
    obtain ⟨sep', hsep', hpairs⟩ :=
      (h ⟨⟨bytes.toArray, hsize⟩⟩ (fromStr_eq_ok.mpr ⟨sep, hsep, hbytes⟩)).separates
    obtain rfl := hsep.unique hsep'
    -- the part with the plus sign is no pair of digits
    obtain ⟨b, hpair⟩ := exists_of_forall₂ hpairs hpart
    exact not_digitPair_of_plus htrim hpair
  -- No part has a sign, so every part is a pair of digits. The other separator is in none of them.
  · intro hunsigned a hok
    obtain ⟨sep, hsep, hoctets⟩ := fromStr_eq_ok.mp hok
    have hloose : ∀ part ∈ s.toList.splitOn sep, LoosePair part := fun part hpart =>
      exists_octet_iff.mp (exists_of_forall₂ hoctets hpart)
    have hplus : ∀ part ∈ s.toList.splitOn sep, ∀ d, trim part ≠ ['+', d] := by
      intro part hpart d htrim
      refine hunsigned ⟨sep, hsep, ?_, hloose, part, hpart, d, htrim⟩
      rw [hoctets.length_eq]
      simp
    have hpairs : List.Forall₂ DigitPair (s.toList.splitOn sep) a.octets.toList :=
      (List.forall₂_and_left _ _ |>.mpr ⟨hplus, hoctets⟩).imp fun part b h => h.2.digitPair h.1
    rcases hsep with ⟨rfl, hcolon⟩ | ⟨rfl, hno, hdash⟩
    · refine ⟨':', '-', .inl ⟨rfl, rfl⟩, hcolon, ?_, hpairs⟩
      intro hdash
      obtain ⟨part, hpart, hmem⟩ := exists_mem_splitOn hdash (by decide : '-' ≠ ':')
      obtain ⟨b, hpair⟩ := exists_of_forall₂ hpairs hpart
      exact not_mem_of_digitPair hpair hmem
    · exact ⟨'-', ':', .inr ⟨rfl, rfl⟩, hdash, hno, hpairs⟩

/-- A plus sign is taken for a zero: the text is read as the address `01:02:03:04:05:06`, which
it does not denote. -/
theorem plus_for_zero : fromStr "+1:02:03:04:05:06" = .ok ⟨#v[1, 2, 3, 4, 5, 6]⟩ ∧
    ¬ ∀ a, fromStr "+1:02:03:04:05:06" = .ok a → Denotes "+1:02:03:04:05:06" a := by
  have hok : fromStr "+1:02:03:04:05:06" = .ok ⟨#v[1, 2, 3, 4, 5, 6]⟩ := by decide
  refine ⟨hok, ?_⟩
  intro h
  obtain ⟨sep, ⟨rfl, -⟩ | ⟨rfl, hno, -⟩, hpairs⟩ := (h _ hok).separates
  · obtain ⟨b, hpair⟩ := exists_of_forall₂ (a := ['+', '1']) hpairs (by decide)
    exact not_digitPair_of_plus (d := '1') (by decide) hpair
  · exact hno (by decide)

/-! ### Spellings -/

/-- An octet in two digits, of either letter case, with white space around them. The fields say
that the characters are such, so that every group is taken for an octet. -/
structure Group where
  before : List Char
  high : Char
  low : Char
  after : List Char
  blank_before : ∀ c ∈ before, isWhitespace c = true
  blank_after : ∀ c ∈ after, isWhitespace c = true
  isHexDigit_high : IsHexDigit high
  isHexDigit_low : IsHexDigit low

/-- The characters of the group. -/
def Group.text (g : Group) : List Char := g.before ++ [g.high, g.low] ++ g.after

/-- Six groups, joined by colons or by dashes. These are the texts that an address may be written
as. -/
structure Spelling where
  separator : Char
  groups : Vector Group 6
  separates : separator = ':' ∨ separator = '-'

/-- The text of the spelling, which `from_str` is called with. -/
def Spelling.text (sp : Spelling) : String :=
  String.ofList ([sp.separator].intercalate (sp.groups.toList.map Group.text))

/-- The digit pairs of the spelling, regardless of letter case. -/
def Spelling.pairs (sp : Spelling) : List (Char × Char) :=
  sp.groups.toList.map fun g => (g.high.toUpper, g.low.toUpper)

/-- The digits of the octets in upper case, as `Display` prints them. -/
def pairs (a : BdAddr) : List (Char × Char) :=
  a.octets.toList.map fun b => (hexDigit (b.toNat / 16), hexDigit (b.toNat % 16))

theorem digit_hexDigit : ∀ n < 16, digit 16 (hexDigit n) = some n := by decide

theorem toUpper_eq_hexDigit {c : Char} (h : IsHexDigit c) :
    ∀ n < 16, digit 16 c = some n → c.toUpper = hexDigit n :=
  h.induction (P := fun c => ∀ n < 16, digit 16 c = some n → c.toUpper = hexDigit n) (by decide)

theorem isHexDigit_hexDigit : ∀ n < 16, IsHexDigit (hexDigit n) := by decide

theorem toUpper_hexDigit : ∀ n < 16, (hexDigit n).toUpper = hexDigit n := by decide

/-- Two digits write an octet if they are its digits, regardless of letter case. -/
theorem spells_pair_iff {c d : Char} (hc : IsHexDigit c) (hd : IsHexDigit d) :
    Spells [c, d] [b] ↔
      (c.toUpper, d.toUpper) = (hexDigit (b.toNat / 16), hexDigit (b.toNat % 16)) := by
  have hb := b.toNat_lt
  rw [Prod.mk.injEq]
  constructor
  -- A byte written by two digits has them as its quotient and its remainder by 16.
  · rintro (_ | ⟨hhigh, hlow, hbyte, -⟩)
    have hlt := digit_lt hhigh
    have hlt' := digit_lt hlow
    refine ⟨toUpper_eq_hexDigit hc _ (by omega) ?_, toUpper_eq_hexDigit hd _ (by omega) ?_⟩
    · rw [hhigh]
      congr 1
      omega
    · rw [hlow]
      congr 1
      omega
  · rintro ⟨hhigh, hlow⟩
    have hc' : digit 16 c = some (b.toNat / 16) := by
      rw [← digit_toUpper, hhigh, digit_hexDigit _ (by omega)]
    have hd' : digit 16 d = some (b.toNat % 16) := by
      rw [← digit_toUpper, hlow, digit_hexDigit _ (by omega)]
    exact .cons hc' hd' (by omega) .nil

theorem Group.trim_text (g : Group) : trim g.text = [g.high, g.low] := by
  apply trim_append g.blank_before g.blank_after
  intro c hc
  rcases List.mem_pair.mp hc with rfl | rfl
  · exact g.isHexDigit_high.not_whitespace
  · exact g.isHexDigit_low.not_whitespace

/-- A group is taken for the octet that its digits write, and for no other one. -/
theorem octet_group_iff (g : Group) : Octet g.text b ↔
    (g.high.toUpper, g.low.toUpper) = (hexDigit (b.toNat / 16), hexDigit (b.toNat % 16)) := by
  have htrim := g.trim_text
  rw [← spells_pair_iff g.isHexDigit_high g.isHexDigit_low]
  constructor
  · intro h
    -- A group starts with a digit, and so not with a sign.
    have hplus : ∀ d, trim g.text ≠ ['+', d] := by
      intro d hd
      have hhigh : g.high = '+' := by simpa using congrArg List.head? (htrim.symm.trans hd)
      exact not_isHexDigit_plus (hhigh ▸ g.isHexDigit_high)
    obtain ⟨c, d, htrim', hspells⟩ := h.digitPair hplus
    rwa [htrim.symm.trans htrim']
  · rintro (_ | ⟨hhigh, hlow, hbyte, -⟩)
    exact ⟨_, _, htrim, parseU8_pair_eq_ok.mpr (.inr ⟨_, _, hhigh, hlow, hbyte⟩)⟩

/-- A group has white space and digits alone, so that nothing in it is taken for a separator. -/
theorem Group.not_mem_text (g : Group) {c : Char} (hspace : isWhitespace c ≠ true)
    (hdigit : ¬ IsHexDigit c) : c ∉ g.text := by
  intro hmem
  rw [Group.text, List.mem_append, List.mem_append, List.mem_pair] at hmem
  rcases hmem with (hmem | rfl | rfl) | hmem
  · exact hspace (g.blank_before c hmem)
  · exact hdigit g.isHexDigit_high
  · exact hdigit g.isHexDigit_low
  · exact hspace (g.blank_after c hmem)

theorem Group.separator_not_mem (g : Group) {c : Char} (hc : c = ':' ∨ c = '-') : c ∉ g.text := by
  rcases hc with rfl | rfl
  · exact g.not_mem_text (by decide) (by decide)
  · exact g.not_mem_text (by decide) (by decide)

namespace Spelling

variable (sp : Spelling)

theorem toList_text :
    sp.text.toList = [sp.separator].intercalate (sp.groups.toList.map Group.text) :=
  String.toList_ofList

/-- The only separators in the text are those between the groups. -/
theorem mem_text {c : Char} (hc : c = ':' ∨ c = '-') : c ∈ sp.text.toList ↔ c = sp.separator := by
  rw [toList_text]
  constructor
  · intro hmem
    obtain h | ⟨part, hpart, hmem⟩ := mem_intercalate hmem
    · exact h
    · obtain ⟨g, -, rfl⟩ := List.mem_map.mp hpart
      exact absurd hmem (g.separator_not_mem hc)
  · rintro rfl
    apply mem_intercalate_self
    simp

theorem splitOn_text :
    sp.text.toList.splitOn sp.separator = sp.groups.toList.map Group.text := by
  rw [toList_text, List.splitOn_intercalate]
  · intro part hpart
    obtain ⟨g, -, rfl⟩ := List.mem_map.mp hpart
    exact g.separator_not_mem sp.separates
  · simp

theorem separates_text {sep : Char} : Separates sp.text sep ↔ sep = sp.separator := by
  rw [Separates, sp.mem_text (.inl rfl), sp.mem_text (.inr rfl)]
  rcases sp.separates with h | h <;> rw [h] <;> simp

/-- **A spelling is read as the address that has its digits**, whatever their letter case, the
separators and the white space. -/
theorem fromStr_text : fromStr sp.text = .ok a ↔ sp.pairs = a.pairs := by
  simp only [fromStr_eq_ok, separates_text, exists_eq_left, splitOn_text]
  rw [List.forall₂_map_left_iff, pairs, BdAddr.pairs, ← List.forall₂_eq_eq_eq,
    List.forall₂_map_left_iff, List.forall₂_map_right_iff]
  simp only [octet_group_iff]

end Spelling

/-- The digits of a group are read as some octet. -/
theorem Group.loosePair (g : Group) : LoosePair g.text := by
  refine ⟨g.high, g.low, ?_, .inr g.isHexDigit_high, g.isHexDigit_low⟩
  exact g.trim_text

/-- The digits of a spelling are those of some address, since each pair is below 256. -/
theorem exists_pairs (sp : Spelling) : ∃ a : BdAddr, sp.pairs = a.pairs := by
  have hloose : ∀ part ∈ sp.groups.toList.map Group.text, LoosePair part := by
    intro part hpart
    obtain ⟨g, -, rfl⟩ := List.mem_map.mp hpart
    exact g.loosePair
  obtain ⟨bytes, hbytes⟩ := exists_octets hloose
  have hsize : bytes.toArray.size = 6 := hbytes.length_eq.symm.trans (by simp)
  refine ⟨⟨⟨bytes.toArray, hsize⟩⟩, sp.fromStr_text.mp (fromStr_eq_ok.mpr ?_)⟩
  refine ⟨sp.separator, sp.separates_text.mpr rfl, ?_⟩
  rw [sp.splitOn_text]
  exact hbytes

/-! ### The canonical spelling -/

/-- The digits of an octet as `Display` prints them, with nothing around them. -/
def group (b : UInt8) : Group where
  before := []
  high := hexDigit (b.toNat / 16)
  low := hexDigit (b.toNat % 16)
  after := []
  blank_before := nofun
  blank_after := nofun
  isHexDigit_high := isHexDigit_hexDigit _ (by have := b.toNat_lt; omega)
  isHexDigit_low := isHexDigit_hexDigit _ (by omega)

/-- The spelling that `Display` prints. -/
def spelling (a : BdAddr) : Spelling where
  separator := ':'
  groups := a.octets.map group
  separates := .inl rfl

theorem text_spelling (a : BdAddr) : a.spelling.text = a.display := by
  obtain ⟨⟨⟨octets⟩, hsize⟩⟩ := a
  match octets, hsize with
  | [o₀, o₁, o₂, o₃, o₄, o₅], _ =>
    apply String.toList_inj.mp
    rw [Spelling.toList_text]
    simp [spelling, display, toList_hex2, Group.text, group]

theorem pairs_spelling (a : BdAddr) : a.spelling.pairs = a.pairs := by
  rw [Spelling.pairs, spelling, Vector.toList_map, List.map_map, pairs]
  apply List.map_congr_left
  intro b _
  have hb := b.toNat_lt
  exact Prod.ext (toUpper_hexDigit _ (by omega)) (toUpper_hexDigit _ (by omega))

/-- What `Display` prints is read back. It is a spelling with the digits of the address. -/
theorem fromStr_display (a : BdAddr) : fromStr a.display = .ok a :=
  text_spelling a ▸ a.spelling.fromStr_text.mpr (pairs_spelling a)

/-- **Address text round-trips.** What `Display` prints is read back, so that addresses print
differently. A spelling of six digit pairs is read as the address that prints them, whatever their
letter case, the separators and the white space; and two spellings are read as one address if and
only if their digit pairs agree but for letter case. -/
theorem text_roundTrip :
    (∀ a, fromStr a.display = .ok a) ∧ Function.Injective display ∧
      (∀ (sp : Spelling) (a : BdAddr), fromStr sp.text = .ok a ↔ sp.pairs = a.pairs) ∧
      ∀ sp sp' : Spelling,
        (∃ a, fromStr sp.text = .ok a ∧ fromStr sp'.text = .ok a) ↔ sp.pairs = sp'.pairs := by
  refine ⟨fromStr_display, ?_, fun sp a => sp.fromStr_text, ?_⟩
  -- Both addresses are read from the one text.
  · intro a b h
    have hb := fromStr_display b
    rw [← h, fromStr_display] at hb
    exact Except.ok.inj hb
  · intro sp sp'
    simp only [Spelling.fromStr_text]
    constructor
    · rintro ⟨a, h, h'⟩
      exact h.trans h'.symm
    -- Some address has the digits of both.
    · intro h
      obtain ⟨a, ha⟩ := exists_pairs sp
      exact ⟨a, ha, h ▸ ha⟩

end BdAddr

/-- `from_str`: the address is taken for a public one. -/
def DeviceId.fromStr (s : String) : Except CoreError DeviceId := (BdAddr.fromStr s).map .pub

end Pax
