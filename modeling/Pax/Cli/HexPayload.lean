import Pax.Core.UuidText

/-!
# Payloads in hexadecimal

`parse_hex` of `pax-cli/src/main.rs`. White space and colons are left out; the rest must have an
even number of bytes, and is sliced into pairs of them. As for UUIDs a slice can end inside a
character, and a plus sign passes for a digit: `exact_iff` says when neither happens.

What the command should read is stated without slices: the text is digits in pairs (`DigitPairs`),
and its bytes are those of the pairs (`Renders`). The slices are those of `Pax.Framework.HexPairs`,
which it shares with the UUIDs.
-/

namespace Pax
namespace Cli

open Text
open String (utf8Len)

/-- The text without its white space and colons, which is what is read. -/
def payload (s : String) : List Char := s.toList.filter fun c => !isWhitespace c && c ≠ ':'

/-- `parse_hex`, with the outermost message of its errors. `none` is a panic: a slice that ends
inside a character. -/
def parseHex (s : String) : Option (Except String (List UInt8)) :=
  if utf8Len (payload s) % 2 = 0 then
    (hexPairs (payload s) 0 (utf8Len (payload s) / 2)).map fun r =>
      r.mapError fun _ => "invalid hex"
  else some (.error "hex payload must have an even number of digits")

variable {s : String} {bytes : List UInt8}

/-- The text is two digits for each byte, of either letter case, with white space and colons
anywhere. -/
def Renders (s : String) (bytes : List UInt8) : Prop :=
  (payload s).map Char.toLower = hexBytes bytes

/-- The characters are hexadecimal digits, and there is an even number of them. -/
def DigitPairs (cs : List Char) : Prop := cs.length % 2 = 0 ∧ ∀ c ∈ cs, IsHexDigit c

/-- **The text is parsed exactly**: without a panic, to the bytes that it renders, and to an error
if it is no pairs of digits. -/
def Exact (s : String) : Prop :=
  (∃ r, parseHex s = some r) ∧ (∀ bytes, Renders s bytes → parseHex s = some (.ok bytes)) ∧
    (¬ DigitPairs (payload s) → ∃ e, parseHex s = some (.error e))

theorem parseHex_of_even (h : utf8Len (payload s) % 2 = 0) : parseHex s =
    (pairsFrom (utf8Len (payload s) / 2) (payload s)).map fun r =>
      r.mapError fun _ => "invalid hex" := by
  rw [parseHex, if_pos h, hexPairs_eq_pairsFrom]

theorem parseHex_eq_none :
    parseHex s = none ↔ utf8Len (payload s) % 2 = 0 ∧ Straddled (payload s) := by
  by_cases h : utf8Len (payload s) % 2 = 0
  · rw [parseHex_of_even h, Option.map_eq_none_iff, pairsFrom_eq_none (by omega), and_iff_right h]
  · rw [parseHex, if_neg h]
    exact iff_of_false nofun fun hboth => h hboth.1

/-- What is read in pairs has one byte for each character, and so an even number of bytes. -/
theorem utf8Len_of_loose {cs : List Char} (h : Loose cs) : utf8Len cs % 2 = 0 := by
  induction h with
  | nil => rfl
  | cons c d cs hc hd _ ih =>
    rw [String.utf8Len_cons, String.utf8Len_cons, utf8Size_plus_or_digit hc, hd.utf8Size]
    omega

theorem exists_parseHex_ok : (∃ bytes, parseHex s = some (.ok bytes)) ↔ Loose (payload s) := by
  -- An odd number of bytes is refused, and an even one is cut into pairs.
  by_cases h : utf8Len (payload s) % 2 = 0
  · have hlen : utf8Len (payload s) = utf8Len (payload s) / 2 * 2 := by omega
    rw [parseHex_of_even h, ← exists_pairsFrom_ok hlen]
    cases pairsFrom (utf8Len (payload s) / 2) (payload s) with
    | none => exact iff_of_false nofun nofun
    | some r =>
      cases r with
      | error e => exact iff_of_false nofun nofun
      | ok bytes => exact iff_of_true ⟨bytes, rfl⟩ ⟨bytes, rfl⟩
  · rw [parseHex, if_neg h]
    exact iff_of_false nofun fun hloose => h (utf8Len_of_loose hloose)

/-- A text that renders bytes is read as these. -/
theorem Renders.parseHex (h : Renders s bytes) : parseHex s = some (.ok bytes) := by
  have hspells := spells_of_toLower h
  have hlen := hspells.utf8Len
  rw [parseHex_of_even (by omega), hlen, Nat.mul_div_cancel _ (by norm_num), hspells.pairsFrom]
  rfl

/-- **When a text is parsed exactly**: unless it comes to a pair that ends inside a character, with
none before it that is refused, or all its pairs are read, one of them with a plus sign. -/
theorem exact_iff (s : String) : Exact s ↔
    ¬ (utf8Len (payload s) % 2 = 0 ∧ Straddled (payload s) ∨
      Loose (payload s) ∧ '+' ∈ payload s) := by
  rw [not_or, ← parseHex_eq_none, ← ne_eq, Option.ne_none_iff_exists']
  constructor
  · rintro ⟨hsome, -, herror⟩
    refine ⟨hsome, ?_⟩
    rintro ⟨hloose, hplus⟩
    obtain ⟨bytes, hok⟩ := exists_parseHex_ok.mpr hloose
    have hdigits : ¬ DigitPairs (payload s) := fun h => (loose_and_not_mem_iff.mpr h).2 hplus
    obtain ⟨e, he⟩ := herror hdigits
    rw [hok] at he
    cases he
  · rintro ⟨⟨r, hr⟩, hplus⟩
    refine ⟨⟨r, hr⟩, fun bytes h => h.parseHex, ?_⟩
    intro hdigits
    cases r with
    | error e => exact ⟨e, hr⟩
    | ok bytes =>
      have hloose := exists_parseHex_ok.mp ⟨bytes, hr⟩
      exact absurd (loose_and_not_mem_iff.mp ⟨hloose, fun h => hplus ⟨hloose, h⟩⟩) hdigits

/-- A slice that ends inside a character, and a plus sign that is taken for a digit. -/
theorem panic_and_sign : parseHex "€0" = none ∧ parseHex "+1" = some (.ok [1]) ∧
    ¬ ∀ s, Exact s := by
  have hsign : parseHex "+1" = some (.ok [1]) := by decide
  refine ⟨by decide, hsign, fun h => ?_⟩
  have hdigits : ¬ DigitPairs (payload "+1") := fun hd => absurd (hd.2 '+' (by decide)) (by decide)
  obtain ⟨e, he⟩ := (h "+1").2.2 hdigits
  rw [hsign] at he
  cases he

end Cli
end Pax
