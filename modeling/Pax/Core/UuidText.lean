import Pax.Core.Device
import Pax.Framework.HexPairs

/-!
# UUIDs as text

`Uuid` of `pax-core/src/uuid.rs`, which is the key of the GATT tables, and its texts: what `Display`
prints, and what `Uuid::from_str` reads. Without its hyphens a UUID is 32 digits, or 4 or 8 that are
expanded into the Base UUID.

* The lengths are counted in bytes and the 32 are sliced by bytes, so that a slice can end inside a
  character, which is a panic. `fromStr_eq_some_iff` says of which texts, and
  `slice_inside_character` is one.
* What `Display` prints is read back, and so are the bare and the short forms, in any letter case
  (`forms_roundTrip`). All of these are found from one fact: the text without its hyphens has, in
  lower case, the digits of the UUID (`fromStr_of_toLower`).

Which other texts are accepted is the subject of `Pax.Core.UuidForms`.
-/

namespace Pax

/-- A 128-bit UUID, its bytes in the order they print in. -/
structure Uuid where
  bytes : Vector UInt8 16
  deriving DecidableEq, Repr

/-- The lower-case hexadecimal digit of a value below 16, as `{:x}` prints it. -/
def lowerHexDigit (n : ℕ) : Char :=
  if n < 10 then Char.ofNat ('0'.toNat + n) else Char.ofNat ('a'.toNat + (n - 10))

/-- `{:02x}` of one byte: two digits in lower case. -/
def lowerHex2 (b : UInt8) : String :=
  String.ofList [lowerHexDigit (b.toNat / 16), lowerHexDigit (b.toNat % 16)]

/-- `Display`: five groups of digits joined by hyphens. -/
def Uuid.display (u : Uuid) : String :=
  let group (bytes : List UInt8) : String := String.join (bytes.map lowerHex2)
  let b := u.bytes.toList
  group (b.take 4) ++ "-" ++ group ((b.drop 4).take 2) ++ "-" ++ group ((b.drop 6).take 2) ++ "-"
    ++ group ((b.drop 8).take 2) ++ "-" ++ group (b.drop 10)

open Text
open String (utf8Len utf8Len_cons)

/-! ### Digits of a number -/

/-- `{:x}` of a number, with zeros to the width. Digits beyond the width are cut off. -/
def hexForm : (width n : ℕ) → List Char
  | 0, _ => []
  | width + 1, n => hexForm width (n / 16) ++ [lowerHexDigit (n % 16)]

/-- `{:02x}` of each byte, one after the other. -/
def hexBytes (bytes : List UInt8) : List Char := bytes.flatMap fun b => (lowerHex2 b).toList

variable {cs : List Char} {s : String}

theorem digit_lowerHexDigit : ∀ n < 16, digit 16 (lowerHexDigit n) = some n := by decide

theorem toList_lowerHex2 (b : UInt8) :
    (lowerHex2 b).toList = [lowerHexDigit (b.toNat / 16), lowerHexDigit (b.toNat % 16)] :=
  String.toList_ofList

@[simp] theorem hexBytes_nil : hexBytes [] = [] := rfl

@[simp] theorem hexBytes_cons (b : UInt8) (bytes : List UInt8) : hexBytes (b :: bytes)
    = lowerHexDigit (b.toNat / 16) :: lowerHexDigit (b.toNat % 16) :: hexBytes bytes := by
  rw [hexBytes, List.flatMap_cons, toList_lowerHex2]
  rfl

theorem hexBytes_append (bytes bytes' : List UInt8) :
    hexBytes (bytes ++ bytes') = hexBytes bytes ++ hexBytes bytes' :=
  List.flatMap_append

/-- The last two digits of a number are those of its last byte, and the digits before them those
of the rest. -/
theorem hexForm_add_two (width n : ℕ) :
    hexForm (width + 2) n = hexForm width (n / 256) ++ hexBytes [UInt8.ofNat n] := by
  have hhigh : (UInt8.ofNat n).toNat / 16 = n / 16 % 16 := by
    rw [UInt8.toNat_ofNat']
    omega
  have hlow : (UInt8.ofNat n).toNat % 16 = n % 16 := by
    rw [UInt8.toNat_ofNat']
    omega
  rw [hexForm, hexForm, Nat.div_div_eq_div_mul, List.append_assoc, hexBytes_cons, hexBytes_nil,
    hhigh, hlow]
  rfl

/-- A character that is a digit in lower case is this digit in some letter case. -/
theorem digit_of_toLower {c : Char} {n : ℕ} (hn : n < 16) (h : c.toLower = lowerHexDigit n) :
    digit 16 c = some n := by
  rw [← digit_toLower, h, digit_lowerHexDigit n hn]

/-- The digits of some bytes write these bytes in either letter case. -/
theorem spells_of_toLower {bytes : List UInt8} (h : cs.map Char.toLower = hexBytes bytes) :
    Spells cs bytes := by
  induction bytes generalizing cs with
  | nil =>
    rw [List.map_eq_nil_iff.mp h]
    exact .nil
  | cons b bytes ih =>
    rw [hexBytes_cons] at h
    obtain ⟨c, cs', rfl, hc, h⟩ := List.map_eq_cons_iff.mp h
    obtain ⟨d, cs', rfl, hd, h⟩ := List.map_eq_cons_iff.mp h
    have hb := b.toNat_lt
    have hbyte : b.toNat = b.toNat / 16 * 16 + b.toNat % 16 := by omega
    exact .cons (digit_of_toLower (by omega) hc) (digit_of_toLower (by omega) hd) hbyte (ih h)

/-- The digits of a number write this number in either letter case. -/
theorem digits_of_toLower {width n : ℕ} (h : cs.map Char.toLower = hexForm width n)
    (hn : n < 16 ^ width) : ∃ digits, Digits 16 cs digits ∧ digits.length = width ∧
      ofDigits 16 0 digits = n := by
  induction width generalizing cs n with
  | zero =>
    rw [List.map_eq_nil_iff.mp h]
    exact ⟨[], .nil, rfl, by rw [pow_zero] at hn; simp only [ofDigits, List.foldl_nil]; omega⟩
  -- The last digit is the remainder by 16, and those before it are the digits of the quotient.
  | succ width ih =>
    obtain ⟨front, last, rfl, hfront, hlast⟩ := List.map_eq_append_iff.mp h
    obtain ⟨c, rest, rfl, hc, hrest⟩ := List.map_eq_cons_iff.mp hlast
    rw [List.map_eq_nil_iff.mp hrest]
    have hquot : n / 16 < 16 ^ width := by
      rw [pow_succ] at hn
      exact Nat.div_lt_of_lt_mul (mul_comm _ 16 ▸ hn)
    obtain ⟨digits, hdigits, hlength, hvalue⟩ := ih hfront hquot
    have hdigit := digit_of_toLower (Nat.mod_lt n (by norm_num)) hc
    refine ⟨digits ++ [n % 16], List.rel_append hdigits (.cons hdigit .nil), ?_, ?_⟩
    · rw [List.length_append, hlength, List.length_singleton]
    · rw [ofDigits_concat, hvalue]
      exact Nat.div_add_mod' n 16

theorem utf8Len_of_digits {digits : List ℕ} (h : Digits 16 cs digits) :
    utf8Len cs = digits.length := by
  induction h with
  | nil => rfl
  | cons hc _ ih =>
    have hdigit := isSome_digit_iff.mp (Option.isSome_of_eq_some hc)
    rw [utf8Len_cons, ih, hdigit.utf8Size, List.length_cons]

/-- The digits of a number are as many bytes, and the parser of numbers reads them as the number. -/
theorem parse_of_toLower {width n : ℕ} (h : cs.map Char.toLower = hexForm width n)
    (hwidth : 0 < width) (hn : n < 16 ^ width) :
    utf8Len cs = width ∧ parseUnsigned 16 (16 ^ width) cs = .ok n := by
  obtain ⟨digits, hdigits, hlength, hvalue⟩ := digits_of_toLower h hn
  refine ⟨hlength ▸ utf8Len_of_digits hdigits, ?_⟩
  rw [parseUnsigned_eq_ok (by norm_num) (by omega)]
  refine ⟨hn, cs, digits, .inl rfl, ?_, hdigits, hvalue⟩
  rintro rfl
  cases hdigits
  simp only [List.length_nil] at hlength
  omega

namespace Uuid

/-! ### Parsing -/

/-- The Bluetooth Base UUID, into which short UUIDs expand. -/
def base : Vector UInt8 16 := #v[0x00, 0x00, 0x00, 0x00, 0x00, 0x00, 0x10, 0x00,
  0x80, 0x00, 0x00, 0x80, 0x5F, 0x9B, 0x34, 0xFB]

/-- `from_u32`: the value takes the place of the first four bytes of the Base UUID. -/
def fromU32 (short : UInt32) : Uuid where
  bytes := (((base.set 0 (short >>> 24).toUInt8).set 1 (short >>> 16).toUInt8).set 2
    (short >>> 8).toUInt8).set 3 short.toUInt8

/-- `from_u16`: the value as one of 32 bits. -/
def fromU16 (short : UInt16) : Uuid := fromU32 short.toUInt32

/-- The text without its hyphens, wherever they stand in it. -/
def stripped (s : String) : List Char := s.toList.filter (· ≠ '-')

/-- `from_str`. `none` is a panic: a slice that ends inside a character. -/
def fromStr (s : String) : Option (Except CoreError Uuid) :=
  let bad := CoreError.invalid "UUID" ("cannot parse `" ++ s ++ "`")
  if utf8Len (stripped s) = 4 then
    some (match parseUnsigned 16 (2 ^ 16) (stripped s) with
      | .ok n => .ok (fromU16 (.ofNat n))
      | .error _ => .error bad)
  else if utf8Len (stripped s) = 8 then
    some (match parseUnsigned 16 (2 ^ 32) (stripped s) with
      | .ok n => .ok (fromU32 (.ofNat n))
      | .error _ => .error bad)
  else if utf8Len (stripped s) = 32 then
    (hexPairs (stripped s) 0 16).map fun
      -- the loop has written all sixteen
      | .ok bytes => .ok ⟨.ofFn fun i => bytes.getD i 0⟩
      | .error _ => .error bad
  else some (.error bad)

/-- **When a text is parsed without a panic**: always, unless it has 32 bytes without its hyphens
and, read in pairs from the left, comes to a pair that ends inside a character before it comes to
one that is refused. -/
theorem fromStr_eq_some_iff (s : String) : (∃ r, fromStr s = some r) ↔
    ¬ (utf8Len (stripped s) = 32 ∧ Straddled (stripped s)) := by
  rw [fromStr]
  split_ifs with h4 h8 h32
  · exact iff_of_true ⟨_, rfl⟩ fun h => absurd (h4.symm.trans h.1) (by norm_num)
  · exact iff_of_true ⟨_, rfl⟩ fun h => absurd (h8.symm.trans h.1) (by norm_num)
  · have hpairs : pairsFrom 16 (stripped s) = none ↔ Straddled (stripped s) := pairsFrom_eq_none h32
    rw [hexPairs_eq_pairsFrom, ← hpairs, and_iff_right h32]
    cases pairsFrom 16 (stripped s) with
    | none => exact iff_of_false nofun (not_not.mpr rfl)
    | some r => exact iff_of_true ⟨_, rfl⟩ nofun
  · exact iff_of_true ⟨_, rfl⟩ fun h => h32 h.1

/-- A character of three bytes at the start, and 29 zeros: the text has 32 bytes, and the first
slice of two ends inside the character. -/
theorem slice_inside_character : fromStr "€00000000000000000000000000000" = none ∧
    ¬ ∀ s, ∃ r, fromStr s = some r := by
  have hnone : fromStr "€00000000000000000000000000000" = none := by decide
  refine ⟨hnone, fun h => ?_⟩
  obtain ⟨r, hr⟩ := h "€00000000000000000000000000000"
  rw [hnone] at hr
  cases hr

/-! ### Forms -/

/-- The text with the characters at some positions in upper case. It stands for any choice of
letter case. -/
def recase (upper : ℕ → Bool) (cs : List Char) : String :=
  String.ofList (cs.mapIdx fun i c => if upper i then c.toUpper else c)

/-- The digits of a UUID without hyphens. -/
def bare (u : Uuid) : List Char := hexBytes u.bytes.toList

/-- A 32-bit value in full: its digits in the place that they have in the Base UUID. -/
def full (n : ℕ) : List Char := hexForm 8 n ++ "-0000-1000-8000-00805f9b34fb".toList

theorem toLower_toUpper (c : Char) : c.toUpper.toLower = c.toLower := by
  by_cases hc : c.toNat < 128
  · exact ascii_induction (P := fun c => c.toUpper.toLower = c.toLower) (by decide) hc
  · rw [toUpper_of_le (by omega)]

theorem toLower_eq_hyphen {c : Char} : c.toLower = '-' ↔ c = '-' := by
  by_cases hc : c.toNat < 128
  · exact ascii_induction (P := fun c => c.toLower = '-' ↔ c = '-') (by decide) hc
  · rw [toLower_of_le (by omega)]

/-- Digits as they are printed: in lower case, and no hyphens. -/
def Printed (cs : List Char) : Prop := ∀ c ∈ cs, ∃ n < 16, c = lowerHexDigit n

theorem printed_hexBytes (bytes : List UInt8) : Printed (hexBytes bytes) := by
  induction bytes with
  | nil => exact nofun
  | cons b bytes ih =>
    have hb := b.toNat_lt
    rw [hexBytes_cons]
    intro c hc
    rcases List.mem_cons.mp hc with rfl | hc
    · exact ⟨_, by omega, rfl⟩
    · rcases List.mem_cons.mp hc with rfl | hc
      · exact ⟨_, by omega, rfl⟩
      · exact ih c hc

theorem printed_hexForm (width n : ℕ) : Printed (hexForm width n) := by
  induction width generalizing n with
  | zero => exact nofun
  | succ width ih =>
    intro c hc
    rcases List.mem_append.mp hc with hc | hc
    · exact ih _ c hc
    · exact ⟨n % 16, Nat.mod_lt n (by norm_num), List.mem_singleton.mp hc⟩

theorem Printed.toLower (h : Printed cs) : cs.map Char.toLower = cs := by
  have hdigit : ∀ n < 16, (lowerHexDigit n).toLower = lowerHexDigit n := by decide
  rw [← List.map_id cs, List.map_map]
  refine List.map_congr_left fun c hc => ?_
  obtain ⟨n, hn, rfl⟩ := h c hc
  exact hdigit n hn

theorem Printed.filter (h : Printed cs) : cs.filter (· ≠ '-') = cs := by
  have hdigit : ∀ n < 16, lowerHexDigit n ≠ '-' := by decide
  apply List.filter_eq_self.mpr
  intro c hc
  obtain ⟨n, hn, rfl⟩ := h c hc
  exact decide_eq_true (hdigit n hn)

/-- The letter case does not change which characters are hyphens. -/
theorem toLower_stripped (upper : ℕ → Bool) (cs : List Char) :
    (stripped (recase upper cs)).map Char.toLower = (cs.filter (· ≠ '-')).map Char.toLower := by
  have hcase : (recase upper cs).toList.map Char.toLower = cs.map Char.toLower := by
    rw [recase, String.toList_ofList]
    apply List.ext_getElem
    · simp
    · intro i hi hi'
      simp only [List.getElem_map, List.getElem_mapIdx]
      split_ifs
      · exact toLower_toUpper _
      · rfl
  -- A character is a hyphen if it is one in lower case.
  have hhyphen : (fun c : Char => decide (c ≠ '-')) ∘ Char.toLower = fun c => decide (c ≠ '-') := by
    funext c
    simp [toLower_eq_hyphen]
  have hfilter (cs : List Char) :
      (cs.filter (· ≠ '-')).map Char.toLower = (cs.map Char.toLower).filter (· ≠ '-') := by
    rw [List.filter_map, hhyphen]
  rw [stripped, hfilter, hfilter, hcase]

theorem toList_display (u : Uuid) : u.display.toList =
    hexBytes (u.bytes.toList.take 4) ++ '-' :: (hexBytes ((u.bytes.toList.drop 4).take 2) ++ '-' ::
      (hexBytes ((u.bytes.toList.drop 6).take 2) ++ '-' ::
        (hexBytes ((u.bytes.toList.drop 8).take 2) ++ '-' ::
          hexBytes (u.bytes.toList.drop 10)))) := by
  have hgroup (bytes : List UInt8) :
      (String.join (bytes.map lowerHex2)).toList = hexBytes bytes := by
    rw [String.toList_join, List.flatMap_map]
    rfl
  simp only [display, String.toList_append, hgroup, List.append_assoc]
  rfl

/-- Without the hyphens, what `Display` prints is the digits in order. -/
theorem filter_display (u : Uuid) : u.display.toList.filter (· ≠ '-') = u.bare := by
  have hhyphen (cs : List Char) : ('-' :: cs).filter (· ≠ '-') = cs.filter (· ≠ '-') :=
    List.filter_cons_of_neg (by decide)
  have htake (n m : ℕ) : hexBytes ((u.bytes.toList.drop n).take m)
      ++ hexBytes (u.bytes.toList.drop (n + m)) = hexBytes (u.bytes.toList.drop n) := by
    rw [← hexBytes_append, ← List.drop_drop, List.take_append_drop]
  rw [toList_display]
  simp only [List.filter_append, hhyphen, (printed_hexBytes _).filter]
  rw [htake 8 2, htake 6 2, htake 4 2, ← hexBytes_append, List.take_append_drop, bare]

/-- A text with the digits of sixteen bytes is read as these bytes. -/
theorem fromStr_of_toLower {u : Uuid} (h : (stripped s).map Char.toLower = u.bare) :
    fromStr s = some (.ok u) := by
  have hspells := spells_of_toLower h
  have hsize : u.bytes.toList.length = 16 := by simp
  have hlen : utf8Len (stripped s) = 32 := by rw [hspells.utf8Len, hsize]
  have hread := hspells.pairsFrom
  rw [hsize] at hread
  rw [fromStr, if_neg (by omega), if_neg (by omega), if_pos hlen, hexPairs_eq_pairsFrom, hread,
    Option.map_some]
  refine congrArg (some ∘ Except.ok ∘ Uuid.mk) (Vector.ext fun i hi => ?_)
  simp

/-- What `Display` prints is read back, in any letter case. -/
theorem fromStr_display (u : Uuid) (upper : ℕ → Bool) :
    fromStr (recase upper u.display.toList) = some (.ok u) := by
  apply fromStr_of_toLower
  rw [toLower_stripped, filter_display]
  exact (printed_hexBytes _).toLower

/-- The digits alone are read back, in any letter case. -/
theorem fromStr_bare (u : Uuid) (upper : ℕ → Bool) :
    fromStr (recase upper u.bare) = some (.ok u) := by
  apply fromStr_of_toLower
  rw [toLower_stripped, bare, (printed_hexBytes _).filter]
  exact (printed_hexBytes _).toLower

/-! ### Short forms -/

/-- The digits of a number, without the hyphens that they do not have. -/
theorem toLower_hexForm (width n : ℕ) (upper : ℕ → Bool) :
    (stripped (recase upper (hexForm width n))).map Char.toLower = hexForm width n := by
  rw [toLower_stripped, (printed_hexForm width n).filter]
  exact (printed_hexForm width n).toLower

theorem fromStr_hexForm_four (n : UInt16) (upper : ℕ → Bool) :
    fromStr (recase upper (hexForm 4 n.toNat)) = some (.ok (fromU16 n)) := by
  obtain ⟨hlen, hread⟩ := parse_of_toLower (toLower_hexForm 4 n.toNat upper) (by norm_num)
    n.toNat_lt
  rw [fromStr, if_pos hlen]
  simp only [show 2 ^ 16 = 16 ^ 4 from rfl, hread, UInt16.ofNat_toNat]

theorem fromStr_hexForm_eight (n : UInt32) (upper : ℕ → Bool) :
    fromStr (recase upper (hexForm 8 n.toNat)) = some (.ok (fromU32 n)) := by
  obtain ⟨hlen, hread⟩ := parse_of_toLower (toLower_hexForm 8 n.toNat upper) (by norm_num)
    n.toNat_lt
  rw [fromStr, if_neg (by omega), if_pos hlen]
  simp only [show 2 ^ 32 = 16 ^ 8 from rfl, hread, UInt32.ofNat_toNat]

theorem toList_bytes_fromU32 (n : UInt32) : (fromU32 n).bytes.toList =
    [.ofNat (n.toNat / 2 ^ 24), .ofNat (n.toNat / 2 ^ 16), .ofNat (n.toNat / 2 ^ 8), .ofNat n.toNat]
      ++ base.toList.drop 4 := by
  have hbyte (k : UInt32) (hk : k.toNat < 32) :
      (n >>> k).toUInt8 = .ofNat (n.toNat / 2 ^ k.toNat) := by
    apply UInt8.toNat_inj.mp
    rw [UInt32.toNat_toUInt8, UInt32.toNat_shiftRight, Nat.mod_eq_of_lt hk,
      Nat.shiftRight_eq_div_pow, UInt8.toNat_ofNat']
  rw [fromU32, hbyte 24 (by decide), hbyte 16 (by decide), hbyte 8 (by decide)]
  rfl

/-- A 32-bit value that is expanded prints as its digits and the rest of the Base UUID. -/
theorem display_fromU32 (n : UInt32) : (fromU32 n).display.toList = full n.toNat := by
  have hdigits : hexForm 8 n.toNat = hexBytes [.ofNat (n.toNat / 2 ^ 24), .ofNat (n.toNat / 2 ^ 16),
      .ofNat (n.toNat / 2 ^ 8), .ofNat n.toNat] := by
    rw [hexForm_add_two, hexForm_add_two, hexForm_add_two, hexForm_add_two]
    simp only [Nat.div_div_eq_div_mul, hexForm, hexBytes_cons, hexBytes_nil]
    rfl
  rw [toList_display, toList_bytes_fromU32, full, hdigits]
  rfl

/-- Numbers with the same digits are the same, since the digits are read as either. -/
theorem hexForm_inj {width n m : ℕ} (hwidth : 0 < width) (hn : n < 16 ^ width)
    (hm : m < 16 ^ width) (h : hexForm width n = hexForm width m) : n = m := by
  have hprinted := (printed_hexForm width n).toLower
  have hread := (parse_of_toLower hprinted hwidth hn).2
  have hread' := (parse_of_toLower (hprinted.trans h) hwidth hm).2
  exact Except.ok.inj (hread.symm.trans hread')

theorem fromU32_inj {n m : UInt32} : fromU32 n = fromU32 m ↔ n = m := by
  refine ⟨fun h => ?_, congrArg fromU32⟩
  have hfull : full n.toNat = full m.toNat := by rw [← display_fromU32, h, display_fromU32]
  have hdigits := List.append_cancel_right hfull
  exact UInt32.toNat_inj.mp (hexForm_inj (by norm_num) n.toNat_lt m.toNat_lt hdigits)

/-- **UUID text round-trips.** What `Display` prints and its bare digits are read back, in any
letter case. The four digits of a 16-bit value and the eight of a 32-bit value are read as what the
value is expanded into, and so is that in full; different values are expanded into different UUIDs,
and a 16-bit value into the same as its eight digits. -/
theorem forms_roundTrip (upper : ℕ → Bool) :
    (∀ u : Uuid, fromStr (recase upper u.display.toList) = some (.ok u) ∧
      fromStr (recase upper u.bare) = some (.ok u)) ∧
    (∀ n : UInt16, fromStr (recase upper (hexForm 4 n.toNat)) = some (.ok (fromU16 n)) ∧
      fromStr (recase upper (hexForm 8 n.toNat)) = some (.ok (fromU16 n)) ∧
      fromStr (recase upper (full n.toNat)) = some (.ok (fromU16 n))) ∧
    (∀ n : UInt32, fromStr (recase upper (hexForm 8 n.toNat)) = some (.ok (fromU32 n)) ∧
      fromStr (recase upper (full n.toNat)) = some (.ok (fromU32 n))) ∧
    (∀ n m : UInt16, fromU16 n = fromU16 m ↔ n = m) ∧
    (∀ n m : UInt32, fromU32 n = fromU32 m ↔ n = m) ∧
    ∀ (n : UInt16) (m : UInt32), fromU16 n = fromU32 m ↔ n.toNat = m.toNat := by
  -- A value in full is what `Display` prints of its expansion.
  have hfull (n : UInt32) : fromStr (recase upper (full n.toNat)) = some (.ok (fromU32 n)) :=
    display_fromU32 n ▸ fromStr_display (fromU32 n) upper
  refine ⟨fun u => ⟨fromStr_display u upper, fromStr_bare u upper⟩, fun n => ⟨?_, ?_, ?_⟩,
    fun n => ⟨fromStr_hexForm_eight n upper, hfull n⟩, fun n m => ?_, fun n m => fromU32_inj,
    fun n m => ?_⟩
  · exact fromStr_hexForm_four n upper
  · exact UInt16.toNat_toUInt32 n ▸ fromStr_hexForm_eight n.toUInt32 upper
  · exact UInt16.toNat_toUInt32 n ▸ hfull n.toUInt32
  · rw [fromU16, fromU16, fromU32_inj, ← UInt32.toNat_inj, UInt16.toNat_toUInt32,
      UInt16.toNat_toUInt32, UInt16.toNat_inj]
  · rw [fromU16, fromU32_inj, ← UInt32.toNat_inj, UInt16.toNat_toUInt32]

end Uuid
end Pax
