import Mathlib.Data.List.DropRight
import Mathlib.Data.String.Basic
import Mathlib.Tactic

/-!
# Text as a list of characters

What a standard library does with strings that are stored as UTF-8. A text is a list of characters
here, and what the library says of its bytes is said of the widths of the characters:

* `Text.slice?` cuts at byte positions, and fails where one of them is inside a character, which is
  where the library panics;
* `Text.trim` takes the white space off, as Unicode defines it;
* `Text.parseUnsigned` and `Text.parseSigned` read a number in some radix, with an optional sign.
  What they accept is stated as a relation between characters and digits (`parseUnsigned_eq_ok`), so
  that those who use them need not look at the loop. A number that is printed in decimal is read
  back (`parseSigned_repr`).

The last part is about texts that are put together of parts, and when these can be told apart again:
by a separator that is in none of them, or because no part is the start, or the end, of another one.
-/

namespace Text

open String (utf8Len utf8Len_cons utf8Len_append)

variable {cs ds p q : List Char} {c d : Char} {n : ℕ}

/-! ### Positions in bytes -/

/-- Cut the text `n` bytes from its start; `none` if that is inside a character, or past the end. -/
def cutAt? : ℕ → List Char → Option (List Char × List Char)
  | 0, cs => some ([], cs)
  | _ + 1, [] => none
  | n + 1, c :: cs =>
    if c.utf8Size ≤ n + 1 then (cutAt? (n + 1 - c.utf8Size) cs).map fun r => (c :: r.1, r.2)
    else none

/-- The text from byte `i` to byte `j`; `none` if these are no positions of it. -/
def slice? (cs : List Char) (i j : ℕ) : Option (List Char) :=
  if j < i then none
  else (cutAt? i cs).bind fun r => (cutAt? (j - i) r.2).map Prod.fst

theorem cutAt?_append (p q : List Char) (n : ℕ) :
    cutAt? (utf8Len p + n) (p ++ q) = (cutAt? n q).map fun r => (p ++ r.1, r.2) := by
  induction p with
  | nil => cases h : cutAt? n q <;> simp [h]
  | cons c p ih =>
    have hpos := c.utf8Size_pos
    rw [utf8Len_cons]
    obtain ⟨m, hm⟩ : ∃ m, utf8Len p + c.utf8Size + n = m + 1 :=
      ⟨utf8Len p + c.utf8Size + n - 1, by omega⟩
    have hrest : m + 1 - c.utf8Size = utf8Len p + n := by omega
    rw [List.cons_append, hm, cutAt?, if_pos (by omega), hrest, ih, Option.map_map]
    rfl

/-- Cutting as many bytes off as a first part has gives this part, and what follows it. -/
theorem cutAt?_utf8Len (p q : List Char) : cutAt? (utf8Len p) (p ++ q) = some (p, q) := by
  have h := cutAt?_append p q 0
  rwa [Nat.add_zero, cutAt?, Option.map_some, List.append_nil] at h

/-- A slice that starts after a first part is cut off what follows it. -/
theorem slice?_append (p q : List Char) (n : ℕ) :
    slice? (p ++ q) (utf8Len p) (utf8Len p + n) = (cutAt? n q).map Prod.fst := by
  rw [slice?, if_neg (by omega), cutAt?_utf8Len, Option.bind_some, Nat.add_sub_cancel_left]

/-! ### White space -/

/-- The Unicode property `White_Space`, which `char::is_whitespace` goes by. -/
def isWhitespace (c : Char) : Bool :=
  let n := c.toNat
  (9 ≤ n && n ≤ 13) || n = 0x20 || n = 0x85 || n = 0xA0 || n = 0x1680 || (0x2000 ≤ n && n ≤ 0x200A)
    || n = 0x2028 || n = 0x2029 || n = 0x202F || n = 0x205F || n = 0x3000

/-- The text without the white space at its start and at its end. What is in between stays. -/
def trim (cs : List Char) : List Char := (cs.dropWhile isWhitespace).rdropWhile isWhitespace

/-- Of a text without white space that stands between white space, trimming leaves this text. -/
theorem trim_append (hp : ∀ c ∈ p, isWhitespace c = true) (hq : ∀ c ∈ q, isWhitespace c = true)
    (hcs : ∀ c ∈ cs, isWhitespace c = false) : trim (p ++ cs ++ q) = cs := by
  cases cs with
  -- Of white space alone nothing is left.
  | nil =>
    have hall : ∀ c ∈ p ++ [] ++ q, isWhitespace c = true := by
      intro c hc
      rw [List.append_nil] at hc
      exact (List.mem_append.mp hc).elim (hp c) (hq c)
    rw [trim, List.dropWhile_eq_nil_iff.mpr hall, List.rdropWhile_nil]
  | cons c cs =>
    -- The white space in front goes, up to the first character of the text.
    have hfirst : (p ++ (c :: cs) ++ q).dropWhile isWhitespace = c :: cs ++ q := by
      rw [List.append_assoc, List.dropWhile_append_of_pos hp, List.cons_append,
        List.dropWhile_cons_of_neg]
      rw [hcs c List.mem_cons_self]
      exact Bool.false_ne_true
    rw [trim, hfirst, List.rdropWhile, List.reverse_append,
      List.dropWhile_append_of_pos (fun c hc => hq c (List.mem_reverse.mp hc)),
      List.dropWhile_eq_self_iff.mpr, List.reverse_reverse]
    intro hlength hspace
    have hmem : (c :: cs).reverse[0] ∈ c :: cs := List.mem_reverse.mp (List.getElem_mem hlength)
    rw [hcs _ hmem] at hspace
    exact Bool.false_ne_true hspace

/-- A character that is no white space is not taken off. -/
theorem mem_trim (hc : c ∈ cs) (hspace : isWhitespace c = false) : c ∈ trim cs := by
  have hkept : ¬ isWhitespace c = true := hspace ▸ Bool.false_ne_true
  rw [← List.takeWhile_append_dropWhile (p := isWhitespace) (l := cs), List.mem_append] at hc
  have hfirst := hc.resolve_left fun h => hkept (List.mem_takeWhile_imp h)
  rw [← List.rdropWhile_append_rtakeWhile (p := isWhitespace) (l := cs.dropWhile isWhitespace),
    List.mem_append] at hfirst
  exact hfirst.resolve_right fun h => hkept (List.mem_rtakeWhile_imp h)

/-! ### Parts -/

theorem mem_intercalate {sep : Char} {parts : List (List Char)}
    (h : c ∈ [sep].intercalate parts) : c = sep ∨ ∃ part ∈ parts, c ∈ part := by
  -- On the parts: a separator stands before every part but the first.
  induction parts with
  | nil => cases h
  | cons part parts ih =>
    cases parts with
    | nil =>
      rw [List.intercalate_singleton] at h
      exact .inr ⟨part, List.mem_cons_self, h⟩
    | cons next parts =>
      rw [List.intercalate_cons_cons, List.mem_append, List.mem_append, List.mem_singleton] at h
      rcases h with (h | h) | h
      · exact .inr ⟨part, List.mem_cons_self, h⟩
      · exact .inl h
      · obtain h | ⟨part', hpart', h⟩ := ih h
        · exact .inl h
        · exact .inr ⟨part', List.mem_cons_of_mem part hpart', h⟩

/-- What a text is split into has all its characters but the separators. -/
theorem exists_mem_splitOn {sep : Char} (hc : c ∈ cs) (hne : c ≠ sep) :
    ∃ part ∈ cs.splitOn sep, c ∈ part := by
  have hjoined : [sep].intercalate (cs.splitOn sep) = cs := List.intercalate_splitOn sep
  rw [← hjoined] at hc
  exact (mem_intercalate hc).resolve_left hne

/-- A text of two parts or more has the separator in it. -/
theorem mem_intercalate_self {sep : Char} {parts : List (List Char)} (h : 2 ≤ parts.length) :
    sep ∈ [sep].intercalate parts := by
  obtain ⟨part, next, rest, rfl⟩ : ∃ part next rest, parts = part :: next :: rest := by
    cases parts with
    | nil => simp at h
    | cons part parts =>
      cases parts with
      | nil => simp at h
      | cons next rest => exact ⟨part, next, rest, rfl⟩
  rw [List.intercalate_cons_cons]
  simp

/-! ### First and last parts -/

section Codes

variable {α β : Type} {code : α → List β} {a b : α} {r s : List β}

/-- No part is the start of another one, so that reading from the left one can tell where it
ends. -/
def PrefixFree (code : α → List β) : Prop := ∀ a b, code a <+: code b → a = b

/-- No part is the end of another one, so that reading from the right one can tell where it
begins. -/
def SuffixFree (code : α → List β) : Prop := ∀ a b, code a <:+ code b → a = b

/-- Where no part is the start of another one, the first part can be told from what follows it. -/
theorem PrefixFree.append_inj (h : PrefixFree code) (heq : code a ++ r = code b ++ s) :
    a = b ∧ r = s := by
  have ha : code a <+: code a ++ r := List.prefix_append _ _
  have hb : code b <+: code a ++ r := heq ▸ List.prefix_append _ _
  obtain rfl : a = b := (List.prefix_or_prefix_of_prefix ha hb).elim (h a b) fun hba =>
    (h b a hba).symm
  exact ⟨rfl, List.append_cancel_left heq⟩

/-- Where no part is the end of another one, the last part can be told from what precedes it. -/
theorem SuffixFree.append_inj (h : SuffixFree code) (heq : r ++ code a = s ++ code b) :
    r = s ∧ a = b := by
  have ha : code a <:+ r ++ code a := List.suffix_append _ _
  have hb : code b <:+ r ++ code a := heq ▸ List.suffix_append _ _
  obtain rfl : a = b := (List.suffix_or_suffix_of_suffix ha hb).elim (h a b) fun hba =>
    (h b a hba).symm
  exact ⟨List.append_cancel_right heq, rfl⟩

end Codes

/-! ### Numbers -/

/-- The value of a digit or a letter in a radix of at most 36, in either letter case; it is at least
`radix` for everything else. -/
def digitValue (radix : ℕ) (c : Char) : ℕ :=
  if '0' ≤ c ∧ c ≤ '9' then c.toNat - '0'.toNat
  else if 'a' ≤ c ∧ c ≤ 'z' then c.toNat - 'a'.toNat + 10
  else if 'A' ≤ c ∧ c ≤ 'Z' then c.toNat - 'A'.toNat + 10
  else radix

/-- The value of a digit in some radix, of either letter case, if the character is one. -/
def digit (radix : ℕ) (c : Char) : Option ℕ :=
  if digitValue radix c < radix then some (digitValue radix c) else none

/-- Why a text is no number: the kinds of `ParseIntError` that occur. -/
inductive ParseIntError where
  | empty
  | invalidDigit
  | posOverflow
  | negOverflow
  deriving DecidableEq, Repr

/-- The digits from the left, on from a value read so far, as long as it stays below `limit`. -/
def accumulate (radix limit : ℕ) (overflow : ParseIntError) :
    (value : ℕ) → List Char → Except ParseIntError ℕ
  | value, [] => .ok value
  | value, c :: cs =>
    match digit radix c with
    | none => .error .invalidDigit
    | some d =>
      if value * radix + d < limit then accumulate radix limit overflow (value * radix + d) cs
      else .error overflow

/-- Read a number below `limit`. A plus sign may come first, as in the parsers of the standard
library. -/
def parseUnsigned (radix limit : ℕ) (cs : List Char) : Except ParseIntError ℕ :=
  if cs = [] then .error .empty
  else if cs = ['+'] ∨ cs = ['-'] then .error .invalidDigit
  else accumulate radix limit .posOverflow 0 (if cs.head? = some '+' then cs.tail else cs)

/-- A number from `-bound` up to below `bound`. A sign may come first. -/
def parseSigned (radix bound : ℕ) (cs : List Char) : Except ParseIntError ℤ :=
  if cs = [] then .error .empty
  else if cs = ['+'] ∨ cs = ['-'] then .error .invalidDigit
  else if cs.head? = some '-' then
    (accumulate radix (bound + 1) .negOverflow 0 cs.tail).map fun n : ℕ => -(n : ℤ)
  else
    (accumulate radix bound .posOverflow 0 (if cs.head? = some '+' then cs.tail else cs)).map
      fun n : ℕ => (n : ℤ)

/-- Read one byte, in hexadecimal: `u8::from_str_radix(_, 16)`. -/
def parseU8 (cs : List Char) : Except ParseIntError UInt8 :=
  (parseUnsigned 16 (2 ^ 8) cs).map UInt8.ofNat

/-- The number that digits write, on from a value read so far. -/
def ofDigits (radix value : ℕ) (digits : List ℕ) : ℕ :=
  digits.foldl (fun value d => value * radix + d) value

/-- The characters are digits in this radix, and these are their values. -/
abbrev Digits (radix : ℕ) : List Char → List ℕ → Prop :=
  List.Forall₂ fun c d => digit radix c = some d

theorem ofDigits_concat (radix value : ℕ) (digits : List ℕ) (d : ℕ) :
    ofDigits radix value (digits ++ [d]) = ofDigits radix value digits * radix + d :=
  List.foldl_concat _ value d digits

theorem le_ofDigits {radix : ℕ} (hradix : 0 < radix) (value : ℕ) (digits : List ℕ) :
    value ≤ ofDigits radix value digits := by
  induction digits generalizing value with
  | nil => exact le_rfl
  | cons d digits ih =>
    calc value ≤ value * radix := Nat.le_mul_of_pos_right value hradix
      _ ≤ value * radix + d := Nat.le_add_right _ d
      _ ≤ ofDigits radix (value * radix + d) digits := ih _

/-- **What is read off digits** is the number they write, if that is below the limit. -/
theorem accumulate_eq_ok {radix limit : ℕ} (hradix : 0 < radix) {overflow : ParseIntError}
    {value : ℕ} (hvalue : value < limit) : accumulate radix limit overflow value cs = .ok n ↔
      n < limit ∧ ∃ digits, Digits radix cs digits ∧ ofDigits radix value digits = n := by
  induction cs generalizing value with
  | nil =>
    rw [accumulate]
    constructor
    · rintro ⟨⟩
      exact ⟨hvalue, [], .nil, rfl⟩
    · rintro ⟨-, digits, ⟨⟩, rfl⟩
      rfl
  | cons c cs ih =>
    rw [accumulate]
    cases hd : digit radix c with
    | none =>
      refine iff_of_false nofun ?_
      rintro ⟨-, digits, hdigits, -⟩
      cases hdigits with
      | cons hc _ => simp [hd] at hc
    | some d =>
      dsimp only
      -- The digit is added, unless the limit is passed.
      split_ifs with hlt
      · rw [ih hlt]
        constructor
        · rintro ⟨hn, digits, hdigits, rfl⟩
          exact ⟨hn, d :: digits, .cons hd hdigits, rfl⟩
        · rintro ⟨hn, digits, hdigits, rfl⟩
          cases hdigits with
          | cons hc hrest =>
            obtain rfl := Option.some.inj (hd.symm.trans hc)
            exact ⟨hn, _, hrest, rfl⟩
      -- past the limit there is no way back
      · refine iff_of_false nofun ?_
        rintro ⟨hn, digits, hdigits, rfl⟩
        cases hdigits with
        | cons hc hrest =>
          obtain rfl := Option.some.inj (hd.symm.trans hc)
          have hle := le_ofDigits hradix (value * radix + d) ‹List ℕ›
          exact hlt (lt_of_le_of_lt hle hn)

theorem digit_plus (radix : ℕ) : digit radix '+' = none := by
  have hvalue : digitValue radix '+' = radix := by
    rw [digitValue, if_neg (by decide), if_neg (by decide), if_neg (by decide)]
  rw [digit, hvalue, if_neg (lt_irrefl radix)]

theorem digit_minus (radix : ℕ) : digit radix '-' = none := by
  have hvalue : digitValue radix '-' = radix := by
    rw [digitValue, if_neg (by decide), if_neg (by decide), if_neg (by decide)]
  rw [digit, hvalue, if_neg (lt_irrefl radix)]

/-- What is read as digits does not start with another character. -/
theorem Digits.ne_cons {radix : ℕ} {digits : List ℕ} (h : Digits radix cs digits)
    (hc : digit radix c = none) : cs ≠ c :: ds := by
  rintro rfl
  cases h with
  | cons hdigit _ => simp [hc] at hdigit

/-- **What a number is**: one or more digits, perhaps after a plus sign, of a value below the
limit. -/
theorem parseUnsigned_eq_ok {radix limit : ℕ} (hradix : 0 < radix) (hlimit : 0 < limit) :
    parseUnsigned radix limit cs = .ok n ↔ n < limit ∧ ∃ ds digits, (cs = ds ∨ cs = '+' :: ds) ∧
      ds ≠ [] ∧ Digits radix ds digits ∧ ofDigits radix 0 digits = n := by
  -- Neither sign is a digit, so that a sign can only come first.
  have hplus := digit_plus radix
  have hminus := digit_minus radix
  rw [parseUnsigned]
  -- Nothing to read, a sign alone, a plus sign and digits, or digits alone.
  split_ifs with hnil hsign hhead
  · refine iff_of_false nofun ?_
    rintro ⟨-, ds, digits, rfl | rfl, hne, -⟩
    · exact hne hnil
    · cases hnil
  · refine iff_of_false nofun ?_
    rintro ⟨-, ds, digits, rfl | rfl, hne, hdigits, -⟩
    · exact hsign.elim (hdigits.ne_cons hplus) (hdigits.ne_cons hminus)
    · rcases hsign with hsign | hsign
      · exact hne (List.cons.inj hsign).2
      · cases hsign
  · -- the digits are what follows the sign
    cases cs with
    | nil => cases hhead
    | cons c cs =>
      obtain rfl := Option.some.inj hhead
      rw [List.tail_cons, accumulate_eq_ok hradix hlimit]
      have hcs : cs ≠ [] := fun h => hsign (.inl (h ▸ rfl))
      constructor
      · rintro ⟨hn, digits, hdigits, rfl⟩
        exact ⟨hn, cs, digits, .inr rfl, hcs, hdigits, rfl⟩
      · rintro ⟨hn, ds, digits, hds, -, hdigits, rfl⟩
        rcases hds with rfl | hds
        · exact absurd rfl (hdigits.ne_cons hplus)
        · obtain rfl := (List.cons.inj hds).2
          exact ⟨hn, digits, hdigits, rfl⟩
  · rw [accumulate_eq_ok hradix hlimit]
    constructor
    · rintro ⟨hn, digits, hdigits, rfl⟩
      exact ⟨hn, cs, digits, .inl rfl, hnil, hdigits, rfl⟩
    · rintro ⟨hn, ds, digits, rfl | rfl, -, hdigits, rfl⟩
      · exact ⟨hn, digits, hdigits, rfl⟩
      · exact absurd rfl hhead

theorem parseU8_eq_ok {b : UInt8} :
    parseU8 cs = .ok b ↔ parseUnsigned 16 (2 ^ 8) cs = .ok b.toNat := by
  rw [parseU8]
  cases hn : parseUnsigned 16 (2 ^ 8) cs with
  | error e => exact iff_of_false nofun nofun
  | ok n =>
    have hlt : n < 2 ^ 8 := ((parseUnsigned_eq_ok (by norm_num) (by norm_num)).mp hn).1
    simp only [Except.map, Except.ok.injEq]
    constructor
    · rintro rfl
      exact (UInt8.toNat_ofNat_of_lt hlt).symm
    · rintro rfl
      exact UInt8.ofNat_toNat

/-! ### Decimal numbers -/

/-- The digits that a number is printed with, in a radix whose digits are read as they are
printed. -/
theorem exists_digits_toDigits_of {radix : ℕ} (hradix : 1 < radix)
    (hdigit : ∀ d < radix, digit radix d.digitChar = some d) (n : ℕ) :
    ∃ digits, Digits radix (Nat.toDigits radix n) digits ∧ ofDigits radix 0 digits = n := by
  -- The last digit is the remainder, and those before it are of a smaller number.
  induction n using Nat.strong_induction_on with
  | _ n ih =>
    rw [Nat.toDigits_eq_if hradix]
    split_ifs with hlt
    · exact ⟨[n], .cons (hdigit n hlt) .nil, by simp [ofDigits]⟩
    · have hsmaller : n / radix < n := Nat.div_lt_self (by omega) hradix
      obtain ⟨digits, hdigits, hvalue⟩ := ih (n / radix) hsmaller
      have hlast : Digits radix [(n % radix).digitChar] [n % radix] :=
        .cons (hdigit _ (Nat.mod_lt n (by omega))) .nil
      refine ⟨digits ++ [n % radix], List.rel_append hdigits hlast, ?_⟩
      rw [ofDigits_concat, hvalue]
      exact Nat.div_add_mod' n radix

/-- The digits that a number is printed with in decimal, and their value is the number. -/
theorem exists_digits_toDigits (n : ℕ) :
    ∃ digits, Digits 10 (Nat.toDigits 10 n) digits ∧ ofDigits 10 0 digits = n :=
  exists_digits_toDigits_of (by norm_num) (by decide) n

theorem accumulate_toDigits {limit : ℕ} {overflow : ParseIntError} (h : n < limit) :
    accumulate 10 limit overflow 0 (Nat.toDigits 10 n) = .ok n := by
  rw [accumulate_eq_ok (by norm_num) (by omega)]
  exact ⟨h, exists_digits_toDigits n⟩

/-- The first character of a number that is printed is a digit, and nothing else. -/
theorem toDigits_ne_cons (hc : digit 10 c = none) : Nat.toDigits 10 n ≠ c :: ds := by
  obtain ⟨digits, hdigits, -⟩ := exists_digits_toDigits n
  exact hdigits.ne_cons hc

/-- All characters of what is read as digits are digits in this radix. -/
theorem Digits.digit_ne_none {radix : ℕ} {digits : List ℕ} (h : Digits radix cs digits)
    (hc : c ∈ cs) : digit radix c ≠ none := by
  induction h with
  | nil => cases hc
  | cons hdigit _ ih =>
    rcases List.mem_cons.mp hc with rfl | hc
    · rw [hdigit]
      exact Option.some_ne_none _
    · exact ih hc

/-- A character that is neither a digit nor a minus sign is in no number that is printed. -/
theorem not_mem_repr {i : ℤ} (hdigit : digit 10 c = none) (hminus : c ≠ '-') :
    c ∉ i.repr.toList := by
  have hnat (n : ℕ) : c ∉ n.repr.toList := by
    rw [Nat.toList_repr]
    obtain ⟨digits, hdigits, -⟩ := exists_digits_toDigits n
    exact fun hc => hdigits.digit_ne_none hc hdigit
  rw [Int.repr_eq_if]
  split_ifs with hsign
  · exact hnat _
  · rw [String.toList_append, List.mem_append]
    rintro (hc | hc)
    · exact hminus (List.mem_singleton.mp hc)
    · exact hnat _ hc

/-- **A number that is printed in decimal is read back**, as long as it is within the bounds of
its type. -/
theorem parseSigned_repr {bound : ℕ} {i : ℤ} (hlow : -(bound : ℤ) ≤ i) (hhigh : i < bound) :
    parseSigned 10 bound i.repr.toList = .ok i := by
  have hplus (n : ℕ) (ds : List Char) : Nat.toDigits 10 n ≠ '+' :: ds :=
    toDigits_ne_cons (digit_plus 10)
  have hminus (n : ℕ) (ds : List Char) : Nat.toDigits 10 n ≠ '-' :: ds :=
    toDigits_ne_cons (digit_minus 10)
  -- A number that is printed does not start with a sign.
  have hhead (n : ℕ) {c : Char} (hne : ∀ ds, Nat.toDigits 10 n ≠ c :: ds) :
      (Nat.toDigits 10 n).head? ≠ some c := by
    intro h
    obtain ⟨ds, hds⟩ := List.head?_eq_some_iff.mp h
    exact hne ds hds
  -- A number that is not negative is printed without a sign, and any other with a minus sign.
  rw [Int.repr_eq_if]
  by_cases hsign : 0 ≤ i
  · rw [if_pos hsign, Nat.toList_repr, parseSigned, if_neg Nat.toDigits_ne_nil,
      if_neg (not_or.mpr ⟨hplus _ _, hminus _ _⟩), if_neg (hhead _ (hminus _)),
      if_neg (hhead _ (hplus _)), accumulate_toDigits (by omega)]
    exact congrArg Except.ok (Int.toNat_of_nonneg hsign)
  · have hlist : ("-" ++ (-i).toNat.repr).toList = '-' :: Nat.toDigits 10 (-i).toNat := by
      rw [String.toList_append, Nat.toList_repr]
      rfl
    have hrest : Nat.toDigits 10 (-i).toNat ≠ [] := Nat.toDigits_ne_nil
    rw [if_neg hsign, hlist, parseSigned, if_neg (List.cons_ne_nil _ _), if_neg,
      if_pos List.head?_cons, List.tail_cons, accumulate_toDigits (by omega)]
    · have hneg : -((-i).toNat : ℤ) = i := by omega
      exact congrArg Except.ok hneg
    · rintro (h | h)
      · cases h
      · exact hrest (List.cons.inj h).2

/-! ### Hexadecimal digits -/

/-- The hexadecimal digits. -/
def hexDigits : List Char := ['0', '1', '2', '3', '4', '5', '6', '7', '8', '9',
  'a', 'b', 'c', 'd', 'e', 'f', 'A', 'B', 'C', 'D', 'E', 'F']

/-- The character is a hexadecimal digit. -/
def IsHexDigit (c : Char) : Prop := c ∈ hexDigits

instance (c : Char) : Decidable (IsHexDigit c) := inferInstanceAs (Decidable (_ ∈ _))

/-- What is so of each of the digits is so of a digit. -/
theorem IsHexDigit.induction {P : Char → Prop} [DecidablePred P]
    (h : hexDigits.all (fun c => decide (P c)) = true) (hc : IsHexDigit c) : P c :=
  of_decide_eq_true (List.all_eq_true.mp h c hc)

/-- What is so of all characters below 128 is so of an ASCII character. -/
theorem ascii_induction {P : Char → Prop} (h : ∀ n < 128, P (Char.ofNat n)) (hc : c.toNat < 128) :
    P c :=
  Char.ofNat_toNat c ▸ h c.toNat hc

theorem not_le_of_ascii (hc : 128 ≤ c.toNat) (hd : d.toNat < 128) : ¬ c ≤ d := by
  intro hcd
  have hval : c.toNat ≤ d.toNat := UInt32.le_iff_toNat_le.mp (Char.le_def.mp hcd)
  omega

theorem digit_of_le (h : 128 ≤ c.toNat) : digit 16 c = none := by
  have hvalue : digitValue 16 c = 16 := by
    rw [digitValue, if_neg (fun hc => not_le_of_ascii h (by decide) hc.2),
      if_neg (fun hc => not_le_of_ascii h (by decide) hc.2),
      if_neg (fun hc => not_le_of_ascii h (by decide) hc.2)]
  rw [digit, hvalue, if_neg (lt_irrefl 16)]

theorem toNat_lt_of_isHexDigit (h : IsHexDigit c) : c.toNat < 128 :=
  h.induction (P := fun c => c.toNat < 128) (by decide)

theorem isSome_digit_iff : (digit 16 c).isSome ↔ IsHexDigit c := by
  by_cases hc : c.toNat < 128
  · exact ascii_induction (P := fun c => (digit 16 c).isSome ↔ IsHexDigit c) (by decide) hc
  · rw [digit_of_le (by omega)]
    exact iff_of_false Bool.false_ne_true fun h => hc (toNat_lt_of_isHexDigit h)

theorem digit_lt (h : digit 16 c = some n) : n < 16 := by
  rw [digit] at h
  split at h
  · next hlt => exact Option.some.inj h ▸ hlt
  · cases h

theorem toUpper_of_le (h : 128 ≤ c.toNat) : c.toUpper = c :=
  dif_neg fun hc => not_le_of_ascii h (by decide : 'z'.toNat < 128) hc.2

theorem toLower_of_le (h : 128 ≤ c.toNat) : c.toLower = c :=
  dif_neg fun hc => not_le_of_ascii h (by decide : 'Z'.toNat < 128) hc.2

/-- Digits mean the same in upper case. -/
@[simp] theorem digit_toUpper (c : Char) : digit 16 c.toUpper = digit 16 c := by
  by_cases hc : c.toNat < 128
  · exact ascii_induction (P := fun c => digit 16 c.toUpper = digit 16 c) (by decide) hc
  · rw [toUpper_of_le (by omega)]

/-- Digits mean the same in lower case. -/
@[simp] theorem digit_toLower (c : Char) : digit 16 c.toLower = digit 16 c := by
  by_cases hc : c.toNat < 128
  · exact ascii_induction (P := fun c => digit 16 c.toLower = digit 16 c) (by decide) hc
  · rw [toLower_of_le (by omega)]

theorem IsHexDigit.utf8Size (h : IsHexDigit c) : c.utf8Size = 1 :=
  h.induction (P := fun c => c.utf8Size = 1) (by decide)

theorem IsHexDigit.not_whitespace (h : IsHexDigit c) : isWhitespace c = false :=
  h.induction (P := fun c => isWhitespace c = false) (by decide)

end Text
