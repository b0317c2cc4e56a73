import Pax.Framework.Text

/-!
# Pairs of hexadecimal digits

Reading bytes out of a string, two bytes of text for each, by their positions (`Text.hexPairs`).
This is what a loop over `0..len` in steps of two does that slices the string and parses each slice.
Besides a character that is no digit it may meet two things:

* a position inside a character, where slicing panics (`Text.Straddled`);
* a plus sign for the first digit of a pair, which the parser of numbers takes (`Text.Loose`).

`pairsFrom_eq_none` and `exists_pairsFrom_ok` say that these are all. Both are by induction on the
number of pairs, over what the next two bytes of text can be (`cutAt?_two`): two characters of one
byte each, one character of two bytes, or a position inside a character.

For the texts that are written with digits only, `Spells` says which bytes they write, and these are
read back (`Spells.pairsFrom`).
-/

namespace Text

open String (utf8Len utf8Len_cons utf8Len_append)

variable {cs p q : List Char} {c d : Char} {n : ℕ}

/-! ### Two digits -/

/-- **What is read off two characters**: a byte, off two digits or off a plus sign and a digit. -/
theorem parseU8_pair_eq_ok {b : UInt8} : parseU8 [c, d] = .ok b ↔
    (c = '+' ∧ digit 16 d = some b.toNat) ∨
      ∃ high low, digit 16 c = some high ∧ digit 16 d = some low ∧
        b.toNat = high * 16 + low := by
  rw [parseU8_eq_ok, parseUnsigned_eq_ok (by norm_num) (by norm_num)]
  constructor
  -- The digits are both characters, or the second one after a plus sign.
  · rintro ⟨-, ds, digits, hds | hds, -, hdigits, hb⟩
    · subst hds
      cases hdigits with
      | cons hc hrest =>
        cases hrest with
        | cons hd hrest =>
          cases hrest
          exact .inr ⟨_, _, hc, hd, by simpa [ofDigits] using hb.symm⟩
    · obtain ⟨rfl, rfl⟩ := List.cons.inj hds
      cases hdigits with
      | cons hd hrest =>
        cases hrest
        exact .inl ⟨rfl, by rw [hd, ← hb]; simp [ofDigits]⟩
  -- In both cases the text is one that `parseUnsigned` reads, with the value of its digits.
  · rintro (⟨rfl, hd⟩ | ⟨high, low, hc, hd, hb⟩)
    · refine ⟨b.toNat_lt, [d], [b.toNat], .inr rfl, by simp, .cons hd .nil, ?_⟩
      simp [ofDigits]
    · refine ⟨b.toNat_lt, [c, d], [high, low], .inl rfl, by simp, .cons hc (.cons hd .nil), ?_⟩
      rw [hb]
      simp [ofDigits]

/-- Two characters of which a byte is read: two digits, or a plus sign and a digit. -/
theorem exists_parseU8_pair :
    (∃ b, parseU8 [c, d] = .ok b) ↔ (c = '+' ∨ IsHexDigit c) ∧ IsHexDigit d := by
  simp only [parseU8_pair_eq_ok, ← isSome_digit_iff, Option.isSome_iff_exists]
  constructor
  · rintro ⟨b, ⟨hc, hd⟩ | ⟨high, low, hc, hd, -⟩⟩
    · exact ⟨.inl hc, _, hd⟩
    · exact ⟨.inr ⟨high, hc⟩, low, hd⟩
  -- The value of one digit, or of two, is a byte.
  · rintro ⟨hc | ⟨high, hc⟩, low, hd⟩
    · have hlow := digit_lt hd
      have hbyte : low < 2 ^ 8 := by omega
      refine ⟨UInt8.ofNat low, .inl ⟨hc, ?_⟩⟩
      rw [hd, UInt8.toNat_ofNat_of_lt' hbyte]
    · have hhigh := digit_lt hc
      have hlow := digit_lt hd
      have hbyte : high * 16 + low < 2 ^ 8 := by omega
      exact ⟨UInt8.ofNat (high * 16 + low), .inr ⟨high, low, hc, hd,
        UInt8.toNat_ofNat_of_lt' hbyte⟩⟩

/-- Nothing is read off one character that is no digit. It may be as long as two digits are. -/
theorem parseU8_singleton (hc : digit 16 c = none) (b : UInt8) : parseU8 [c] ≠ .ok b := by
  rw [ne_eq, parseU8_eq_ok, parseUnsigned_eq_ok (by norm_num) (by norm_num)]
  rintro ⟨-, ds, digits, hds | hds, hne, hdigits, -⟩
  · exact hdigits.ne_cons hc hds.symm
  · exact hne (List.cons.inj hds).2.symm

/-! ### Pairs of digits -/

/-- The bytes at `count` pairs of positions, from the `i`-th pair on. `none` says that one of the
positions is inside a character. -/
def hexPairs (cs : List Char) : (i count : ℕ) → Option (Except ParseIntError (List UInt8))
  | _, 0 => some (.ok [])
  | i, count + 1 =>
    (slice? cs (i * 2) (i * 2 + 2)).bind fun pair =>
      match parseU8 pair with
      | .error e => some (.error e)
      | .ok b => (hexPairs cs (i + 1) count).map fun bytes => bytes.map (b :: ·)

/-- The same loop, read off what is left of the text instead of by positions in the whole of it. -/
def pairsFrom : (count : ℕ) → List Char → Option (Except ParseIntError (List UInt8))
  | 0, _ => some (.ok [])
  | count + 1, cs =>
    (cutAt? 2 cs).bind fun r =>
      match parseU8 r.1 with
      | .error e => some (.error e)
      | .ok b => (pairsFrom count r.2).map fun bytes => bytes.map (b :: ·)

/-- The positions before a text is cut are those of its parts. -/
theorem cutAt?_eq_some {r : List Char × List Char} (h : cutAt? n cs = some r) :
    cs = r.1 ++ r.2 ∧ utf8Len r.1 = n := by
  -- On the text, by whether the cut is here; otherwise it is further on, by the width of the
  -- character.
  induction cs generalizing n r with
  | nil =>
    cases n with
    | zero => cases h; exact ⟨rfl, rfl⟩
    | succ n => cases h
  | cons c cs ih =>
    cases n with
    | zero => cases h; exact ⟨rfl, rfl⟩
    | succ n =>
      rw [cutAt?] at h
      split at h
      · next hle =>
        obtain ⟨r', hr', rfl⟩ := Option.map_eq_some_iff.mp h
        obtain ⟨rfl, hlen⟩ := ih hr'
        refine ⟨rfl, ?_⟩
        rw [utf8Len_cons, hlen]
        omega
      · cases h

theorem hexPairs_append (count : ℕ) {i : ℕ} (hp : utf8Len p = i * 2) :
    hexPairs (p ++ q) i count = pairsFrom count q := by
  induction count generalizing p q i with
  | zero => rfl
  | succ count ih =>
    -- The slice is what is cut off the rest.
    have hslice := slice?_append p q 2
    rw [hp] at hslice
    rw [hexPairs, pairsFrom, hslice]
    cases hcut : cutAt? 2 q with
    | none => rfl
    | some r =>
      obtain ⟨rfl, hlen⟩ := cutAt?_eq_some hcut
      dsimp only [Option.map_some, Option.bind_some]
      cases parseU8 r.1 with
      | error e => rfl
      | ok b =>
        dsimp only
        rw [← List.append_assoc, ih]
        rw [utf8Len_append, hp, hlen]
        omega

/-- By positions or off the rest, the pairs of a text are the same. -/
theorem hexPairs_eq_pairsFrom (cs : List Char) (count : ℕ) :
    hexPairs cs 0 count = pairsFrom count cs :=
  hexPairs_append (p := []) count rfl

/-! ### What is read off pairs -/

/-- A position falls inside a character, and no pair before it is refused. -/
inductive Straddled : List Char → Prop
  /-- The character has more than two bytes. -/
  | wide (c : Char) (cs : List Char) (hc : 2 < c.utf8Size) : Straddled (c :: cs)
  /-- The second byte of the pair is the first one of a longer character. -/
  | second (c d : Char) (cs : List Char) (hc : c.utf8Size = 1) (hd : 1 < d.utf8Size) :
    Straddled (c :: d :: cs)
  | later (c d : Char) (cs : List Char) (hc : c = '+' ∨ IsHexDigit c) (hd : IsHexDigit d)
    (h : Straddled cs) : Straddled (c :: d :: cs)

/-- Pairs of digits, each with a plus sign for its first digit perhaps. -/
inductive Loose : List Char → Prop
  | nil : Loose []
  | cons (c d : Char) (cs : List Char) (hc : c = '+' ∨ IsHexDigit c) (hd : IsHexDigit d)
    (h : Loose cs) : Loose (c :: d :: cs)

/-- The characters are the digits of the bytes, two for each, the high one first. -/
inductive Spells : List Char → List UInt8 → Prop
  | nil : Spells [] []
  | cons {c d : Char} {high low : ℕ} {b : UInt8} {cs : List Char} {bytes : List UInt8}
    (hc : digit 16 c = some high) (hd : digit 16 d = some low) (hb : b.toNat = high * 16 + low)
    (h : Spells cs bytes) : Spells (c :: d :: cs) (b :: bytes)

theorem utf8Size_plus_or_digit (hc : c = '+' ∨ IsHexDigit c) : c.utf8Size = 1 := by
  rcases hc with rfl | hc
  · decide
  · exact hc.utf8Size

theorem cutAt?_pair (hc : c.utf8Size = 1) (hd : d.utf8Size = 1) :
    cutAt? 2 (c :: d :: cs) = some ([c, d], cs) := by
  have h := cutAt?_utf8Len [c, d] cs
  rwa [utf8Len_cons, utf8Len_cons, String.utf8Len_nil, hc, hd] at h

/-- **The three ways to cut two bytes off**: two characters, one, or none because the cut is inside
a character. -/
theorem cutAt?_two (h : 2 ≤ utf8Len cs) :
    (∃ c d rest, cs = c :: d :: rest ∧ c.utf8Size = 1 ∧ d.utf8Size = 1 ∧
      cutAt? 2 cs = some ([c, d], rest)) ∨
    (∃ c rest, cs = c :: rest ∧ c.utf8Size = 2 ∧ cutAt? 2 cs = some ([c], rest)) ∨
    ((∃ c rest, cs = c :: rest ∧ 2 < c.utf8Size) ∨
      ∃ c d rest, cs = c :: d :: rest ∧ c.utf8Size = 1 ∧ 1 < d.utf8Size) ∧ cutAt? 2 cs = none := by
  cases cs with
  | nil => cases h
  | cons c cs =>
    have hpos := c.utf8Size_pos
    -- By the width of the first character: less than the cut, all of it, or more.
    rcases lt_trichotomy c.utf8Size 2 with hc | hc | hc
    · have hone : c.utf8Size = 1 := by omega
      cases cs with
      | nil =>
        rw [utf8Len_cons, String.utf8Len_nil] at h
        omega
      | cons d cs =>
        have hdpos := d.utf8Size_pos
        by_cases hd : d.utf8Size = 1
        · exact .inl ⟨c, d, cs, rfl, hone, hd, cutAt?_pair hone hd⟩
        · refine .inr (.inr ⟨.inr ⟨c, d, cs, rfl, hone, by omega⟩, ?_⟩)
          rw [cutAt?, if_pos (by omega), hone, cutAt?, if_neg (by omega), Option.map_none]
    · refine .inr (.inl ⟨c, cs, rfl, hc, ?_⟩)
      rw [cutAt?, if_pos (by omega), hc, cutAt?, Option.map_some]
    · refine .inr (.inr ⟨.inl ⟨c, cs, rfl, hc⟩, ?_⟩)
      rw [cutAt?, if_neg (by omega)]

/-- A character that is not one byte long is no digit, since all digits are ASCII. -/
theorem digit_of_utf8Size (hc : c.utf8Size ≠ 1) : digit 16 c = none := by
  rw [← Option.not_isSome_iff_eq_none, isSome_digit_iff]
  exact fun h => hc h.utf8Size

/-- The next two bytes of text are two characters off which a byte is read, and the rest is read
after it. -/
theorem pairsFrom_pair (count : ℕ) {b : UInt8} (hc : c.utf8Size = 1) (hd : d.utf8Size = 1)
    (hb : parseU8 [c, d] = .ok b) :
    pairsFrom (count + 1) (c :: d :: cs)
      = (pairsFrom count cs).map fun bytes => bytes.map (b :: ·) := by
  rw [pairsFrom, cutAt?_pair hc hd, Option.bind_some, hb]

/-- The next two bytes of text are cut off, but they are no pair, and the whole is refused. -/
theorem pairsFrom_refused (count : ℕ) {r : List Char × List Char} (hcut : cutAt? 2 cs = some r)
    (hr : ∀ b, parseU8 r.1 ≠ .ok b) : ∃ e, pairsFrom (count + 1) cs = some (.error e) := by
  rw [pairsFrom, hcut, Option.bind_some]
  cases hb : parseU8 r.1 with
  | error e => exact ⟨e, rfl⟩
  | ok b => exact absurd hb (hr b)

/-- A byte read off two bytes of text is read off two characters. -/
theorem eq_pair_of_parseU8 {b : UInt8} (h : parseU8 cs = .ok b) (hlen : utf8Len cs = 2) :
    ∃ c d, cs = [c, d] := by
  -- Two bytes of text are two characters, or one of two bytes, which is no digit.
  rcases cutAt?_two hlen.ge with
    ⟨c, d, rest, rfl, hc, hd, -⟩ | ⟨c, rest, rfl, hc, -⟩ | ⟨hinside, -⟩
  · have hrest : utf8Len rest = 0 := by
      rw [utf8Len_cons, utf8Len_cons, hc, hd] at hlen
      omega
    exact ⟨c, d, by rw [String.utf8Len_eq_zero.mp hrest]⟩
  · have hrest : utf8Len rest = 0 := by
      rw [utf8Len_cons, hc] at hlen
      omega
    rw [String.utf8Len_eq_zero.mp hrest] at h
    exact absurd h (parseU8_singleton (digit_of_utf8Size (by omega)) b)
  · rcases hinside with ⟨c, rest, rfl, hc⟩ | ⟨c, d, rest, rfl, hc, hd⟩
    · rw [utf8Len_cons] at hlen
      omega
    · rw [utf8Len_cons, utf8Len_cons] at hlen
      omega

theorem straddled_pair (hc : c.utf8Size = 1) (hd : d.utf8Size = 1) :
    Straddled (c :: d :: cs) ↔ ((c = '+' ∨ IsHexDigit c) ∧ IsHexDigit d) ∧ Straddled cs := by
  constructor
  · intro h
    cases h with
    | wide _ _ hwide => omega
    | second _ _ _ _ hlong => omega
    | later _ _ _ hplus hdigit h => exact ⟨⟨hplus, hdigit⟩, h⟩
  · rintro ⟨⟨hplus, hdigit⟩, h⟩
    exact .later c d cs hplus hdigit h

theorem not_straddled_two (hc : c.utf8Size = 2) : ¬ Straddled (c :: cs) := by
  intro h
  cases h with
  | wide _ _ hwide => omega
  | second _ _ _ hone _ => omega
  | later _ _ _ hplus _ _ =>
    have hone := utf8Size_plus_or_digit hplus
    omega

theorem loose_cons_cons :
    Loose (c :: d :: cs) ↔ ((c = '+' ∨ IsHexDigit c) ∧ IsHexDigit d) ∧ Loose cs := by
  constructor
  · intro h
    cases h with
    | cons _ _ _ hplus hdigit h => exact ⟨⟨hplus, hdigit⟩, h⟩
  · rintro ⟨⟨hplus, hdigit⟩, h⟩
    exact .cons c d cs hplus hdigit h

/-- The first two characters of what is read off pairs have a byte each. -/
theorem Loose.cut (h : Loose cs) (hcs : cs ≠ []) :
    ∃ c d rest, cs = c :: d :: rest ∧ c.utf8Size = 1 ∧ d.utf8Size = 1 := by
  cases h with
  | nil => exact absurd rfl hcs
  | cons c d rest hplus hdigit _ =>
    exact ⟨c, d, rest, rfl, utf8Size_plus_or_digit hplus, hdigit.utf8Size⟩

/-- **When a position falls inside a character.** Every pair before it was read, since the loop
ends with the first one that is refused. -/
theorem pairsFrom_eq_none {count : ℕ} (h : utf8Len cs = count * 2) :
    pairsFrom count cs = none ↔ Straddled cs := by
  induction count generalizing cs with
  | zero =>
    obtain rfl := String.utf8Len_eq_zero.mp (h.trans (Nat.zero_mul 2))
    exact iff_of_false nofun nofun
  | succ count ih =>
    -- The next two bytes of text: a pair, one wide character, or a position inside one.
    rcases cutAt?_two (by omega : 2 ≤ utf8Len cs) with
      ⟨c, d, rest, rfl, hc, hd, hcut⟩ | ⟨c, rest, rfl, hc, hcut⟩ | ⟨hinside, hcut⟩
    · have hrest : utf8Len rest = count * 2 := by
        rw [utf8Len_cons, utf8Len_cons, hc, hd] at h
        omega
      rw [straddled_pair hc hd, ← exists_parseU8_pair, ← ih hrest]
      by_cases hread : ∃ b, parseU8 [c, d] = .ok b
      · have hpair := hread
        obtain ⟨b, hb⟩ := hread
        rw [pairsFrom_pair count hc hd hb, Option.map_eq_none_iff]
        exact (and_iff_right hpair).symm
      · obtain ⟨e, he⟩ := pairsFrom_refused count hcut fun b hb => hread ⟨b, hb⟩
        rw [he]
        exact iff_of_false nofun fun hboth => hread hboth.1
    -- a wide character is no digit, and the error comes before any panic
    · have hdigit : digit 16 c = none := digit_of_utf8Size (by omega)
      obtain ⟨e, he⟩ := pairsFrom_refused count hcut (parseU8_singleton hdigit)
      rw [he]
      exact iff_of_false nofun (not_straddled_two hc)
    · refine iff_of_true (by rw [pairsFrom, hcut, Option.bind_none]) ?_
      rcases hinside with ⟨c, rest, rfl, hc⟩ | ⟨c, d, rest, rfl, hc, hd⟩
      · exact .wide c rest hc
      · exact .second c d rest hc hd

/-- **When all pairs are read.** They are digits, but for a plus sign that may stand for the
first digit of a pair. -/
theorem exists_pairsFrom_ok {count : ℕ} (h : utf8Len cs = count * 2) :
    (∃ bytes, pairsFrom count cs = some (.ok bytes)) ↔ Loose cs := by
  induction count generalizing cs with
  | zero =>
    obtain rfl := String.utf8Len_eq_zero.mp (h.trans (Nat.zero_mul 2))
    exact iff_of_true ⟨[], rfl⟩ .nil
  | succ count ih =>
    -- a loose text is cut into two characters
    have hne : cs ≠ [] := by
      rintro rfl
      simp at h
    by_cases hcut : ∃ c d rest, cs = c :: d :: rest ∧ c.utf8Size = 1 ∧ d.utf8Size = 1
    · obtain ⟨c, d, rest, rfl, hc, hd⟩ := hcut
      have hrest : utf8Len rest = count * 2 := by
        rw [utf8Len_cons, utf8Len_cons, hc, hd] at h
        omega
      rw [loose_cons_cons, ← exists_parseU8_pair, ← ih hrest]
      -- The pair is read or not; if it is, the rest decides.
      by_cases hread : ∃ b, parseU8 [c, d] = .ok b
      · have hpair := hread
        obtain ⟨b, hb⟩ := hread
        rw [pairsFrom_pair count hc hd hb, and_iff_right hpair]
        constructor
        · rintro ⟨bytes, hbytes⟩
          obtain ⟨r, hr, hmap⟩ := Option.map_eq_some_iff.mp hbytes
          cases r with
          | error e => cases hmap
          | ok bytes' => exact ⟨bytes', hr⟩
        · rintro ⟨bytes, hbytes⟩
          exact ⟨b :: bytes, by rw [hbytes]; rfl⟩
      · obtain ⟨e, he⟩ := pairsFrom_refused count (cutAt?_pair hc hd) fun b hb => hread ⟨b, hb⟩
        rw [he]
        exact iff_of_false nofun fun hboth => hread hboth.1
    -- Any other text is not read: it is one wide character, or the cut panics.
    · refine iff_of_false ?_ fun hloose => hcut (hloose.cut hne)
      rintro ⟨bytes, hbytes⟩
      rcases cutAt?_two (by omega : 2 ≤ utf8Len cs) with
        ⟨c, d, rest, rfl, hc, hd, -⟩ | ⟨c, rest, rfl, hc, htwo⟩ | ⟨-, hnone⟩
      · exact hcut ⟨c, d, rest, rfl, hc, hd⟩
      · have hdigit : digit 16 c = none := digit_of_utf8Size (by omega)
        obtain ⟨e, he⟩ := pairsFrom_refused count htwo (parseU8_singleton hdigit)
        rw [he] at hbytes
        cases hbytes
      · rw [pairsFrom, hnone] at hbytes
        cases hbytes

/-! ### Digits alone -/

theorem Spells.utf8Len {bytes : List UInt8} (h : Spells cs bytes) :
    utf8Len cs = bytes.length * 2 := by
  induction h with
  | nil => rfl
  | cons hc hd _ _ ih =>
    have hcdigit := isSome_digit_iff.mp (Option.isSome_of_eq_some hc)
    have hddigit := isSome_digit_iff.mp (Option.isSome_of_eq_some hd)
    rw [utf8Len_cons, utf8Len_cons, ih, hcdigit.utf8Size, hddigit.utf8Size, List.length_cons]
    omega

/-- **Bytes written as pairs of digits are read** as what they are. -/
theorem Spells.pairsFrom {bytes : List UInt8} (h : Spells cs bytes) :
    pairsFrom bytes.length cs = some (.ok bytes) := by
  induction h with
  | nil => rfl
  | cons hc hd hb h ih =>
    have hcdigit := isSome_digit_iff.mp (Option.isSome_of_eq_some hc)
    have hddigit := isSome_digit_iff.mp (Option.isSome_of_eq_some hd)
    have hread := parseU8_pair_eq_ok.mpr (.inr ⟨_, _, hc, hd, hb⟩)
    rw [List.length_cons, pairsFrom_pair _ hcdigit.utf8Size hddigit.utf8Size hread, ih]
    rfl

/-- A plus sign is no digit. -/
theorem not_isHexDigit_plus : ¬ IsHexDigit '+' := by decide

/-- Without a sign, what is read off pairs is an even number of digits. -/
theorem loose_and_not_mem_iff :
    Loose cs ∧ '+' ∉ cs ↔ cs.length % 2 = 0 ∧ ∀ c ∈ cs, IsHexDigit c := by
  -- Two characters at a time. A plus sign is the only one that may stand for a digit.
  induction cs using List.twoStepInduction with
  | nil => exact iff_of_true ⟨.nil, List.not_mem_nil⟩ ⟨rfl, nofun⟩
  | singleton c => exact iff_of_false (fun h => by cases h.1) (fun h => by cases h.1)
  | cons_cons c d cs ih _ =>
    rw [loose_cons_cons, List.length_cons, List.length_cons, List.forall_mem_cons,
      List.forall_mem_cons, List.mem_cons, List.mem_cons]
    constructor
    · rintro ⟨⟨⟨hc, hd⟩, hloose⟩, hplus⟩
      have hrest := ih.mp ⟨hloose, fun h => hplus (.inr (.inr h))⟩
      have hdigit : IsHexDigit c := hc.resolve_left fun h => hplus (.inl h.symm)
      exact ⟨by omega, hdigit, hd, hrest.2⟩
    · rintro ⟨heven, hc, hd, hall⟩
      have hrest := ih.mpr ⟨by omega, hall⟩
      refine ⟨⟨⟨.inr hc, hd⟩, hrest.1⟩, ?_⟩
      rintro (h | h | h)
      · exact not_isHexDigit_plus (h ▸ hc)
      · exact not_isHexDigit_plus (h ▸ hd)
      · exact hrest.2 h

end Text
