import Mathlib.Tactic

/-!
# UTF-16

The UTF-16 code units of a text and a decoder written from the encoding's definition: a unit
outside the surrogate range is a character, a high surrogate followed by a low one is a
supplementary character, and anything else is not UTF-16. `decode_encode` is the round trip for
every text; it needs that a character is never a surrogate itself.
-/

namespace Utf16

/-- The code units of one character: one below `0x10000`, else a surrogate pair. -/
def encodeChar (c : Char) : List UInt16 :=
  if c.toNat < 0x10000 then [UInt16.ofNat c.toNat]
  else
    [UInt16.ofNat (0xD800 + (c.toNat - 0x10000) / 0x400),
      UInt16.ofNat (0xDC00 + (c.toNat - 0x10000) % 0x400)]

/-- The code units of a text, one or two for each character. -/
def encode (cs : List Char) : List UInt16 := cs.flatMap encodeChar

/-- The unit is a high surrogate, which comes first in a pair. -/
def IsHigh (u : UInt16) : Prop := 0xD800 ≤ u.toNat ∧ u.toNat < 0xDC00

/-- The unit is a low surrogate, which comes second in a pair. -/
def IsLow (u : UInt16) : Prop := 0xDC00 ≤ u.toNat ∧ u.toNat < 0xE000

instance (u : UInt16) : Decidable (IsHigh u) := inferInstanceAs (Decidable (_ ∧ _))

instance (u : UInt16) : Decidable (IsLow u) := inferInstanceAs (Decidable (_ ∧ _))

/-- The character beyond the first plane that a pair of surrogates stands for. -/
def ofPair (hi lo : UInt16) : Char :=
  Char.ofNat (0x10000 + (hi.toNat - 0xD800) * 0x400 + (lo.toNat - 0xDC00))

/-- Read a text off its code units; `none` on an unpaired surrogate. -/
def decode : List UInt16 → Option (List Char)
  | [] => some []
  | [u] => if IsHigh u ∨ IsLow u then none else some [Char.ofNat u.toNat]
  | u :: v :: us =>
    if IsHigh u then
      if IsLow v then (decode us).map (ofPair u v :: ·) else none
    else if IsLow u then none
    else (decode (v :: us)).map (Char.ofNat u.toNat :: ·)

/-- A unit that is no surrogate is a character of its own, and what follows is decoded after it. -/
theorem decode_cons_of_not {u : UInt16} (hh : ¬ IsHigh u) (hl : ¬ IsLow u) (us : List UInt16) :
    decode (u :: us) = (decode us).map (Char.ofNat u.toNat :: ·) := by
  cases us with
  | nil => simp [decode, hh, hl]
  | cons v vs => rw [decode, if_neg hh, if_neg hl]

/-- A character's value is a scalar value: below the surrogates, or above them and in range. -/
theorem toNat_scalar (c : Char) :
    c.toNat < 0xD800 ∨ (0xDFFF < c.toNat ∧ c.toNat < 0x110000) := c.valid

/-- The units of one character decode to it, in front of anything. -/
theorem decode_encodeChar_append (c : Char) (us : List UInt16) :
    decode (encodeChar c ++ us) = (decode us).map (c :: ·) := by
  -- That a character is no surrogate is what makes the unit of a low one unambiguous.
  have hc := toNat_scalar c
  unfold encodeChar
  by_cases hlt : c.toNat < 0x10000
  · have hval : (UInt16.ofNat c.toNat).toNat = c.toNat := by
      rw [UInt16.toNat_ofNat']
      omega
    have hh : ¬ IsHigh (UInt16.ofNat c.toNat) := by
      unfold IsHigh
      rw [hval]
      omega
    have hl : ¬ IsLow (UInt16.ofNat c.toNat) := by
      unfold IsLow
      rw [hval]
      omega
    rw [if_pos hlt, List.singleton_append, decode_cons_of_not hh hl, hval, Char.ofNat_toNat]
  · -- the value above the basic plane splits into two ten-bit halves
    have hhi : (UInt16.ofNat (0xD800 + (c.toNat - 0x10000) / 0x400)).toNat
        = 0xD800 + (c.toNat - 0x10000) / 0x400 := by
      rw [UInt16.toNat_ofNat']
      omega
    have hlo : (UInt16.ofNat (0xDC00 + (c.toNat - 0x10000) % 0x400)).toNat
        = 0xDC00 + (c.toNat - 0x10000) % 0x400 := by
      rw [UInt16.toNat_ofNat']
      omega
    have hh : IsHigh (UInt16.ofNat (0xD800 + (c.toNat - 0x10000) / 0x400)) := by
      unfold IsHigh
      rw [hhi]
      omega
    have hl : IsLow (UInt16.ofNat (0xDC00 + (c.toNat - 0x10000) % 0x400)) := by
      unfold IsLow
      rw [hlo]
      omega
    -- The halves put together again are the value: a division with remainder by `0x400`.
    have hpair : ofPair (UInt16.ofNat (0xD800 + (c.toNat - 0x10000) / 0x400))
        (UInt16.ofNat (0xDC00 + (c.toNat - 0x10000) % 0x400)) = c := by
      unfold ofPair
      rw [hhi, hlo]
      have hsum : 0x10000 + (0xD800 + (c.toNat - 0x10000) / 0x400 - 0xD800) * 0x400
          + (0xDC00 + (c.toNat - 0x10000) % 0x400 - 0xDC00) = c.toNat := by omega
      rw [hsum, Char.ofNat_toNat]
    rw [if_neg hlt, List.cons_append, List.singleton_append, decode, if_pos hh, if_pos hl, hpair]

/-- **Round trip.** Every text is read back from its code units. -/
theorem decode_encode (cs : List Char) : decode (encode cs) = some cs := by
  induction cs with
  | nil => rfl
  | cons c cs ih =>
    show decode (encodeChar c ++ encode cs) = _
    rw [decode_encodeChar_append, ih, Option.map_some]

end Utf16
