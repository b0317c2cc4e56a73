import Mathlib.Tactic

/-!
# Fixed-width integers as bytes

The 16- and 32-bit big-endian and the 16-bit little-endian byte forms of an unsigned integer, and
the inverses that read them back. Every wire format built on them only needs the two facts stated
for each: reading what was written gives the value back, and the form has a fixed length.
-/

namespace Bytes

/-- The two bytes of a 16-bit value, most significant first. -/
def toBe16 (n : UInt16) : List UInt8 :=
  [UInt8.ofNat (n.toNat / 256), UInt8.ofNat (n.toNat % 256)]

/-- The 16-bit value of two bytes, most significant first. -/
def ofBe16 (hi lo : UInt8) : UInt16 := UInt16.ofNat (hi.toNat * 256 + lo.toNat)

/-- The two bytes of a 16-bit value, least significant first. -/
def toLe16 (n : UInt16) : List UInt8 :=
  [UInt8.ofNat (n.toNat % 256), UInt8.ofNat (n.toNat / 256)]

/-- The 16-bit value of two bytes, least significant first. -/
def ofLe16 (lo hi : UInt8) : UInt16 := ofBe16 hi lo

/-- The four bytes of a 32-bit value, most significant first. -/
def toBe32 (n : UInt32) : List UInt8 :=
  [UInt8.ofNat (n.toNat / 16777216), UInt8.ofNat (n.toNat / 65536 % 256),
    UInt8.ofNat (n.toNat / 256 % 256), UInt8.ofNat (n.toNat % 256)]

/-- The 32-bit value of four bytes, most significant first. -/
def ofBe32 (a b c d : UInt8) : UInt32 :=
  UInt32.ofNat (((a.toNat * 256 + b.toNat) * 256 + c.toNat) * 256 + d.toNat)

@[simp] theorem length_toBe16 (n : UInt16) : (toBe16 n).length = 2 := rfl

@[simp] theorem length_toLe16 (n : UInt16) : (toLe16 n).length = 2 := rfl

@[simp] theorem length_toBe32 (n : UInt32) : (toBe32 n).length = 4 := rfl

/-- Reading a big-endian 16-bit value back, in natural numbers. There is no overflow, since both
bytes are below 256. -/
theorem toNat_ofBe16 (hi lo : UInt8) : (ofBe16 hi lo).toNat = hi.toNat * 256 + lo.toNat := by
  -- Two bytes stay below `2 ^ 16`, so narrowing to 16 bits loses nothing.
  have h₁ := hi.toNat_lt
  have h₂ := lo.toNat_lt
  unfold ofBe16
  rw [UInt16.toNat_ofNat']
  omega

/-- Reading what was written: the two bytes of a 16-bit value spell this value. -/
theorem ofBe16_toBe16 (n : UInt16) :
    ofBe16 (UInt8.ofNat (n.toNat / 256)) (UInt8.ofNat (n.toNat % 256)) = n := by
  have h := n.toNat_lt
  apply UInt16.toNat_inj.mp
  rw [toNat_ofBe16, UInt8.toNat_ofNat', UInt8.toNat_ofNat']
  omega

/-- Writing what was read: the bytes that a 16-bit value was read from are the ones it is written
with. -/
theorem toBe16_ofBe16 (hi lo : UInt8) : toBe16 (ofBe16 hi lo) = [hi, lo] := by
  have h₁ := hi.toNat_lt
  have h₂ := lo.toNat_lt
  -- The quotient by 256 is the high byte, the remainder the low one.
  have hhi : UInt8.ofNat ((hi.toNat * 256 + lo.toNat) / 256) = hi := by
    apply UInt8.toNat_inj.mp
    rw [UInt8.toNat_ofNat']
    omega
  have hlo : UInt8.ofNat ((hi.toNat * 256 + lo.toNat) % 256) = lo := by
    apply UInt8.toNat_inj.mp
    rw [UInt8.toNat_ofNat']
    omega
  unfold toBe16
  rw [toNat_ofBe16, hhi, hlo]

/-- The two bytes of `n` spell `n`, least significant first. -/
theorem ofLe16_toLe16 (n : UInt16) :
    ofLe16 (UInt8.ofNat (n.toNat % 256)) (UInt8.ofNat (n.toNat / 256)) = n :=
  ofBe16_toBe16 n

/-- A value read from two bytes, least significant first, is spelled by them. -/
theorem toLe16_ofLe16 (lo hi : UInt8) : toLe16 (ofLe16 lo hi) = [lo, hi] :=
  congrArg List.reverse (toBe16_ofBe16 hi lo)

/-- Reading what was written: the four bytes of a 32-bit value spell this value. -/
theorem ofBe32_toBe32 (n : UInt32) :
    ofBe32 (UInt8.ofNat (n.toNat / 16777216)) (UInt8.ofNat (n.toNat / 65536 % 256))
      (UInt8.ofNat (n.toNat / 256 % 256)) (UInt8.ofNat (n.toNat % 256)) = n := by
  have h := n.toNat_lt
  -- In numbers this is the division with remainder by 256, three times over.
  apply UInt32.toNat_inj.mp
  unfold ofBe32
  rw [UInt32.toNat_ofNat', UInt8.toNat_ofNat', UInt8.toNat_ofNat', UInt8.toNat_ofNat',
    UInt8.toNat_ofNat']
  omega

/-- A length below `2 ^ 16` survives the narrowing to 16 bits. -/
theorem toNat_ofNat16 {n : ℕ} (h : n < 2 ^ 16) : (UInt16.ofNat n).toNat = n := by
  rw [UInt16.toNat_ofNat']
  omega

/-- A length below `2 ^ 32` survives the narrowing to 32 bits. -/
theorem toNat_ofNat32 {n : ℕ} (h : n < 2 ^ 32) : (UInt32.ofNat n).toNat = n := by
  rw [UInt32.toNat_ofNat']
  omega

end Bytes
