import Mathlib.Tactic

/-!
# Device identity

`BdAddr`, `AddressType` and `DeviceId` with the texts their `Display` impls produce
(`pax-core/src/address.rs`, `pax-core/src/device.rs`), and `CoreError` (`pax-core/src/error.rs`),
which is what comes of a text that is no address or no UUID.

A `DeviceId` is the key of every lookup and of the per-peer diagnostics, so it carries decidable
equality. Its text is the bucket label of the `Peer` dimension: that labels keep devices apart is
`DeviceId.display_injective`, from `BdAddr.display_injective`. Reading an address back is
`Pax.Core.AddressText`.

A `DeviceInfo` is what a discovery reports of a device, in the fields that a backend or a filter
looks at; `Pax.Core.Peer` adds those that are only printed.
-/

namespace Pax

/-! ### Hexadecimal texts -/

/-- The upper-case hexadecimal digit of a value below 16, as `{:X}` prints it. -/
def hexDigit (n : ℕ) : Char :=
  if n < 10 then Char.ofNat ('0'.toNat + n) else Char.ofNat ('A'.toNat + (n - 10))

/-- `{:02X}` of one byte: two digits in upper case. -/
def hex2 (b : UInt8) : String :=
  String.ofList [hexDigit (b.toNat / 16), hexDigit (b.toNat % 16)]

/-- `{:04X}` of a 16-bit value: four digits in upper case. -/
def hex4 (n : UInt16) : String :=
  String.ofList [hexDigit (n.toNat / 4096), hexDigit (n.toNat / 256 % 16),
    hexDigit (n.toNat / 16 % 16), hexDigit (n.toNat % 16)]

/-! ### Addresses -/

/-- A 48-bit device address, its six octets in transmission order (most significant first). -/
structure BdAddr where
  octets : Vector UInt8 6
  deriving DecidableEq, Repr

/-- The all-zero address, used as a "none" sentinel. -/
def BdAddr.nil : BdAddr := ⟨Vector.replicate 6 0⟩

/-- `Display`: six upper-case octets joined by colons. -/
def BdAddr.display (a : BdAddr) : String :=
  let o := a.octets
  hex2 o[0] ++ ":" ++ hex2 o[1] ++ ":" ++ hex2 o[2] ++ ":" ++ hex2 o[3] ++ ":" ++ hex2 o[4] ++ ":"
    ++ hex2 o[5]

/-- Different values below 16 have different digits. -/
theorem hexDigit_inj : ∀ n < 16, ∀ m < 16, hexDigit n = hexDigit m → n = m := by decide

theorem toList_hex2 (b : UInt8) :
    (hex2 b).toList = [hexDigit (b.toNat / 16), hexDigit (b.toNat % 16)] := by
  rw [hex2, String.toList_ofList]

/-- A byte is determined by its two hexadecimal digits. -/
theorem eq_of_hexDigit {a b : UInt8} (hhigh : hexDigit (a.toNat / 16) = hexDigit (b.toNat / 16))
    (hlow : hexDigit (a.toNat % 16) = hexDigit (b.toNat % 16)) : a = b := by
  have ha := a.toNat_lt
  have hb := b.toNat_lt
  have hdiv := hexDigit_inj _ (by omega) _ (by omega) hhigh
  have hmod := hexDigit_inj _ (by omega) _ (by omega) hlow
  apply UInt8.toNat_inj.mp
  omega

theorem BdAddr.length_display (a : BdAddr) : a.display.toList.length = 17 := by
  simp [BdAddr.display, toList_hex2]

/-- Different addresses print differently: each octet has two digits, at places of its own. -/
theorem BdAddr.display_injective : Function.Injective BdAddr.display := by
  rintro ⟨a⟩ ⟨b⟩ h
  have hlist := congrArg String.toList h
  simp only [BdAddr.display, String.toList_append, toList_hex2] at hlist
  -- twelve digits, two for each octet
  simp at hlist
  obtain ⟨h₀, l₀, h₁, l₁, h₂, l₂, h₃, l₃, h₄, l₄, h₅, l₅⟩ := hlist
  congr 1
  ext i hi
  interval_cases i
  · exact congrArg _ (eq_of_hexDigit h₀ l₀)
  · exact congrArg _ (eq_of_hexDigit h₁ l₁)
  · exact congrArg _ (eq_of_hexDigit h₂ l₂)
  · exact congrArg _ (eq_of_hexDigit h₃ l₃)
  · exact congrArg _ (eq_of_hexDigit h₄ l₄)
  · exact congrArg _ (eq_of_hexDigit h₅ l₅)

/-- How an address is to be interpreted on the air. -/
inductive AddressType where
  | pub
  | random
  deriving DecidableEq, Repr

/-- A remote device: its address and how to interpret it. Two devices with one address are
different if their address types are. -/
structure DeviceId where
  addr : BdAddr
  addrType : AddressType
  deriving DecidableEq, Repr

/-- A public-address device id (`DeviceId::public`). -/
def DeviceId.pub (addr : BdAddr) : DeviceId := ⟨addr, .pub⟩

/-- The unset id: the nil public address. -/
instance : Inhabited DeviceId := ⟨DeviceId.pub BdAddr.nil⟩

/-- `Display`: the address, with the type shown only when it is not the default. -/
def DeviceId.display (d : DeviceId) : String :=
  match d.addrType with
  | .pub => d.addr.display
  | .random => d.addr.display ++ " (random)"

/-- Different devices print differently. The address takes the first 17 characters of the text,
and what follows tells the type of the address. -/
theorem DeviceId.display_injective : Function.Injective DeviceId.display := by
  rintro ⟨a, atype⟩ ⟨b, btype⟩ h
  have hlength := congrArg (fun s => s.toList.length) h
  have hlist := congrArg String.toList h
  cases atype <;> cases btype
  · have haddr : a = b := BdAddr.display_injective h
    rw [haddr]
  · simp [DeviceId.display, BdAddr.length_display] at hlength
  · simp [DeviceId.display, BdAddr.length_display] at hlength
  · simp only [DeviceId.display, String.toList_append, List.append_cancel_right_eq,
      String.toList_inj] at hlist
    rw [BdAddr.display_injective hlist]

/-- What is known about a device, as far as a backend looks at it. The class of the device, its
transmit power, the vendor data and the services are in `DeviceDetails`. -/
structure DeviceInfo where
  id : DeviceId
  name : Option String
  /-- The most recent RSSI in dBm. -/
  rssi : Option Int16
  paired : Bool
  connected : Bool
  deriving DecidableEq, Repr

/-! ### Errors -/

/-- A parse or validation error of the core domain. The command line prints it with
`CoreError.display`. -/
inductive CoreError where
  | invalidAddress (input : String)
  | invalid (what detail : String)
  deriving DecidableEq, Repr

def CoreError.display : CoreError → String
  | .invalidAddress s => "invalid Bluetooth address: " ++ s
  | .invalid what detail => "invalid " ++ what ++ ": " ++ detail

end Pax
