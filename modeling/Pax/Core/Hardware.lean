import Pax.Core.Device

/-!
# Controller hardware

The controller model of `pax-core/src/hardware.rs`, which is the key of the hardware split. `label`
is the text diagnostics group by; it is built by concatenation from the vendor name, the
unrestricted model string and the family. Since the model may be any text, that labels keep
controllers apart is a result of its own, in `Pax.Diagnostics.Buckets`.
-/

namespace Pax

/-- A Bluetooth SIG company identifier. -/
structure CompanyId where
  id : UInt16
  deriving DecidableEq, Repr

/-- The vendor name, for the identifiers in the curated table. The names are all different, and
none starts as a number does. -/
def CompanyId.name (c : CompanyId) : Option String :=
  match c.id with
  | 0x0000 => some "Ericsson Technology Licensing"
  | 0x0002 => some "Intel Corp."
  | 0x000A => some "Cambridge Silicon Radio"
  | 0x000F => some "Broadcom Corporation"
  | 0x001D => some "Qualcomm"
  | 0x004C => some "Apple, Inc."
  | 0x0059 => some "Nordic Semiconductor ASA"
  | 0x005D => some "Realtek Semiconductor"
  | 0x0131 => some "Cypress Semiconductor"
  | _ => none

/-- `Display`: the vendor name, else the identifier in hexadecimal. -/
def CompanyId.display (c : CompanyId) : String :=
  match c.name with
  | some n => n
  | none => "0x" ++ hex4 c.id

/-- A broad family of controller silicon. -/
inductive ChipsetFamily where
  | appleCombo
  | broadcom
  | intel
  | qualcomm
  | realtek
  | nordic
  | csr
  | virtual
  | unknown
  deriving DecidableEq, Repr

/-- `Display` of a family, the text under which its events are grouped. -/
def ChipsetFamily.display : ChipsetFamily → String
  | .appleCombo => "Apple combo"
  | .broadcom => "Broadcom"
  | .intel => "Intel"
  | .qualcomm => "Qualcomm"
  | .realtek => "Realtek"
  | .nordic => "Nordic"
  | .csr => "CSR"
  | .virtual => "virtual"
  | .unknown => "unknown"

/-- A concrete identification of the local controller. -/
structure ControllerModel where
  manufacturer : CompanyId
  family : ChipsetFamily
  model : String
  deriving DecidableEq, Repr

/-- A virtual controller, as the mock backend uses. -/
def ControllerModel.virtualModel (model : String) : ControllerModel :=
  ⟨⟨0xFFFF⟩, .virtual, model⟩

/-- The one-line label, for instance `"Intel Corp. AX210 (Intel)"`. -/
def ControllerModel.label (m : ControllerModel) : String :=
  m.manufacturer.display ++ " " ++ m.model ++ " (" ++ m.family.display ++ ")"

end Pax
