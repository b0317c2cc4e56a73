import Pax.Core.Hardware
import Pax.Framework.Lines

/-!
# What is known about a peer

The rest of a `DeviceInfo` of `pax-core/src/device.rs`, with the guess that `pax-core/src/peer.rs`
makes about its platform, and the text that `DeviceInfo::dump` prints of it.

The text is a line with the identity of the device, and a line for each field that is known
(`DeviceDetails.fields`). It is given by lines here, since this is how a reader takes it apart:
`Pax.Transport.ScanReport` says that a report of several devices can be read back.

`str::to_lowercase` is a parameter, as the guess calls it on the name and no result depends on how
it maps letters.
-/

namespace Pax

/-- The major device class of a Class-of-Device. -/
inductive MajorDeviceClass where
  | miscellaneous
  | computer
  | phone
  | networkAccessPoint
  | audioVideo
  | peripheral
  | imaging
  | wearable
  | toy
  | health
  | uncategorized
  deriving DecidableEq, Repr

/-- The five bits of the major class. Those that are not assigned are taken as uncategorized. -/
def MajorDeviceClass.fromField (field : UInt8) : MajorDeviceClass :=
  match field with
  | 0x00 => .miscellaneous
  | 0x01 => .computer
  | 0x02 => .phone
  | 0x03 => .networkAccessPoint
  | 0x04 => .audioVideo
  | 0x05 => .peripheral
  | 0x06 => .imaging
  | 0x07 => .wearable
  | 0x08 => .toy
  | 0x09 => .health
  | _ => .uncategorized

def MajorDeviceClass.display : MajorDeviceClass → String
  | .miscellaneous => "miscellaneous"
  | .computer => "computer"
  | .phone => "phone"
  | .networkAccessPoint => "network access point"
  | .audioVideo => "audio/video"
  | .peripheral => "peripheral"
  | .imaging => "imaging"
  | .wearable => "wearable"
  | .toy => "toy"
  | .health => "health"
  | .uncategorized => "uncategorized"

/-- The Class-of-Device value of a Classic device. -/
structure ClassOfDevice where
  raw : UInt32
  deriving DecidableEq, Repr

/-- A raw value, of which 24 bits count. -/
def ClassOfDevice.new (raw : UInt32) : ClassOfDevice := ⟨raw &&& 0x00FFFFFF⟩

/-- The major class is in the bits 8 to 12 of the value. -/
def ClassOfDevice.major (cod : ClassOfDevice) : MajorDeviceClass :=
  .fromField ((cod.raw >>> 8) &&& 0b11111).toUInt8

/-- A device with everything that is known about it. -/
structure DeviceDetails extends DeviceInfo where
  class' : Option ClassOfDevice
  /-- The advertised TX power in dBm. -/
  txPower : Option Int16
  manufacturerData : List (CompanyId × List UInt8)
  /-- Service UUIDs, as texts. -/
  services : List String
  deriving DecidableEq, Repr

/-! ### Platforms -/

/-- The platform of a peer, as far as it can be told from what it advertises. -/
inductive PeerPlatform where
  | android
  | iPhone
  | appleMac
  | windows
  | unknown
  deriving DecidableEq, Repr

def PeerPlatform.label : PeerPlatform → String
  | .android => "Android"
  | .iPhone => "iPhone/iOS"
  | .appleMac => "Mac"
  | .windows => "Windows"
  | .unknown => "unknown"

/-- `n.contains(sub)`: the characters of `sub` stand somewhere in `n`. -/
def contains (n sub : String) : Bool := decide (sub.toList <:+: n.toList)

/-- The parts of a name that are taken for an Android device. -/
def androidHints : List String :=
  ["android", "galaxy", "pixel", "oneplus", "xiaomi", "redmi", "oppo", "vivo", "nexus"]

/-- What the name tells, which is given in lower case. The first hint that it contains decides. -/
def platformOfName (n : String) : Option PeerPlatform :=
  if contains n "iphone" || contains n "ipad" || contains n "ipod" then some .iPhone
  else if contains n "macbook" || contains n "imac" || contains n "mac mini" ||
      contains n "mac studio" || contains n "mac pro" then some .appleMac
  else if androidHints.any (contains n) then some .android
  else if contains n "surface" || contains n "windows" then some .windows
  else none

def CompanyId.apple : CompanyId := ⟨0x004C⟩

/-- Some entry of the manufacturer data is of the company Apple. -/
def DeviceDetails.isApple (info : DeviceDetails) : Bool :=
  info.manufacturerData.any fun entry => entry.1 = .apple

/-- What is known tells the platform: first the name, then the vendor, then the class alone.
`toLowercase` is `str::to_lowercase`. -/
def detectPlatform (toLowercase : String → String) (info : DeviceDetails) : PeerPlatform :=
  match info.name.bind fun name => platformOfName (toLowercase name) with
  | some platform => platform
  | none =>
    let major := info.class'.map ClassOfDevice.major
    if info.isApple then
      match major with
      | some .computer => .appleMac
      | some .phone => .iPhone
      | _ => .iPhone
    else
      match major with
      | some .phone => .android
      | _ => .unknown

/-! ### The dump -/

/-- A number in digits of upper case, with zeros in front up to the width: `{:06X}`, for
instance. -/
def upperHexText (width n : ℕ) : String := String.ofList (Text.upperHex width n)

/-- A line of the dump; the label is padded to 13 characters. -/
def dumpLine (label value : String) : String :=
  "  " ++ String.ofList (label.toList.rightpad 13 ' ') ++ value

def dBm (power : Int16) : String := power.toInt.repr ++ " dBm"

def ClassOfDevice.describe (cod : ClassOfDevice) : String :=
  "0x" ++ upperHexText 6 cod.raw.toNat ++ " (" ++ cod.major.display ++ ")"

def yesNo (b : Bool) : String := if b then "yes" else "no"

/-- One entry of the manufacturer data: the company, its identifier and the bytes. -/
def vendorData (entry : CompanyId × List UInt8) : String :=
  entry.1.display ++ " (0x" ++ hex4 entry.1.id ++ "): " ++ " ".intercalate (entry.2.map hex2)

/-- A field with its values: one for what is known, none for what is not. -/
def field {α : Type} (label : String) (print : α → String) (values : List α) :
    List (String × String) :=
  values.map fun a => (label, print a)

/-- The labels and values of what is known of a device, in the order in which they are printed. -/
def DeviceDetails.fields (toLowercase : String → String) (info : DeviceDetails) :
    List (String × String) :=
  let platform := detectPlatform toLowercase info
  field "name:" id info.name.toList ++
    field "platform:" PeerPlatform.label (if platform ≠ .unknown then [platform] else []) ++
    field "rssi:" dBm info.rssi.toList ++
    field "tx power:" dBm info.txPower.toList ++
    field "class:" ClassOfDevice.describe info.class'.toList ++
    field "paired:" yesNo [info.paired] ++
    field "connected:" yesNo [info.connected] ++
    field "vendor data:" vendorData info.manufacturerData ++
    field "service:" id info.services

/-- The lines of the dump: the device, and then a line for each field. -/
def DeviceDetails.lines (toLowercase : String → String) (info : DeviceDetails) : List String :=
  ("Device " ++ info.id.display) :: (info.fields toLowercase).map fun f => dumpLine f.1 f.2

/-- `dump`: each line ends with a newline. -/
def DeviceDetails.dump (toLowercase : String → String) (info : DeviceDetails) : String :=
  String.join ((info.lines toLowercase).map (· ++ "\n"))

end Pax
