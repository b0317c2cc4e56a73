import Pax.Core.Peer
import Pax.Diagnostics.Buckets

/-!
# The scan report

`dump_in_range_as` of `pax-transport/src/backend.rs` prints what was found: a line with the number
of devices, and for each of them an empty line and its dump.

Names are what the devices choose to advertise. As long as there is no line break in a name or a
service (`DeviceDetails.OneLine`), the report says exactly what was found (`scanReport_injective`),
down to the bytes of the vendor data. A report is read back in three steps:

* the text is split into its lines, and these into the blocks of the devices, since no line of a
  device is empty (`toList_scanReport`, with `Pax.Framework.Lines`);
* a line is split into its label and its value, since the labels are known and padded to one width
  (`dumpLine_inj`);
* the value tells the field, for each kind of field on its own (`dBm_injective`,
  `vendorData_injective` and the like), and `valuesOf_fields` collects the values label by label.
-/

namespace Pax

open Text (terminated headed)

/-- What `dump_in_range_as` makes of the devices that were found. -/
def scanReport (toLowercase : String → String) (devices : List DeviceDetails) : String :=
  "=== " ++ devices.length.repr ++ " device(s) in range ===\n" ++
    String.join (devices.map fun device => "\n" ++ device.dump toLowercase)

/-- There is no line break in the texts of the device. -/
structure DeviceDetails.OneLine (info : DeviceDetails) : Prop where
  name : ∀ name ∈ info.name, '\n' ∉ name.toList
  services : ∀ uuid ∈ info.services, '\n' ∉ uuid.toList

variable {toLowercase : String → String} {info info' : DeviceDetails}
  {devices devices' : List DeviceDetails}

/-! ### The values of a field -/

/-- The values that stand behind a label, in order. -/
def valuesOf (label : String) (fields : List (String × String)) : List String :=
  fields.filterMap fun f => if f.1 = label then some f.2 else none

theorem valuesOf_append (label : String) (fs gs : List (String × String)) :
    valuesOf label (fs ++ gs) = valuesOf label fs ++ valuesOf label gs :=
  List.filterMap_append

/-- Behind its own label, a field has its values. -/
theorem valuesOf_field_self {α : Type} (label : String) (print : α → String) (values : List α) :
    valuesOf label (field label print values) = values.map print := by
  unfold valuesOf field
  rw [List.filterMap_map, ← List.filterMap_eq_map]
  exact List.filterMap_congr fun a _ => if_pos rfl

/-- Behind its label, another field has no value. -/
theorem valuesOf_field_other {α : Type} {label other : String} (hne : other ≠ label)
    (print : α → String) (values : List α) : valuesOf label (field other print values) = [] := by
  unfold valuesOf field
  rw [List.filterMap_map, List.filterMap_eq_nil_iff]
  exact fun a _ => if_neg hne

/-- **The fields of a device**, label by label. -/
theorem valuesOf_fields (toLowercase : String → String) (info : DeviceDetails) :
    valuesOf "name:" (info.fields toLowercase) = info.name.toList ∧
    valuesOf "rssi:" (info.fields toLowercase) = info.rssi.toList.map dBm ∧
    valuesOf "tx power:" (info.fields toLowercase) = info.txPower.toList.map dBm ∧
    valuesOf "class:" (info.fields toLowercase) =
      info.class'.toList.map ClassOfDevice.describe ∧
    valuesOf "paired:" (info.fields toLowercase) = [yesNo info.paired] ∧
    valuesOf "connected:" (info.fields toLowercase) = [yesNo info.connected] ∧
    valuesOf "vendor data:" (info.fields toLowercase) = info.manufacturerData.map vendorData ∧
    valuesOf "service:" (info.fields toLowercase) = info.services := by
  unfold DeviceDetails.fields
  refine ⟨?_, ?_, ?_, ?_, ?_, ?_, ?_, ?_⟩ <;>
    simp (disch := decide) [valuesOf_append, valuesOf_field_self, valuesOf_field_other]

/-! ### The values can be told -/

theorem yesNo_injective : Function.Injective yesNo := by decide

theorem dBm_injective : Function.Injective dBm := by
  intro m n h
  have hrepr : m.toInt.repr.toList = n.toInt.repr.toList := by
    have hlist := congrArg String.toList h
    rw [dBm, dBm, String.toList_append, String.toList_append] at hlist
    exact List.append_cancel_right hlist
  -- both are read back
  have hread (i : Int16) : Text.parseSigned 10 (2 ^ 15) i.toInt.repr.toList = .ok i.toInt :=
    Text.parseSigned_repr i.le_toInt i.toInt_lt
  have hboth := (hread m).symm.trans ((congrArg _ hrepr).trans (hread n))
  exact Int16.toInt_inj.mp (Except.ok.inj hboth)

/-- The number has six digits behind `0x`, and it is what the class consists of. -/
theorem ClassOfDevice.describe_injective : Function.Injective ClassOfDevice.describe := by
  intro c d h
  have hlist := congrArg String.toList h
  simp only [describe, upperHexText, String.toList_append, String.toList_ofList,
    List.append_assoc] at hlist
  have hopen : " (".toList = ' ' :: "(".toList := rfl
  have hhex := List.append_cancel_left hlist
  rw [hopen, List.cons_append, List.cons_append] at hhex
  have hspace (n : ℕ) : ' ' ∉ Text.upperHex 6 n := Text.not_mem_upperHex (by decide) 6 n
  have hnumber := (Text.append_mark_inj (hspace _) (hspace _) hhex).1
  have hraw : c.raw.toNat = d.raw.toNat := Text.upperHex_inj hnumber
  exact congrArg mk (UInt32.toNat_inj.mp hraw)

theorem hex2_injective : Function.Injective hex2 := by
  intro a b h
  have hlist := congrArg String.toList h
  rw [toList_hex2, toList_hex2] at hlist
  simp only [List.cons.injEq] at hlist
  exact eq_of_hexDigit hlist.1 hlist.2.1

/-- Bytes are printed with hexadecimal digits only. -/
theorem not_mem_hex2 {c : Char} (hc : ∀ n < 16, hexDigit n ≠ c) (b : UInt8) :
    c ∉ (hex2 b).toList := by
  have hb := b.toNat_lt
  rw [toList_hex2, List.mem_cons, List.mem_singleton, not_or]
  exact ⟨(hc _ (by omega)).symm, (hc _ (by omega)).symm⟩

theorem not_mem_hex4 {c : Char} (hc : ∀ n < 16, hexDigit n ≠ c) (n : UInt16) :
    c ∉ (hex4 n).toList := by
  have hn := n.toNat_lt
  simp only [hex4, String.toList_ofList, List.mem_cons, List.not_mem_nil, or_false, not_or]
  exact ⟨(hc _ (by omega)).symm, (hc _ (by omega)).symm, (hc _ (by omega)).symm,
    (hc _ (by omega)).symm⟩

/-- The bytes are printed with spaces between them. -/
theorem toList_bytes (data : List UInt8) : (" ".intercalate (data.map hex2)).toList =
    [' '].intercalate (data.map fun b => (hex2 b).toList) := by
  rw [String.toList_intercalate, List.map_map]
  rfl

/-- The vendor can be told at the start, and the bytes stand behind its number. -/
theorem vendorData_injective : Function.Injective vendorData := by
  rintro ⟨c, data⟩ ⟨c', data'⟩ h
  have hlist := congrArg String.toList h
  have hopen : " (0x".toList = [' '] ++ "(0x".toList := rfl
  simp only [vendorData, String.toList_append, hopen, List.append_assoc] at hlist
  rw [← List.append_assoc, ← List.append_assoc c'.display.toList] at hlist
  obtain ⟨rfl, hrest⟩ := CompanyId.code_prefixFree.append_inj hlist
  have hbytes := List.append_cancel_left (List.append_cancel_left (List.append_cancel_left hrest))
  rw [toList_bytes, toList_bytes] at hbytes
  -- No byte is printed as nothing or with a blank, so that the bytes can be told apart.
  have hwords (ds : List UInt8) : ∀ w ∈ ds.map fun b => (hex2 b).toList, ' ' ∉ w ∧ w ≠ [] := by
    intro w hw
    obtain ⟨b, -, rfl⟩ := List.mem_map.mp hw
    refine ⟨not_mem_hex2 (by decide) b, ?_⟩
    rw [toList_hex2]
    exact List.cons_ne_nil _ _
  have hdata := Text.intercalate_inj_of_ne_nil (hwords data) (hwords data') hbytes
  have hhex2 : Function.Injective fun b : UInt8 => (hex2 b).toList := fun a b hab =>
    hex2_injective (String.toList_injective hab)
  rw [List.map_injective_iff.mpr hhex2 hdata]

/-! ### There is no line break in a value -/

theorem DeviceId.newline_not_mem_display (id : DeviceId) : '\n' ∉ id.display.toList := by
  have haddr : '\n' ∉ id.addr.display.toList := by
    simp only [BdAddr.display, String.toList_append, List.mem_append, not_or]
    simp [not_mem_hex2 (c := '\n') (by decide)]
  rw [DeviceId.display]
  cases id.addrType with
  | pub => exact haddr
  | random =>
    rw [String.toList_append, List.mem_append, not_or]
    exact ⟨haddr, by decide⟩

theorem CompanyId.newline_not_mem_display (c : CompanyId) : '\n' ∉ c.display.toList := by
  have hnames : ∀ p ∈ names, '\n' ∉ p.2.toList := by decide
  rw [display]
  cases hc : c.name with
  | some n => exact hnames _ (mem_names hc)
  | none =>
    rw [String.toList_append, List.mem_append, not_or]
    exact ⟨by decide, not_mem_hex4 (by decide) c.id⟩

theorem newline_not_mem_dBm (power : Int16) : '\n' ∉ (dBm power).toList := by
  rw [dBm, String.toList_append, List.mem_append, not_or]
  exact ⟨Text.not_mem_repr (by decide) (by decide), by decide⟩

theorem newline_not_mem_yesNo (b : Bool) : '\n' ∉ (yesNo b).toList := by
  cases b <;> decide

theorem PeerPlatform.newline_not_mem_label (p : PeerPlatform) : '\n' ∉ p.label.toList := by
  cases p <;> decide

theorem ClassOfDevice.newline_not_mem_describe (c : ClassOfDevice) :
    '\n' ∉ c.describe.toList := by
  have hmajor : '\n' ∉ c.major.display.toList := by cases c.major <;> decide
  simp only [describe, upperHexText, String.toList_append, String.toList_ofList, List.mem_append,
    not_or]
  exact ⟨⟨⟨⟨by decide, Text.not_mem_upperHex (by decide) 6 _⟩, by decide⟩, hmajor⟩, by decide⟩

theorem newline_not_mem_vendorData (entry : CompanyId × List UInt8) :
    '\n' ∉ (vendorData entry).toList := by
  have hbytes : '\n' ∉ (" ".intercalate (entry.2.map hex2)).toList := by
    rw [toList_bytes]
    intro hmem
    rcases Text.mem_intercalate hmem with hsep | ⟨w, hw, hmem⟩
    · exact absurd hsep (by decide)
    · obtain ⟨b, -, rfl⟩ := List.mem_map.mp hw
      exact not_mem_hex2 (by decide) b hmem
  simp only [vendorData, String.toList_append, List.mem_append, not_or]
  exact ⟨⟨⟨⟨entry.1.newline_not_mem_display, by decide⟩, not_mem_hex4 (by decide) _⟩, by decide⟩,
    hbytes⟩

/-! ### Lines -/

/-- The labels of the fields. -/
def labels : List String := ["name:", "platform:", "rssi:", "tx power:", "class:", "paired:",
  "connected:", "vendor data:", "service:"]

/-- The fields have labels of the list, and their values are on one line. -/
def Printable (fields : List (String × String)) : Prop :=
  ∀ f ∈ fields, f.1 ∈ labels ∧ '\n' ∉ f.2.toList

theorem Printable.append {fs gs : List (String × String)} (hfs : Printable fs)
    (hgs : Printable gs) : Printable (fs ++ gs) := by
  intro f hf
  rcases List.mem_append.mp hf with hf | hf
  · exact hfs f hf
  · exact hgs f hf

theorem printable_field {α : Type} {label : String} {print : α → String} {values : List α}
    (hlabel : label ∈ labels) (h : ∀ a ∈ values, '\n' ∉ (print a).toList) :
    Printable (field label print values) := by
  intro f hf
  obtain ⟨a, ha, rfl⟩ := List.mem_map.mp hf
  exact ⟨hlabel, h a ha⟩

theorem DeviceDetails.OneLine.printable (h : info.OneLine) :
    Printable (info.fields toLowercase) := by
  have hname : Printable (field "name:" id info.name.toList) :=
    printable_field (by decide) fun name hname => h.name name (Option.mem_toList.mp hname)
  have hservices : Printable (field "service:" id info.services) :=
    printable_field (by decide) h.services
  -- Field by field: what is printed of each has no line break in it.
  unfold DeviceDetails.fields
  refine Printable.append ?_ hservices
  refine Printable.append ?_ (printable_field (by decide) fun e _ => newline_not_mem_vendorData e)
  refine Printable.append ?_ (printable_field (by decide) fun b _ => newline_not_mem_yesNo b)
  refine Printable.append ?_ (printable_field (by decide) fun b _ => newline_not_mem_yesNo b)
  refine Printable.append ?_ (printable_field (by decide) fun c _ => c.newline_not_mem_describe)
  refine Printable.append ?_ (printable_field (by decide) fun n _ => newline_not_mem_dBm n)
  refine Printable.append ?_ (printable_field (by decide) fun n _ => newline_not_mem_dBm n)
  exact hname.append (printable_field (by decide) fun p _ => p.newline_not_mem_label)

/-- The label of a line can be told, and so the value: it is what is left behind the label and
its padding. -/
theorem dumpLine_inj {l l' v v' : String} (hl : l ∈ labels) (hl' : l' ∈ labels)
    (h : dumpLine l v = dumpLine l' v') : l = l' ∧ v = v' := by
  have hlist := congrArg String.toList h
  simp only [dumpLine, String.toList_append, String.toList_ofList, List.append_assoc] at hlist
  have hrest := List.append_cancel_left hlist
  have hlength : ∀ l ∈ labels, (l.toList.rightpad 13 ' ').length = 13 := by decide
  obtain ⟨hpadded, hvalue⟩ := List.append_inj hrest ((hlength l hl).trans (hlength l' hl').symm)
  have hlabels : ∀ l ∈ labels, ∀ l' ∈ labels,
      l.toList.rightpad 13 ' ' = l'.toList.rightpad 13 ' ' → l = l' := by decide
  exact ⟨hlabels l hl l' hl' hpadded, String.toList_injective hvalue⟩

theorem newline_not_mem_dumpLine {l v : String} (hl : l ∈ labels) (hv : '\n' ∉ v.toList) :
    '\n' ∉ (dumpLine l v).toList := by
  have hlabels : ∀ l ∈ labels, '\n' ∉ l.toList.rightpad 13 ' ' := by decide
  simp only [dumpLine, String.toList_append, String.toList_ofList, List.mem_append, not_or]
  exact ⟨⟨by decide, hlabels l hl⟩, hv⟩

/-- The lines of a device, as lists of characters. -/
def DeviceDetails.block (toLowercase : String → String) (info : DeviceDetails) :
    List (List Char) :=
  (info.lines toLowercase).map String.toList

/-- No line of a device is empty, or has a line break in it. -/
theorem DeviceDetails.OneLine.of_mem_block (h : info.OneLine) {line : List Char}
    (hline : line ∈ info.block toLowercase) : line ≠ [] ∧ '\n' ∉ line := by
  unfold DeviceDetails.block DeviceDetails.lines at hline
  rw [List.map_cons, List.mem_cons, List.map_map, List.mem_map] at hline
  rcases hline with rfl | ⟨f, hf, rfl⟩
  · have hid : '\n' ∉ info.id.display.toList := DeviceId.newline_not_mem_display info.id
    simp only [String.toList_append, List.mem_append, not_or]
    exact ⟨List.append_ne_nil_of_left_ne_nil (by decide) _, by decide, hid⟩
  · obtain ⟨hlabel, hvalue⟩ := h.printable f hf
    refine ⟨?_, newline_not_mem_dumpLine hlabel hvalue⟩
    simp [dumpLine]

/-- The fields of a device say all that is known of it. -/
theorem eq_of_fields (hid : info.id = info'.id)
    (h : info.fields toLowercase = info'.fields toLowercase) : info = info' := by
  obtain ⟨hname, hrssi, htx, hclass, hpaired, hconnected, hvendor, hservice⟩ :=
    valuesOf_fields toLowercase info
  obtain ⟨hname', hrssi', htx', hclass', hpaired', hconnected', hvendor', hservice'⟩ :=
    valuesOf_fields toLowercase info'
  -- An optional value is told by its lines, of which there are none or one.
  have htoList {α : Type} {o o' : Option α} (heq : o.toList = o'.toList) : o = o' := by
    have hhead := congrArg List.head? heq
    rwa [Option.head?_toList, Option.head?_toList] at hhead
  rw [h] at hname hrssi htx hclass hpaired hconnected hvendor hservice
  have hnames : info.name = info'.name := htoList (hname.symm.trans hname')
  have hrssis : info.rssi = info'.rssi :=
    htoList (List.map_injective_iff.mpr dBm_injective (hrssi.symm.trans hrssi'))
  have htxs : info.txPower = info'.txPower :=
    htoList (List.map_injective_iff.mpr dBm_injective (htx.symm.trans htx'))
  have hclasses : info.class' = info'.class' :=
    htoList (List.map_injective_iff.mpr ClassOfDevice.describe_injective
      (hclass.symm.trans hclass'))
  have hbonds : info.paired = info'.paired :=
    yesNo_injective (List.singleton_inj.mp (hpaired.symm.trans hpaired'))
  have hlinks : info.connected = info'.connected :=
    yesNo_injective (List.singleton_inj.mp (hconnected.symm.trans hconnected'))
  have hvendors : info.manufacturerData = info'.manufacturerData :=
    List.map_injective_iff.mpr vendorData_injective (hvendor.symm.trans hvendor')
  have hservices : info.services = info'.services := hservice.symm.trans hservice'
  -- All fields are the same, and so are the devices.
  have hbase : info.toDeviceInfo = info'.toDeviceInfo := by
    show DeviceInfo.mk _ _ _ _ _ = DeviceInfo.mk _ _ _ _ _
    rw [hid, hnames, hrssis, hbonds, hlinks]
  show DeviceDetails.mk _ _ _ _ _ = DeviceDetails.mk _ _ _ _ _
  rw [hbase, hclasses, htxs, hvendors, hservices]

/-- **A dump says what is known of the device.** -/
theorem DeviceDetails.OneLine.block_inj (h : info.OneLine) (h' : info'.OneLine)
    (heq : info.block toLowercase = info'.block toLowercase) : info = info' := by
  have hlines : info.lines toLowercase = info'.lines toLowercase :=
    List.map_injective_iff.mpr (fun a b hab => String.toList_injective hab) heq
  obtain ⟨hfirst, hrest⟩ := List.cons.inj hlines
  have hid : info.id = info'.id := by
    have hlist := congrArg String.toList hfirst
    rw [String.toList_append, String.toList_append] at hlist
    exact DeviceId.display_injective (String.toList_injective (List.append_cancel_left hlist))
  refine eq_of_fields hid (Text.map_inj_of_mem ?_ h.printable h'.printable hrest)
  rintro ⟨l, v⟩ ⟨l', v'⟩ hf hf' hline
  obtain ⟨rfl, rfl⟩ := dumpLine_inj hf.1 hf'.1 hline
  rfl

/-! ### The report -/

/-- The first line of the report, with the number of devices. -/
def reportHeader (devices : List DeviceDetails) : String :=
  "=== " ++ devices.length.repr ++ " device(s) in range ==="

theorem newline_not_mem_reportHeader : '\n' ∉ (reportHeader devices).toList := by
  have hnumber : '\n' ∉ devices.length.repr.toList :=
    Text.not_mem_repr (i := devices.length) (by decide) (by decide)
  simp only [reportHeader, String.toList_append, List.mem_append, not_or]
  exact ⟨⟨by decide, hnumber⟩, by decide⟩

theorem toList_dump (toLowercase : String → String) (info : DeviceDetails) :
    (info.dump toLowercase).toList = terminated '\n' (info.block toLowercase) := by
  unfold DeviceDetails.dump DeviceDetails.block terminated
  rw [String.toList_join, List.flatMap_map, List.flatMap_map]
  refine List.flatMap_congr fun line _ => ?_
  exact String.toList_append

/-- **The lines of the report**: the first one, and the blocks of the devices, each after an empty
line. -/
theorem toList_scanReport (toLowercase : String → String) (devices : List DeviceDetails) :
    (scanReport toLowercase devices).toList = terminated '\n'
      ([(reportHeader devices).toList] ++
        headed [] (devices.map (DeviceDetails.block toLowercase))) := by
  -- The report is the header, and each device is a block of lines with an empty one in front.
  have hdevices : (String.join (devices.map fun device =>
      "\n" ++ device.dump toLowercase)).toList =
        headed '\n' ((devices.map (DeviceDetails.block toLowercase)).map (terminated '\n')) := by
    unfold headed
    rw [String.toList_join, List.flatMap_map, List.flatMap_map, List.flatMap_map]
    refine List.flatMap_congr fun device _ => ?_
    rw [String.toList_append, toList_dump]
    rfl
  have hheader : (reportHeader devices ++ "\n").toList =
      terminated '\n' [(reportHeader devices).toList] := by
    rw [String.toList_append, terminated, List.flatMap_singleton]
    rfl
  have hsplit : scanReport toLowercase devices = reportHeader devices ++ "\n" ++
      String.join (devices.map fun device => "\n" ++ device.dump toLowercase) := by
    have hbreak : " device(s) in range ===\n" = " device(s) in range ===" ++ "\n" := rfl
    rw [scanReport, reportHeader, hbreak]
    simp only [String.append_assoc]
  rw [hsplit, String.toList_append, hheader, hdevices, Text.terminated_append,
    Text.terminated_headed]

/-- **The report says what was found.** As long as no name and no service has a line break in it,
two reports are the same only if every device of them is, with all that is known of it. -/
theorem scanReport_injective (toLowercase : String → String) (devices devices' : List DeviceDetails)
    (h : ∀ device ∈ devices, device.OneLine) (h' : ∀ device ∈ devices', device.OneLine)
    (heq : scanReport toLowercase devices = scanReport toLowercase devices') :
    devices = devices' := by
  have hnewline {ds : List DeviceDetails} (hds : ∀ device ∈ ds, device.OneLine) :
      ∀ line ∈ [(reportHeader ds).toList] ++ headed [] (ds.map (DeviceDetails.block toLowercase)),
        '\n' ∉ line := by
    intro line hline
    rcases List.mem_append.mp hline with hline | hline
    · rw [List.mem_singleton.mp hline]
      exact newline_not_mem_reportHeader
    · obtain ⟨block, hblock, hline⟩ := List.mem_flatMap.mp hline
      obtain ⟨device, hdevice, rfl⟩ := List.mem_map.mp hblock
      rcases List.mem_cons.mp hline with rfl | hline
      · exact List.not_mem_nil
      · exact ((hds device hdevice).of_mem_block hline).2
  -- Within a block no line is empty, and so the empty lines are those between blocks.
  have hempty {ds : List DeviceDetails} (hds : ∀ device ∈ ds, device.OneLine) :
      ∀ block ∈ ds.map (DeviceDetails.block toLowercase), [] ∉ block := by
    intro block hblock hmem
    obtain ⟨device, hdevice, rfl⟩ := List.mem_map.mp hblock
    exact ((hds device hdevice).of_mem_block hmem).1 rfl
  have hheader (ds : List DeviceDetails) : [] ∉ [(reportHeader ds).toList] := by
    rw [List.mem_singleton]
    exact fun hnil => by simp [reportHeader] at hnil
  -- the lines, then the blocks of them, then the devices
  have hlist := congrArg String.toList heq
  rw [toList_scanReport, toList_scanReport] at hlist
  have hlines := Text.terminated_inj (hnewline h) (hnewline h') hlist
  have hblocks := (Text.headed_inj (hheader _) (hheader _) (hempty h) (hempty h') hlines).2
  exact Text.map_inj_of_mem (fun a b ha hb hab => ha.block_inj hb hab) h h' hblocks

/-- A phone in range, which has a name and a class. -/
def pixel : DeviceDetails :=
  { id := .pub ⟨#v[0x11, 0x22, 0x33, 0x44, 0x55, 0x77]⟩, name := some "Pixel 8", rssi := some (-57)
    paired := false, connected := false, class' := some (.new 0x5A020C), txPower := none
    manufacturerData := [], services := [] }

/-- A tag that has no name. -/
def tag : DeviceDetails :=
  { id := .pub .nil, name := none, rssi := none, paired := false, connected := false
    class' := none, txPower := some 4, manufacturerData := [(.apple, [0x10, 0x05])]
    services := ["180f"] }

theorem oneLine_pixel : pixel.OneLine :=
  ⟨fun name hname => by cases hname; decide, fun _ h => absurd h List.not_mem_nil⟩

theorem oneLine_tag : tag.OneLine :=
  ⟨fun _ h => absurd h (Option.not_mem_none _), fun uuid h => by
    rw [List.mem_singleton.mp h]; decide⟩

/-- The phone and the tag, in whichever way they were found. -/
theorem scanReport_injective_pixel : [pixel, tag] = [tag, pixel].reverse := by
  have hboth : ∀ device ∈ [pixel, tag], device.OneLine :=
    List.forall_mem_cons.mpr ⟨oneLine_pixel, List.forall_mem_singleton.mpr oneLine_tag⟩
  exact scanReport_injective id [pixel, tag] [tag, pixel].reverse hboth hboth rfl

/-- A name with a line break in it reads as a field of its own. -/
example :
    scanReport id [{ tag with
      name := some "x\n  tx power:    4 dBm", txPower := none, manufacturerData := [] }] =
    scanReport id [{ tag with name := some "x", manufacturerData := [] }] := by
  decide

end Pax
