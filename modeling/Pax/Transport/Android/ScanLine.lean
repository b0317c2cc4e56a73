import Pax.Core.AddressText
import Pax.Framework.Utf16

/-!
# The line of a scan result

The companion `PaxBluetooth` puts what a scan finds into lines (`onReceive`), and `live_discover` of
`pax-transport/src/android.rs` takes them apart (`readLine`). The fields are joined by bars, and
nothing keeps a bar out of the name of a device: `readLine_eq_iff` says that the result is the one
that was found if and only if its name has none. With a bar, the name is cut off there, and what
follows is taken for the strength of the signal (`readLine_line_of_mem`, `bar_in_name`).

Strings of Java are their UTF-16 code units. What `get_string` of the JNI makes of them is a
parameter, of which it is assumed that it reads the units of a text as this text.
-/

namespace Pax
namespace Android

open Text

/-! ### Java -/

/-- A Java string, as its code units. It need not be the encoding of a text. -/
abbrev JString : Type := List UInt16

/-- The units of a text as Java has it, in UTF-16. -/
def units (s : String) : JString := Utf16.encode s.toList

/-- `onReceive`: the line of a device that was found. The name can be null. -/
def onReceive (addr : JString) (name : Option JString) (rssi : Int16) : JString :=
  addr ++ units "|" ++ name.getD [] ++ units "|" ++ units rssi.toInt.repr

/-! ### Rust -/

section

variable (getString : JString → Option String)

/-- `jstring_opt`: a null object is no text, and neither is one whose units cannot be read. -/
def jstringOpt (obj : Option JString) : Option String := obj.bind getString

/-- `parse::<i16>`: an optional sign and decimal digits, in the range of 16 bits. -/
def parseI16 (cs : List Char) : Except ParseIntError Int16 :=
  (parseSigned 10 (2 ^ 15) cs).map Int16.ofInt

/-- One turn of the loop over the lines; `none` if it is skipped. -/
def readLine (line : String) : Option DeviceInfo :=
  let parts := line.toList.splitOn '|'
  let addrS := parts.getD 0 []
  let nameS := parts.getD 1 []
  let rssiS := parts.getD 2 []
  match BdAddr.fromStr (String.ofList addrS) with
  | .error _ => none
  | .ok addr => some {
      id := .pub addr
      name := if nameS = [] then none else some (String.ofList nameS)
      rssi := match parseI16 rssiS with
        -- the companion sends the least value for an unknown one
        | .ok rssi => if rssi ≠ Int16.minValue then some rssi else none
        | .error _ => none
      paired := false
      connected := false }

/-- What a scan comes to: the lines that can be read, in order. -/
def readLines (array : List (Option JString)) : List DeviceInfo :=
  array.filterMap fun el => (jstringOpt getString el).bind readLine

end

/-! ### Round trip -/

/-- The device that was found, as the line about it should be read. An empty name is no name. -/
def found (addr : BdAddr) (name : Option String) (rssi : Int16) : DeviceInfo where
  id := .pub addr
  name := if name.getD "" = "" then none else name
  rssi := if rssi = Int16.minValue then none else some rssi
  paired := false
  connected := false

/-- The line of a device as a text, with an empty name for a device without one. -/
def line (addr : BdAddr) (name : String) (rssi : Int16) : List Char :=
  addr.display.toList ++ '|' :: (name.toList ++ '|' :: rssi.toInt.repr.toList)

theorem units_append (s t : String) : units (s ++ t) = units s ++ units t := by
  rw [units, String.toList_append]
  exact List.flatMap_append

theorem onReceive_units (addr : BdAddr) (name : Option String) (rssi : Int16) :
    onReceive (units addr.display) (name.map units) rssi
      = units (String.ofList (line addr (name.getD "") rssi)) := by
  have hname : (name.map units).getD [] = units (name.getD "") := by
    cases name with
    | none => rfl
    | some n => rfl
  have hline : String.ofList (line addr (name.getD "") rssi)
      = addr.display ++ "|" ++ name.getD "" ++ "|" ++ rssi.toInt.repr := by
    apply String.toList_inj.mp
    simp [line]
  rw [onReceive, hname, hline]
  simp only [units_append]

theorem not_mem_display (addr : BdAddr) : '|' ∉ addr.display.toList := by
  rw [← BdAddr.text_spelling, BdAddr.Spelling.toList_text]
  intro hmem
  obtain h | ⟨part, hpart, hmem⟩ := mem_intercalate hmem
  · cases h
  · obtain ⟨g, -, rfl⟩ := List.mem_map.mp hpart
    exact g.not_mem_text (by decide) (by decide) hmem

theorem parseI16_repr (rssi : Int16) : parseI16 rssi.toInt.repr.toList = .ok rssi := by
  rw [parseI16, parseSigned_repr rssi.le_toInt rssi.toInt_lt]
  exact congrArg Except.ok (Int16.ofInt_toInt rssi)

/-- A line is read up to its second bar, whatever follows. -/
theorem readLine_of_split (addr : BdAddr) {name rest : List Char} (hname : '|' ∉ name) :
    readLine (String.ofList (addr.display.toList ++ '|' :: (name ++ '|' :: rest))) = some {
      id := .pub addr
      name := if name = [] then none else some (String.ofList name)
      rssi := match parseI16 ((rest.splitOn '|').getD 0 []) with
        | .ok rssi => if rssi ≠ Int16.minValue then some rssi else none
        | .error _ => none
      paired := false
      connected := false } := by
  -- Neither the address nor the name has a bar, so that the line is split where it was put
  -- together.
  rw [readLine]
  simp only [String.toList_ofList,
    List.splitOn_append_cons_self_of_not_mem (not_mem_display addr),
    List.splitOn_append_cons_self_of_not_mem hname, List.getD_cons_zero, List.getD_cons_succ,
    String.ofList_toList, BdAddr.fromStr_display]

/-- **A name without bars is read back**, and so is the rest. -/
theorem readLine_line {addr : BdAddr} {name : Option String} {rssi : Int16}
    (h : '|' ∉ (name.getD "").toList) :
    readLine (String.ofList (line addr (name.getD "") rssi)) = some (found addr name rssi) := by
  have hrepr : '|' ∉ rssi.toInt.repr.toList := not_mem_repr (by decide) (by decide)
  -- A name that is missing is written as nothing, and nothing is read as no name.
  have hname : (if (name.getD "").toList = [] then none
      else some (String.ofList (name.getD "").toList)) = (found addr name rssi).name := by
    rw [found, String.ofList_toList]
    simp only [String.toList_eq_nil_iff]
    cases name with
    | none => rfl
    | some n => rfl
  have hrssi : (if rssi ≠ Int16.minValue then some rssi else none) = (found addr name rssi).rssi :=
    ite_not _ _ _
  rw [line, readLine_of_split addr h, List.splitOn_eq_singleton hrepr, List.getD_cons_zero,
    parseI16_repr, hname]
  dsimp only
  rw [hrssi]
  rfl

/-- **A name with a bar is cut off there**, so the device is read with another name. -/
theorem readLine_line_of_mem (addr : BdAddr) {name : String} (rssi : Int16)
    (h : '|' ∈ name.toList) : ∃ info, readLine (String.ofList (line addr name rssi)) = some info ∧
      info.name ≠ some name := by
  obtain ⟨front, rest, hname, hfront⟩ := List.eq_append_cons_of_mem h
  have hline : line addr name rssi = addr.display.toList ++
      '|' :: (front ++ '|' :: (rest ++ '|' :: rssi.toInt.repr.toList)) := by
    rw [line, hname, List.append_assoc, List.cons_append]
  refine ⟨_, hline ▸ readLine_of_split addr hfront, ?_⟩
  -- The name that is read ends at the first bar, and has none itself.
  dsimp only
  intro heq
  split_ifs at heq
  apply hfront
  rw [← String.toList_ofList (l := front), Option.some.inj heq]
  exact h

/-- **The line of a scan result round-trips** if and only if the name of the device has no bar. -/
theorem readLine_eq_iff (getString : JString → Option String)
    (hget : ∀ s, getString (units s) = some s) (addr : BdAddr) (name : Option String)
    (rssi : Int16) :
    (jstringOpt getString (some (onReceive (units addr.display) (name.map units) rssi))).bind
        readLine = some (found addr name rssi) ↔ '|' ∉ (name.getD "").toList := by
  rw [onReceive_units, jstringOpt, Option.bind_some, hget, Option.bind_some]
  refine ⟨fun h hbar => ?_, fun h => readLine_line h⟩
  -- A name that is missing has no bar in it.
  cases name with
  | none => cases hbar
  | some n =>
    obtain ⟨info, hinfo, hne⟩ := readLine_line_of_mem addr rssi hbar
    have heq : info = found addr (some n) rssi := Option.some.inj (hinfo.symm.trans h)
    apply hne
    have hn : n ≠ "" := by
      rintro rfl
      cases hbar
    rw [heq, found]
    exact if_neg hn

/-- What `get_string` makes of the units of a text. -/
def ofUnits (u : JString) : Option String := (Utf16.decode u).map String.ofList

theorem ofUnits_units (s : String) : ofUnits (units s) = some s := by
  rw [ofUnits, units, Utf16.decode_encode, Option.map_some, String.ofList_toList]

/-- A name without bars comes back, with the address and the strength of the signal. -/
theorem readLine_eq_iff_speaker :
    '|' ∉ "Speaker".toList ∧
      (jstringOpt ofUnits (some (onReceive (units BdAddr.nil.display) (some (units "Speaker"))
        (-57)))).bind readLine = some (found BdAddr.nil (some "Speaker") (-57)) :=
  ⟨by decide, (readLine_eq_iff ofUnits ofUnits_units BdAddr.nil (some "Speaker") (-57)).mpr
    (by decide)⟩

/-- A bar in the name cuts it off, and the strength of the signal is lost. -/
theorem bar_in_name :
    (jstringOpt ofUnits (some (onReceive (units BdAddr.nil.display) (some (units "a|b"))
      (-57)))).bind readLine = some ⟨.pub BdAddr.nil, some "a", none, false, false⟩ ∧
    ¬ ∀ addr name rssi, (jstringOpt ofUnits (some (onReceive (units addr.display)
      (name.map units) rssi))).bind readLine = some (found addr name rssi) := by
  have hread : (jstringOpt ofUnits (some (onReceive (units BdAddr.nil.display)
      (some (units "a|b")) (-57)))).bind readLine
        = some ⟨.pub BdAddr.nil, some "a", none, false, false⟩ := by
    decide
  refine ⟨hread, fun h => ?_⟩
  have heq := hread.symm.trans (h BdAddr.nil (some "a|b") (-57))
  revert heq
  decide

end Android
end Pax
