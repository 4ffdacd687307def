import PciCatalog.Proofs.AddressNumbers
import PciCatalog.Proofs.Nameless

/-!
# The locations of devices

A device that was read has an address, and so has the bridge above it if it has one.  Hence both are
taken apart and read as numbers without failing.  Main statement: the parts of an address, joined,
are the address again, each part is read as one number of the address, and a device has the labels
of its location and numbers in any case and those of its names if there is a database
(`read_devices_are_located`).
-/

namespace PciCatalog

namespace Hexadecimal

/-- Three bits are enough for the digit of a function. -/
theorem value_lt_of_isFunctionDigit {c : Char} (h : Address.isFunctionDigit c = true) :
    value [c] < 8 := by
  have hall : ∀ c ∈ hexDigits, Address.isFunctionDigit c = true → value [c] < 8 :=
    Text.forall_mem_of_all (by decide)
  exact hall c (Address.mem_hexDigits_of_isHexDigit (Address.isHexDigit_of_isFunctionDigit h)) h

/-- The value of digits does not depend on their case. -/
theorem value_map_toLower {digits : List Char} (h : ∀ c ∈ digits, c ∈ hexDigits) :
    value (digits.map Char.toLower) = value digits := by
  have hdigit : ∀ c ∈ hexDigits, digitValue c.toLower = digitValue c :=
    Text.forall_mem_of_all (by decide)
  induction digits with
  | nil => rfl
  | cons c rest ih =>
    rw [List.forall_mem_cons] at h
    rw [List.map_cons, value_cons, value_cons, List.length_map, hdigit c h.1, ih h.2]

end Hexadecimal

namespace Address

open Hexadecimal (value)

/-- The text that some parts are the parts of. -/
def Parts.joined (p : Parts) : String :=
  p.segment ++ ":" ++ p.bus ++ ":" ++ p.device ++ "." ++ p.function

/-- The numbers that the parts of an address are read as. -/
structure Parts.ReadAs (p : Parts) (segment bus device function : Int) : Prop where
  segment : Numeral.hexadecimal? p.segment.toList = some segment
  bus : Numeral.hexadecimal? p.bus.toList = some bus
  device : Numeral.hexadecimal? p.device.toList = some device
  function : Numeral.hexadecimal? p.function.toList = some function

namespace Form

variable (f : Form)

theorem toList_joined_parts : f.parts.joined.toList = Text.lower f.text := by
  rw [f.lower_text]
  simp [Parts.joined, parts, text, lower]

/-- The parts are read as the values of the pieces. -/
theorem readAs_parts : f.parts.ReadAs (value f.segment) (value f.bus) (value f.device)
    (value [f.function]) := by
  obtain ⟨hsegment, hbus, hdevice, hfunction⟩ := f.mem_hexDigits
  obtain ⟨hreadSegment, hreadBus, hreadDevice, hreadFunction⟩ := f.lower.hexadecimal?_pieces
  rw [← Hexadecimal.value_map_toLower hsegment, ← Hexadecimal.value_map_toLower hbus,
    ← Hexadecimal.value_map_toLower hdevice, ← Hexadecimal.value_map_toLower hfunction]
  constructor
  · rw [parts, String.toList_ofList]
    exact hreadSegment
  · rw [parts, String.toList_ofList]
    exact hreadBus
  · rw [parts, String.toList_ofList]
    exact hreadDevice
  · rw [parts, String.toList_ofList]
    exact hreadFunction

/-- The numbers of an address are as small as its pieces are short. -/
theorem values_lt : value f.segment < 2 ^ 16 ∧ value f.bus < 2 ^ 8 ∧ value f.device < 2 ^ 8 ∧
    value [f.function] < 8 := by
  obtain ⟨hsegment, hbus, hdevice, -⟩ := f.mem_hexDigits
  have hsegmentValue := Hexadecimal.value_lt hsegment
  have hbusValue := Hexadecimal.value_lt hbus
  have hdeviceValue := Hexadecimal.value_lt hdevice
  rw [f.length_segment] at hsegmentValue
  rw [f.length_bus] at hbusValue
  rw [f.length_device] at hdeviceValue
  exact ⟨hsegmentValue, hbusValue, hdeviceValue,
    Hexadecimal.value_lt_of_isFunctionDigit f.functionDigit⟩

/-- No address has the parts of a missing one. -/
theorem parts_ne_noParts : f.parts ≠ noParts := by
  intro h
  have hsegment : String.ofList (f.segment.map Char.toLower) = "*" := congrArg Parts.segment h
  have hpiece := congrArg String.toList hsegment
  rw [String.toList_ofList] at hpiece
  have hlength := congrArg List.length hpiece
  rw [List.length_map, f.length_segment] at hlength
  contradiction

end Form
end Address

namespace Device

/-- The labels of the location and the numbers, which every device has. -/
def idKeys : List String :=
  ["segment", "bus", "device", "function", "parent_segment", "parent_bus", "parent_device",
    "parent_function", "class_id", "vendor_id", "device_id", "subsystem_vendor_id",
    "subsystem_device_id", "revision"]

/-- A device has its labels whatever they say, those of names if there is a database. -/
theorem map_fst_labels {d : Device} {db : Option Database} {labels : Labels}
    (h : d.labels db = .ok labels) :
    labels.map Prod.fst = idKeys ++ if db.isSome then nameKeys else [] := by
  obtain ⟨own, parent, rfl⟩ := exists_of_labels h
  rw [List.map_append]
  cases db with
  | none => rfl
  | some db => exact congrArg (idKeys ++ ·) (map_fst_nameLabels d db)

theorem nodup_keys : (idKeys ++ nameKeys).Nodup := by
  decide

end Device

namespace Sysfs

variable {fs : FileSystem} {path : Path} {d : Device}

/-- A device that was read, among others or alone, has an address, and so has its parent. -/
theorem accepts_of_reading
    (h : (∃ devices, discover fs path = .ok devices ∧ d ∈ devices) ∨
      ∃ b, read fs b path = .ok d) :
    Address.accepts d.address = true ∧
      ∀ parent ∈ d.parentAddress, Address.accepts parent = true := by
  rcases h with ⟨devices, hdevices, hd⟩ | ⟨b, hread⟩
  · obtain ⟨haccepts, hrecord⟩ := record_of_mem hdevices hd
    exact ⟨haccepts, accepts_parentAddress hrecord⟩
  · obtain ⟨haccepts, hrecord⟩ := record_of_read hread
    rw [address_of_record? hrecord]
    exact ⟨haccepts, accepts_parentAddress hrecord⟩

/-- Every device that was read, among others or alone, tells its location.  The numbers of its
address come out and are in their ranges.  The parts of the address are read as these numbers and,
joined, are the address in lower case.  The parts of its parent's address are stars when it has no
parent, and otherwise they are, joined, this address in lower case.  Its labels come out as well,
with or without a database, and a database adds the labels of names and no others. -/
theorem read_devices_are_located (db : Option Database)
    (h : (∃ devices, discover fs path = .ok devices ∧ d ∈ devices) ∨
      ∃ b, read fs b path = .ok d) :
    (∃ (segment bus device function : Nat) (own : Address.Parts),
      Address.domain d.address = .ok (segment : Int) ∧ Address.bus d.address = .ok (bus : Int) ∧
      Address.deviceAndFunction d.address = .ok ((device : Int), (function : Int)) ∧
      (segment < 2 ^ 16 ∧ bus < 2 ^ 8 ∧ device < 2 ^ 8 ∧ function < 8) ∧
      d.location = .ok own ∧ own.ReadAs segment bus device function ∧
      own.joined.toList = Text.lower d.address.toList) ∧
    (∃ parent, d.parentLocation = .ok parent ∧
      (parent = Address.noParts ↔ d.parentAddress = none) ∧
      ∀ above ∈ d.parentAddress, parent.joined.toList = Text.lower above.toList) ∧
    ∃ labels, d.labels db = .ok labels ∧ (labels.map Prod.fst).Nodup ∧
      labels.map Prod.fst = Device.idKeys ++ if db.isSome then Device.nameKeys else [] := by
  obtain ⟨haddress, hparent⟩ := accepts_of_reading h
  refine ⟨?_, ?_, ?_⟩
  · obtain ⟨f, htext⟩ := Address.accepts_iff.1 haddress
    refine ⟨_, _, _, _, f.parts, f.domain_eq htext, f.bus_eq htext, f.deviceAndFunction_eq htext,
      f.values_lt, f.parts_eq htext, f.readAs_parts, ?_⟩
    rw [htext, f.toList_joined_parts]
  · rw [Device.parentLocation]
    cases habove : d.parentAddress with
    | none => exact ⟨_, rfl, by simp, by simp⟩
    | some above =>
      obtain ⟨f, htext⟩ := Address.accepts_iff.1 (hparent above habove)
      refine ⟨f.parts, f.parts_eq htext, by simp [f.parts_ne_noParts], ?_⟩
      rintro _ ⟨⟩
      rw [htext, f.toList_joined_parts]
  · obtain ⟨_, _, hlabels⟩ := d.labels_eq db haddress hparent
    have hkeys := Device.map_fst_labels hlabels
    refine ⟨_, hlabels, ?_, hkeys⟩
    rw [hkeys]
    split
    · exact Device.nodup_keys
    · rw [List.append_nil]
      exact Device.nodup_keys.of_append_left

/-- A device with a bridge above it. -/
def bridgedDevice : FileSystem where
  nodes := [(["s"], .directory), (["s", "0000:3A:00.1"], .link "../d/0000:00:1C.4/0000:3A:00.1"),
    (["d"], .directory), (["d", "0000:00:1C.4"], .directory),
    (["d", "0000:00:1C.4", "0000:3A:00.1"], .directory),
    (["d", "0000:00:1C.4", "0000:3A:00.1", "vendor"], .file "0x8086\n".toUTF8.data.toList),
    (["d", "0000:00:1C.4", "0000:3A:00.1", "device"], .file "0x1533\n".toUTF8.data.toList)]
  workingDir := []
  distinct := by decide

/-- The device of `bridgedDevice`. -/
def deviceBelowBridge : Device where
  address := "0000:3A:00.1"
  vendorId := 0x8086
  deviceId := 0x1533
  parentAddress := some "0000:00:1C.4"

theorem bridgedDevice_is_located :
    read bridgedDevice "0000:3A:00.1" (Path.ofString "s") = .ok deviceBelowBridge ∧
      (∃ own, deviceBelowBridge.location = .ok own ∧ own.joined = "0000:3a:00.1" ∧
        Address.bus deviceBelowBridge.address = .ok 0x3a) ∧
      (∃ parent, deviceBelowBridge.parentLocation = .ok parent ∧ parent ≠ Address.noParts ∧
        parent.joined = "0000:00:1c.4") ∧
      ∃ labels, deviceBelowBridge.labels (some ∅) = .ok labels ∧ labels.length = 19 := by
  have hread : read bridgedDevice "0000:3A:00.1" (Path.ofString "s") = .ok deviceBelowBridge := by
    decide +kernel
  have hall := read_devices_are_located (some ∅) (.inr ⟨_, hread⟩)
  obtain ⟨⟨_, _, _, _, own, -, -, -, -, hown, -, hjoined⟩, ⟨parent, hparent, hstars, habove⟩,
    labels, hlabels, -, hkeys⟩ := hall
  have hlength := congrArg List.length hkeys
  refine ⟨hread, ⟨own, hown, ?_, by decide +kernel⟩, ⟨parent, hparent, ?_, ?_⟩, labels, hlabels, ?_⟩
  · rw [← String.toList_inj, hjoined]
    decide +kernel
  · rw [Ne, hstars]
    exact Option.some_ne_none _
  · rw [← String.toList_inj, habove _ rfl]
    decide +kernel
  · rwa [List.length_map] at hlength

end Sysfs
end PciCatalog
