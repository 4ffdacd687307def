import PciCatalog.Database
import PciCatalog.Device

/-!
# Labels

The texts that describe a device: the parts of its address and of its parent's, its numbers, and,
when a database is at hand, the names of its numbers.
-/

namespace PciCatalog

/-- Labels and their values, in the order of a report. -/
abbrev Labels := List (String × String)

namespace Labels

/-- The value of a label. -/
def find? (labels : Labels) (label : String) : Option String :=
  List.lookup label labels

end Labels

namespace Device

/-- The labels for an address and the address of its parent. -/
def addressLabels (own parent : Address.Parts) : Labels :=
  [("segment", own.segment), ("bus", own.bus), ("device", own.device),
    ("function", own.function), ("parent_segment", parent.segment), ("parent_bus", parent.bus),
    ("parent_device", parent.device), ("parent_function", parent.function)]

/-- The labels for the numbers of a device. -/
def numberLabels (d : Device) : Labels :=
  [("class_id", d.classText), ("vendor_id", d.vendorText), ("device_id", d.deviceText),
    ("subsystem_vendor_id", d.subsystemVendorText),
    ("subsystem_device_id", d.subsystemDeviceText), ("revision", d.revisionText)]

/-- The labels for the names of a device's numbers. -/
def nameLabels (d : Device) (db : Database) : Labels :=
  [("vendor_name", db.vendorName d.vendorText),
    ("device_name", db.deviceName d.vendorText d.deviceText),
    ("subsystem_vendor_name", db.vendorName d.subsystemVendorText),
    ("subsystem_device_name",
      db.subsystemName d.vendorText d.deviceText d.subsystemVendorText d.subsystemDeviceText),
    ("class_name", db.className d.classText)]

/-- The labels of a device, with names when there is a database. -/
def labels (d : Device) (db : Option Database) : Except AddressError Labels := do
  let own ← d.location
  let parent ← d.parentLocation
  pure (addressLabels own parent ++ d.numberLabels ++
    match db with
    | some db => d.nameLabels db
    | none => [])

end Device
end PciCatalog
