import PciCatalog.Database.Loading
import PciCatalog.Device.Metrics
import PciCatalog.Gpu
import PciCatalog.Json

/-!
# Reports

The answers to requests, as lines for a reader and as JSON for other programs.
-/

namespace PciCatalog
namespace Command
namespace Report

/-- The decimal digits of an integer with its sign. -/
def number (n : Int) : String :=
  String.ofList (Json.intText n)

/-- Labels as members of an object. -/
def members (labels : Labels) : List (String × Json) :=
  labels.map fun (label, value) => (label, .text value)

/-- The value of a label, or else of a second one. -/
def labelOr (labels : Labels) (label other : String) : String :=
  ((labels.find? label) <|> (labels.find? other)).getD ""

/-- A name with the number that it stands for in brackets, or just the number when there is no
name. -/
def described (labels : Labels) (name id : String) : String :=
  match labels.find? name with
  | some found => found ++ " [" ++ labelOr labels id id ++ "]"
  | none => labelOr labels id id

/-- The speed of a link with six significant digits. -/
def speedText (speed : Binary64) : String :=
  String.ofList (speed.textWith (Decimal.significant 6) ⟨-4, 5, false⟩)

/-- A link by its speed and its width. -/
def link (speed : Option Binary64) (width : Option Int) : String :=
  match speed, width with
  | none, none => "unknown"
  | some s, some w => speedText s ++ " GT/s x" ++ number w
  | some s, none => speedText s ++ " GT/s unknown width"
  | none, some w => "unknown speed x" ++ number w

/-- A flag as a word. -/
def flag : Option Bool → String
  | none => "unknown"
  | some true => "yes"
  | some false => "no"

/-- The power state, if one is reported. -/
def power (state : Option String) : String :=
  match state with
  | none => "unknown"
  | some s => if s = "" then "unknown" else s

/-- The line of a device in a list. -/
def deviceLine (d : Device) (labels : Labels) : String :=
  "  " ++ d.address ++ " " ++ labelOr labels "class_name" "class_id" ++ ": " ++
    labelOr labels "vendor_name" "vendor_id" ++ " " ++ labelOr labels "device_name" "device_id"

/-- A list of devices and their labels. -/
def deviceLines (devices : List (Device × Labels)) : List String :=
  if devices.isEmpty then ["No PCI devices found."]
  else
    ("Found " ++ number devices.length ++ " PCI device(s):") :: "" ::
      devices.map fun (d, labels) => deviceLine d labels

/-- A device with its labels in a list. -/
def deviceJson (d : Device) (labels : Labels) : Json :=
  .object (("bdf", .text d.address) :: members labels)

/-- A list of devices and their labels. -/
def devicesJson (devices : List (Device × Labels)) : Json :=
  .list (devices.map fun (d, labels) => deviceJson d labels)

/-- The line of a GPU in a list. -/
def gpuLine (g : Gpu) : String :=
  "  " ++ g.id ++ ": " ++ g.vendor ++ " " ++ g.model

/-- A list of GPUs. -/
def gpuLines (gpus : List Gpu) : List String :=
  if gpus.isEmpty then ["No GPUs found."]
  else ("Found " ++ number gpus.length ++ " GPU(s):") :: "" :: gpus.map gpuLine

/-- A list of GPUs. -/
def gpusJson (gpus : List Gpu) : Json :=
  .list (gpus.map fun g => .object (members g.labels))

/-- The lines about the bridge above a device. -/
def parentLines (d : Device) : List String :=
  match d.parentAddress with
  | some address => ["Parent: " ++ address]
  | none => []

/-- The lines about the NUMA node of a device, if it has one. -/
def numaLines (d : Device) : List String :=
  match d.numaNode with
  | some node => if node = -1 then [] else ["NUMA Node: " ++ number node]
  | none => []

/-- The lines about the virtual functions of a device, if it can have some. -/
def virtualFunctionLines (d : Device) : List String :=
  match d.totalVirtualFunctions with
  | none => []
  | some total =>
    [ "SR-IOV VFs: " ++ number (d.virtualFunctions.getD 0) ++ "/" ++ number total,
      "SR-IOV Drivers Autoprobe: " ++ flag d.driversAutoprobe ] ++
    match d.totalVectors with
    | some vectors => ["SR-IOV VF Total MSI-X: " ++ number vectors]
    | none => []

/-- All about one device. -/
def infoLines (d : Device) (labels : Labels) : List String :=
  ("Address: " ++ d.address) :: parentLines d ++
    [ "Class: " ++ described labels "class_name" "class_id",
      "Vendor: " ++ described labels "vendor_name" "vendor_id",
      "Device: " ++ described labels "device_name" "device_id",
      "Subsystem Vendor: " ++ described labels "subsystem_vendor_name" "subsystem_vendor_id",
      "Subsystem: " ++ described labels "subsystem_device_name" "subsystem_device_id",
      "Revision: " ++ labelOr labels "revision" "revision",
      "Max Link: " ++ link d.maxLinkSpeed d.maxLinkWidth,
      "Current Link: " ++ link d.currentLinkSpeed d.currentLinkWidth,
      "Power State: " ++ power d.powerState,
      "D3cold Allowed: " ++ flag d.d3coldAllowed ] ++
    numaLines d ++ virtualFunctionLines d

/-- A number of a report. -/
def quantity : Quantity → Json
  | .whole n => .int n
  | .real x => .real x

/-- All about one device, with its metrics. -/
def infoJson (d : Device) (labels : Labels) (metrics : List (String × Quantity)) : Json :=
  .object (("bdf", .text d.address) :: members labels ++
    [("power_state", (d.powerState.map Json.text).getD .null),
      ("metrics", .object (metrics.map fun (label, q) => (label, quantity q)))])

/-- What was asked and the name that was found. -/
def nameJson (query : Labels) (name : String) : Json :=
  .object (members query ++ [("name", .text name)])

/-- Where a database was loaded from and how many names it has. -/
def statsLines (l : LoadedDatabase) : List String :=
  match l.source with
  | none => ["No pci.ids file loaded."]
  | some source =>
    let counts := l.database.counts
    [ "Source: " ++ source.toString,
      "Vendors: " ++ number counts.vendors,
      "Devices: " ++ number counts.devices,
      "Subsystems: " ++ number counts.subsystems,
      "Classes: " ++ number counts.classes,
      "Subclasses: " ++ number counts.subclasses,
      "Programming interfaces: " ++ number counts.progIfs ]

/-- Where a database was loaded from and how many names it has. -/
def statsJson (l : LoadedDatabase) : Json :=
  let counts := l.database.counts
  .object [("source", (l.source.map fun p => Json.text p.toString).getD .null),
    ("vendors", .int counts.vendors), ("devices", .int counts.devices),
    ("subsystems", .int counts.subsystems), ("classes", .int counts.classes),
    ("subclasses", .int counts.subclasses), ("prog_ifs", .int counts.progIfs)]

/-- The text of some lines. -/
def ofLines (lines : List String) : String :=
  String.join (lines.map (· ++ "\n"))

/-- The text of a report in one of its two forms. -/
def choose (json : Bool) (value : Json) (lines : List String) : String :=
  if json then value.render ++ "\n" else ofLines lines

end Report
end Command
end PciCatalog
