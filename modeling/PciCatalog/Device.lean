import PciCatalog.Address
import PciCatalog.Number.Binary64
import PciCatalog.Number.Numeral

/-!
# Devices

What is known of a PCI device: its address, its numbers, and the attributes that not every device
has.
-/

namespace PciCatalog

/-- A PCI device. Link speeds are in GT/s; an attribute that the device does not have is `none`. -/
structure Device where
  address : String
  vendorId : Int
  deviceId : Int
  subsystemVendor : Int := 0
  subsystemDevice : Int := 0
  revision : Int := 0
  classCode : Int := 0
  parentAddress : Option String := none
  maxLinkSpeed : Option Binary64 := none
  maxLinkWidth : Option Int := none
  currentLinkSpeed : Option Binary64 := none
  currentLinkWidth : Option Int := none
  powerState : Option String := none
  d3coldAllowed : Option Bool := none
  driversAutoprobe : Option Bool := none
  virtualFunctions : Option Int := none
  totalVirtualFunctions : Option Int := none
  totalVectors : Option Int := none
  numaNode : Option Int := none
  deriving DecidableEq, Repr

namespace Device

/-- The vendor number as a text such as `0x8086`. -/
def vendorText (d : Device) : String := Hexadecimal.marked 4 d.vendorId

/-- The device number as a text. -/
def deviceText (d : Device) : String := Hexadecimal.marked 4 d.deviceId

/-- The number of the subsystem's vendor as a text. -/
def subsystemVendorText (d : Device) : String := Hexadecimal.marked 4 d.subsystemVendor

/-- The number of the subsystem as a text. -/
def subsystemDeviceText (d : Device) : String := Hexadecimal.marked 4 d.subsystemDevice

/-- The class code as a text such as `0x030000`. -/
def classText (d : Device) : String := Hexadecimal.marked 6 d.classCode

/-- The revision as a text. -/
def revisionText (d : Device) : String := Hexadecimal.marked 2 d.revision

/-- Whether the class code belongs to base class 3, the display controllers. -/
def isDisplayController (d : Device) : Bool :=
  d.classCode / 0x10000 == 3

/-- The parts of the device's address. -/
def location (d : Device) : Except AddressError Address.Parts :=
  Address.parts d.address

/-- The parts of the address of the bridge above the device, or stars when there is none. -/
def parentLocation (d : Device) : Except AddressError Address.Parts :=
  match d.parentAddress with
  | some address => Address.parts address
  | none => .ok Address.noParts

/-- The power states that a device may report. -/
def powerStates : List String :=
  ["D0", "D1", "D2", "D3hot", "D3cold", "unknown", "error"]

/-- Zero as a double. -/
def noShare : Binary64 := .finite false 0

/-- One as a double. -/
def fullShare : Binary64 := .finite false Binary64.unitsPerOne

/-- One for the power state that the device reports and zero for every other; empty when it reports
none. -/
def powerStateShares (d : Device) : List (String × Binary64) :=
  match d.powerState with
  | none => []
  | some state => powerStates.map fun s => (s, if s = state then fullShare else noShare)

end Device
end PciCatalog
