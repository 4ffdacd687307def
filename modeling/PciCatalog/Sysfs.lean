import PciCatalog.Device
import PciCatalog.Files.Reading
import PciCatalog.Number.Numeral

/-!
# The device directory

The kernel shows each PCI device as a directory named by the address of the device, whose files hold
one attribute each.  `discover` reads all devices of such a directory, `read` a single one.  A
device is skipped when its vendor or device number cannot be read; any other number that cannot be
read is 0, and any other attribute that cannot be read is missing.  A text attribute that is not in
UTF-8 stops the reading.
-/

namespace PciCatalog
namespace Sysfs

/-- The usual place of the device directory. -/
def standardPath : Path := Path.ofString "/sys/bus/pci/devices"

/-- The reasons for which a single device is not read. -/
inductive ReadError where
  | address (error : AddressError)
  | noDevice (address : String)
  | noNumbers (address : String)
  | file (error : FileError)
  deriving DecidableEq, Repr

/-- The text that reports the reason. -/
def ReadError.message : ReadError → String
  | .address e => e.message
  | .noDevice name => "PCI device not found: " ++ name
  | .noNumbers name => "PCI device has no vendor/device ID: " ++ name
  | .file e => e.message

/-- The attributes of a device that are read. -/
def attributes : List String :=
  ["vendor", "device", "subsystem_vendor", "subsystem_device", "revision", "class",
    "max_link_speed", "max_link_width", "current_link_speed", "current_link_width", "power_state",
    "d3cold_allowed", "sriov_drivers_autoprobe", "sriov_numvfs", "sriov_totalvfs",
    "sriov_vf_total_msix", "numa_node"]

/-- The text of an attribute without the blanks around it, if its file can be read. -/
def text? (fs : FileSystem) (dir : Path) (name : String) : Except FileError (Option (List Char)) :=
  match fs.readText (dir.child name).toString with
  | .ok text => .ok (some (Text.trim text))
  | .error e => if e.isSystem then .ok none else .error e

/-- A hexadecimal attribute, if it can be read. -/
def hexadecimal? (fs : FileSystem) (dir : Path) (name : String) : Option Int :=
  match fs.readText (dir.child name).toString with
  | .ok text => Numeral.hexadecimal? (Text.trim text)
  | .error _ => none

/-- A decimal attribute, if it can be read. -/
def decimal? (fs : FileSystem) (dir : Path) (name : String) : Except FileError (Option Int) := do
  pure ((← text? fs dir name).bind Numeral.decimal?)

/-- A flag attribute, if it can be read: every number but 0 sets the flag. -/
def flag? (fs : FileSystem) (dir : Path) (name : String) : Except FileError (Option Bool) := do
  pure ((← decimal? fs dir name).map (· ≠ 0))

/-- The number that the first word of a link speed such as `8.0 GT/s PCIe` is. -/
def speedOf? (text : List Char) : Option Binary64 :=
  (Text.words text).head?.bind Numeral.real?

/-- A link speed attribute, if it can be read. -/
def speed? (fs : FileSystem) (dir : Path) (name : String) :
    Except FileError (Option Binary64) := do
  pure ((← text? fs dir name).bind speedOf?)

/-- A text attribute, if it can be read and is not empty. -/
def word? (fs : FileSystem) (dir : Path) (name : String) : Except FileError (Option String) := do
  pure ((← text? fs dir name).bind fun text =>
    if text.isEmpty then none else some (String.ofList text))

/-- The address of the bridge that a device sits behind: the name of the directory above the real
place of the device's directory, if that is an address. -/
def parent? (fs : FileSystem) (dir : Path) : Option String :=
  match fs.locate dir.toString with
  | .ok place => place.dropLast.getLast?.filter Address.accepts
  | .error _ => none

/-- The device in a directory, unless its vendor or device number is missing. -/
def readDirectory (fs : FileSystem) (dir : Path) (address : String) :
    Except FileError (Option Device) := do
  match hexadecimal? fs dir "vendor", hexadecimal? fs dir "device" with
  | some vendorId, some deviceId =>
    pure (some {
      address
      vendorId
      deviceId
      subsystemVendor := (hexadecimal? fs dir "subsystem_vendor").getD 0
      subsystemDevice := (hexadecimal? fs dir "subsystem_device").getD 0
      revision := (hexadecimal? fs dir "revision").getD 0
      classCode := (hexadecimal? fs dir "class").getD 0
      parentAddress := parent? fs dir
      maxLinkSpeed := ← speed? fs dir "max_link_speed"
      maxLinkWidth := ← decimal? fs dir "max_link_width"
      currentLinkSpeed := ← speed? fs dir "current_link_speed"
      currentLinkWidth := ← decimal? fs dir "current_link_width"
      powerState := ← word? fs dir "power_state"
      d3coldAllowed := ← flag? fs dir "d3cold_allowed"
      driversAutoprobe := ← flag? fs dir "sriov_drivers_autoprobe"
      virtualFunctions := ← decimal? fs dir "sriov_numvfs"
      totalVirtualFunctions := ← decimal? fs dir "sriov_totalvfs"
      totalVectors := ← decimal? fs dir "sriov_vf_total_msix"
      numaNode := ← decimal? fs dir "numa_node" })
  | _, _ => pure none

/-- The device below the device directory with the given address. -/
def readMember (fs : FileSystem) (path : Path) (address : String) :
    Except FileError (Option Device) :=
  readDirectory fs (path.child address) address

/-- All devices of the device directory in the order of their addresses; none when the directory
does not exist. -/
def discover (fs : FileSystem) (path : Path) : Except FileError (List Device) := do
  if ← fs.pathExists path.toString then
    let names := (← fs.listDirectory path.toString).filter Address.accepts
    let devices ← names.mapM (readMember fs path)
    pure ((devices.filterMap id).mergeSort fun a b => a.address ≤ b.address)
  else
    pure []

/-- The device with the given address. -/
def read (fs : FileSystem) (address : String) (path : Path) : Except ReadError Device := do
  (Address.validate address).mapError ReadError.address
  if ← (fs.pathExists (path.child address).toString).mapError ReadError.file then
    match ← (readMember fs path address).mapError ReadError.file with
    | some device => pure device
    | none => .error (.noNumbers address)
  else
    .error (.noDevice address)

end Sysfs
end PciCatalog
