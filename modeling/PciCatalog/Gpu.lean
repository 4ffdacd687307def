import PciCatalog.Device.Labels
import Std.Data.ExtTreeSet

/-!
# Graphics processors

A display controller counts as a GPU when its vendor is listed as a maker of GPUs and is not listed
as a maker of server management controllers.  Its names come from the database; where the database
knows no name, the listed name of the vendor and the number of the device stand in.
-/

namespace PciCatalog

/-- The makers of GPUs with their names, and the makers of server management controllers. -/
structure GpuFilter where
  vendors : Std.ExtTreeMap Int String
  bmcVendors : Std.ExtTreeSet Int
  deriving DecidableEq

/-- A GPU and the texts that describe it. -/
structure Gpu where
  id : String
  vendor : String
  model : String
  vendorText : String
  deviceText : String
  deriving DecidableEq, Repr

namespace GpuFilter

/-- The makers of GPUs that are listed unless settings say otherwise. -/
def defaultVendors : Std.ExtTreeMap Int String :=
  Std.ExtTreeMap.ofList
    [((0x10DE : Int), "NVIDIA Corporation"), (0x1002, "AMD/ATI"), (0x8086, "Intel Corporation")]

/-- The makers of server management controllers that are listed unless settings say otherwise. -/
def defaultBmcVendors : Std.ExtTreeSet Int :=
  Std.ExtTreeSet.ofList [(0x1A03 : Int), 0x102B]

/-- The filter that is used unless settings say otherwise. -/
def standard : GpuFilter := ⟨defaultVendors, defaultBmcVendors⟩

instance : Inhabited GpuFilter := ⟨standard⟩

/-- Whether a display controller of this vendor is a GPU. -/
def accepts (f : GpuFilter) (vendorId : Int) : Bool :=
  f.vendors.contains vendorId && !f.bmcVendors.contains vendorId

end GpuFilter

namespace Gpu

/-- The name that the database has for a number, unless it is empty or only repeats the digits of
the number's text. -/
def ownName? (name idText : String) : Option String :=
  if name = "" || name.toList = idText.toList.drop 2 then none else some name

/-- The name of the device's vendor. -/
def vendorOf (d : Device) (db : Option Database) (f : GpuFilter) : String :=
  ((db.map (·.vendorName d.vendorText)).bind (ownName? · d.vendorText)).getD
    ((f.vendors[d.vendorId]?).getD d.vendorText)

/-- The name of the device's model. -/
def modelOf (d : Device) (db : Option Database) : String :=
  ((db.map (·.deviceName d.vendorText d.deviceText)).bind (ownName? · d.deviceText)).getD
    d.deviceText

/-- The GPU that a device is, if it is one. -/
def ofDevice? (db : Option Database) (f : GpuFilter) (d : Device) : Option Gpu :=
  if d.isDisplayController && f.accepts d.vendorId then
    some {
      id := d.address
      vendor := vendorOf d db f
      model := modelOf d db
      vendorText := d.vendorText
      deviceText := d.deviceText }
  else
    none

/-- The GPUs among some devices, in the order of the devices. -/
def identify (db : Option Database) (f : GpuFilter) (devices : List Device) : List Gpu :=
  devices.filterMap (ofDevice? db f)

/-- The labels of a GPU. -/
def labels (g : Gpu) : Labels :=
  [("gpu_id", g.id), ("vendor", g.vendor), ("model", g.model), ("vendor_id", g.vendorText),
    ("device_id", g.deviceText)]

end Gpu
end PciCatalog
