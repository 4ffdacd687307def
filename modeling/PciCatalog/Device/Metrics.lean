import PciCatalog.Device

/-!
# Metrics

The numeric attributes of a device under fixed names.  A missing link speed or width counts as the
integer -1, a missing flag or counter as the integer 0; what is present is a double.
-/

namespace PciCatalog

/-- A number in a report: an integer for what is missing, a double for what was read. -/
inductive Quantity where
  | whole (n : Int)
  | real (x : Binary64)
  deriving DecidableEq, Repr

namespace Device

/-- One gigatransfer in transfers. -/
def giga : Binary64 := .ofDecimal false 1 9

/-- A link speed in transfers per second. -/
def transferRate : Option Binary64 → Quantity
  | none => .whole (-1)
  | some speed => .real (speed * giga)

/-- An integer as a double, or the given integer when it is missing; none when no double is near. -/
def measured? (missing : Int) : Option Int → Option Quantity
  | none => some (.whole missing)
  | some n => (Binary64.ofInt? n).map .real

/-- The integer of a flag. -/
def flagNumber (flag : Bool) : Int :=
  if flag then 1 else 0

/-- The NUMA node, when the device has one; the number -1 says that it has none. -/
def numaMetric? (d : Device) : Option (List (String × Quantity)) :=
  match d.numaNode with
  | none => some []
  | some node =>
    if node = -1 then some []
    else (Binary64.ofInt? node).map fun x => [("numa_node", .real x)]

/-- The metrics of a device in their fixed order; none when an attribute is too large for a
double. -/
def metrics? (d : Device) : Option (List (String × Quantity)) := do
  let maxWidth ← measured? (-1) d.maxLinkWidth
  let currentWidth ← measured? (-1) d.currentLinkWidth
  let d3cold ← measured? 0 (d.d3coldAllowed.map flagNumber)
  let autoprobe ← measured? 0 (d.driversAutoprobe.map flagNumber)
  let functions ← measured? 0 d.virtualFunctions
  let totalFunctions ← measured? 0 d.totalVirtualFunctions
  let vectors ← measured? 0 d.totalVectors
  let numa ← d.numaMetric?
  pure ([("max_link_transfers_per_second", transferRate d.maxLinkSpeed),
    ("max_link_width", maxWidth),
    ("current_link_transfers_per_second", transferRate d.currentLinkSpeed),
    ("current_link_width", currentWidth),
    ("d3cold_allowed", d3cold),
    ("sriov_drivers_autoprobe", autoprobe),
    ("sriov_numvfs", functions),
    ("sriov_totalvfs", totalFunctions),
    ("sriov_vf_total_msix", vectors)] ++ numa)

end Device
end PciCatalog
