import PciCatalog.Proofs.NearestDouble
import PciCatalog.Proofs.OneDevice
import PciCatalog.Proofs.Quantities

/-!
# Metrics of devices that were read

What the metrics of a device are, told by the files in its directory.  An integer in these files may
have thousands of digits, so the metrics may fail to come out (`metrics?_eq_none_iff_of_readFrom`).
When they come out, every integer other than a flag is there as the double nearest to it.  Main
statement: `metrics_of_read_devices`.
-/

namespace PciCatalog

/-- What a report shows for an integer that may be missing: the integer for what is missing, or the
double nearest to what was read. -/
inductive Measures (missing : Int) : Option Int → Quantity → Prop
  | missing : Measures missing none (.whole missing)
  | present {n : Int} {x : Binary64} (near : Binary64.IsNearest n x) :
      Measures missing (some n) (.real x)

namespace Device

theorem measures_of_measured? {missing : Int} {found : Option Int} {q : Quantity}
    (h : measured? missing found = some q) : Measures missing found q := by
  cases found with
  | none =>
    obtain rfl := Option.some.inj h
    exact .missing
  | some n =>
    rw [measured?, Option.map_eq_some_iff] at h
    obtain ⟨x, hx, rfl⟩ := h
    exact .present (Binary64.isNearest_of_ofInt? hx)

theorem node_of_numaMetric? {d : Device} {numa : List (String × Quantity)}
    (h : d.numaMetric? = some numa) :
    numa.map Prod.fst = (if d.numaNode.all (· = -1) then [] else ["numa_node"]) ∧
      ∀ n ∈ d.numaNode, n ≠ -1 →
        ∃ x, numa = [("numa_node", .real x)] ∧ Binary64.IsNearest n x := by
  unfold numaMetric? at h
  cases hnode : d.numaNode with
  | none =>
    rw [hnode] at h
    obtain rfl := Option.some.inj h
    simp
  | some node =>
    rw [hnode] at h
    dsimp only at h
    split at h
    · next hnone =>
      obtain rfl := Option.some.inj h
      simp [hnone]
    · next hsome =>
      obtain ⟨x, hx, rfl⟩ := Option.map_eq_some_iff.1 h
      refine ⟨by simp [hsome], ?_⟩
      rintro n hn -
      obtain rfl := Option.some.inj hn
      exact ⟨x, rfl, Binary64.isNearest_of_ofInt? hx⟩

/-- The names of the metrics that every device has. -/
def metricNames : List String :=
  ["max_link_transfers_per_second", "max_link_width", "current_link_transfers_per_second",
    "current_link_width", "d3cold_allowed", "sriov_drivers_autoprobe", "sriov_numvfs",
    "sriov_totalvfs", "sriov_vf_total_msix"]

end Device

namespace Sysfs

variable {fs : FileSystem} {path dir : Path} {d : Device} {address : String}

/-- The integer in a decimal attribute, if it can be read. -/
def integer? (fs : FileSystem) (dir : Path) (name : String) : Option Int :=
  (attribute? fs dir name).bind Numeral.decimal?

/-- The decimal attributes other than flags. -/
def integerAttributes : List String :=
  ["max_link_width", "current_link_width", "sriov_numvfs", "sriov_totalvfs", "sriov_vf_total_msix",
    "numa_node"]

/-- The metrics of a device, by the files in its directory. -/
structure Reported (fs : FileSystem) (dir : Path) (metrics : List (String × Quantity)) : Prop where
  names : metrics.map Prod.fst = Device.metricNames ++
    if (integer? fs dir "numa_node").all (· = -1) then [] else ["numa_node"]
  speeds : ∀ attr ∈ [("max_link_speed", "max_link_transfers_per_second"),
      ("current_link_speed", "current_link_transfers_per_second")],
    metrics.lookup attr.2 = some (match (attribute? fs dir attr.1).bind speedOf? with
      | none => .whole (-1)
      | some speed => .real (speed * Device.giga))
  widths : ∀ name ∈ ["max_link_width", "current_link_width"],
    ∃ q, metrics.lookup name = some q ∧ Measures (-1) (integer? fs dir name) q
  flags : ∀ name ∈ ["d3cold_allowed", "sriov_drivers_autoprobe"],
    ∃ q, metrics.lookup name = some q ∧
      Measures 0 ((integer? fs dir name).map fun n => if n = 0 then 0 else 1) q
  counters : ∀ name ∈ ["sriov_numvfs", "sriov_totalvfs", "sriov_vf_total_msix"],
    ∃ q, metrics.lookup name = some q ∧ Measures 0 (integer? fs dir name) q
  node : ∀ n ∈ integer? fs dir "numa_node", n ≠ -1 →
    ∃ x, metrics.lookup "numa_node" = some (.real x) ∧ Binary64.IsNearest n x

/-- The numeric attributes of a device are those that its files hold. -/
structure ReadFrom (fs : FileSystem) (dir : Path) (d : Device) : Prop where
  maxLinkSpeed : d.maxLinkSpeed = (attribute? fs dir "max_link_speed").bind speedOf?
  maxLinkWidth : d.maxLinkWidth = integer? fs dir "max_link_width"
  currentLinkSpeed : d.currentLinkSpeed = (attribute? fs dir "current_link_speed").bind speedOf?
  currentLinkWidth : d.currentLinkWidth = integer? fs dir "current_link_width"
  d3coldAllowed : d.d3coldAllowed = (integer? fs dir "d3cold_allowed").map fun n => decide (n ≠ 0)
  driversAutoprobe : d.driversAutoprobe =
    (integer? fs dir "sriov_drivers_autoprobe").map fun n => decide (n ≠ 0)
  virtualFunctions : d.virtualFunctions = integer? fs dir "sriov_numvfs"
  totalVirtualFunctions : d.totalVirtualFunctions = integer? fs dir "sriov_totalvfs"
  totalVectors : d.totalVectors = integer? fs dir "sriov_vf_total_msix"
  numaNode : d.numaNode = integer? fs dir "numa_node"

theorem readFrom_of_record? (h : record? fs dir address = some d) : ReadFrom fs dir d := by
  simp only [record?, Option.bind_eq_bind, Option.bind_eq_some_iff, Option.pure_def,
    Option.some_inj] at h
  obtain ⟨vendorId, -, deviceId, -, rfl⟩ := h
  exact ⟨rfl, rfl, rfl, rfl, rfl, rfl, rfl, rfl, rfl, rfl⟩

/-- The metrics of a device fail to come out exactly when there is an integer in its files that is
too large for a double. -/
theorem metrics?_eq_none_iff_of_readFrom (h : ReadFrom fs dir d) :
    d.metrics? = none ↔ ∃ name ∈ integerAttributes, ∃ n ∈ integer? fs dir name,
      2 ^ 1024 - 2 ^ 970 ≤ n.natAbs := by
  have hintegers : d.integers = (integerAttributes.map (integer? fs dir)).reduceOption := by
    rw [Device.integers, h.maxLinkWidth, h.currentLinkWidth, h.virtualFunctions,
      h.totalVirtualFunctions, h.totalVectors, h.numaNode]
    rfl
  simp only [Device.metrics?_eq_none_iff, Binary64.ofInt?_eq_none_iff, hintegers,
    List.reduceOption_mem_iff, List.mem_map]
  constructor
  · rintro ⟨n, ⟨name, hname, hread⟩, hlarge⟩
    exact ⟨name, hname, n, hread, hlarge⟩
  · rintro ⟨name, hname, n, hread, hlarge⟩
    exact ⟨n, ⟨name, hname, hread⟩, hlarge⟩

/-- A flag is measured as 1 or 0, whatever the integer that it was read from. -/
theorem map_flagNumber (found : Option Int) :
    (found.map fun n => decide (n ≠ 0)).map Device.flagNumber =
      found.map fun n => if n = 0 then 0 else 1 := by
  cases found with
  | none => rfl
  | some n => by_cases hn : n = 0 <;> simp [Device.flagNumber, hn]

theorem transferRate_eq (speed : Option Binary64) : Device.transferRate speed =
    match speed with
    | none => .whole (-1)
    | some speed => .real (speed * Device.giga) := by
  cases speed <;> rfl

/-- Metrics that come out say what is in the files. -/
theorem reported_of_readFrom (h : ReadFrom fs dir d) {metrics : List (String × Quantity)}
    (hmetrics : d.metrics? = some metrics) : Reported fs dir metrics := by
  simp only [Device.metrics?, Option.bind_eq_bind, Option.bind_eq_some_iff, Option.pure_def,
    Option.some_inj] at hmetrics
  obtain ⟨maxWidth, hmaxWidth, currentWidth, hcurrentWidth, d3cold, hd3cold, autoprobe, hautoprobe,
    functions, hfunctions, totalFunctions, htotalFunctions, vectors, hvectors, numa, hnuma, rfl⟩ :=
    hmetrics
  rw [h.maxLinkWidth] at hmaxWidth
  rw [h.currentLinkWidth] at hcurrentWidth
  rw [h.d3coldAllowed, map_flagNumber] at hd3cold
  rw [h.driversAutoprobe, map_flagNumber] at hautoprobe
  rw [h.virtualFunctions] at hfunctions
  rw [h.totalVirtualFunctions] at htotalFunctions
  rw [h.totalVectors] at hvectors
  obtain ⟨hnames, hnode⟩ := Device.node_of_numaMetric? hnuma
  rw [h.numaNode] at hnames hnode
  -- The labels first; then the quantities by label, one group for each way of measuring.
  refine ⟨congrArg (Device.metricNames ++ ·) hnames, ?_, ?_, ?_, ?_, ?_⟩
  · simp only [List.forall_mem_cons, List.not_mem_nil, false_imp_iff, implies_true, and_true,
      ← transferRate_eq, ← h.maxLinkSpeed, ← h.currentLinkSpeed]
    exact ⟨by simp, by simp [List.lookup_cons]⟩
  · simp only [List.forall_mem_cons, List.not_mem_nil, false_imp_iff, implies_true, and_true]
    exact ⟨⟨maxWidth, by simp [List.lookup_cons], Device.measures_of_measured? hmaxWidth⟩,
      currentWidth, by simp [List.lookup_cons], Device.measures_of_measured? hcurrentWidth⟩
  · simp only [List.forall_mem_cons, List.not_mem_nil, false_imp_iff, implies_true, and_true]
    exact ⟨⟨d3cold, by simp [List.lookup_cons], Device.measures_of_measured? hd3cold⟩,
      autoprobe, by simp [List.lookup_cons], Device.measures_of_measured? hautoprobe⟩
  · simp only [List.forall_mem_cons, List.not_mem_nil, false_imp_iff, implies_true, and_true]
    exact ⟨⟨functions, by simp [List.lookup_cons], Device.measures_of_measured? hfunctions⟩,
      ⟨totalFunctions, by simp [List.lookup_cons], Device.measures_of_measured? htotalFunctions⟩,
      vectors, by simp [List.lookup_cons], Device.measures_of_measured? hvectors⟩
  · intro n hn hne
    obtain ⟨x, rfl, hnear⟩ := hnode n hn hne
    exact ⟨x, by simp [List.lookup_cons], hnear⟩

/-- The metrics of every device that was read, alone or in a list.  They come out when every integer
in its files is below 2^1024 - 2^970 in magnitude, that is, when rounding it stays among the finite
doubles.  Metrics that come out have their nine names and that of the NUMA node when the device has
one other than -1; missing speeds and widths are -1, missing flags and counters 0, every width,
counter and node that was read is the double nearest to it, and a flag counts as 0 or 1, whatever
integer it was read from. -/
theorem metrics_of_read_devices (h : (∃ b, read fs b path = .ok d) ∨
      ∃ devices, discover fs path = .ok devices ∧ d ∈ devices) :
    ((∀ name ∈ integerAttributes, ∀ n ∈ integer? fs (path.child d.address) name,
      n.natAbs < 2 ^ 1024 - 2 ^ 970) → ∃ metrics, d.metrics? = some metrics) ∧
    ∀ metrics, d.metrics? = some metrics → Reported fs (path.child d.address) metrics := by
  have hrecord : record? fs (path.child d.address) d.address = some d := by
    rcases h with ⟨b, hread⟩ | ⟨devices, hdevices, hd⟩
    · obtain ⟨-, hrecord⟩ := record_of_read hread
      rwa [address_of_record? hrecord]
    · exact (record_of_mem hdevices hd).2
  have hread := readFrom_of_record? hrecord
  refine ⟨fun hsmall => ?_, fun _ => reported_of_readFrom hread⟩
  rw [← Option.ne_none_iff_exists', Ne, metrics?_eq_none_iff_of_readFrom hread]
  rintro ⟨name, hname, n, hn, hlarge⟩
  exact Nat.not_le.2 (hsmall name hname n hn) hlarge

/-- A device with a link of 16 lanes and a flag in an unusual form, and a device whose link width
has 310 digits. -/
def linkedDevices : FileSystem where
  nodes := [(["s"], .directory), (["s", "0000:00:1f.6"], .directory),
    (["s", "0000:00:1f.6", "vendor"], .file "0x8086\n".toUTF8.data.toList),
    (["s", "0000:00:1f.6", "device"], .file "0x1533\n".toUTF8.data.toList),
    (["s", "0000:00:1f.6", "max_link_width"], .file "16\n".toUTF8.data.toList),
    (["s", "0000:00:1f.6", "d3cold_allowed"], .file "2\n".toUTF8.data.toList),
    (["s", "0000:01:00.0"], .directory),
    (["s", "0000:01:00.0", "vendor"], .file "0x8086\n".toUTF8.data.toList),
    (["s", "0000:01:00.0", "device"], .file "0x1533\n".toUTF8.data.toList),
    (["s", "0000:01:00.0", "max_link_width"], .file (49 :: List.replicate 309 48 ++ [10]))]
  workingDir := []
  distinct := by decide

/-- The first device of `linkedDevices`. -/
def flaggedDevice : Device where
  address := "0000:00:1f.6"
  vendorId := 0x8086
  deviceId := 0x1533
  maxLinkWidth := some 16
  d3coldAllowed := some true

/-- The second device of `linkedDevices`. -/
def wideDevice : Device where
  address := "0000:01:00.0"
  vendorId := 0x8086
  deviceId := 0x1533
  maxLinkWidth := some (10 ^ 309 : Nat)

theorem read_flaggedDevice :
    read linkedDevices "0000:00:1f.6" (Path.ofString "s") = .ok flaggedDevice := by
  decide +kernel

theorem metrics_of_flaggedDevice :
    read linkedDevices "0000:00:1f.6" (Path.ofString "s") = .ok flaggedDevice ∧
    ∃ metrics x, flaggedDevice.metrics? = some metrics ∧
      metrics.lookup "max_link_width" = some (.real x) ∧ Binary64.IsNearest 16 x := by
  obtain ⟨hsome, hreported⟩ := metrics_of_read_devices (.inl ⟨_, read_flaggedDevice⟩)
  obtain ⟨metrics, hmetrics⟩ := hsome (by decide +kernel)
  obtain ⟨q, hq, hmeasures⟩ := (hreported metrics hmetrics).widths "max_link_width" (by simp)
  have hwidth : integer? linkedDevices ((Path.ofString "s").child "0000:00:1f.6")
      "max_link_width" = some 16 := by decide +kernel
  have hmeasures' : Measures (-1) (some 16) q := hwidth ▸ hmeasures
  cases hmeasures' with
  | present near => exact ⟨read_flaggedDevice, metrics, _, hmetrics, hq, near⟩

/-- Of a flag that is read from a 2, the metrics show the double 1, which is not the one nearest to
the integer; and there are no metrics with a width that is too large. -/
theorem flag_and_width_not_as_read :
    (read linkedDevices "0000:00:1f.6" (Path.ofString "s") = .ok flaggedDevice ∧
      integer? linkedDevices ((Path.ofString "s").child "0000:00:1f.6") "d3cold_allowed" = some 2 ∧
      (∃ metrics x, flaggedDevice.metrics? = some metrics ∧
        metrics.lookup "d3cold_allowed" = some (.real x) ∧ ¬ Binary64.IsNearest 2 x)) ∧
    (read linkedDevices "0000:01:00.0" (Path.ofString "s") = .ok wideDevice ∧
      wideDevice.metrics? = none) := by
  refine ⟨⟨read_flaggedDevice, by decide +kernel, ?_⟩, by decide +kernel, by decide +kernel⟩
  have hflag : flaggedDevice.metrics?.bind (List.lookup "d3cold_allowed") =
      some (.real (.finite false Binary64.unitsPerOne)) := by decide +kernel
  obtain ⟨metrics, hmetrics, hlookup⟩ := Option.bind_eq_some_iff.1 hflag
  refine ⟨metrics, _, hmetrics, hlookup, ?_⟩
  rintro ⟨-, nearest, -⟩
  -- The integer 2 is a double itself, so no other one is as near.
  have htwo : Binary64.IsDouble (2 * Binary64.unitsPerOne) :=
    ⟨by decide +kernel, 2, 1074, by decide, by rw [Binary64.unitsPerOne_eq]⟩
  have hnearest := nearest false _ htwo
  have hone := Binary64.unitsPerOne_pos
  simp only [Binary64.signedUnits, Bool.false_eq_true, if_false] at hnearest
  omega

end Sysfs
end PciCatalog
