import PciCatalog.Proofs.DeviceReports

/-!
# GPUs among the devices

The list of GPUs is made from the numbers of the devices, the list of devices shows their texts.
The texts tell as much as the numbers: a class code belongs to a display controller exactly when its
text starts with the digits of base class 3, and a vendor's text stands for no other vendor.  Main
statement: the GPUs are a selection of the listed devices that the texts of the list decide.
-/

namespace PciCatalog

/-- Some items of a list in their order: those with a property, each related to an item of a second
list, and none of the others. -/
inductive Selection {α β : Type} (p : α → Prop) (r : α → β → Prop) : List α → List β → Prop
  | nil : Selection p r [] []
  | skip {a : α} {items : List α} {chosen : List β} (not : ¬ p a)
      (rest : Selection p r items chosen) : Selection p r (a :: items) chosen
  | keep {a : α} {b : β} {items : List α} {chosen : List β} (selected : p a) (related : r a b)
      (rest : Selection p r items chosen) : Selection p r (a :: items) (b :: chosen)

namespace Hexadecimal

/-- A number that is too long for its width is not padded. -/
theorem padded_of_le {width n : Nat} (hwidth : 0 < width) (h : 16 ^ width ≤ n) :
    padded width n = Nat.toDigits 16 n := by
  have hlength : width < (Nat.toDigits 16 n).length := by
    rw [← Nat.not_le, Nat.length_toDigits_le_iff (by decide) hwidth]
    omega
  rw [padded, if_neg (by omega), Int.natAbs_natCast, Nat.sub_eq_zero_of_le (Nat.le_of_lt hlength),
    List.replicate_zero, List.nil_append]

/-- The text of a class code starts with the digits of base class 3 exactly when the code has this
base class; negative codes and codes that are too long do neither. -/
theorem prefix_padded_six_iff (n : Int) : ['0', '3'] <+: padded 6 n ↔ n / 0x10000 = 3 := by
  by_cases hneg : n < 0
  · rw [padded, if_pos hneg]
    constructor
    · intro hstart
      exact absurd (List.cons_prefix_cons.1 hstart).1 (by decide)
    · omega
  · obtain ⟨m, rfl⟩ := Int.eq_ofNat_of_zero_le (Int.not_lt.1 hneg)
    -- A text of six digits starts with the two for bits 16 to 23; a longer one does not start with
    -- a zero.
    by_cases hfits : m < 16 ^ 6
    · have htwo : ∀ q : Fin 0x100, ['0', '3'] = digits 2 q ↔ q.val = 3 := by decide +kernel
      have hquotient : m / 16 ^ 4 < 0x100 := by omega
      rw [List.prefix_iff_eq_take, padded_natCast hfits, List.length_cons, List.length_singleton,
        take_digits 2 4 m, htwo ⟨m / 16 ^ 4, hquotient⟩]
      show m / 16 ^ 4 = 3 ↔ _
      omega
    · rw [padded_of_le (by decide) (Nat.le_of_not_lt hfits)]
      constructor
      · rintro ⟨rest, hrest⟩
        exact absurd (by rw [← hrest]; rfl) (head?_toDigits_ne_zero (n := m) (by decide) (by omega))
      · omega

end Hexadecimal

namespace Device

/-- The number and the text of a class code agree on display controllers, whatever the number. -/
theorem isDisplayController_iff (d : Device) :
    d.isDisplayController = true ↔ "0x03".toList <+: d.classText.toList := by
  have htext : d.classText.toList = '0' :: 'x' :: Hexadecimal.padded 6 d.classCode :=
    String.toList_ofList
  have hstart : "0x03".toList = ['0', 'x', '0', '3'] := rfl
  rw [htext, hstart, List.cons_prefix_cons, List.cons_prefix_cons,
    Hexadecimal.prefix_padded_six_iff, isDisplayController, beq_iff_eq]
  simp

end Device

theorem GpuFilter.accepts_iff {f : GpuFilter} {vendor : Int} :
    f.accepts vendor = true ↔ vendor ∈ f.vendors ∧ vendor ∉ f.bmcVendors := by
  simp [accepts, ← Std.ExtTreeSet.contains_iff_mem]

namespace Command

/-- Whether the texts of a listed device make it a GPU: a class of base class 3, and a vendor that
is listed as a maker of GPUs and not as one of server management controllers. -/
def ListedAsGpu (f : GpuFilter) (item : Json) : Prop :=
  ∃ classText vendorText, item.member? "class_id" = some (.text classText) ∧
    item.member? "vendor_id" = some (.text vendorText) ∧
    "0x03".toList <+: classText.toList ∧
    ∃ vendor, Hexadecimal.marked 4 vendor = vendorText ∧ vendor ∈ f.vendors ∧
      vendor ∉ f.bmcVendors

/-- A listed device and a GPU with its address and its numbers. -/
structure SameDevice (item gpu : Json) : Prop where
  address : ∃ b, item.member? "bdf" = some (.text b) ∧ gpu.member? "gpu_id" = some (.text b)
  vendor : ∃ text, item.member? "vendor_id" = some (.text text) ∧
    gpu.member? "vendor_id" = some (.text text)
  device : ∃ text, item.member? "device_id" = some (.text text) ∧
    gpu.member? "device_id" = some (.text text)

variable {fs : FileSystem} {settings : Settings} {names : Bool} {text : String}

/-- The texts of a listed device make it a GPU exactly when its numbers do. -/
theorem listedAsGpu_iff {f : GpuFilter} {db : Option Database} {d : Device}
    {row : Device × Labels} (h : labelled db d = .ok row) :
    ListedAsGpu f (Report.deviceJson row.1 row.2) ↔
      d.isDisplayController = true ∧ f.accepts d.vendorId = true := by
  obtain ⟨-, hclass, hvendor, -⟩ := members_of_labelled h
  rw [Device.isDisplayController_iff, GpuFilter.accepts_iff]
  constructor
  · rintro ⟨classText, vendorText, hclassText, hvendorText, hstart, vendor, hmarked, hlisted, hbmc⟩
    obtain rfl := Json.text.inj (Option.some.inj (hclass.symm.trans hclassText))
    obtain rfl := Json.text.inj (Option.some.inj (hvendor.symm.trans hvendorText))
    obtain rfl := Hexadecimal.marked_inj.1 hmarked
    exact ⟨hstart, hlisted, hbmc⟩
  · rintro ⟨hstart, haccepts⟩
    exact ⟨_, _, hclass, hvendor, hstart, d.vendorId, rfl, haccepts⟩

theorem Report.reals_gpusJson (gpus : List Gpu) : (gpusJson gpus).reals = [] := by
  apply Json.reals_list_eq_nil
  rw [List.forall_mem_map]
  exact fun g _ => Json.reals_object_eq_nil (reals_members g.labels)

/-- The GPUs are selected from the listed devices by the texts in the list. -/
theorem selection_identify (f : GpuFilter) (db db' : Option Database) {devices : List Device}
    {rows : List (Device × Labels)} (h : devices.map (labelled db') = rows.map .ok) :
    Selection (ListedAsGpu f) SameDevice (rows.map fun row => Report.deviceJson row.1 row.2)
      ((Gpu.identify db f devices).map fun g => .object (Report.members g.labels)) := by
  induction devices generalizing rows with
  | nil =>
    obtain rfl : rows = [] := by simpa using h
    exact .nil
  | cons d devices ih =>
    cases rows with
    | nil => simp at h
    | cons row rows =>
      rw [List.map_cons, List.map_cons, List.cons.injEq] at h
      obtain ⟨hrow, hrows⟩ := h
      obtain ⟨haddress, -, hvendor, hdevice⟩ := members_of_labelled hrow
      have hlisted := listedAsGpu_iff (f := f) hrow
      rw [List.map_cons, Gpu.identify, List.filterMap_cons, Gpu.ofDevice?]
      -- The labels in the row tell of a device what the filter asks of it.
      by_cases hgpu : (d.isDisplayController && f.accepts d.vendorId) = true
      · rw [if_pos hgpu, List.map_cons]
        rw [Bool.and_eq_true] at hgpu
        exact .keep (hlisted.2 hgpu) ⟨⟨_, haddress, rfl⟩, ⟨_, hvendor, rfl⟩, ⟨_, hdevice, rfl⟩⟩
          (ih hrows)
      · rw [if_neg hgpu]
        rw [Bool.and_eq_true] at hgpu
        exact .skip (mt hlisted.1 hgpu) (ih hrows)

/-- What a list of GPUs for other programs holds. -/
theorem list_gpus_eq_ok_iff : list fs settings true true names = .ok text ↔
    ∃ db devices, databaseFor fs settings names = .ok db ∧
      Sysfs.discover fs settings.sysfsPath = .ok devices ∧
      text = (Report.gpusJson (Gpu.identify db settings.gpuFilter devices)).render ++ "\n" := by
  constructor
  · intro h
    obtain ⟨db, hdb, h⟩ := Result.bind_eq_ok_iff.1 h
    obtain ⟨devices, hdevices, h⟩ := Result.bind_eq_ok_iff.1 h
    exact ⟨db, devices, hdb, Result.mapError_eq_ok_iff.1 hdevices, (Result.pure_eq_ok_iff.1 h).symm⟩
  · rintro ⟨db, devices, hdb, hdevices, rfl⟩
    exact Result.bind_eq_ok_iff.2 ⟨db, hdb, Result.bind_eq_ok_iff.2 ⟨devices,
      Result.mapError_eq_ok_iff.2 hdevices, rfl⟩⟩

/-- The list of GPUs is a faithful selection from the list of devices.  A device is a display
controller exactly when the text of its class starts with base class 3, whatever integer its class
code is.  When the commands that list the GPUs and all devices succeed with the same options on the
same files, with or without names, the GPUs are in the same order those of the listed devices whose
class text starts so and whose vendor text is that of a maker of GPUs who is not listed as a maker
of server management controllers; each has the address and the texts of its device. -/
theorem gpu_list_is_selection :
    (∀ d : Device, d.isDisplayController = true ↔ "0x03".toList <+: d.classText.toList) ∧
    ∀ (rt : Runtime) (fs : FileSystem) (options : Options) (names names' : Bool)
      (gpuWords listWords : List String) (shownGpus shownList : String), options.json = true →
      Asks rt fs gpuWords options (.list true names) →
      Asks rt fs listWords options (.list false names') →
      run rt fs gpuWords = .printed shownGpus → run rt fs listWords = .printed shownList →
        ∃ (settings : Settings) (items gpus : List Json),
          loadSettings rt fs options = .ok settings ∧
          shownList = (Json.list items).render ++ "\n" ∧
          shownGpus = (Json.list gpus).render ++ "\n" ∧
          Selection (ListedAsGpu settings.gpuFilter) SameDevice items gpus := by
  refine ⟨Device.isDisplayController_iff, ?_⟩
  intro rt fs options names names' gpuWords listWords shownGpus shownList hjson hgpuAsks hlistAsks
    hgpuRun hlistRun
  obtain ⟨settings, gpuText, hsettings, hgpus, hgpuPrint⟩ :=
    (run_eq_printed_iff hgpuAsks).1 hgpuRun
  obtain ⟨settings', listText, hsettings', hlist, hlistPrint⟩ :=
    (run_eq_printed_iff hlistAsks).1 hlistRun
  obtain rfl : settings = settings' := Except.ok.inj (hsettings.symm.trans hsettings')
  rw [hjson] at hgpus hlist
  obtain ⟨db, devices, -, hdevices, rfl⟩ := list_gpus_eq_ok_iff.1 hgpus
  obtain ⟨db', devices', rows, -, hdevices', hrows, rfl⟩ := list_eq_ok_iff.1 hlist
  rw [Report.devicesJson_eq] at hlistPrint
  obtain rfl : devices = devices' := Except.ok.inj (hdevices.symm.trans hdevices')
  exact ⟨settings, _, _, hsettings, print_render_eq_printed_iff.1 hlistPrint,
    print_render_eq_printed_iff.1 hgpuPrint, selection_identify settings.gpuFilter db db' hrows⟩

/-- A display controller of a maker of GPUs in the usual place. -/
def oneGpu : FileSystem where
  nodes := [(["sys"], .directory), (["sys", "bus"], .directory),
    (["sys", "bus", "pci"], .directory),
    (["sys", "bus", "pci", "devices"], .directory),
    (["sys", "bus", "pci", "devices", "0000:01:00.0"], .directory),
    (["sys", "bus", "pci", "devices", "0000:01:00.0", "vendor"],
      .file "0x10de\n".toUTF8.data.toList),
    (["sys", "bus", "pci", "devices", "0000:01:00.0", "device"],
      .file "0x2204\n".toUTF8.data.toList),
    (["sys", "bus", "pci", "devices", "0000:01:00.0", "class"],
      .file "0x030000\n".toUTF8.data.toList)]
  workingDir := []
  distinct := by decide

/-- The device of `oneGpu`. -/
def onlyGpu : Device where
  address := "0000:01:00.0"
  vendorId := 0x10DE
  deviceId := 0x2204
  classCode := 0x30000

theorem discover_oneGpu : Sysfs.discover oneGpu Sysfs.standardPath = .ok [onlyGpu] :=
  Sysfs.discover_single (b := "0000:01:00.0") (by decide +kernel) (by decide +kernel)
    (by decide +kernel) (by decide +kernel)

theorem gpu_list_of_oneGpu :
    "0x03".toList <+: onlyGpu.classText.toList ∧
      ∃ shownGpus shownList,
        run .standard oneGpu ["--json", "list", "--gpu", "--no-names"] = .printed shownGpus ∧
        run .standard oneGpu ["--json", "list", "--no-names"] = .printed shownList ∧
        ∃ (settings : Settings) (items gpus : List Json),
          loadSettings .standard oneGpu { json := true } = .ok settings ∧
          shownList = (Json.list items).render ++ "\n" ∧
          shownGpus = (Json.list gpus).render ++ "\n" ∧
          Selection (ListedAsGpu settings.gpuFilter) SameDevice items gpus ∧
          items.map (·.member? "bdf") = [some (.text "0000:01:00.0")] ∧
          gpus.map (·.member? "gpu_id") = [some (.text "0000:01:00.0")] := by
  obtain ⟨hclass, hselection⟩ := gpu_list_is_selection
  have hgpuAsks : Asks .standard oneGpu ["--json", "list", "--gpu", "--no-names"]
      { json := true } (.list true false) := ⟨by decide +kernel, rfl⟩
  have hlistAsks : Asks .standard oneGpu ["--json", "list", "--no-names"] { json := true }
      (.list false false) := ⟨by decide +kernel, rfl⟩
  obtain ⟨labels, hlabelled⟩ : ∃ labels, labelled none onlyGpu = .ok (onlyGpu, labels) :=
    exists_labelled_of_accepts (by decide +kernel) (by simp [onlyGpu]) none
  have hgpus : carryOut oneGpu {} true (.list true false) =
      .ok ((Report.gpusJson (Gpu.identify none .standard [onlyGpu])).render ++ "\n") :=
    list_gpus_eq_ok_iff.2 ⟨none, [onlyGpu], rfl, discover_oneGpu, rfl⟩
  have hgpuRun := (run_eq_printed_iff hgpuAsks).2 ⟨{}, _, rfl, hgpus, print_render _ _⟩
  have hlistRun := run_list_single hlistAsks rfl rfl rfl discover_oneGpu hlabelled
  obtain ⟨settings, items, gpus, hsettings, hshownList, hshownGpus, hselected⟩ :=
    hselection .standard oneGpu { json := true } false false _ _ _ _ rfl hgpuAsks hlistAsks
      hgpuRun hlistRun
  -- The texts that are printed tell which items stand in the two lists.
  have hitems := Json.list.inj (Json.eq_of_render_line (Report.reals_devicesJson _) hshownList)
  have hgpuItems := Json.list.inj (Json.eq_of_render_line (Report.reals_gpusJson _) hshownGpus)
  refine ⟨(hclass onlyGpu).1 (by decide), _, _, hgpuRun, hlistRun, settings, items, gpus,
    hsettings, hshownList, hshownGpus, hselected, ?_, ?_⟩
  · rw [← hitems, List.map_singleton, List.map_singleton, (members_of_labelled hlabelled).1]
    rfl
  · rw [← hgpuItems]
    rfl

end Command
end PciCatalog
