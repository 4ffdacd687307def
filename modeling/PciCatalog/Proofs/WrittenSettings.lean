import PciCatalog.Command.Standard
import PciCatalog.Proofs.PathReading
import PciCatalog.Proofs.SettingsReading
import PciCatalog.Proofs.WrittenNumber

/-!
# Settings as they are written

Settings are written as entries of a mapping, each under its name or not at all, and the number of a
vendor as an integer or as a text in any of its spellings.  What is written is read back, and
settings that were read can be written.  Main statement: `settings_read_as_written`.
-/

namespace PciCatalog
namespace Settings

variable {levels : Levels} {entries : List (Scalar × Value)} {name : String} {n : Nat} {v : Value}

/-! ### Writing -/

/-- Whether a setting is left out: no entry or null stands for it. -/
def LeftOut (entries : List (Scalar × Value)) (name : String) : Prop :=
  Value.lookupText entries name = none ∨ Value.lookupText entries name = some (.scalar .null)

/-- Whether entries write a setting under a name, given how values write it; a setting that is left
out has its default. -/
inductive WrittenUnder {α : Type} (writes : Value → α → Prop) (default : α)
    (entries : List (Scalar × Value)) (name : String) : α → Prop
  | leftOut (h : LeftOut entries name) : WrittenUnder writes default entries name default
  | entry {v : Value} {a : α} (h : Value.lookupText entries name = some v) (hv : writes v a) :
    WrittenUnder writes default entries name a

/-- How a value writes the number of a vendor. -/
inductive WritesId : Value → Int → Prop
  | integer {n : Nat} (h : n ≤ 0xFFFF) : WritesId (.scalar (.int n)) n
  | spelling {n : Nat} (h : n ≤ 0xFFFF) (s : Numeral.Spelling n) :
    WritesId (.scalar (.text s.text)) n

/-- How a value writes the names file. -/
inductive WritesIdsFile : Value → Option String → Prop
  | text (file : String) : WritesIdsFile (.scalar (.text file)) (some file)

/-- How a value writes the candidates for a names file. -/
inductive WritesIdsPaths : Value → List String → Prop
  | list (paths : List String) :
    WritesIdsPaths (.list (paths.map fun path => .scalar (.text path))) paths

/-- How a value writes the device directory: as any text that names the path. -/
inductive WritesSysfsPath : Value → Path → Prop
  | text (text : String) : WritesSysfsPath (.scalar (.text text)) (Path.ofString text)

/-- How a row writes a vendor and its name. -/
def WritesVendor (row : Scalar × Value) (vendor : Int × String) : Prop :=
  WritesId (.scalar row.1) vendor.1 ∧ row.2 = .scalar (.text vendor.2)

/-- How a value writes the makers of GPUs: of several rows for one vendor the last one counts. -/
inductive WritesVendors : Value → Std.ExtTreeMap Int String → Prop
  | mapping {rows : List (Scalar × Value)} {pairs : List (Int × String)}
    {vendors : Std.ExtTreeMap Int String} (hrows : List.Forall₂ WritesVendor rows pairs)
    (hlast : ∀ id : Int, vendors[id]? = pairs.reverse.lookup id) :
    WritesVendors (.mapping rows) vendors

/-- How a value writes the makers of server management controllers. -/
inductive WritesBmcVendors : Value → Std.ExtTreeSet Int → Prop
  | list {items : List Value} {ids : List Int} {bmcVendors : Std.ExtTreeSet Int}
    (hitems : List.Forall₂ WritesId items ids) (hmem : ∀ id, id ∈ bmcVendors ↔ id ∈ ids) :
    WritesBmcVendors (.list items) bmcVendors

/-- How a value writes the lists that decide what counts as a GPU. -/
inductive WritesGpuFilter : Value → GpuFilter → Prop
  | mapping {gpu : List (Scalar × Value)} {filter : GpuFilter}
    (hvendors : WrittenUnder WritesVendors GpuFilter.defaultVendors gpu "vendors" filter.vendors)
    (hbmcVendors : WrittenUnder WritesBmcVendors GpuFilter.defaultBmcVendors gpu "bmc_vendors"
      filter.bmcVendors) :
    WritesGpuFilter (.mapping gpu) filter

/-- Whether entries write settings. -/
structure Written (entries : List (Scalar × Value)) (settings : Settings) : Prop where
  idsFile : WrittenUnder WritesIdsFile none entries "ids_file" settings.idsFile
  idsPaths : WrittenUnder WritesIdsPaths Database.standardPaths entries "ids_paths"
    settings.idsPaths
  sysfsPath : WrittenUnder WritesSysfsPath Sysfs.standardPath entries "sysfs_path"
    settings.sysfsPath
  gpuFilter : WrittenUnder WritesGpuFilter .standard entries "gpu" settings.gpuFilter

/-! ### Reading what is written -/

theorem given?_eq_none_iff : given? entries name = none ↔ LeftOut entries name := by
  unfold given? LeftOut
  split
  · next h => simp [h]
  · next h => exact (or_iff_left h).symm

theorem given?_eq_some_iff :
    given? entries name = some v ↔ Value.lookupText entries name = some v ∧ v ≠ .scalar .null := by
  unfold given?
  split
  · next h =>
    rw [h]
    constructor
    · nofun
    · rintro ⟨heq, hv⟩
      exact absurd (Option.some.inj heq).symm hv
  · next h =>
    constructor
    · intro heq
      refine ⟨heq, ?_⟩
      rintro rfl
      exact h heq
    · exact And.left

/-- A setting that is written is read as it is, if its default and its values are. -/
theorem WrittenUnder.read {α : Type} {writes : Value → α → Prop} {default a : α}
    {read : Option Value → Except SettingsError α}
    (h : WrittenUnder writes default entries name a) (hdefault : read none = .ok default)
    (hnull : ∀ a, ¬ writes (.scalar .null) a)
    (hread : ∀ v a, writes v a → read (some v) = .ok a) : read (given? entries name) = .ok a := by
  cases h with
  | leftOut h => rw [given?_eq_none_iff.2 h, hdefault]
  | @entry v a h hv =>
    have hgiven : given? entries name = some v := by
      refine given?_eq_some_iff.2 ⟨h, ?_⟩
      rintro rfl
      exact hnull _ hv
    rw [hgiven, hread v a hv]

theorem readText_text (n : Nat) (text : String) : readText n (.scalar (.text text)) = .ok text := by
  simp [readText, Value.textForm, Scalar.textForm, Except.map, Except.mapError]

theorem readId_of_writesId {id : Int} (h : WritesId v id) : readId n v = .ok id := by
  rw [readId_eq_ok_iff]
  cases h with
  | @integer n hn =>
    refine ⟨rfl, Int.natCast_nonneg n, ?_⟩
    rw [maxId]
    omega
  | @spelling n hn s =>
    refine ⟨s.hexadecimal?_text, Int.natCast_nonneg n, ?_⟩
    rw [maxId]
    omega

theorem readVendor_of_writesVendor {row : Scalar × Value} {vendor : Int × String}
    (h : WritesVendor row vendor) : readVendor levels row = .ok vendor := by
  refine readVendor_eq_ok_iff.2 ⟨readId_of_writesId h.1, ?_⟩
  rw [h.2, readText_text]

/-- Of several names for one number the last one counts. -/
theorem getElem?_ofList (pairs : List (Int × String)) (id : Int) :
    (Std.ExtTreeMap.ofList pairs)[id]? = pairs.reverse.lookup id := by
  induction pairs using List.reverseRecOn with
  | nil => simp
  | append_singleton front pair ih =>
    obtain ⟨k, text⟩ := pair
    rw [Std.ExtTreeMap.ofList_eq_insertMany_empty, Std.ExtTreeMap.insertMany_append,
      ← Std.ExtTreeMap.ofList_eq_insertMany_empty, Std.ExtTreeMap.insertMany_list_singleton,
      Std.ExtTreeMap.getElem?_insert, ih, List.reverse_append, List.reverse_singleton,
      List.singleton_append, List.lookup_cons]
    by_cases hid : id = k
    · simp [hid]
    · have hbeq : (id == k) = false := by simpa using hid
      rw [hbeq, if_neg (by simpa [Std.compare_eq_iff_eq] using Ne.symm hid)]

theorem readVendors_of_writesVendors {vendors : Std.ExtTreeMap Int String}
    (h : WritesVendors v vendors) : readVendors levels (some v) = .ok vendors := by
  cases h with
  | @mapping rows pairs _ hrows hlast =>
    refine readVendors_eq_ok_iff.2 (.inr ⟨rows, rfl, pairs, ?_, ?_⟩)
    · exact Result.mapM_eq_ok_iff_forall₂.2 (hrows.imp fun _ _ => readVendor_of_writesVendor)
    · exact Std.ExtTreeMap.ext_getElem? fun id => (hlast id).trans (getElem?_ofList pairs id).symm

theorem readBmcVendors_of_writesBmcVendors {bmcVendors : Std.ExtTreeSet Int}
    (h : WritesBmcVendors v bmcVendors) : readBmcVendors levels (some v) = .ok bmcVendors := by
  cases h with
  | @list items ids _ hitems hmem =>
    refine readBmcVendors_eq_ok_iff.2 (.inr ⟨items, rfl, ids, ?_, ?_⟩)
    · exact Result.mapM_eq_ok_iff_forall₂.2 (hitems.imp fun _ _ => readId_of_writesId)
    · exact Std.ExtTreeSet.ext_mem fun id => by simp [hmem]

theorem readGpuFilter_of_writesGpuFilter {filter : GpuFilter} (h : WritesGpuFilter v filter) :
    readGpuFilter levels (some v) = .ok filter := by
  cases h with
  | @mapping gpu filter hvendors hbmcVendors =>
    refine readGpuFilter_eq_ok_iff.2 (.inr ⟨gpu, rfl, ?_, ?_⟩)
    · exact hvendors.read rfl nofun fun _ _ => readVendors_of_writesVendors
    · exact hbmcVendors.read rfl nofun fun _ _ => readBmcVendors_of_writesBmcVendors

theorem readIdsFile_of_writesIdsFile {file : Option String} (h : WritesIdsFile v file) :
    (some v).mapM (readText n) = .ok file := by
  cases h with
  | text file => rw [Result.option_mapM_eq_ok_iff, Option.map_some, readText_text, Option.map_some]

theorem readPaths_of_writesIdsPaths {paths : List String} (h : WritesIdsPaths v paths) :
    readPaths n (some v) = .ok paths := by
  cases h with
  | list paths =>
    refine readPaths_eq_ok_iff.2 (.inr ⟨_, rfl, Result.mapM_eq_ok_iff.2 ?_⟩)
    rw [List.map_map]
    exact List.map_congr_left fun path _ => readText_text n path

theorem readSysfsPath_of_writesSysfsPath {path : Path} (h : WritesSysfsPath v path) :
    readSysfsPath (some v) = .ok path := by
  cases h with
  | text text => rfl

/-- Settings that are written are read as they are. -/
theorem Written.read {settings : Settings} (h : Written entries settings) :
    ofEntries levels entries = .ok settings :=
  ofEntries_eq_ok_iff.2
    ⟨h.idsFile.read rfl nofun fun _ _ => readIdsFile_of_writesIdsFile,
      h.idsPaths.read rfl nofun fun _ _ => readPaths_of_writesIdsPaths,
      h.sysfsPath.read rfl nofun fun _ _ => readSysfsPath_of_writesSysfsPath,
      h.gpuFilter.read rfl nofun fun _ _ => readGpuFilter_of_writesGpuFilter⟩

/-! ### Writing what was read -/

/-- Whether a number can be the number of a vendor. -/
def InRange (id : Int) : Prop :=
  0 ≤ id ∧ id ≤ 0xFFFF

instance : DecidablePred InRange := fun id =>
  inferInstanceAs (Decidable (0 ≤ id ∧ id ≤ 0xFFFF))

/-- Whether settings are of the kind that can be read: the device directory is a path as texts name
it, and the numbers of vendors are within the range. -/
structure Proper (settings : Settings) : Prop where
  sysfsPath : settings.sysfsPath.Normal
  vendors : ∀ id ∈ settings.gpuFilter.vendors, InRange id
  bmcVendors : ∀ id ∈ settings.gpuFilter.bmcVendors, InRange id

/-- Entries for all of the settings, with the numbers of vendors as integers. -/
def toEntries (settings : Settings) : List (Scalar × Value) :=
  [(.text "ids_file", .scalar (settings.idsFile.elim .null .text)),
    (.text "ids_paths", .list (settings.idsPaths.map fun path => .scalar (.text path))),
    (.text "sysfs_path", .scalar (.text settings.sysfsPath.toString)),
    (.text "gpu", .mapping
      [(.text "vendors", .mapping (settings.gpuFilter.vendors.toList.map fun vendor =>
          (.int vendor.1, .scalar (.text vendor.2)))),
        (.text "bmc_vendors", .list (settings.gpuFilter.bmcVendors.toList.map fun id =>
          .scalar (.int id)))])]

theorem writesId_int {id : Int} (h : InRange id) : WritesId (.scalar (.int id)) id := by
  obtain ⟨n, rfl⟩ := Int.eq_ofNat_of_zero_le h.1
  exact .integer (Int.ofNat_le.1 h.2)

/-- A map is the map of its own entries. -/
theorem ofList_toList (vendors : Std.ExtTreeMap Int String) :
    Std.ExtTreeMap.ofList vendors.toList = vendors := by
  apply Std.ExtTreeMap.ext_getElem?
  intro id
  cases h : vendors[id]? with
  | some text =>
    exact Std.ExtTreeMap.getElem?_ofList_of_mem Std.ReflCmp.compare_self
      Std.ExtTreeMap.distinct_keys_toList (Std.ExtTreeMap.mem_toList_iff_getElem?_eq_some.2 h)
  | none =>
    apply Std.ExtTreeMap.getElem?_ofList_of_contains_eq_false
    rw [Std.ExtTreeMap.map_fst_toList_eq_keys]
    rw [← Option.not_isSome_iff_eq_none, ← Std.ExtTreeMap.mem_iff_isSome_getElem?] at h
    simpa using h

theorem writesVendors_toList {vendors : Std.ExtTreeMap Int String}
    (h : ∀ id ∈ vendors, InRange id) :
    WritesVendors (.mapping (vendors.toList.map fun vendor =>
      (.int vendor.1, .scalar (.text vendor.2)))) vendors := by
  have hrows : List.Forall₂ WritesVendor
      (vendors.toList.map fun vendor => (.int vendor.1, .scalar (.text vendor.2)))
      vendors.toList := by
    rw [List.forall₂_map_left_iff, List.forall₂_same]
    intro vendor hvendor
    refine ⟨writesId_int (h vendor.1 ?_), rfl⟩
    rw [Std.ExtTreeMap.mem_iff_isSome_getElem?,
      Std.ExtTreeMap.mem_toList_iff_getElem?_eq_some.1 hvendor]
    rfl
  refine .mapping hrows fun id => ?_
  rw [← getElem?_ofList, ofList_toList]

theorem writesBmcVendors_toList {bmcVendors : Std.ExtTreeSet Int}
    (h : ∀ id ∈ bmcVendors, InRange id) :
    WritesBmcVendors (.list (bmcVendors.toList.map fun id => .scalar (.int id))) bmcVendors := by
  have hitems : List.Forall₂ WritesId (bmcVendors.toList.map fun id => .scalar (.int id))
      bmcVendors.toList := by
    rw [List.forall₂_map_left_iff, List.forall₂_same]
    exact fun id hid => writesId_int (h id (Std.ExtTreeSet.mem_toList.1 hid))
  exact .list hitems fun id => Std.ExtTreeSet.mem_toList.symm

/-- The entries for settings write them. -/
theorem Proper.written {settings : Settings} (h : settings.Proper) :
    Written settings.toEntries settings := by
  constructor
  · unfold toEntries
    cases settings.idsFile with
    | none => exact .leftOut (.inr rfl)
    | some file => exact .entry rfl (.text file)
  · exact .entry rfl (.list settings.idsPaths)
  · refine .entry rfl ?_
    have hpath := WritesSysfsPath.text settings.sysfsPath.toString
    rwa [h.sysfsPath.ofString_toString] at hpath
  · exact .entry rfl (.mapping (.entry rfl (writesVendors_toList h.vendors))
      (.entry rfl (writesBmcVendors_toList h.bmcVendors)))

variable {given : Option Value}

theorem range_of_readId {id : Int} (h : readId n v = .ok id) : InRange id :=
  (readId_eq_ok_iff.1 h).2

theorem range_of_readVendors {vendors : Std.ExtTreeMap Int String}
    (h : readVendors levels given = .ok vendors) : ∀ id ∈ vendors, InRange id := by
  intro id hid
  rcases readVendors_eq_ok_iff.1 h with ⟨-, rfl⟩ | ⟨rows, -, pairs, hrows, rfl⟩
  · rw [GpuFilter.defaultVendors, Std.ExtTreeMap.mem_ofList, List.contains_iff_mem] at hid
    have hall : ∀ id ∈ [(0x10DE : Int), 0x1002, 0x8086], InRange id := by decide
    exact hall id hid
  · rw [Std.ExtTreeMap.mem_ofList, List.contains_iff_mem] at hid
    obtain ⟨vendor, hvendor, rfl⟩ := List.mem_map.1 hid
    obtain ⟨row, -, hrow⟩ := Result.exists_mem_of_mapM hrows hvendor
    exact range_of_readId (readVendor_eq_ok_iff.1 hrow).1

theorem range_of_readBmcVendors {bmcVendors : Std.ExtTreeSet Int}
    (h : readBmcVendors levels given = .ok bmcVendors) : ∀ id ∈ bmcVendors, InRange id := by
  intro id hid
  rcases readBmcVendors_eq_ok_iff.1 h with ⟨-, rfl⟩ | ⟨items, -, ids, hitems, rfl⟩
  · rw [GpuFilter.defaultBmcVendors, Std.ExtTreeSet.mem_ofList, List.contains_iff_mem] at hid
    have hall : ∀ id ∈ [(0x1A03 : Int), 0x102B], InRange id := by decide
    exact hall id hid
  · rw [Std.ExtTreeSet.mem_ofList, List.contains_iff_mem] at hid
    obtain ⟨item, -, hitem⟩ := Result.exists_mem_of_mapM hitems hid
    exact range_of_readId hitem

/-- Settings that were read can be written. -/
theorem proper_of_ofEntries {settings : Settings} (h : ofEntries levels entries = .ok settings) :
    settings.Proper := by
  obtain ⟨-, -, hsysfsPath, hgpuFilter⟩ := ofEntries_eq_ok_iff.1 h
  have hpath : settings.sysfsPath.Normal := by
    rcases readSysfsPath_eq_ok_iff.1 hsysfsPath with ⟨-, hpath⟩ | ⟨text, -, hpath⟩
    · rw [hpath]
      exact Path.normal_ofString _
    · rw [hpath]
      exact Path.normal_ofString text
  rcases readGpuFilter_eq_ok_iff.1 hgpuFilter with ⟨-, hstandard⟩ | ⟨gpu, -, hvendors, hbmcVendors⟩
  · refine ⟨hpath, ?_, ?_⟩ <;> rw [hstandard]
    · exact range_of_readVendors (rfl : readVendors levels none = .ok _)
    · exact range_of_readBmcVendors (rfl : readBmcVendors levels none = .ok _)
  · exact ⟨hpath, range_of_readVendors hvendors, range_of_readBmcVendors hbmcVendors⟩

/-! ### Leaving a setting out -/

/-- Settings with the one under a name at its default. -/
def reset (settings : Settings) (name : String) : Settings :=
  match name with
  | "ids_file" => { settings with idsFile := none }
  | "ids_paths" => { settings with idsPaths := Database.standardPaths }
  | "sysfs_path" => { settings with sysfsPath := Sysfs.standardPath }
  | "gpu" => { settings with gpuFilter := .standard }
  | _ => settings

/-- Whether entries leave out one setting and are for the others as before. -/
structure LeavesOut (entries others : List (Scalar × Value)) (name : String) : Prop where
  leftOut : LeftOut others name
  same : ∀ other, other ≠ name → Value.lookupText others other = Value.lookupText entries other

theorem LeavesOut.given?_eq {others : List (Scalar × Value)} (h : LeavesOut entries others name)
    {other : String} (hne : other ≠ name) : given? others other = given? entries other := by
  rw [given?, h.same other hne, given?]

/-- To leave a setting out gives its default and does nothing to the others. -/
theorem LeavesOut.read {others : List (Scalar × Value)} {settings : Settings}
    (h : LeavesOut entries others name) (hread : ofEntries levels entries = .ok settings) :
    ofEntries levels others = .ok (settings.reset name) := by
  obtain ⟨hidsFile, hidsPaths, hsysfsPath, hgpuFilter⟩ := ofEntries_eq_ok_iff.1 hread
  have hnone := given?_eq_none_iff.2 h.leftOut
  rw [ofEntries_eq_ok_iff]
  unfold reset
  split
  · rw [hnone, h.given?_eq (by decide), h.given?_eq (by decide), h.given?_eq (by decide)]
    exact ⟨rfl, hidsPaths, hsysfsPath, hgpuFilter⟩
  · rw [hnone, h.given?_eq (by decide), h.given?_eq (by decide), h.given?_eq (by decide)]
    exact ⟨hidsFile, rfl, hsysfsPath, hgpuFilter⟩
  · rw [hnone, h.given?_eq (by decide), h.given?_eq (by decide), h.given?_eq (by decide)]
    exact ⟨hidsFile, hidsPaths, rfl, hgpuFilter⟩
  · rw [hnone, h.given?_eq (by decide), h.given?_eq (by decide), h.given?_eq (by decide)]
    exact ⟨hidsFile, hidsPaths, hsysfsPath, rfl⟩
  · next hfile hpaths hpath hgpu =>
    rw [h.given?_eq (Ne.symm hfile), h.given?_eq (Ne.symm hpaths), h.given?_eq (Ne.symm hpath),
      h.given?_eq (Ne.symm hgpu)]
    exact ⟨hidsFile, hidsPaths, hsysfsPath, hgpuFilter⟩

/-- Settings are read as they are written, however the numbers of vendors are spelled; to leave one
out gives its default and does nothing to the others.  All settings that can be read can be written,
and are then read again. -/
theorem settings_read_as_written (levels : Levels) :
    (∀ entries settings, Written entries settings → ofEntries levels entries = .ok settings) ∧
    (∀ entries others name settings, ofEntries levels entries = .ok settings →
      LeavesOut entries others name → ofEntries levels others = .ok (settings.reset name)) ∧
    (∀ settings, Proper settings → Written settings.toEntries settings) ∧
    ∀ entries settings, ofEntries levels entries = .ok settings →
      Proper settings ∧ ofEntries levels settings.toEntries = .ok settings :=
  ⟨fun _ _ => Written.read, fun _ _ _ _ hread hleaves => hleaves.read hread,
    fun _ => Proper.written,
    fun _ _ hread => ⟨proper_of_ofEntries hread, (proper_of_ofEntries hread).written.read⟩⟩

/-- The number `0x10DE` with white space, a mark and digits of both letter cases. -/
def markedSpelling : Numeral.Spelling 0x10DE :=
  ⟨[' '], ['0', 'X'], 0, ['1', '0', 'd', 'E'], ['\t', '\u3000'],
    Text.forall_mem_of_all (by decide), by decide, Text.forall_mem_of_all (by decide), by decide⟩

/-- The number `0x1A03` behind two zeros. -/
def zeroSpelling : Numeral.Spelling 0x1A03 :=
  ⟨[], [], 2, ['0', '0', '1', 'A', '0', '3'], [], Text.forall_mem_of_all (by decide), by decide,
    Text.forall_mem_of_all (by decide), by decide⟩

/-- The rows of a mapping of vendors that names one vendor twice. -/
def spelledVendors : List (Int × String) :=
  [(0x10DE, "First"), (0x10DE, "Second")]

/-- Settings of which two are at their defaults. -/
def spelledSettings : Settings where
  sysfsPath := Path.ofString "/sys/./pci/"
  gpuFilter := ⟨Std.ExtTreeMap.ofList spelledVendors, Std.ExtTreeSet.ofList [(0x1A03 : Int)]⟩

/-- Entries that leave one setting out, have null for another and spell numbers in three ways. -/
def spelledEntries : List (Scalar × Value) :=
  [(.text "ids_file", .scalar .null), (.text "sysfs_path", .scalar (.text "/sys/./pci/")),
    (.text "gpu", .mapping
      [(.text "vendors", .mapping [(.int 0x10DE, .scalar (.text "First")),
          (.text markedSpelling.text, .scalar (.text "Second"))]),
        (.text "bmc_vendors", .list [.scalar (.text zeroSpelling.text)])])]

theorem written_spelledEntries : Written spelledEntries spelledSettings where
  idsFile := .leftOut (.inr rfl)
  idsPaths := .leftOut (.inl rfl)
  sysfsPath := .entry rfl (.text _)
  gpuFilter := by
    have hfirst : WritesVendor (.int 0x10DE, .scalar (.text "First")) (0x10DE, "First") :=
      ⟨.integer (n := 0x10DE) (by decide), rfl⟩
    have hsecond : WritesVendor (.text markedSpelling.text, .scalar (.text "Second"))
        (0x10DE, "Second") :=
      ⟨.spelling (by decide) markedSpelling, rfl⟩
    have hbmcVendor : WritesId (.scalar (.text zeroSpelling.text)) 0x1A03 :=
      .spelling (by decide) zeroSpelling
    refine .entry rfl (.mapping (.entry rfl (.mapping (.cons hfirst (.cons hsecond .nil))
      (getElem?_ofList spelledVendors))) (.entry rfl (.list (.cons hbmcVendor .nil) ?_)))
    intro id
    rw [spelledSettings, Std.ExtTreeSet.mem_ofList, List.contains_iff_mem]

theorem leavesOut_spelledEntries : LeavesOut spelledEntries (spelledEntries.take 2) "gpu" where
  leftOut := .inl rfl
  same other hne := by
    have hkey : (Scalar.text other == Scalar.text "gpu") = false := by simpa using hne
    simp [spelledEntries, Value.lookupText, List.lookup_cons, hkey]

theorem settings_of_spelledEntries :
    Written spelledEntries spelledSettings ∧
      ofEntries Command.standardLevels spelledEntries = .ok spelledSettings ∧
      spelledSettings.gpuFilter.vendors[(0x10DE : Int)]? = some "Second" ∧
      LeavesOut spelledEntries (spelledEntries.take 2) "gpu" ∧
      ofEntries Command.standardLevels (spelledEntries.take 2) = .ok (spelledSettings.reset "gpu") ∧
      Proper spelledSettings ∧ Written spelledSettings.toEntries spelledSettings ∧
      ofEntries Command.standardLevels spelledSettings.toEntries = .ok spelledSettings := by
  obtain ⟨hread, hleaves, hwritten, hproper⟩ := settings_read_as_written Command.standardLevels
  have hentries := hread spelledEntries spelledSettings written_spelledEntries
  obtain ⟨hsettings, hagain⟩ := hproper spelledEntries spelledSettings hentries
  exact ⟨written_spelledEntries, hentries, getElem?_ofList spelledVendors 0x10DE,
    leavesOut_spelledEntries,
    hleaves spelledEntries _ "gpu" spelledSettings hentries leavesOut_spelledEntries, hsettings,
    hwritten spelledSettings hsettings, hagain⟩

end Settings
end PciCatalog
