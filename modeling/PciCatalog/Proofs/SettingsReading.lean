import PciCatalog.Proofs.Nesting
import PciCatalog.Settings

/-!
# Which settings are read

Settings come out of a mapping exactly when each of them is in order (`InOrder`).  Main statement:
`exists_settings_iff`.
-/

namespace PciCatalog

namespace Settings

variable {levels : Levels} {entries : List (Scalar × Value)} {n : Nat} {v : Value}

/-! ### Values in order -/

/-- Whether a value has a text form within some levels of nesting. -/
def HasText (n : Nat) (v : Value) : Prop :=
  v.depth ≤ n ∧ v.IsShort

/-- Whether a value is the number of a vendor: an integer within the range, or a text that reads as
one in hexadecimal. -/
def IsId (v : Value) : Prop :=
  ∃ id, idOf? v = some id ∧ 0 ≤ id ∧ id ≤ maxId

/-- Whether a row gives the number of a vendor and its name. -/
def IsVendor (levels : Levels) (row : Scalar × Value) : Prop :=
  IsId (.scalar row.1) ∧ HasText levels.name row.2

/-- Whether the makers of GPUs, if they are given, are a mapping of numbers to names. -/
def VendorsInOrder (levels : Levels) (gpu : List (Scalar × Value)) : Prop :=
  ∀ v, given? gpu "vendors" = some v → ∃ rows, v = .mapping rows ∧ ∀ row ∈ rows, IsVendor levels row

/-- Whether the lists that decide what counts as a GPU are in order: a mapping of numbers to names
and a list of numbers. -/
structure FilterInOrder (levels : Levels) (gpu : List (Scalar × Value)) : Prop where
  vendors : VendorsInOrder levels gpu
  bmcVendors : ∀ v, given? gpu "bmc_vendors" = some v →
    ∃ items, v = .list items ∧ ∀ item ∈ items, IsId item

/-- Whether the names file and the candidates for one are in order, as far as they are given. -/
structure NamesInOrder (levels : Levels) (entries : List (Scalar × Value)) : Prop where
  idsFile : ∀ v, given? entries "ids_file" = some v → HasText levels.idsFile v
  idsPaths : ∀ v, given? entries "ids_paths" = some v →
    ∃ items, v = .list items ∧ ∀ item ∈ items, HasText levels.idsPaths item

/-- Whether the settings that name files are in order, as far as they are given. -/
structure PathsInOrder (levels : Levels) (entries : List (Scalar × Value)) : Prop
    extends NamesInOrder levels entries where
  sysfsPath : ∀ v, given? entries "sysfs_path" = some v → ∃ text, v = .scalar (.text text)

/-- Whether each of the settings that are given is in order. -/
structure InOrder (levels : Levels) (entries : List (Scalar × Value)) : Prop
    extends PathsInOrder levels entries where
  gpuFilter : ∀ v, given? entries "gpu" = some v →
    ∃ gpu, v = .mapping gpu ∧ FilterInOrder levels gpu

theorem exists_readText_iff : (∃ text, readText n v = .ok text) ↔ HasText n v := by
  simp only [readText, Result.mapError_eq_ok_iff]
  rw [(v.answers_textForm n).exists_ok_iff, HasText, Nat.not_lt, Classical.not_not]

theorem readId_eq_ok_iff {id : Int} :
    readId n v = .ok id ↔ idOf? v = some id ∧ 0 ≤ id ∧ id ≤ maxId := by
  unfold readId
  cases idOf? v with
  | none => simp
  | some m =>
    dsimp only
    -- An integer is taken only within the range of a number of 16 bits.
    split
    · next hrange =>
      rw [Bool.and_eq_true, decide_eq_true_eq, decide_eq_true_eq] at hrange
      rw [Except.ok.injEq, Option.some_inj]
      refine ⟨?_, And.left⟩
      rintro rfl
      exact ⟨rfl, hrange⟩
    · next hrange =>
      rw [Bool.and_eq_true, decide_eq_true_eq, decide_eq_true_eq] at hrange
      refine ⟨nofun, ?_⟩
      rintro ⟨hm, hn⟩
      rw [Option.some.inj hm] at hrange
      exact absurd hn hrange

theorem exists_readId_iff : (∃ id, readId n v = .ok id) ↔ IsId v :=
  exists_congr fun _ => readId_eq_ok_iff

theorem readVendor_eq_ok_iff {row : Scalar × Value} {vendor : Int × String} :
    readVendor levels row = .ok vendor ↔
      readId levels.id (.scalar row.1) = .ok vendor.1 ∧
        readText levels.name row.2 = .ok vendor.2 := by
  obtain ⟨id, name⟩ := vendor
  simp only [readVendor, Result.bind_eq_ok_iff, Result.pure_eq_ok_iff, Prod.mk.injEq]
  constructor
  · rintro ⟨_, hid, _, hname, rfl, rfl⟩
    exact ⟨hid, hname⟩
  · rintro ⟨hid, hname⟩
    exact ⟨id, hid, name, hname, rfl, rfl⟩

theorem exists_readVendor_iff {row : Scalar × Value} :
    (∃ vendor, readVendor levels row = .ok vendor) ↔ IsVendor levels row := by
  rw [IsVendor, ← exists_readId_iff (n := levels.id), ← exists_readText_iff]
  constructor
  · rintro ⟨vendor, h⟩
    obtain ⟨hid, hname⟩ := readVendor_eq_ok_iff.1 h
    exact ⟨⟨_, hid⟩, ⟨_, hname⟩⟩
  · rintro ⟨⟨id, hid⟩, ⟨name, hname⟩⟩
    exact ⟨(id, name), readVendor_eq_ok_iff.2 ⟨hid, hname⟩⟩

/-! ### What each setting is read from -/

variable {given : Option Value}

theorem readPaths_eq_ok_iff {paths : List String} :
    readPaths n given = .ok paths ↔ (given = none ∧ paths = Database.standardPaths) ∨
      ∃ items, given = some (.list items) ∧ items.mapM (readText n) = .ok paths := by
  unfold readPaths
  split
  · simp [eq_comm]
  · simp
  · next v hlist => simpa using fun items h => absurd h (hlist items)

theorem readSysfsPath_eq_ok_iff {path : Path} :
    readSysfsPath given = .ok path ↔ (given = none ∧ path = Sysfs.standardPath) ∨
      ∃ text, given = some (.scalar (.text text)) ∧ path = Path.ofString text := by
  unfold readSysfsPath
  split
  · simp [eq_comm]
  · simp [eq_comm]
  · next v htext => simpa using fun text h => absurd h (htext text)

theorem readVendors_eq_ok_iff {vendors : Std.ExtTreeMap Int String} :
    readVendors levels given = .ok vendors ↔ (given = none ∧ vendors = GpuFilter.defaultVendors) ∨
      ∃ rows, given = some (.mapping rows) ∧
        ∃ read, rows.mapM (readVendor levels) = .ok read ∧
          vendors = Std.ExtTreeMap.ofList read := by
  unfold readVendors
  split
  · simp [eq_comm]
  · next rows =>
    rw [Result.bind_eq_ok_iff]
    simp only [Result.pure_eq_ok_iff]
    constructor
    · rintro ⟨read, hread, rfl⟩
      exact .inr ⟨rows, rfl, read, hread, rfl⟩
    · rintro (⟨h, -⟩ | ⟨_, h, read, hread, rfl⟩)
      · contradiction
      · cases h
        exact ⟨read, hread, rfl⟩
  · next v hmapping => simpa using fun rows h => absurd h (hmapping rows)

theorem readBmcVendors_eq_ok_iff {bmcVendors : Std.ExtTreeSet Int} :
    readBmcVendors levels given = .ok bmcVendors ↔
      (given = none ∧ bmcVendors = GpuFilter.defaultBmcVendors) ∨
        ∃ items, given = some (.list items) ∧
          ∃ read, items.mapM (readId levels.id) = .ok read ∧
            bmcVendors = Std.ExtTreeSet.ofList read := by
  unfold readBmcVendors
  split
  · simp [eq_comm]
  · next items =>
    rw [Result.bind_eq_ok_iff]
    simp only [Result.pure_eq_ok_iff]
    constructor
    · rintro ⟨read, hread, rfl⟩
      exact .inr ⟨items, rfl, read, hread, rfl⟩
    · rintro (⟨h, -⟩ | ⟨_, h, read, hread, rfl⟩)
      · contradiction
      · cases h
        exact ⟨read, hread, rfl⟩
  · next v hlist => simpa using fun items h => absurd h (hlist items)

theorem readGpuFilter_eq_ok_iff {filter : GpuFilter} :
    readGpuFilter levels given = .ok filter ↔ (given = none ∧ filter = .standard) ∨
      ∃ gpu, given = some (.mapping gpu) ∧
        readVendors levels (given? gpu "vendors") = .ok filter.vendors ∧
        readBmcVendors levels (given? gpu "bmc_vendors") = .ok filter.bmcVendors := by
  unfold readGpuFilter
  split
  · simp [eq_comm]
  · next gpu =>
    simp only [Result.bind_eq_ok_iff, Result.pure_eq_ok_iff]
    constructor
    · rintro ⟨vendors, hvendors, bmcVendors, hbmcVendors, rfl⟩
      exact .inr ⟨gpu, rfl, hvendors, hbmcVendors⟩
    · rintro (⟨h, -⟩ | ⟨_, h, hvendors, hbmcVendors⟩)
      · contradiction
      · cases h
        exact ⟨_, hvendors, _, hbmcVendors, rfl⟩
  · next v hmapping => simpa using fun gpu h => absurd h (hmapping gpu)

/-- Settings are read one by one. -/
theorem ofEntries_eq_ok_iff {settings : Settings} :
    ofEntries levels entries = .ok settings ↔
      (given? entries "ids_file").mapM (readText levels.idsFile) = .ok settings.idsFile ∧
        readPaths levels.idsPaths (given? entries "ids_paths") = .ok settings.idsPaths ∧
        readSysfsPath (given? entries "sysfs_path") = .ok settings.sysfsPath ∧
        readGpuFilter levels (given? entries "gpu") = .ok settings.gpuFilter := by
  simp only [ofEntries, Result.bind_eq_ok_iff, Result.pure_eq_ok_iff]
  constructor
  · rintro ⟨idsFile, hidsFile, idsPaths, hidsPaths, sysfsPath, hsysfsPath, gpuFilter, hgpuFilter,
      rfl⟩
    exact ⟨hidsFile, hidsPaths, hsysfsPath, hgpuFilter⟩
  · rintro ⟨hidsFile, hidsPaths, hsysfsPath, hgpuFilter⟩
    exact ⟨_, hidsFile, _, hidsPaths, _, hsysfsPath, _, hgpuFilter, rfl⟩

/-! ### Settings in order -/

theorem exists_idsFile_iff :
    (∃ file, given.mapM (readText n) = .ok file) ↔ ∀ v, given = some v → HasText n v := by
  simp only [Result.option_mapM_eq_ok_iff, ← exists_readText_iff]
  cases given with
  | none => exact ⟨fun _ => nofun, fun _ => ⟨none, rfl⟩⟩
  | some v =>
    constructor
    · rintro ⟨file, hfile⟩ _ h
      cases h
      obtain ⟨text, -, htext⟩ := Option.map_eq_some_iff.1 hfile.symm
      exact ⟨text, htext.symm⟩
    · intro h
      obtain ⟨text, htext⟩ := h v rfl
      exact ⟨some text, congrArg some htext⟩

/-- A setting with a default comes out when what is given for it, if anything, has the right shape
and comes out. -/
theorem exists_or_default_iff {α β : Type} {default : β} {shape : α → Value}
    {reads : α → β → Prop} :
    (∃ b, (given = none ∧ b = default) ∨ ∃ a, given = some (shape a) ∧ reads a b) ↔
      ∀ v, given = some v → ∃ a, v = shape a ∧ ∃ b, reads a b := by
  cases given with
  | none => exact ⟨fun _ => nofun, fun _ => ⟨default, .inl ⟨rfl, rfl⟩⟩⟩
  | some v =>
    constructor
    · rintro ⟨b, ⟨h, -⟩ | ⟨a, hv, hb⟩⟩ w hw
      · contradiction
      · cases hw
        exact ⟨a, Option.some.inj hv, b, hb⟩
    · intro h
      obtain ⟨a, hv, b, hb⟩ := h v rfl
      exact ⟨b, .inr ⟨a, congrArg some hv, hb⟩⟩

theorem exists_made_iff {α β : Type} {p : α → Prop} {f : α → β} :
    (∃ b a, p a ∧ b = f a) ↔ ∃ a, p a := by
  constructor
  · rintro ⟨-, a, ha, -⟩
    exact ⟨a, ha⟩
  · rintro ⟨a, ha⟩
    exact ⟨f a, a, ha, rfl⟩

theorem exists_readPaths_iff : (∃ paths, readPaths n given = .ok paths) ↔
    ∀ v, given = some v → ∃ items, v = .list items ∧ ∀ item ∈ items, HasText n item := by
  simp only [readPaths_eq_ok_iff, exists_or_default_iff, Result.exists_mapM_iff,
    exists_readText_iff]

theorem exists_readSysfsPath_iff : (∃ path, readSysfsPath given = .ok path) ↔
    ∀ v, given = some v → ∃ text, v = .scalar (.text text) := by
  simp only [readSysfsPath_eq_ok_iff, exists_or_default_iff, exists_eq, and_true]

theorem exists_readVendors_iff : (∃ vendors, readVendors levels given = .ok vendors) ↔
    ∀ v, given = some v →
      ∃ rows, v = .mapping rows ∧ ∀ row ∈ rows, IsVendor levels row := by
  simp only [readVendors_eq_ok_iff, exists_or_default_iff, exists_made_iff, Result.exists_mapM_iff,
    exists_readVendor_iff]

theorem exists_readBmcVendors_iff : (∃ bmcVendors, readBmcVendors levels given = .ok bmcVendors) ↔
    ∀ v, given = some v → ∃ items, v = .list items ∧ ∀ item ∈ items, IsId item := by
  simp only [readBmcVendors_eq_ok_iff, exists_or_default_iff, exists_made_iff,
    Result.exists_mapM_iff, exists_readId_iff]

theorem exists_readGpuFilter_iff : (∃ filter, readGpuFilter levels given = .ok filter) ↔
    ∀ v, given = some v → ∃ gpu, v = .mapping gpu ∧ FilterInOrder levels gpu := by
  have hfilter : ∀ gpu, FilterInOrder levels gpu ↔ ∃ filter : GpuFilter,
      readVendors levels (given? gpu "vendors") = .ok filter.vendors ∧
        readBmcVendors levels (given? gpu "bmc_vendors") = .ok filter.bmcVendors := by
    intro gpu
    constructor
    · rintro ⟨hvendors, hbmcVendors⟩
      obtain ⟨vendors, hvendors⟩ := exists_readVendors_iff.2 hvendors
      obtain ⟨bmcVendors, hbmcVendors⟩ := exists_readBmcVendors_iff.2 hbmcVendors
      exact ⟨⟨vendors, bmcVendors⟩, hvendors, hbmcVendors⟩
    · rintro ⟨filter, hvendors, hbmcVendors⟩
      exact ⟨exists_readVendors_iff.1 ⟨_, hvendors⟩, exists_readBmcVendors_iff.1 ⟨_, hbmcVendors⟩⟩
  simp only [readGpuFilter_eq_ok_iff, exists_or_default_iff, hfilter]

/-- Settings are read exactly when each of them is in order. -/
theorem exists_settings_iff :
    (∃ settings, ofEntries levels entries = .ok settings) ↔ InOrder levels entries := by
  simp only [ofEntries_eq_ok_iff]
  constructor
  · rintro ⟨settings, hidsFile, hidsPaths, hsysfsPath, hgpuFilter⟩
    exact ⟨⟨⟨exists_idsFile_iff.1 ⟨_, hidsFile⟩, exists_readPaths_iff.1 ⟨_, hidsPaths⟩⟩,
      exists_readSysfsPath_iff.1 ⟨_, hsysfsPath⟩⟩, exists_readGpuFilter_iff.1 ⟨_, hgpuFilter⟩⟩
  · intro horder
    obtain ⟨idsFile, hidsFile⟩ := exists_idsFile_iff.2 horder.idsFile
    obtain ⟨idsPaths, hidsPaths⟩ := exists_readPaths_iff.2 horder.idsPaths
    obtain ⟨sysfsPath, hsysfsPath⟩ := exists_readSysfsPath_iff.2 horder.sysfsPath
    obtain ⟨gpuFilter, hgpuFilter⟩ := exists_readGpuFilter_iff.2 horder.gpuFilter
    exact ⟨{ idsFile, idsPaths, sysfsPath, gpuFilter }, hidsFile, hidsPaths, hsysfsPath, hgpuFilter⟩

end Settings
end PciCatalog
