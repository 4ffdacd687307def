import PciCatalog.Command.Outcome
import PciCatalog.Proofs.SettingsReading

/-!
# What is wrong with settings

Settings are read one after another, and the first that is not in order decides what is told.
Mostly a value is wrong; but a device directory that is given as something else than a text is a
wrong type (`PathNotText`), and a value that is nested too deeply to be shown takes the interpreter
to its limit (`TooDeep`).  Nobody looks out for either, nor for a reader of documents that fails in
a way of its own.  Main statement: `settings_fail_by_kind`.
-/

namespace PciCatalog

/-- The kinds of failure that a caller can tell apart. -/
inductive FailureKind where
  /-- A value or a text is not what it should be. -/
  | wrongValue
  /-- A document is not well-formed. -/
  | malformedDocument
  /-- The file system refuses. -/
  | system
  /-- A value is of a type that is not provided for. -/
  | wrongType
  /-- A value is nested more deeply than the interpreter goes. -/
  | tooDeep
  /-- What reads documents fails in another way. -/
  | other
  deriving DecidableEq, Repr

namespace FailureKind

/-- Whether a failure of this kind is reported as a fault of the settings. -/
def IsReported : FailureKind → Prop
  | wrongValue | malformedDocument | system => True
  | wrongType | tooDeep | other => False

instance : DecidablePred IsReported
  | wrongValue | malformedDocument | system => isTrue trivial
  | wrongType | tooDeep | other => isFalse id

end FailureKind

/-- The kind of a failure with a file; texts of paths and files are values. -/
def FileError.kind (e : FileError) : FailureKind :=
  if e.isSystem then .system else .wrongValue

/-- The kind of an error in settings. -/
def SettingsError.kind : SettingsError → FailureKind
  | .pathNotText => .wrongType
  | .tooDeep => .tooDeep
  | _ => .wrongValue

/-- The kind of an error in a document. -/
def DocumentFault.kind : DocumentFault → FailureKind
  | .malformed _ => .malformedDocument
  | .invalid _ => .wrongValue
  | .file e => e.kind
  | .other _ => .other

/-- The kind of an error in a settings file. -/
def SettingsFileError.kind : SettingsFileError → FailureKind
  | .file e => e.kind
  | .document fault => fault.kind
  | .notMapping _ => .wrongValue
  | .settings e => e.kind

theorem FileError.kind_isReported (e : FileError) : e.kind.IsReported := by
  unfold FileError.kind
  split <;> trivial

theorem SettingsError.not_isReported_iff {e : SettingsError} :
    ¬ e.kind.IsReported ↔ e = .pathNotText ∨ e = .tooDeep := by
  cases e <;> simp [SettingsError.kind, FailureKind.IsReported]

theorem SettingsFileError.not_isReported_iff {e : SettingsFileError} :
    ¬ e.kind.IsReported ↔ (∃ kind, e = .document (.other kind)) ∨
      e = .settings .pathNotText ∨ e = .settings .tooDeep := by
  cases e with
  | file e => simpa [SettingsFileError.kind] using e.kind_isReported
  | document fault =>
    cases fault with
    | malformed | invalid | other =>
      simp [SettingsFileError.kind, DocumentFault.kind, FailureKind.IsReported]
    | file e => simpa [SettingsFileError.kind, DocumentFault.kind] using e.kind_isReported
  | notMapping path => simp [SettingsFileError.kind, FailureKind.IsReported]
  | settings e => simpa [SettingsFileError.kind] using SettingsError.not_isReported_iff

/-- A failure to load settings is reported when its kind is one that is looked out for. -/
theorem Command.Outcome.ofSettingsError_eq (path : String) (e : SettingsFileError) :
    ofSettingsError path e =
      if e.kind.IsReported then .failed (.settings path e) else .broken (.settings e) := by
  have hiff := SettingsFileError.not_isReported_iff (e := e)
  unfold ofSettingsError
  split
  · exact (if_neg (hiff.2 (.inl ⟨_, rfl⟩))).symm
  · rfl
  · rfl
  · next hother hpath hdeep =>
    refine (if_pos (Decidable.not_not.1 fun hkind => ?_)).symm
    rcases hiff.1 hkind with ⟨kind, h⟩ | h | h
    · exact hother kind h
    · exact hpath h
    · exact hdeep h

namespace Settings

variable {levels : Levels} {entries gpu : List (Scalar × Value)} {given : Option Value} {n : Nat}
  {v : Value} {row : Scalar × Value} {e : SettingsError}

/-! ### The first that is not in order -/

/-- Whether there is a first item that is not `good`, and it is `bad`. -/
def FirstBad {α : Type} (good bad : α → Prop) (items : List α) : Prop :=
  ∃ front item back, items = front ++ item :: back ∧ (∀ other ∈ front, good other) ∧ bad item

theorem FirstBad.congr {α : Type} {good bad good' bad' : α → Prop}
    (hgood : ∀ a, good a ↔ good' a) (hbad : ∀ a, bad a ↔ bad' a) (items : List α) :
    FirstBad good bad items ↔ FirstBad good' bad' items := by
  simp only [FirstBad, hgood, hbad]

theorem not_firstBad {α : Type} (good : α → Prop) {bad : α → Prop} (h : ∀ a, ¬ bad a)
    (items : List α) : ¬ FirstBad good bad items := by
  rintro ⟨-, item, -, -, -, hbad⟩
  exact h item hbad

theorem idsFile_eq_error_iff : given.mapM (readText n) = .error e ↔
    ∃ v, given = some v ∧ readText n v = .error e := by
  cases given with
  | none => simp [pure, Except.pure]
  | some v => simp [Functor.map, Result.map_eq_error_iff]

theorem readPaths_eq_error_iff (he : e ≠ .pathsNotList) : readPaths n given = .error e ↔
    ∃ items, given = some (.list items) ∧
      FirstBad (HasText n) (fun v => readText n v = .error e) items := by
  unfold readPaths
  split
  · simp
  · simp [Result.mapM_eq_error_iff, exists_readText_iff, FirstBad]
  · next v hlist => simpa [he.symm] using fun items h => absurd h (hlist items)

theorem readSysfsPath_eq_error_iff : readSysfsPath given = .error e ↔
    (∃ v, given = some v ∧ ∀ text, v ≠ .scalar (.text text)) ∧ e = .pathNotText := by
  unfold readSysfsPath
  split
  · simp
  · simp
  · next v htext => simpa [eq_comm] using fun _ => htext

theorem readVendors_eq_error_iff (he : e ≠ .vendorsNotMapping) :
    readVendors levels given = .error e ↔ ∃ rows, given = some (.mapping rows) ∧
      FirstBad (IsVendor levels) (fun row => readVendor levels row = .error e) rows := by
  unfold readVendors
  split
  · simp
  · simp only [Result.bind_eq_error_iff, Result.mapM_eq_error_iff, exists_readVendor_iff, FirstBad,
      pure, Except.pure, reduceCtorEq, and_false, exists_false, or_false, Option.some.injEq,
      Value.mapping.injEq, exists_eq_left']
  · next v hmapping => simpa [he.symm] using fun rows h => absurd h (hmapping rows)

theorem readBmcVendors_eq_error_iff (he : e ≠ .bmcVendorsNotList) :
    readBmcVendors levels given = .error e ↔ ∃ items, given = some (.list items) ∧
      FirstBad IsId (fun v => readId levels.id v = .error e) items := by
  unfold readBmcVendors
  split
  · simp
  · simp [Result.bind_eq_error_iff, Result.mapM_eq_error_iff, exists_readId_iff, FirstBad, pure,
      Except.pure]
  · next v hlist => simpa [he.symm] using fun items h => absurd h (hlist items)

theorem readGpuFilter_eq_error_iff (he : e ≠ .gpuNotMapping) :
    readGpuFilter levels given = .error e ↔ ∃ gpu, given = some (.mapping gpu) ∧
      (readVendors levels (given? gpu "vendors") = .error e ∨
        VendorsInOrder levels gpu ∧
          readBmcVendors levels (given? gpu "bmc_vendors") = .error e) := by
  unfold readGpuFilter
  split
  · simp
  · simp [Result.bind_eq_error_iff, exists_readVendors_iff, VendorsInOrder, pure, Except.pure]
  · next v hmapping => simpa [he.symm] using fun gpu h => absurd h (hmapping gpu)

/-- The settings go wrong one after another. -/
theorem ofEntries_eq_error_iff : ofEntries levels entries = .error e ↔
    (given? entries "ids_file").mapM (readText levels.idsFile) = .error e ∨
      (∃ file, (given? entries "ids_file").mapM (readText levels.idsFile) = .ok file) ∧
        (readPaths levels.idsPaths (given? entries "ids_paths") = .error e ∨
          (∃ paths, readPaths levels.idsPaths (given? entries "ids_paths") = .ok paths) ∧
            (readSysfsPath (given? entries "sysfs_path") = .error e ∨
              (∃ path, readSysfsPath (given? entries "sysfs_path") = .ok path) ∧
                readGpuFilter levels (given? entries "gpu") = .error e)) := by
  simp [ofEntries, Result.bind_eq_error_iff, pure, Except.pure]

/-! ### A device directory that is not a text -/

theorem about_ne_pathNotText (error : String → SettingsError)
    (h : ∀ shown, error shown ≠ .pathNotText) : SettingsError.about n error v ≠ .pathNotText := by
  unfold SettingsError.about
  split
  · exact h _
  · next reason _ => cases reason <;> nofun

theorem readText_ne_pathNotText (v : Value) : readText n v ≠ .error .pathNotText := by
  rw [ne_eq, readText, Result.mapError_eq_error_iff]
  rintro ⟨reason, -, h⟩
  cases reason <;> contradiction

theorem readId_ne_pathNotText (v : Value) : readId n v ≠ .error .pathNotText := by
  unfold readId
  split
  · rw [ne_eq, Except.error.injEq]
    exact about_ne_pathNotText .invalidId fun _ => nofun
  · split
    · nofun
    · rw [ne_eq, Except.error.injEq]
      exact about_ne_pathNotText .idOutOfRange fun _ => nofun

theorem readVendor_ne_pathNotText (levels : Levels) (row : Scalar × Value) :
    readVendor levels row ≠ .error .pathNotText := by
  intro h
  rcases Result.bind_eq_error_iff.1 h with h | ⟨id, -, h⟩
  · exact readId_ne_pathNotText _ h
  · rcases Result.bind_eq_error_iff.1 h with h | ⟨name, -, h⟩
    · exact readText_ne_pathNotText _ h
    · contradiction

/-- Whether the device directory is given as something else than a text, and the settings in front
of it are in order. -/
structure PathNotText (levels : Levels) (entries : List (Scalar × Value)) : Prop
    extends NamesInOrder levels entries where
  sysfsPath : ∃ v, given? entries "sysfs_path" = some v ∧ ∀ text, v ≠ .scalar (.text text)

theorem ofEntries_eq_pathNotText_iff :
    ofEntries levels entries = .error .pathNotText ↔ PathNotText levels entries := by
  have hfile := readText_ne_pathNotText (n := levels.idsFile)
  have hpaths := not_firstBad (HasText levels.idsPaths)
    (readText_ne_pathNotText (n := levels.idsPaths))
  have hvendors := not_firstBad (IsVendor levels) (readVendor_ne_pathNotText levels)
  have hbmcVendors := not_firstBad IsId (readId_ne_pathNotText (n := levels.id))
  rw [ofEntries_eq_error_iff, idsFile_eq_error_iff, readPaths_eq_error_iff (by simp),
    readSysfsPath_eq_error_iff, readGpuFilter_eq_error_iff (by simp), exists_idsFile_iff,
    exists_readPaths_iff]
  -- Only the path can fail in this way.
  simp only [readVendors_eq_error_iff (e := .pathNotText) (by simp),
    readBmcVendors_eq_error_iff (e := .pathNotText) (by simp), hfile, hpaths, hvendors, hbmcVendors,
    and_false, exists_false, false_or, or_false, and_true]
  exact ⟨fun ⟨hfile, hpaths, hpath⟩ => ⟨⟨hfile, hpaths⟩, hpath⟩,
    fun h => ⟨h.idsFile, h.idsPaths, h.sysfsPath⟩⟩

/-! ### A value that is nested too deeply -/

theorem readText_eq_tooDeep_iff : readText n v = .error .tooDeep ↔ v.IsTooDeep n := by
  rw [readText, Result.mapError_eq_error_iff, ← Value.textForm_eq_tooDeep_iff]
  constructor
  · rintro ⟨reason, h, hreason⟩
    cases reason with
    | tooDeep => exact h
    | tooLong => contradiction
  · exact fun h => ⟨_, h, rfl⟩

theorem about_eq_tooDeep_iff (error : String → SettingsError)
    (h : ∀ shown, error shown ≠ .tooDeep) :
    SettingsError.about n error v = .tooDeep ↔ v.IsTooDeep n := by
  unfold SettingsError.about Value.IsTooDeep
  cases v.shown n with
  | ok shown => simpa using h _
  | error reason => cases reason <;> simp [SettingsError.ofUnshown]

theorem readId_eq_tooDeep_iff : readId n v = .error .tooDeep ↔ v.IsTooDeep n := by
  unfold readId
  split
  · rw [Except.error.injEq]
    exact about_eq_tooDeep_iff .invalidId fun _ => nofun
  · next hid =>
    -- Only scalars are read as numbers, and they are not nested.
    have hscalar : ¬ v.IsTooDeep n := by
      unfold idOf? at hid
      split at hid
      · exact Value.not_isTooDeep_scalar n _
      · exact Value.not_isTooDeep_scalar n _
      · contradiction
    refine iff_of_false ?_ hscalar
    split
    · nofun
    · rw [Except.error.injEq, about_eq_tooDeep_iff .idOutOfRange fun _ => nofun]
      exact hscalar

theorem readVendor_eq_tooDeep_iff : readVendor levels row = .error .tooDeep ↔
    IsId (.scalar row.1) ∧ row.2.IsTooDeep levels.name := by
  have hkey := Value.not_isTooDeep_scalar levels.id row.1
  rw [readVendor, Result.bind_eq_error_iff, readId_eq_tooDeep_iff, or_iff_right hkey,
    ← exists_readId_iff (n := levels.id), ← readText_eq_tooDeep_iff]
  simp [Result.bind_eq_error_iff, pure, Except.pure]

/-- Whether the first value that is not in order is nested too deeply to be shown. -/
inductive TooDeep (levels : Levels) (entries : List (Scalar × Value)) : Prop
  | idsFile {v : Value} (hgiven : given? entries "ids_file" = some v)
    (hdeep : v.IsTooDeep levels.idsFile)
  | idsPaths {items : List Value}
    (hfile : ∀ v, given? entries "ids_file" = some v → HasText levels.idsFile v)
    (hgiven : given? entries "ids_paths" = some (.list items))
    (hfirst : FirstBad (HasText levels.idsPaths) (·.IsTooDeep levels.idsPaths) items)
  | vendors {gpu rows : List (Scalar × Value)} (hpaths : PathsInOrder levels entries)
    (hgpu : given? entries "gpu" = some (.mapping gpu))
    (hgiven : given? gpu "vendors" = some (.mapping rows))
    (hfirst : FirstBad (IsVendor levels)
      (fun row => IsId (.scalar row.1) ∧ row.2.IsTooDeep levels.name) rows)
  | bmcVendors {gpu : List (Scalar × Value)} {items : List Value}
    (hpaths : PathsInOrder levels entries) (hgpu : given? entries "gpu" = some (.mapping gpu))
    (hvendors : VendorsInOrder levels gpu)
    (hgiven : given? gpu "bmc_vendors" = some (.list items))
    (hfirst : FirstBad IsId (·.IsTooDeep levels.id) items)

theorem ofEntries_eq_tooDeep_iff :
    ofEntries levels entries = .error .tooDeep ↔ TooDeep levels entries := by
  rw [ofEntries_eq_error_iff, idsFile_eq_error_iff, readPaths_eq_error_iff (by simp),
    readSysfsPath_eq_error_iff, readGpuFilter_eq_error_iff (by simp), exists_idsFile_iff,
    exists_readPaths_iff, exists_readSysfsPath_iff]
  simp only [readVendors_eq_error_iff (e := .tooDeep) (by simp),
    readBmcVendors_eq_error_iff (e := .tooDeep) (by simp), readText_eq_tooDeep_iff,
    readVendor_eq_tooDeep_iff, readId_eq_tooDeep_iff, reduceCtorEq, and_false, false_or]
  constructor
  · rintro (⟨v, hgiven, hdeep⟩ | ⟨hfile, ⟨items, hgiven, hfirst⟩ |
      ⟨hpaths, hpath, gpu, hgpu, ⟨rows, hgiven, hfirst⟩ | ⟨hvendors, items, hgiven, hfirst⟩⟩⟩)
    · exact .idsFile hgiven hdeep
    · exact .idsPaths hfile hgiven hfirst
    · exact .vendors ⟨⟨hfile, hpaths⟩, hpath⟩ hgpu hgiven hfirst
    · exact .bmcVendors ⟨⟨hfile, hpaths⟩, hpath⟩ hgpu hvendors hgiven hfirst
  · intro h
    cases h with
    | idsFile hgiven hdeep => exact .inl ⟨_, hgiven, hdeep⟩
    | idsPaths hfile hgiven hfirst => exact .inr ⟨hfile, .inl ⟨_, hgiven, hfirst⟩⟩
    | vendors hpaths hgpu hgiven hfirst =>
      exact .inr ⟨hpaths.idsFile, .inr ⟨hpaths.idsPaths, hpaths.sysfsPath, _, hgpu,
        .inl ⟨_, hgiven, hfirst⟩⟩⟩
    | bmcVendors hpaths hgpu hvendors hgiven hfirst =>
      exact .inr ⟨hpaths.idsFile, .inr ⟨hpaths.idsPaths, hpaths.sysfsPath, _, hgpu,
        .inr ⟨hvendors, _, hgiven, hfirst⟩⟩⟩

/-! ### The whole file -/

variable {reader : DocumentReader} {fs : FileSystem} {path : Path}

/-- Loading goes wrong with the file, then with its document, and last with the settings. -/
theorem load_eq_error_iff {e : SettingsFileError} :
    load reader levels fs path = .error e ↔
      (∃ reason, fs.openFile path.toString = .error reason ∧ e = .file reason) ∨
        ∃ reading, fs.openFile path.toString = .ok reading ∧
          ((∃ fault, reader reading = .error fault ∧ e = .document fault) ∨
            ∃ document, reader reading = .ok document ∧
              ((entriesOf? document = none ∧ e = .notMapping path) ∨
                ∃ entries, entriesOf? document = some entries ∧
                  ∃ wrong, ofEntries levels entries = .error wrong ∧ e = .settings wrong)) := by
  rw [load, Result.bind_eq_error_iff, Result.mapError_eq_error_iff]
  refine or_congr (by simp only [eq_comm]) (exists_congr fun reading => ?_)
  rw [Result.mapError_eq_ok_iff, Result.bind_eq_error_iff, Result.mapError_eq_error_iff]
  refine and_congr_right fun _ =>
    or_congr (by simp only [eq_comm]) (exists_congr fun document => ?_)
  rw [Result.mapError_eq_ok_iff]
  refine and_congr_right fun _ => ?_
  cases hentries : entriesOf? document with
  | none => simp [eq_comm]
  | some entries =>
    have hmap := Result.mapError_eq_error_iff (x := ofEntries levels entries) (f := .settings)
      (e := e)
    simp [hmap, @eq_comm _ e]

theorem load_eq_document_error_iff {fault : DocumentFault} :
    load reader levels fs path = .error (.document fault) ↔
      ∃ reading, fs.openFile path.toString = .ok reading ∧ reader reading = .error fault := by
  simp [load_eq_error_iff]

theorem load_eq_settings_error_iff {wrong : SettingsError} :
    load reader levels fs path = .error (.settings wrong) ↔
      ∃ reading document entries, fs.openFile path.toString = .ok reading ∧
        reader reading = .ok document ∧ entriesOf? document = some entries ∧
        ofEntries levels entries = .error wrong := by
  simp [load_eq_error_iff]

/-! ### Kinds of failure -/

theorem exists_wrongType_iff :
    (∃ e, ofEntries levels entries = .error e ∧ e.kind = .wrongType) ↔
      PathNotText levels entries := by
  have hkind : ∀ e : SettingsError, e.kind = .wrongType ↔ e = .pathNotText := by
    intro e
    cases e <;> simp [SettingsError.kind]
  simp only [hkind, exists_eq_right, ofEntries_eq_pathNotText_iff]

theorem exists_tooDeep_iff :
    (∃ e, ofEntries levels entries = .error e ∧ e.kind = .tooDeep) ↔ TooDeep levels entries := by
  have hkind : ∀ e : SettingsError, e.kind = .tooDeep ↔ e = .tooDeep := by
    intro e
    cases e <;> simp [SettingsError.kind]
  simp only [hkind, exists_eq_right, ofEntries_eq_tooDeep_iff]

theorem exists_wrongValue_iff :
    (∃ e, ofEntries levels entries = .error e ∧ e.kind = .wrongValue) ↔
      ¬ InOrder levels entries ∧ ¬ PathNotText levels entries ∧ ¬ TooDeep levels entries := by
  have hkind : ∀ e : SettingsError, e.kind = .wrongValue ↔ e ≠ .pathNotText ∧ e ≠ .tooDeep := by
    intro e
    cases e <;> simp [SettingsError.kind]
  simp only [hkind, ← exists_settings_iff, ← ofEntries_eq_pathNotText_iff,
    ← ofEntries_eq_tooDeep_iff]
  cases ofEntries levels entries <;> simp

theorem exists_unreported_iff :
    (∃ e, load reader levels fs path = .error e ∧ ¬ e.kind.IsReported) ↔
      ∃ reading, fs.openFile path.toString = .ok reading ∧
        ((∃ kind, reader reading = .error (.other kind)) ∨
          ∃ document entries, reader reading = .ok document ∧
            entriesOf? document = some entries ∧
            (PathNotText levels entries ∨ TooDeep levels entries)) := by
  simp only [SettingsFileError.not_isReported_iff, ← ofEntries_eq_pathNotText_iff,
    ← ofEntries_eq_tooDeep_iff]
  constructor
  · rintro ⟨_, hload, ⟨kind, rfl⟩ | rfl | rfl⟩
    · obtain ⟨reading, hopen, hread⟩ := load_eq_document_error_iff.1 hload
      exact ⟨reading, hopen, .inl ⟨kind, hread⟩⟩
    · obtain ⟨reading, document, entries, hopen, hread, hentries, hwrong⟩ :=
        load_eq_settings_error_iff.1 hload
      exact ⟨reading, hopen, .inr ⟨document, entries, hread, hentries, .inl hwrong⟩⟩
    · obtain ⟨reading, document, entries, hopen, hread, hentries, hwrong⟩ :=
        load_eq_settings_error_iff.1 hload
      exact ⟨reading, hopen, .inr ⟨document, entries, hread, hentries, .inr hwrong⟩⟩
  · rintro ⟨reading, hopen, ⟨kind, hread⟩ | ⟨document, entries, hread, hentries, hwrong | hwrong⟩⟩
    · exact ⟨_, load_eq_document_error_iff.2 ⟨reading, hopen, hread⟩, .inl ⟨kind, rfl⟩⟩
    · exact ⟨_, load_eq_settings_error_iff.2 ⟨reading, document, entries, hopen, hread, hentries,
        hwrong⟩, .inr (.inl rfl)⟩
    · exact ⟨_, load_eq_settings_error_iff.2 ⟨reading, document, entries, hopen, hread, hentries,
        hwrong⟩, .inr (.inr rfl)⟩

/-- Settings are read exactly when they are in order.  Otherwise a value is wrong, unless the first
thing that is not in order is the type of the device directory, or a value that is nested too
deeply; without integers that have too many digits, that is one with more levels than there are
left.  A settings file fails in a way that is not reported only for one of these, or when what reads
documents fails in a way of its own, and just the other failures are reported as a fault of the
settings. -/
theorem settings_fail_by_kind (reader : DocumentReader) (levels : Levels)
    (entries : List (Scalar × Value)) (fs : FileSystem) (path : Path) :
    ((∃ settings, ofEntries levels entries = .ok settings) ↔ InOrder levels entries) ∧
    ((∃ e, ofEntries levels entries = .error e ∧ e.kind = .wrongType) ↔
      PathNotText levels entries) ∧
    ((∃ e, ofEntries levels entries = .error e ∧ e.kind = .tooDeep) ↔ TooDeep levels entries) ∧
    ((∃ e, ofEntries levels entries = .error e ∧ e.kind = .wrongValue) ↔
      ¬ InOrder levels entries ∧ ¬ PathNotText levels entries ∧ ¬ TooDeep levels entries) ∧
    (∀ (n : Nat) (v : Value), v.IsShort → (v.IsTooDeep n ↔ n < v.depth)) ∧
    ((∃ e, load reader levels fs path = .error e ∧ ¬ e.kind.IsReported) ↔
      ∃ reading, fs.openFile path.toString = .ok reading ∧
        ((∃ kind, reader reading = .error (.other kind)) ∨
          ∃ document entries, reader reading = .ok document ∧
            entriesOf? document = some entries ∧
            (PathNotText levels entries ∨ TooDeep levels entries))) ∧
    ∀ name e, Command.Outcome.ofSettingsError name e =
      if e.kind.IsReported then .failed (.settings name e) else .broken (.settings e) :=
  ⟨exists_settings_iff, exists_wrongType_iff, exists_tooDeep_iff, exists_wrongValue_iff,
    fun _ _ => Value.isTooDeep_iff, exists_unreported_iff, Command.Outcome.ofSettingsError_eq⟩

/-- A number for the device directory is not told as a wrong value. -/
theorem not_wrongValue_of_number_for_path :
    ¬ ∀ levels entries, (∃ settings, ofEntries levels entries = .ok settings) ∨
      ∃ e, ofEntries levels entries = .error e ∧ e.kind = .wrongValue := by
  intro h
  have herror : ∀ levels, ofEntries levels [(.text "sysfs_path", .scalar (.int 5))] =
      .error .pathNotText := fun _ => rfl
  rcases h ⟨0, 0, 0, 0⟩ [(.text "sysfs_path", .scalar (.int 5))] with
    ⟨settings, hok⟩ | ⟨e, hwrong, hkind⟩
  · rw [herror] at hok
    contradiction
  · rw [herror] at hwrong
    cases hwrong
    contradiction

end Settings
end PciCatalog
