import PciCatalog.Proofs.Elsewhere
import PciCatalog.Proofs.GpuReports
import PciCatalog.Proofs.PathReading
import PciCatalog.Proofs.Quantities

/-!
# Requests without names

A request that leaves names out has nothing to do with the files of names, however it ends, but for
the check of the file that an option names.  Where two file systems differ only in regular files
that are neither the settings file nor looked at for devices, and an option names no file that may
not be read in just one of them, a command line with such a request runs alike on both.
-/

namespace PciCatalog

open FileSystem

variable {elsewhere : Place → Prop} {fs other : FileSystem}

/-! ### Files that options name -/

namespace FileSystem

/-- What is told of a path that leads astray: nothing stands there, or a regular file. -/
inductive NoDirectory : Except FileError PathState → Prop
  | missing : NoDirectory (.ok .missing)
  | file (readable : Bool) : NoDirectory (.ok (.file readable))

theorem AgreeOutside.noDirectory (h : AgreeOutside elsewhere fs other) {path : String}
    (hastray : Astray elsewhere (fs.locate path)) : NoDirectory (fs.pathState path) := by
  unfold pathState status
  generalize fs.locate path = found at hastray
  cases hastray with
  | missing => exact .missing
  | blocked => exact .missing
  | @arrived place there =>
    dsimp only [bind, Except.bind]
    cases hnode : fs.node? place with
    | none => exact .missing
    | some node =>
      have hregular := h.regular place node there hnode
      cases node with
      | directory => simp [Node.outline] at hregular
      | file content | unreadable front | link target => exact .file _

/-- What is told of a path depends on the place that it leads to. -/
theorem pathState_congr {path : String} (hlocate : fs.locate path = other.locate path)
    (hsame : ∀ place, fs.locate path = .ok place →
      fs.node? place = other.node? place ∧ fs.isLocked place = other.isLocked place) :
    fs.pathState path = other.pathState path := by
  unfold pathState status mayRead
  rw [← hlocate]
  cases hplace : fs.locate path with
  | error e => rfl
  | ok place =>
    obtain ⟨hnode, hlocked⟩ := hsame place hplace
    simp only [bind, Except.bind, hnode, hlocked]

/-- The same is told of a path in both file systems, or it leads to no directory in either. -/
theorem AgreeOutside.pathState_eq_or_noDirectory (h : AgreeOutside elsewhere fs other)
    (path : String) : fs.pathState path = other.pathState path ∨
      NoDirectory (fs.pathState path) ∧ NoDirectory (other.pathState path) := by
  rcases h.locate_eq_or_astray path with heq | ⟨hfs, hother⟩
  · by_cases hthere : ∃ place, fs.locate path = .ok place ∧ elsewhere place
    · obtain ⟨place, hplace, hthere⟩ := hthere
      exact .inr ⟨h.noDirectory (hplace ▸ .arrived hthere),
        h.symm.noDirectory (heq ▸ hplace ▸ .arrived hthere)⟩
    · refine .inl (pathState_congr heq fun place hplace => ?_)
      have hnot : ¬ elsewhere place := fun hp => hthere ⟨place, hplace, hp⟩
      exact ⟨h.same place hnot, h.isLocked place hnot⟩
  · exact .inr ⟨h.noDirectory hfs, h.symm.noDirectory hother⟩

/-- The same is told of a path that names no file elsewhere. -/
theorem AgreeOutside.pathState_eq (h : AgreeOutside elsewhere fs other) {path : String}
    (hclear : Clear elsewhere fs path) (hclear' : Clear elsewhere other path) :
    fs.pathState path = other.pathState path := by
  rcases h.sameOrLost_status hclear hclear' with heq | ⟨hfs, hother⟩
  · unfold pathState
    rw [heq, h.mayRead_eq hclear hclear']
  · unfold pathState
    generalize fs.status path = found at hfs
    generalize other.status path = found' at hother
    cases hfs <;> cases hother <;> rfl

end FileSystem

namespace Command

variable {rt : Runtime} {words : List String} {options : Options} {request : Request}
  {path : String}

/-- Whether the options name the same files of names that are there and may not be read. -/
def SameUnreadable (fs other : FileSystem) (options : Options) : Prop :=
  ∀ path, (.idsFile, path) ∈ options.files →
    (fs.pathState path = .ok (.file false) ↔ other.pathState path = .ok (.file false))

/-- A file of names that may be read, if it is there, may be named by an option. -/
theorem checkFile_of_noDirectory (hlawful : rt.LawfulCheck) (h : NoDirectory (fs.pathState path))
    (hreadable : fs.pathState path ≠ .ok (.file false)) :
    rt.checkFile fs (.idsFile, path) = .ok () := by
  unfold Runtime.checkFile
  dsimp only
  generalize fs.pathState path = state at h hreadable
  cases h with
  | missing => exact if_pos hlawful.idsFile_missing
  | file readable =>
    cases readable with
    | true => exact if_pos hlawful.idsFile_readable
    | false => exact absurd rfl hreadable

theorem checkFile_congr {option : FileOption} (h : fs.pathState path = other.pathState path) :
    rt.checkFile fs (option, path) = rt.checkFile other (option, path) := by
  unfold Runtime.checkFile
  rw [h]

theorem checkFile_idsFile_eq (hlawful : rt.LawfulCheck) (h : AgreeOutside elsewhere fs other)
    (hunreadable : fs.pathState path = .ok (.file false) ↔
      other.pathState path = .ok (.file false)) :
    rt.checkFile fs (.idsFile, path) = rt.checkFile other (.idsFile, path) := by
  rcases h.pathState_eq_or_noDirectory path with heq | ⟨hfs, hother⟩
  · exact checkFile_congr heq
  · by_cases hfile : fs.pathState path = .ok (.file false)
    · exact checkFile_congr (hfile.trans (hunreadable.1 hfile).symm)
    · rw [checkFile_of_noDirectory hlawful hfs hfile,
        checkFile_of_noDirectory hlawful hother (mt hunreadable.2 hfile)]

/-! ### Settings -/

/-- A settings file that passes the check names a place. -/
theorem exists_locate_of_checkFile (hlawful : rt.LawfulCheck)
    (h : rt.checkFile fs (.settings, path) = .ok ()) : ∃ place, fs.locate path = .ok place := by
  obtain ⟨state, hstate, hallows⟩ := checkFile_eq_ok_iff.1 h
  cases hplace : fs.locate path with
  | ok place => exact ⟨place, rfl⟩
  | error e =>
    have hstatus : fs.status path = .error e := Result.bind_eq_error_iff.2 (.inl hplace)
    -- Nothing is told of the path but that nothing is there, and a settings file must be there.
    obtain rfl : PathState.missing = state := by
      unfold pathState at hstate
      rw [hstatus] at hstate
      cases e <;> first | exact Except.ok.inj hstate | contradiction
    rw [hlawful.settings_missing] at hallows
    contradiction

/-- A settings file that passes the check is read alike. -/
theorem load_eq (hlawful : rt.LawfulCheck) (h : AgreeOutside elsewhere fs other)
    (hclear : Clear elsewhere fs path) (hclear' : Clear elsewhere other path)
    (hcheck : rt.checkFile fs (.settings, path) = .ok ()) :
    Settings.load rt.reader rt.levels fs (Path.ofString path) =
      Settings.load rt.reader rt.levels other (Path.ofString path) := by
  obtain ⟨place, hplace⟩ := exists_locate_of_checkFile hlawful hcheck
  have hplace' := ((h.sameOrLost_locate hclear hclear').eq_ok_iff place).1 hplace
  have hnot := hclear place hplace
  -- The file is checked by its text but read by its path, so the place must be the same for both.
  have hreadable : fs.readable (Path.ofString path).toString =
      other.readable (Path.ofString path).toString := by
    rw [readable_of_locate (locate_ofString hplace), readable_of_locate (locate_ofString hplace'),
      readableAt, readableAt, h.same place hnot, h.isLocked place hnot]
  have hopen : fs.openFile (Path.ofString path).toString =
      other.openFile (Path.ofString path).toString := by
    unfold openFile
    rw [hreadable]
  rw [Settings.load, Settings.load, hopen]

theorem mem_of_file? {option : FileOption} (h : options.file? option = some path) :
    (option, path) ∈ options.files := by
  obtain ⟨front, back, hfiles, -⟩ := List.lookup_eq_some_iff.1 h
  simp [hfiles]

theorem forM_checkFile_congr {files : List (FileOption × String)}
    (h : ∀ file ∈ files, rt.checkFile fs file = rt.checkFile other file) :
    files.forM (rt.checkFile fs) = files.forM (rt.checkFile other) := by
  induction files with
  | nil => rfl
  | cons file rest ih =>
    rw [List.forall_mem_cons] at h
    rw [List.forM_eq_forM, List.forM_cons, List.forM_cons, h.1]
    exact bind_congr fun _ => ih h.2

/-- Whether a settings file that the options name is no file elsewhere. -/
def ClearSettings (elsewhere : Place → Prop) (fs : FileSystem) (options : Options) : Prop :=
  ∀ path, (.settings, path) ∈ options.files → Clear elsewhere fs path

theorem checkFiles_eq (hlawful : rt.LawfulCheck) (h : AgreeOutside elsewhere fs other)
    (hunreadable : SameUnreadable fs other options) (hclear : ClearSettings elsewhere fs options)
    (hclear' : ClearSettings elsewhere other options) :
    options.files.forM (rt.checkFile fs) = options.files.forM (rt.checkFile other) := by
  apply forM_checkFile_congr
  rintro ⟨option, path⟩ hfile
  cases option with
  | idsFile => exact checkFile_idsFile_eq hlawful h (hunreadable path hfile)
  | settings => exact checkFile_congr (h.pathState_eq (hclear path hfile) (hclear' path hfile))

/-- Settings whose files pass the check are loaded alike. -/
theorem loadSettings_eq (hlawful : rt.LawfulCheck) (h : AgreeOutside elsewhere fs other)
    (hclear : ClearSettings elsewhere fs options) (hclear' : ClearSettings elsewhere other options)
    (hcheck : options.files.forM (rt.checkFile fs) = .ok ()) :
    loadSettings rt fs options = loadSettings rt other options := by
  have hfile : fileSettings rt fs options = fileSettings rt other options := by
    unfold fileSettings
    cases hgiven : options.file? .settings with
    | none => rfl
    | some path =>
      have hmem := mem_of_file? hgiven
      have hpassed := Result.forM_eq_ok_iff.1 hcheck _ hmem
      exact congrArg (Except.mapError _)
        (load_eq hlawful h (hclear path hmem) (hclear' path hmem) hpassed)
  rw [loadSettings, loadSettings, hfile]

/-! ### Requests -/

theorem fails_checkFiles (rt : Runtime) (fs : FileSystem) (files : List (FileOption × String)) :
    Fails (files.forM (rt.checkFile fs)) := by
  intro outcome h
  obtain ⟨-, file, -, -, -, hfile⟩ := Result.forM_eq_error_iff.1 h
  unfold Runtime.checkFile at hfile
  split at hfile
  · rw [← Except.error.inj hfile]
    exact Nat.one_ne_zero
  · split at hfile
    · contradiction
    · rw [← Except.error.inj hfile]
      exact Nat.succ_ne_zero _

/-- A run that succeeds has found the files that its options name in order. -/
theorem asks_of_printed (hparse : rt.parser words = .request options (.ok request))
    {shown : String} (hrun : run rt fs words = .printed shown) :
    Asks rt fs words options request := by
  refine ⟨hparse, ?_⟩
  cases hcheck : options.files.forM (rt.checkFile fs) with
  | ok done => rfl
  | error outcome =>
    rw [run, output_of_parsed hparse, hcheck] at hrun
    obtain rfl : outcome = .printed shown := hrun
    exact absurd rfl (fails_checkFiles rt fs options.files _ hcheck)

/-- The requests that leave names out. -/
inductive WithoutNames : Request → Prop
  | list (gpusOnly : Bool) : WithoutNames (.list gpusOnly false)
  | info (b : String) : WithoutNames (.info b false)

/-- A request without names is carried out alike where the devices are. -/
theorem carryOut_eq (h : AgreeOutside elsewhere fs other) {settings : Settings}
    (hproper : settings.sysfsPath.Proper)
    (hapart : Sysfs.Apart elsewhere fs settings.sysfsPath)
    (hapart' : Sysfs.Apart elsewhere other settings.sysfsPath) (hnames : WithoutNames request)
    (json : Bool) : carryOut fs settings json request = carryOut other settings json request := by
  cases hnames with
  | list gpusOnly =>
    rw [carryOut, carryOut, list, list, Sysfs.discover_eq_elsewhere h hapart hapart' hproper]
    rfl
  | info b =>
    rw [carryOut, carryOut, info, info, Sysfs.read_eq_elsewhere h hapart hapart' b]
    rfl

end Command

/-! ### Labels for names -/

namespace Json

mutual

/-- The keys of the objects in a value. -/
def keys : Json → List String
  | .null => []
  | .int _ => []
  | .real _ => []
  | .text _ => []
  | .list items => keysOfItems items
  | .object members => keysOfMembers members

/-- The keys of the objects in the items of a list. -/
def keysOfItems : List Json → List String
  | [] => []
  | item :: rest => item.keys ++ keysOfItems rest

/-- The keys of an object and of the objects in its members. -/
def keysOfMembers : List (String × Json) → List String
  | [] => []
  | (key, value) :: rest => key :: (value.keys ++ keysOfMembers rest)

end

variable {p : String → Prop}

theorem forall_mem_keys_list {items : List Json} :
    (∀ key ∈ (list items).keys, p key) ↔ ∀ item ∈ items, ∀ key ∈ item.keys, p key := by
  rw [keys]
  induction items with
  | nil => simp [keysOfItems]
  | cons item items ih => rw [keysOfItems, List.forall_mem_append, List.forall_mem_cons, ih]

theorem forall_mem_keys_object {members : List (String × Json)} :
    (∀ key ∈ (object members).keys, p key) ↔
      ∀ member ∈ members, p member.1 ∧ ∀ key ∈ member.2.keys, p key := by
  rw [keys]
  induction members with
  | nil => simp [keysOfMembers]
  | cons member members ih =>
    rw [keysOfMembers, List.forall_mem_cons, List.forall_mem_append, List.forall_mem_cons, ih,
      and_assoc]

end Json

namespace Device

/-- The labels of names, which a device has only by a database. -/
def nameKeys : List String :=
  ["vendor_name", "device_name", "subsystem_vendor_name", "subsystem_device_name", "class_name"]

/-- A database adds the labels of names and no others. -/
theorem map_fst_nameLabels (d : Device) (db : Database) :
    (d.nameLabels db).map Prod.fst = nameKeys :=
  rfl

/-- Without a database, no label of a device is that of a name. -/
theorem not_nameKey_of_labels {d : Device} {labels : Labels} (h : d.labels none = .ok labels) :
    ∀ label ∈ labels, label.1 ∉ nameKeys := by
  obtain ⟨own, parent, rfl⟩ := Device.exists_of_labels h
  simp [addressLabels, numberLabels, nameKeys]

/-- No metric has the label of a name. -/
theorem not_nameKey_of_metrics? {d : Device} {metrics : List (String × Quantity)}
    (h : d.metrics? = some metrics) : ∀ metric ∈ metrics, metric.1 ∉ nameKeys := by
  simp only [metrics?, Option.bind_eq_bind, Option.bind_eq_some_iff, Option.pure_def,
    Option.some_inj] at h
  obtain ⟨_, -, _, -, _, -, _, -, _, -, _, -, _, -, numa, hnuma, rfl⟩ := h
  have hnode : ∀ metric ∈ numa, metric.1 ∉ nameKeys := by
    obtain rfl | ⟨node, x, -, rfl⟩ := numaMetric?_cases hnuma
    · exact List.forall_mem_nil _
    · simp [nameKeys]
  rw [List.forall_mem_append]
  exact ⟨by simp [nameKeys], hnode⟩

end Device

namespace Command

open Device (nameKeys)

variable {rt : Runtime} {words : List String} {options : Options} {request : Request}
  {settings : Settings} {text : String}

namespace Report

theorem not_nameKey_of_members {labels : Labels} (h : ∀ label ∈ labels, label.1 ∉ nameKeys) :
    ∀ member ∈ members labels, member.1 ∉ nameKeys ∧ ∀ key ∈ member.2.keys, key ∉ nameKeys := by
  intro member hmember
  obtain ⟨label, hlabel, rfl⟩ := List.mem_map.1 hmember
  exact ⟨h label hlabel, by simp [Json.keys]⟩

theorem not_nameKey_of_deviceJson {d : Device} {labels : Labels}
    (h : ∀ label ∈ labels, label.1 ∉ nameKeys) :
    ∀ key ∈ (deviceJson d labels).keys, key ∉ nameKeys := by
  rw [deviceJson, Json.forall_mem_keys_object, List.forall_mem_cons]
  exact ⟨by simp [nameKeys, Json.keys], not_nameKey_of_members h⟩

theorem not_nameKey_of_infoJson {d : Device} {labels : Labels}
    {metrics : List (String × Quantity)} (h : ∀ label ∈ labels, label.1 ∉ nameKeys)
    (hmetrics : ∀ metric ∈ metrics, metric.1 ∉ nameKeys) :
    ∀ key ∈ (infoJson d labels metrics).keys, key ∉ nameKeys := by
  have hpower : ∀ key ∈ ((d.powerState.map Json.text).getD .null).keys, key ∉ nameKeys := by
    cases d.powerState <;> simp [Json.keys]
  have hquantity : ∀ q, ∀ key ∈ (quantity q).keys, key ∉ nameKeys := by
    intro q
    cases q <;> simp [quantity, Json.keys]
  simp only [infoJson, Json.forall_mem_keys_object, List.forall_mem_append, List.forall_mem_cons,
    List.forall_mem_map]
  exact ⟨⟨by simp [nameKeys, Json.keys], not_nameKey_of_members h⟩, ⟨by simp [nameKeys], hpower⟩,
    ⟨by simp [nameKeys], fun metric hmetric => ⟨hmetrics metric hmetric, hquantity metric.2⟩⟩,
    List.forall_mem_nil _⟩

end Report

theorem not_nameKey_of_labelled {d : Device} {row : Device × Labels}
    (h : labelled none d = .ok row) : ∀ label ∈ row.2, label.1 ∉ nameKeys := by
  obtain ⟨labels, hlabels, rfl⟩ := Result.map_eq_ok_iff.1 h
  exact Device.not_nameKey_of_labels (Result.mapError_eq_ok_iff.1 hlabels)

/-- A report on devices without names has no label of a name. -/
theorem exists_report_without_names (h : carryOut fs settings true request = .ok text)
    (hnames : WithoutNames request) (hgpus : request ≠ .list true false) :
    ∃ j : Json, text = j.render ++ "\n" ∧ ∀ key ∈ j.keys, key ∉ nameKeys := by
  cases hnames with
  | list gpusOnly =>
    cases gpusOnly with
    | true => contradiction
    | false =>
      obtain ⟨db, devices, rows, hdb, -, hrows, rfl⟩ := list_eq_ok_iff.1 h
      -- Without names no database is loaded.
      obtain rfl : none = db := Except.ok.inj hdb
      refine ⟨_, rfl, ?_⟩
      rw [Report.devicesJson, Json.forall_mem_keys_list, List.forall_mem_map]
      intro row hrow
      have hmem : Except.ok row ∈ devices.map (labelled none) := hrows ▸ List.mem_map_of_mem hrow
      obtain ⟨d, -, hlabelled⟩ := List.mem_map.1 hmem
      exact Report.not_nameKey_of_deviceJson (not_nameKey_of_labelled hlabelled)
  | info b =>
    obtain ⟨d, db, labels, metrics, -, hdb, hlabelled, hmetrics, rfl⟩ := info_eq_ok_iff.1 h
    obtain rfl : none = db := Except.ok.inj hdb
    exact ⟨_, rfl, Report.not_nameKey_of_infoJson (not_nameKey_of_labelled hlabelled)
      (Device.not_nameKey_of_metrics? hmetrics)⟩

/-- Requests without names have nothing to do with the files of names.  Two file systems may differ
in regular files anywhere, in whether they are there and in what they hold, as long as none of them
is the settings file or is looked at for devices, and as long as an option names no file of names
that is there and may not be read in one of them only.  A command line that lists the devices or the
GPUs or reports on a device, all without names, then has the same outcome on both: it prints the
same, or ends with the same failure or fault.  A list of devices or a report on a device for other
programs has no label of a name. -/
theorem outcome_without_names (hlawful : rt.LawfulCheck) (h : AgreeOutside elsewhere fs other)
    (hparse : rt.parser words = .request options (.ok request)) (hnames : WithoutNames request)
    (hunreadable : SameUnreadable fs other options)
    (hclear : ClearSettings elsewhere fs options) (hclear' : ClearSettings elsewhere other options)
    (hapart : ∀ settings, loadSettings rt fs options = .ok settings →
      Sysfs.Apart elsewhere fs settings.sysfsPath ∧
        Sysfs.Apart elsewhere other settings.sysfsPath) :
    run rt fs words = run rt other words ∧
      (options.json = true → request ≠ .list true false →
        ∀ shown, run rt fs words = .printed shown →
          ∃ j : Json, shown = j.render ++ "\n" ∧ ∀ key ∈ j.keys, key ∉ nameKeys) := by
  have hchecks := checkFiles_eq hlawful h hunreadable hclear hclear'
  constructor
  · -- A settings file that does not pass the check is never read, and one that passes it is there,
    -- in both file systems the same.
    have houtput : output rt fs words = output rt other words := by
      rw [output_of_parsed hparse, output_of_parsed hparse, ← hchecks]
      refine Result.bind_congr_ok fun _ hcheck => ?_
      rw [← loadSettings_eq hlawful h hclear hclear' hcheck]
      refine Result.bind_congr_ok fun settings hloaded => ?_
      obtain ⟨hfs, hother⟩ := hapart settings hloaded
      exact carryOut_eq h (proper_sysfsPath hloaded) hfs hother hnames options.json
    rw [run, run, houtput]
  · intro hjson hgpus shown hrun
    obtain ⟨settings, text, -, htext, hprint⟩ :=
      (run_eq_printed_iff (asks_of_printed hparse hrun)).1 hrun
    rw [hjson] at htext
    obtain ⟨j, rfl, hkeys⟩ := exists_report_without_names htext hnames hgpus
    exact ⟨j, print_render_eq_printed_iff.1 hprint, hkeys⟩

/-- The files of `oneDevice` and a file of names. -/
def oneNamedDevice : FileSystem :=
  oneDevice.set ["ids"] (.file "8086  Intel Corporation\n".toUTF8.data.toList)

/-- The files of `oneNamedDevice`, where the program may not read the file of names. -/
def oneLockedName : FileSystem :=
  { oneNamedDevice with locked := [["ids"]] }

theorem node?_oneDevice_ids : oneDevice.node? ["ids"] = none := by
  decide

theorem no_links_oneDevice (place : Place) (target : String) :
    oneDevice.node? place ≠ some (.link target) := by
  intro h
  by_cases hplace : place = []
  · simp [node?, hplace] at h
  · have hmem := mem_nodes_of_node? hplace h
    simp [oneDevice] at hmem

theorem agree_oneNamedDevice : AgreeOutside (· = ["ids"]) oneDevice oneNamedDevice where
  workingDir := rfl
  isBarred := rfl
  refuses := rfl
  same := fun place hplace => by rw [oneNamedDevice, node?_set (by simp), if_neg hplace]
  isLocked := fun _ _ => rfl
  regular := by
    rintro place node rfl hnode
    rw [node?_oneDevice_ids] at hnode
    contradiction
  regularOther := by
    rintro place node rfl hnode
    rw [oneNamedDevice, node?_set (by simp), if_pos rfl, Option.some_inj] at hnode
    rw [← hnode]
    rfl

theorem no_links_oneNamedDevice (place : Place) (target : String) :
    oneNamedDevice.node? place ≠ some (.link target) := by
  rw [oneNamedDevice, node?_set (by simp)]
  split
  · simp
  · exact no_links_oneDevice place target

/-- Without links, the devices in the usual place are apart from a file in the root. -/
theorem apart_standardPath {fs : FileSystem}
    (hlinks : ∀ place target, fs.node? place ≠ some (.link target)) :
    Sysfs.Apart (· = ["ids"]) fs Sysfs.standardPath := by
  have hsteps : ∀ part ∈ Sysfs.standardPath.parts, part ≠ "" ∧ part ≠ "." ∧ part ≠ ".." ∧
      part.utf8ByteSize ≤ nameLimit := by decide +kernel
  have hparts : fs.origin Sysfs.standardPath ++ Sysfs.standardPath.parts =
      ["sys", "bus", "pci", "devices"] := by
    have hpath : Sysfs.standardPath = ⟨1, ["sys", "bus", "pci", "devices"]⟩ := by decide +kernel
    rw [hpath]
    rfl
  refine Sysfs.apart_of_no_links (Path.proper_ofString _) ?_ hlinks ?_
  · intro part hpart
    obtain ⟨hempty, hpoint, hpoints, hshort⟩ := hsteps part hpart
    exact ⟨hempty, hpoint, hpoints, hshort⟩
  · intro names
    rw [hparts]
    simp

theorem parse_without_names :
    Runtime.standard.parser ["--json", "--ids-file", "ids", "list", "--no-names"] =
      .request { json := true, files := [(.idsFile, "ids")] } (.ok (.list false false)) := by
  decide +kernel

theorem outcome_without_names_on_oneDevice :
    ∃ shown,
      run .standard oneDevice ["--json", "--ids-file", "ids", "list", "--no-names"] =
        .printed shown ∧
      run .standard oneNamedDevice ["--json", "--ids-file", "ids", "list", "--no-names"] =
        .printed shown ∧
      ∃ j : Json, shown = j.render ++ "\n" ∧ "vendor_name" ∉ j.keys := by
  have hunreadable : SameUnreadable oneDevice oneNamedDevice
      { json := true, files := [(.idsFile, "ids")] } := by
    intro path hpath
    obtain rfl : path = "ids" := by simpa using hpath
    decide +kernel
  obtain ⟨hrun, hkeys⟩ := outcome_without_names Runtime.lawfulCheck_standard agree_oneNamedDevice
    parse_without_names (.list false) hunreadable
    (by simp [ClearSettings]) (by simp [ClearSettings]) (by
      intro settings hsettings
      obtain rfl : ({ idsFile := some "ids" } : Settings) = settings := Except.ok.inj hsettings
      exact ⟨apart_standardPath no_links_oneDevice, apart_standardPath no_links_oneNamedDevice⟩)
  obtain ⟨labels, hlabelled⟩ := exists_labelled_onlyDevice none
  have hprinted := run_list_single ⟨parse_without_names, rfl⟩ rfl rfl rfl discover_oneDevice
    hlabelled
  obtain ⟨j, hshown, hnone⟩ := hkeys rfl (by simp) _ hprinted
  exact ⟨_, hprinted, hrun ▸ hprinted, j, hshown,
    fun hmem => hnone "vendor_name" hmem (by simp [nameKeys])⟩

theorem agree_oneLockedName : AgreeOutside (· = ["ids"]) oneDevice oneLockedName where
  workingDir := rfl
  isBarred := rfl
  refuses := rfl
  same := agree_oneNamedDevice.same
  isLocked := fun place hplace => by
    simp [isLocked, oneDevice, oneLockedName, hplace]
  regular := agree_oneNamedDevice.regular
  regularOther := agree_oneNamedDevice.regularOther

theorem discover_oneNamedDevice :
    Sysfs.discover oneNamedDevice Sysfs.standardPath = .ok [onlyDevice] := by
  rw [← discover_oneDevice]
  exact (Sysfs.discover_eq_elsewhere agree_oneNamedDevice
    (apart_standardPath no_links_oneDevice) (apart_standardPath no_links_oneNamedDevice)
    (Path.proper_ofString _)).symm

/-- The file of names of `oneNamedDevice` is loaded when names are wanted. -/
theorem exists_databaseFor_oneNamedDevice :
    ∃ db, databaseFor oneNamedDevice { idsFile := some "ids" } true = .ok (some db) := by
  have hopen : Database.openFirst oneNamedDevice ["ids"] = .ok (some (Path.ofString "ids",
      .whole "8086  Intel Corporation\n".toUTF8.data.toList)) := by decide +kernel
  have hload : Database.load oneNamedDevice Database.standardPaths (some "ids") =
      .ok ⟨Database.ofReading (.whole "8086  Intel Corporation\n".toUTF8.data.toList),
        some (Path.ofString "ids")⟩ :=
    Result.bind_eq_ok_iff.2 ⟨_, hopen, rfl⟩
  have hloaded : loadDatabase oneNamedDevice { idsFile := some "ids" } = .ok _ :=
    Result.mapError_eq_ok_iff.2 hload
  exact ⟨_, congrArg (Except.map fun l : LoadedDatabase => some l.database) hloaded⟩

/-- Not every command line that says to leave names out does without the files of names.  A file of
names that is there but may not be read is refused as the value of an option, before it is known
whether it is needed; one that is missing is not.  And a word that asks for names takes back one
before it that leaves them out. -/
theorem names_file_matters_when_unreadable_or_asked :
    (AgreeOutside (· = ["ids"]) oneDevice oneLockedName ∧
      Sysfs.Apart (· = ["ids"]) oneDevice Sysfs.standardPath ∧
      Sysfs.Apart (· = ["ids"]) oneLockedName Sysfs.standardPath ∧
      (∃ shown, run .standard oneDevice ["--json", "--ids-file", "ids", "list", "--no-names"] =
        .printed shown) ∧
      run .standard oneLockedName ["--json", "--ids-file", "ids", "list", "--no-names"] =
        .misused) ∧
    ∃ j : Json, run .standard oneNamedDevice
        ["--json", "--ids-file", "ids", "list", "--no-names", "--names"] =
          .printed (j.render ++ "\n") ∧ "vendor_name" ∈ j.keys := by
  obtain ⟨labels, hlabelled⟩ := exists_labelled_onlyDevice none
  have hasks : Asks .standard oneDevice ["--json", "--ids-file", "ids", "list", "--no-names"] _ _ :=
    ⟨parse_without_names, rfl⟩
  have hprinted := run_list_single hasks rfl rfl rfl discover_oneDevice hlabelled
  refine ⟨⟨agree_oneLockedName, apart_standardPath no_links_oneDevice,
    apart_standardPath no_links_oneNamedDevice, ⟨_, hprinted⟩, by decide +kernel⟩, ?_⟩
  have hparse : Runtime.standard.parser
      ["--json", "--ids-file", "ids", "list", "--no-names", "--names"] =
        .request { json := true, files := [(.idsFile, "ids")] } (.ok (.list false true)) := by
    decide +kernel
  obtain ⟨db, hdb⟩ := exists_databaseFor_oneNamedDevice
  obtain ⟨own, parent, hlabels⟩ :=
    onlyDevice.labels_eq (some db) (by decide +kernel) (by simp [onlyDevice])
  have hnamed : labelled (some db) onlyDevice = .ok (onlyDevice,
      Device.addressLabels own parent ++ onlyDevice.numberLabels ++ onlyDevice.nameLabels db) := by
    rw [labelled, hlabels]
    rfl
  refine ⟨_, run_list_single ⟨hparse, by decide +kernel⟩ rfl rfl hdb discover_oneNamedDevice
    hnamed, ?_⟩
  simp [Report.devicesJson, Report.deviceJson, Report.members, Json.keys, Json.keysOfItems,
    Json.keysOfMembers, Device.addressLabels, Device.numberLabels, Device.nameLabels]

end Command
end PciCatalog
