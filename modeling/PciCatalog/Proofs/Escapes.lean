import PciCatalog.Proofs.DeviceReports
import PciCatalog.Proofs.Opening
import PciCatalog.Proofs.Quantities
import PciCatalog.Proofs.SettingsFaults

/-!
# Which failures are reported

A run that makes a request ends with a text or with the report of a failure, or its options name a
file that they may not name, unless a fault escapes without a report.  `Escapes` lists the ways for
a fault to escape, by what the files hold, what is asked for and what the program runs on; that
there are no others is shown for each step of a run, and the steps are put together by the laws of
`Accounts`.
-/

namespace PciCatalog
namespace Command

variable {α β ε : Type} {rt : Runtime} {fs : FileSystem} {settings : Settings}
  {options : Options}

/-! ### Reports -/

theorem heading_starts (f : Failure) : "Error: ".toList <+: f.heading.toList := by
  cases f with
  | settings path e =>
    have hfront : "Error: ".toList <+: "Error: invalid config ".toList := by decide
    show "Error: ".toList <+: ("Error: invalid config " ++ path ++ ": ").toList
    rw [String.toList_append, String.toList_append, List.append_assoc]
    exact hfront.trans (List.prefix_append _ _)
  | devices e =>
    show "Error: ".toList <+: "Error: cannot read PCI devices: ".toList
    decide
  | device e => exact List.prefix_rfl
  | deviceNotFound address => exact List.prefix_rfl

/-- Every report says at its start that it is about an error. -/
theorem report_starts (f : Failure) : "Error: ".toList <+: f.report.toList := by
  obtain ⟨rest, hheading⟩ := heading_starts f
  have hescape : ∀ c ∈ "Error: ".toList, c ≠ '\x1b' := Text.forall_mem_of_all (by decide)
  have hreport : f.report.toList =
      Text.withoutControlSequences (f.heading ++ f.message).toList ++ ['\n'] :=
    String.toList_ofList
  rw [hreport, String.toList_append, ← hheading, List.append_assoc,
    Text.withoutControlSequences_append hescape, List.append_assoc]
  exact List.prefix_append _ _

/-! ### Accounts -/

/-- Whether it is told which faults escape from a computation: it breaks off with these, and all its
other failures are reported. -/
structure Accounts (x : Except Outcome α) (escapes : Fault → Prop) : Prop where
  broken_iff : ∀ fault, x = .error (.broken fault) ↔ escapes fault
  exitCode : ∀ outcome, x = .error outcome → outcome.exitCode = 1

namespace Accounts

variable {x : Except Outcome α} {escapes escapes' : Fault → Prop}

theorem ok (a : α) : Accounts (.ok a) fun _ => False :=
  ⟨fun _ => ⟨nofun, False.elim⟩, nofun⟩

theorem broken (fault : Fault) :
    Accounts (.error (.broken fault) : Except Outcome α) fun escaped => escaped = fault where
  broken_iff escaped := by simp [eq_comm]
  exitCode outcome h := by rw [← Except.error.inj h]; rfl

theorem congr (h : Accounts x escapes) (hiff : ∀ fault, escapes fault ↔ escapes' fault) :
    Accounts x escapes' :=
  ⟨fun fault => (h.broken_iff fault).trans (hiff fault), h.exitCode⟩

/-- From a computation in steps escapes what escapes from the first step, and what escapes from the
others when the first comes to a result. -/
theorem bind {f : α → Except Outcome β} {next : α → Fault → Prop} (h : Accounts x escapes)
    (hnext : ∀ a, x = .ok a → Accounts (f a) (next a)) :
    Accounts (x >>= f) fun fault => escapes fault ∨ ∃ a, x = .ok a ∧ next a fault where
  broken_iff fault := by
    rw [Result.bind_eq_error_iff, h.broken_iff]
    exact or_congr_right <| exists_congr fun a => and_congr_right fun ha =>
      (hnext a ha).broken_iff fault
  exitCode outcome hfails := by
    rcases Result.bind_eq_error_iff.1 hfails with hfails | ⟨a, ha, hfails⟩
    · exact h.exitCode outcome hfails
    · exact (hnext a ha).exitCode outcome hfails

/-- Nothing else escapes when the other steps come to a result. -/
theorem bind_ok {f : α → Except Outcome β} (h : Accounts x escapes)
    (hnext : ∀ a, x = .ok a → ∃ b, f a = .ok b) : Accounts (x >>= f) escapes := by
  have hrest : ∀ a, x = .ok a → Accounts (f a) fun _ => False := by
    intro a ha
    obtain ⟨b, hb⟩ := hnext a ha
    rw [hb]
    exact ok b
  exact (h.bind hrest).congr (by simp)

theorem map (h : Accounts x escapes) (f : α → β) : Accounts (x.map f) escapes :=
  ⟨fun fault => Result.map_eq_error_iff.trans (h.broken_iff fault),
    fun outcome hfails => h.exitCode outcome (Result.map_eq_error_iff.1 hfails)⟩

/-- A failure is reported, or it escapes, by what it is turned into. -/
theorem mapError {x : Except ε α} {report : ε → Outcome}
    (h : ∀ e, (report e).exitCode = 1) :
    Accounts (x.mapError report) fun fault => ∃ e, x = .error e ∧ report e = .broken fault where
  broken_iff _ := Result.mapError_eq_error_iff
  exitCode outcome hfails := by
    obtain ⟨e, -, rfl⟩ := Result.mapError_eq_error_iff.1 hfails
    exact h e

end Accounts

/-! ### The steps of a run -/

/-- How a fault escapes while a settings file is loaded: what reads the document fails in a way of
its own, or the settings give the device directory as something else than a text or have a value
that is nested too deeply. -/
inductive SettingsEscape (rt : Runtime) (fs : FileSystem) (path : String) : Fault → Prop
  | document {reading : Reading} {kind : String}
    (opened : fs.openFile (Path.ofString path).toString = .ok reading)
    (failed : rt.reader reading = .error (.other kind)) :
    SettingsEscape rt fs path (.settings (.document (.other kind)))
  | pathNotText {reading : Reading} {document : Value} {entries : List (Scalar × Value)}
    (opened : fs.openFile (Path.ofString path).toString = .ok reading)
    (parsed : rt.reader reading = .ok document)
    (mapping : Settings.entriesOf? document = some entries)
    (notText : Settings.PathNotText rt.levels entries) :
    SettingsEscape rt fs path (.settings (.settings .pathNotText))
  | tooDeep {reading : Reading} {document : Value} {entries : List (Scalar × Value)}
    (opened : fs.openFile (Path.ofString path).toString = .ok reading)
    (parsed : rt.reader reading = .ok document)
    (mapping : Settings.entriesOf? document = some entries)
    (deep : Settings.TooDeep rt.levels entries) :
    SettingsEscape rt fs path (.settings (.settings .tooDeep))

theorem ofSettingsError_eq_broken_iff {path : String} {e : SettingsFileError} {fault : Fault} :
    Outcome.ofSettingsError path e = .broken fault ↔
      ¬ e.kind.IsReported ∧ fault = .settings e := by
  rw [Outcome.ofSettingsError_eq]
  split
  · next hreported => simp [hreported]
  · next hunreported => simp [hunreported, eq_comm]

theorem accounts_settingsFile (rt : Runtime) (fs : FileSystem) (path : String) :
    Accounts ((Settings.load rt.reader rt.levels fs (Path.ofString path)).mapError
      (Outcome.ofSettingsError path)) (SettingsEscape rt fs path) := by
  refine (Accounts.mapError (exitCode_ofSettingsError path)).congr fun fault => ?_
  simp only [ofSettingsError_eq_broken_iff, SettingsFileError.not_isReported_iff]
  constructor
  · rintro ⟨_, hload, ⟨kind, rfl⟩ | rfl | rfl, rfl⟩
    · obtain ⟨reading, opened, failed⟩ := Settings.load_eq_document_error_iff.1 hload
      exact .document opened failed
    · obtain ⟨reading, document, entries, opened, parsed, mapping, hwrong⟩ :=
        Settings.load_eq_settings_error_iff.1 hload
      exact .pathNotText opened parsed mapping (Settings.ofEntries_eq_pathNotText_iff.1 hwrong)
    · obtain ⟨reading, document, entries, opened, parsed, mapping, hwrong⟩ :=
        Settings.load_eq_settings_error_iff.1 hload
      exact .tooDeep opened parsed mapping (Settings.ofEntries_eq_tooDeep_iff.1 hwrong)
  · intro hescape
    cases hescape with
    | document opened failed =>
      exact ⟨_, Settings.load_eq_document_error_iff.2 ⟨_, opened, failed⟩, .inl ⟨_, rfl⟩, rfl⟩
    | pathNotText opened parsed mapping notText =>
      exact ⟨_, Settings.load_eq_settings_error_iff.2 ⟨_, _, _, opened, parsed, mapping,
        Settings.ofEntries_eq_pathNotText_iff.2 notText⟩, .inr (.inl rfl), rfl⟩
    | tooDeep opened parsed mapping deep =>
      exact ⟨_, Settings.load_eq_settings_error_iff.2 ⟨_, _, _, opened, parsed, mapping,
        Settings.ofEntries_eq_tooDeep_iff.2 deep⟩, .inr (.inr rfl), rfl⟩

theorem accounts_loadSettings (rt : Runtime) (fs : FileSystem) (options : Options) :
    Accounts (loadSettings rt fs options) fun fault =>
      ∃ path, options.file? .settings = some path ∧ SettingsEscape rt fs path fault := by
  have hfile : Accounts (fileSettings rt fs options) fun fault =>
      ∃ path, options.file? .settings = some path ∧ SettingsEscape rt fs path fault := by
    unfold fileSettings
    cases options.file? .settings with
    | none => exact (Accounts.ok _).congr (by simp)
    | some path => exact (accounts_settingsFile rt fs path).congr (by simp)
  refine hfile.bind_ok fun loaded _ => ?_
  split
  · exact ⟨_, rfl⟩
  · exact ⟨_, rfl⟩

/-- Whether the search for a names file meets a path with a character that no name can have. -/
def NamesEscape (fs : FileSystem) (settings : Settings) : Prop :=
  Database.RefusedAhead fs (Database.candidates settings.idsPaths settings.idsFile)

theorem accounts_loadDatabase (fs : FileSystem) (settings : Settings) :
    Accounts (loadDatabase fs settings) fun fault =>
      NamesEscape fs settings ∧ fault = .file .invalidPath := by
  refine (Accounts.mapError fun _ => rfl).congr fun fault => ?_
  simp only [Database.load_eq_error_iff]
  constructor
  · rintro ⟨e, ⟨hescape, rfl⟩, h⟩
    exact ⟨hescape, (Outcome.broken.inj h).symm⟩
  · rintro ⟨hescape, rfl⟩
    exact ⟨_, ⟨hescape, rfl⟩, rfl⟩

theorem accounts_databaseFor (fs : FileSystem) (settings : Settings) (names : Bool) :
    Accounts (databaseFor fs settings names) fun fault =>
      names = true ∧ NamesEscape fs settings ∧ fault = .file .invalidPath := by
  cases names with
  | false => exact (Accounts.ok _).congr (by simp)
  | true => exact ((accounts_loadDatabase fs settings).map _).congr (by simp)

/-- The database is loaded, if it is wanted, unless a path that no name can have is met. -/
theorem exists_databaseFor_iff {names : Bool} :
    (∃ db, databaseFor fs settings names = .ok db) ↔
      (names = true → ¬ NamesEscape fs settings) := by
  constructor
  · rintro ⟨db, hdb⟩ hnames hescape
    rw [((accounts_databaseFor fs settings names).broken_iff _).2 ⟨hnames, hescape, rfl⟩] at hdb
    contradiction
  · intro hloaded
    cases hdb : databaseFor fs settings names with
    | ok db => exact ⟨db, rfl⟩
    | error outcome =>
      cases names with
      | false => contradiction
      | true =>
        obtain ⟨e, hload, -⟩ := Result.mapError_eq_error_iff.1 (Result.map_eq_error_iff.1 hdb)
        exact absurd (Database.load_eq_error_iff.1 hload).1 (hloaded rfl)

/-! ### The commands -/

/-- How a fault escapes while a request is carried out. -/
inductive RequestEscape (fs : FileSystem) (settings : Settings) (json : Bool) :
    Request → Fault → Prop
  /-- A list with names meets a path with a character that no name can have. -/
  | listNames {gpusOnly : Bool} (ahead : NamesEscape fs settings) :
    RequestEscape fs settings json (.list gpusOnly true) (.file .invalidPath)
  /-- A device of the list has an attribute that is not in UTF-8. -/
  | listDevices {gpusOnly names : Bool} {members : List String} {b : String}
    (loaded : names = true → ¬ NamesEscape fs settings)
    (found : fs.pathExists settings.sysfsPath.toString = .ok true)
    (listed : fs.listDirectory settings.sysfsPath.toString = .ok members) (member : b ∈ members)
    (accepted : Address.accepts b = true)
    (spoiled : Sysfs.Spoiled fs (settings.sysfsPath.child b)) :
    RequestEscape fs settings json (.list gpusOnly names) (.file .undecodable)
  /-- The test whether there is a single device fails. -/
  | infoPath {names : Bool} {b : String} {e : FileError} (accepted : Address.accepts b = true)
    (failed : fs.pathExists (settings.sysfsPath.child b).toString = .error e) :
    RequestEscape fs settings json (.info b names) (.file e)
  /-- A device is read, and its names meet a path with a character that no name can have. -/
  | infoNames {b : String} {d : Device} (found : Sysfs.read fs b settings.sysfsPath = .ok d)
    (ahead : NamesEscape fs settings) :
    RequestEscape fs settings json (.info b true) (.file .invalidPath)
  /-- The metrics of a device for other programs have an integer that is too large. -/
  | infoMetrics {names : Bool} {b : String} {d : Device} {n : Int}
    (found : Sysfs.read fs b settings.sysfsPath = .ok d)
    (loaded : names = true → ¬ NamesEscape fs settings) (metrics : json = true)
    (integer : n ∈ d.integers) (large : Binary64.ofInt? n = none) :
    RequestEscape fs settings json (.info b names) .numberTooLarge
  /-- A question meets a path with a character that no name can have. -/
  | lookupNames {question : Question} (ahead : NamesEscape fs settings) :
    RequestEscape fs settings json (.lookup question) (.file .invalidPath)
  /-- The size of the database is asked for, and such a path is met. -/
  | statsNames (ahead : NamesEscape fs settings) :
    RequestEscape fs settings json .stats (.file .invalidPath)

theorem accounts_lookup (fs : FileSystem) (settings : Settings) (json : Bool) (q : Question) :
    Accounts (lookup fs settings json q) (RequestEscape fs settings json (.lookup q)) := by
  refine ((accounts_loadDatabase fs settings).bind_ok fun l _ => ⟨_, rfl⟩).congr fun fault => ?_
  constructor
  · rintro ⟨ahead, rfl⟩
    exact .lookupNames ahead
  · intro hescape
    cases hescape with
    | lookupNames ahead => exact ⟨ahead, rfl⟩

theorem accounts_stats (fs : FileSystem) (settings : Settings) (json : Bool) :
    Accounts (stats fs settings json) (RequestEscape fs settings json .stats) := by
  refine ((accounts_loadDatabase fs settings).bind_ok fun l _ => ⟨_, rfl⟩).congr fun fault => ?_
  constructor
  · rintro ⟨ahead, rfl⟩
    exact .statsNames ahead
  · intro hescape
    cases hescape with
    | statsNames ahead => exact ⟨ahead, rfl⟩

/-- A list reports the failures of the file system, but not a device that is spoiled. -/
theorem accounts_discover (fs : FileSystem) (path : Path) :
    Accounts ((Sysfs.discover fs path).mapError Outcome.ofDirectoryError) fun fault =>
      Sysfs.discover fs path = .error .undecodable ∧ fault = .file .undecodable := by
  refine (Accounts.mapError exitCode_ofDirectoryError).congr fun fault => ?_
  constructor
  · rintro ⟨e, hdiscover, hbroken⟩
    unfold Outcome.ofDirectoryError at hbroken
    split at hbroken
    · contradiction
    · next hsystem =>
      obtain ⟨rfl, -⟩ :=
        (Sysfs.discover_eq_error_iff (eq_false_of_ne_true hsystem)).1 hdiscover
      exact ⟨hdiscover, (Outcome.broken.inj hbroken).symm⟩
  · rintro ⟨hdiscover, rfl⟩
    exact ⟨_, hdiscover, rfl⟩

theorem accounts_list (hpath : settings.sysfsPath.Proper) (json gpusOnly names : Bool) :
    Accounts (list fs settings json gpusOnly names)
      (RequestEscape fs settings json (.list gpusOnly names)) := by
  refine ((accounts_databaseFor fs settings names).bind fun db _ =>
    (accounts_discover fs settings.sysfsPath).bind_ok fun devices hdevices => ?_).congr
      fun fault => ?_
  · -- What has been discovered can be shown, so nothing goes wrong behind the discovery.
    obtain ⟨rows, hrows⟩ := exists_rows hpath (Result.mapError_eq_ok_iff.1 hdevices) db
    split
    · exact ⟨_, rfl⟩
    · exact ⟨_, Result.bind_eq_ok_iff.2 ⟨rows, hrows, rfl⟩⟩
  · constructor
    · rintro (⟨rfl, ahead, rfl⟩ | ⟨db, hdb, hdiscover, rfl⟩)
      · exact .listNames ahead
      · obtain ⟨-, members, found, listed, b, member, accepted, spoiled⟩ :=
          (Sysfs.discover_eq_error_iff rfl).1 hdiscover
        exact .listDevices (exists_databaseFor_iff.1 ⟨db, hdb⟩) found listed member accepted
          spoiled
    · intro hescape
      cases hescape with
      | listNames ahead => exact .inl ⟨rfl, ahead, rfl⟩
      | listDevices loaded found listed member accepted spoiled =>
        obtain ⟨db, hdb⟩ := exists_databaseFor_iff.2 loaded
        exact .inr ⟨db, hdb, (Sysfs.discover_eq_error_iff rfl).2
          ⟨rfl, _, found, listed, _, member, accepted, spoiled⟩, rfl⟩

theorem ofReadError_eq_broken_iff {b : String} {e : Sysfs.ReadError} {fault : Fault} :
    Outcome.ofReadError b e = .broken fault ↔
      ∃ reason, e = .file reason ∧ reason ≠ .notFound ∧ reason.isSystem = true ∧
        fault = .file reason := by
  unfold Outcome.ofReadError
  -- All other errors are reported, and so is a file that is not found.
  split
  · simp
  · simp
  · simp
  · simp
  · next reason hfound =>
    split
    · next hsystem =>
      constructor
      · intro h
        exact ⟨reason, rfl, hfound, hsystem, (Outcome.broken.inj h).symm⟩
      · rintro ⟨reason', heq, -, -, rfl⟩
        rw [Sysfs.ReadError.file.inj heq]
    · next hsystem =>
      refine ⟨nofun, ?_⟩
      rintro ⟨reason', heq, -, hsystem', -⟩
      rw [← Sysfs.ReadError.file.inj heq] at hsystem'
      contradiction

/-- The report on a device is not given when the test whether there is one fails. -/
theorem accounts_read (fs : FileSystem) (b : String) (path : Path) :
    Accounts ((Sysfs.read fs b path).mapError (Outcome.ofReadError b)) fun fault =>
      Address.accepts b = true ∧
        ∃ e, fs.pathExists (path.child b).toString = .error e ∧ fault = .file e := by
  refine (Accounts.mapError (exitCode_ofReadError b)).congr fun fault => ?_
  constructor
  · rintro ⟨e, hread, hbroken⟩
    obtain ⟨reason, rfl, -, hsystem, rfl⟩ := ofReadError_eq_broken_iff.1 hbroken
    obtain ⟨haccepts, hfailed | ⟨-, -, rfl⟩⟩ := Sysfs.read_eq_file_error_iff.1 hread
    · exact ⟨haccepts, reason, hfailed, rfl⟩
    · contradiction
  · rintro ⟨haccepts, e, hfailed, rfl⟩
    have hread := Sysfs.read_eq_file_error_iff.2 ⟨haccepts, .inl hfailed⟩
    refine ⟨_, hread, ofReadError_eq_broken_iff.2 ⟨e, rfl, ?_⟩⟩
    rcases FileSystem.of_pathExists_error hfailed with rfl | rfl <;> exact ⟨nofun, rfl, rfl⟩

/-- The faults of a report on a device, step by step. -/
theorem accounts_infoSteps (fs : FileSystem) (settings : Settings) (json : Bool) (b : String)
    (names : Bool) :
    Accounts (info fs settings json b names) fun fault =>
      (Address.accepts b = true ∧
        ∃ e, fs.pathExists (settings.sysfsPath.child b).toString = .error e ∧ fault = .file e) ∨
      ∃ d, (Sysfs.read fs b settings.sysfsPath).mapError (Outcome.ofReadError b) = .ok d ∧
        ((names = true ∧ NamesEscape fs settings ∧ fault = .file .invalidPath) ∨
          ∃ db, databaseFor fs settings names = .ok db ∧
            (json = true ∧ d.metrics? = none ∧ fault = .numberTooLarge)) := by
  refine (accounts_read fs b settings.sysfsPath).bind fun d hd =>
    (accounts_databaseFor fs settings names).bind fun db _ => ?_
  -- A device that has been read can be shown; only its metrics may not come out.
  obtain ⟨haccepts, hrecord⟩ := Sysfs.record_of_read (Result.mapError_eq_ok_iff.1 hd)
  obtain rfl := Sysfs.address_of_record? hrecord
  obtain ⟨labels, hlabels⟩ := exists_labelled haccepts hrecord db
  rw [hlabels]
  show Accounts (if json then _ else _) _
  cases json with
  | false => exact (Accounts.ok _).congr (by simp)
  | true =>
    rw [if_pos rfl]
    cases hmetrics : d.metrics? with
    | some metrics => exact (Accounts.ok _).congr (by simp)
    | none => exact (Accounts.broken .numberTooLarge).congr (by simp)

theorem accounts_info (fs : FileSystem) (settings : Settings) (json : Bool) (b : String)
    (names : Bool) :
    Accounts (info fs settings json b names)
      (RequestEscape fs settings json (.info b names)) := by
  refine (accounts_infoSteps fs settings json b names).congr fun fault => ?_
  simp only [Result.mapError_eq_ok_iff, Device.metrics?_eq_none_iff]
  constructor
  · rintro (⟨accepted, e, failed, rfl⟩ | ⟨d, found, hlater⟩)
    · exact .infoPath accepted failed
    · rcases hlater with ⟨rfl, ahead, rfl⟩ | ⟨db, hdb, metrics, ⟨n, integer, large⟩, rfl⟩
      · exact .infoNames found ahead
      · exact .infoMetrics found (exists_databaseFor_iff.1 ⟨db, hdb⟩) metrics integer large
  · intro hescape
    cases hescape with
    | infoPath accepted failed => exact .inl ⟨accepted, _, failed, rfl⟩
    | infoNames found ahead => exact .inr ⟨_, found, .inl ⟨rfl, ahead, rfl⟩⟩
    | infoMetrics found loaded metrics integer large =>
      obtain ⟨db, hdb⟩ := exists_databaseFor_iff.2 loaded
      exact .inr ⟨_, found, .inr ⟨db, hdb, metrics, ⟨_, integer, large⟩, rfl⟩⟩

theorem accounts_carryOut (hpath : settings.sysfsPath.Proper) (json : Bool) (request : Request) :
    Accounts (carryOut fs settings json request) (RequestEscape fs settings json request) := by
  cases request with
  | list gpusOnly names => exact accounts_list hpath json gpusOnly names
  | info address names => exact accounts_info fs settings json address names
  | lookup question => exact accounts_lookup fs settings json question
  | stats => exact accounts_stats fs settings json

/-! ### A whole run -/

/-- The check of a file breaks off when the state of its path cannot be told. -/
theorem checkFile_eq_broken_iff {file : FileOption × String} {fault : Fault} :
    rt.checkFile fs file = .error (.broken fault) ↔
      ∃ e, fs.pathState file.2 = .error e ∧ fault = .file e := by
  unfold Runtime.checkFile
  cases fs.pathState file.2 with
  | error e =>
    constructor
    · intro h
      exact ⟨e, rfl, (Outcome.broken.inj (Except.error.inj h)).symm⟩
    · rintro ⟨reason, heq, rfl⟩
      rw [Except.error.inj heq]
  | ok state => cases hallows : rt.allows file.1 state <;> simp [hallows]

/-- How a fault escapes from a run that makes a request. -/
inductive Escapes (rt : Runtime) (fs : FileSystem) (options : Options) (request : Request) :
    Fault → Prop
  /-- An option names a path with a character that no name can have. -/
  | file {front back : List (FileOption × String)} {file : FileOption × String} {e : FileError}
    (files : options.files = front ++ file :: back)
    (allowed : ∀ other ∈ front, Allowed rt fs other) (refused : fs.pathState file.2 = .error e) :
    Escapes rt fs options request (.file e)
  | settings {path : String} {fault : Fault} (allowed : ∀ file ∈ options.files, Allowed rt fs file)
    (given : options.file? .settings = some path) (escape : SettingsEscape rt fs path fault) :
    Escapes rt fs options request fault
  | request {settings : Settings} {fault : Fault}
    (allowed : ∀ file ∈ options.files, Allowed rt fs file)
    (loaded : loadSettings rt fs options = .ok settings)
    (escape : RequestEscape fs settings options.json request fault) :
    Escapes rt fs options request fault
  /-- The terminal cannot show the text that answers the request. -/
  | unprintable {settings : Settings} {text : String} {c : Char}
    (allowed : ∀ file ∈ options.files, Allowed rt fs file)
    (loaded : loadSettings rt fs options = .ok settings)
    (answered : carryOut fs settings options.json request = .ok text)
    (shown : c ∈ Text.withoutControlSequences text.toList) (wide : c ∈ rt.unprintable) :
    Escapes rt fs options request .unprintable

/-- What a run comes to behind the check of its files: the faults of its settings and its request,
and the text that it prints. -/
theorem accounts_answer (rt : Runtime) (fs : FileSystem) (options : Options) (request : Request) :
    Accounts (loadSettings rt fs options >>= fun settings =>
        carryOut fs settings options.json request) fun fault =>
      (∃ path, options.file? .settings = some path ∧ SettingsEscape rt fs path fault) ∨
        ∃ settings, loadSettings rt fs options = .ok settings ∧
          RequestEscape fs settings options.json request fault :=
  (accounts_loadSettings rt fs options).bind fun _ hsettings =>
    accounts_carryOut (proper_sysfsPath hsettings) options.json request

theorem print_eq_broken_iff {text : String} {fault : Fault} :
    rt.print text = .broken fault ↔ fault = .unprintable ∧
      ∃ c ∈ Text.withoutControlSequences text.toList, c ∈ rt.unprintable := by
  unfold Runtime.print
  dsimp only
  split
  · next hany =>
    rw [List.any_eq_true] at hany
    simpa [eq_comm] using fun _ => hany
  · next hnone =>
    refine iff_of_false nofun ?_
    rintro ⟨-, c, hc, hwide⟩
    exact hnone (List.any_eq_true.2 ⟨c, hc, List.contains_iff_mem.2 hwide⟩)

theorem run_eq_broken_iff {words : List String} {fault : Fault} :
    run rt fs words = .broken fault ↔ output rt fs words = .error (.broken fault) ∨
      ∃ text, output rt fs words = .ok text ∧ rt.print text = .broken fault := by
  rw [run]
  split
  · next text htext => simp [htext]
  · next outcome houtcome => simp [houtcome]

/-- The faults that escape are those that a run breaks off with. -/
theorem escapes_iff {words : List String} {request : Request} {fault : Fault}
    (h : rt.parser words = .request options (.ok request)) :
    run rt fs words = .broken fault ↔ Escapes rt fs options request fault := by
  have hanswer := accounts_answer rt fs options request
  rw [run_eq_broken_iff, output_of_parsed h, Result.bind_eq_error_iff]
  simp only [Result.forM_eq_error_iff, checkFile_eq_ok_iff, checkFile_eq_broken_iff,
    Result.bind_eq_ok_iff, Result.forM_eq_ok_iff, hanswer.broken_iff, print_eq_broken_iff]
  constructor
  · rintro ((⟨front, file, back, files, allowed, e, refused, rfl⟩ |
      ⟨-, allowed, ⟨path, given, escape⟩ | ⟨settings, loaded, escape⟩⟩) |
      ⟨text, ⟨-, allowed, settings, loaded, answered⟩, rfl, c, shown, wide⟩)
    · exact .file files allowed refused
    · exact .settings allowed given escape
    · exact .request allowed loaded escape
    · exact .unprintable allowed loaded answered shown wide
  · intro hescape
    cases hescape with
    | file files allowed refused =>
      exact .inl (.inl ⟨_, _, _, files, allowed, _, refused, rfl⟩)
    | settings allowed given escape => exact .inl (.inr ⟨(), allowed, .inl ⟨_, given, escape⟩⟩)
    | request allowed loaded escape => exact .inl (.inr ⟨(), allowed, .inr ⟨_, loaded, escape⟩⟩)
    | unprintable allowed loaded answered shown wide =>
      exact .inr ⟨_, ⟨(), allowed, _, loaded, answered⟩, rfl, _, shown, wide⟩

/-- A run whose options name files that they may name is not refused. -/
theorem ends_of_allowed {words : List String} {request : Request}
    (h : rt.parser words = .request options (.ok request))
    (hallowed : ∀ file ∈ options.files, Allowed rt fs file) :
    (∃ shown, run rt fs words = .printed shown) ∨ (∃ failure, run rt fs words = .failed failure) ∨
      ∃ fault, run rt fs words = .broken fault := by
  have hchecked : options.files.forM (rt.checkFile fs) = .ok () := by
    simpa only [Result.forM_eq_ok_iff, checkFile_eq_ok_iff] using hallowed
  unfold run
  rw [output_of_asks ⟨h, hchecked⟩]
  split
  · next text _ =>
    unfold Runtime.print
    dsimp only
    split
    · exact .inr (.inr ⟨_, rfl⟩)
    · exact .inl ⟨_, rfl⟩
  · next outcome houtcome =>
    have hexitCode := (accounts_answer rt fs options request).exitCode outcome houtcome
    cases outcome with
    | failed failure => exact .inr (.inl ⟨failure, rfl⟩)
    | broken fault => exact .inr (.inr ⟨fault, rfl⟩)
    | printed shown | misused => contradiction

/-- Which failures are reported, whatever the program runs on.  A run that makes a request breaks
off without a report exactly for the faults that escape, each in one of the ways that are listed:
with a path that no file can have, named by an option or among the candidates for a names file;
with a reader of documents that fails in a way of its own, a device directory that is no text, or a
value that is nested too deeply; with a device of the list that is spoiled, a failing test for a
single device, or an integer of its metrics that is too large; or with a character that the terminal
cannot show.  Every other run whose options name files that they may name ends with a text and the
exit code of success, or with the exit code of failure and a report that starts by saying so. -/
theorem failures_reported_or_escape {rt : Runtime} {fs : FileSystem} {words : List String}
    {options : Options} {request : Request}
    (h : rt.parser words = .request options (.ok request)) :
    (∀ fault, run rt fs words = .broken fault ↔ Escapes rt fs options request fault) ∧
      (run rt fs words = .misused → ∃ file ∈ options.files, ¬ Allowed rt fs file) ∧
      ((∀ file ∈ options.files, Allowed rt fs file) →
        (∀ fault, ¬ Escapes rt fs options request fault) →
        (∃ shown, run rt fs words = .printed shown ∧ (run rt fs words).exitCode = 0) ∨
          ∃ failure, run rt fs words = .failed failure ∧ (run rt fs words).exitCode = 1 ∧
            "Error: ".toList <+: failure.report.toList) := by
  refine ⟨fun fault => escapes_iff h, ?_, ?_⟩
  · intro hmisused
    by_contra hallowed
    simp only [not_exists, not_and, not_not] at hallowed
    have hends := ends_of_allowed h hallowed
    rw [hmisused] at hends
    simp at hends
  · intro hallowed hnone
    rcases ends_of_allowed h hallowed with ⟨shown, hrun⟩ | ⟨failure, hrun⟩ | ⟨fault, hrun⟩
    · exact .inl ⟨shown, hrun, by rw [hrun]; rfl⟩
    · exact .inr ⟨failure, hrun, by rw [hrun]; rfl, report_starts failure⟩
    · exact absurd ((escapes_iff h).1 hrun) (hnone fault)

/-- A settings file that gives a number for the device directory. -/
def numberForPath : FileSystem where
  nodes := [(["c.yaml"], .file "sysfs_path: 5\n".toUTF8.data.toList)]
  workingDir := []
  distinct := by decide

theorem parse_numberForPath : Runtime.standard.parser ["--config", "c.yaml", "list"] =
    .request { files := [(.settings, "c.yaml")] } (.ok (.list false true)) := by
  decide +kernel

theorem run_numberForPath : run .standard numberForPath ["--config", "c.yaml", "list"] =
    .broken (.settings (.settings .pathNotText)) := by
  decide +kernel

/-- A fault escapes from a run with a well-formed command line and a readable settings file: there
is neither a text nor a report, although the option may name the file. -/
theorem no_report_of_number_for_path :
    ¬ ∀ (fs : FileSystem) (words : List String) (options : Options) (request : Request),
      Runtime.standard.parser words = .request options (.ok request) →
        (∀ file ∈ options.files, Allowed .standard fs file) →
          (∃ shown, run .standard fs words = .printed shown) ∨
            ∃ failure, run .standard fs words = .failed failure := by
  intro hreported
  have hallowed : ∀ file ∈ [(FileOption.settings, "c.yaml")],
      Allowed .standard numberForPath file := by
    rw [List.forall_mem_singleton]
    exact ⟨.file true, by decide +kernel, rfl⟩
  rcases hreported _ _ _ _ parse_numberForPath hallowed with ⟨shown, hrun⟩ | ⟨failure, hrun⟩
  · rw [run_numberForPath] at hrun
    contradiction
  · rw [run_numberForPath] at hrun
    contradiction

theorem missing_device_is_reported :
    Runtime.standard.parser ["info", "--no-names", "0000:00:00.0"] =
        .request {} (.ok (.info "0000:00:00.0" false)) ∧
      (∀ fault, ¬ Escapes .standard oneDevice {} (.info "0000:00:00.0" false) fault) ∧
      run .standard oneDevice ["info", "--no-names", "0000:00:00.0"] =
        .failed (.deviceNotFound "0000:00:00.0") ∧
      (∃ failure, run .standard oneDevice ["info", "--no-names", "0000:00:00.0"] =
        .failed failure ∧ "Error: ".toList <+: failure.report.toList) ∧
      Escapes .standard numberForPath { files := [(.settings, "c.yaml")] } (.list false true)
        (.settings (.settings .pathNotText)) := by
  have hparse : Runtime.standard.parser ["info", "--no-names", "0000:00:00.0"] =
      .request {} (.ok (.info "0000:00:00.0" false)) := by decide +kernel
  have hrun : run .standard oneDevice ["info", "--no-names", "0000:00:00.0"] =
      .failed (.deviceNotFound "0000:00:00.0") := by decide +kernel
  obtain ⟨hbroken, -, hreported⟩ := failures_reported_or_escape hparse
  have hnone : ∀ fault, ¬ Escapes .standard oneDevice {} (.info "0000:00:00.0" false) fault := by
    intro fault hescape
    rw [(hbroken fault).2 hescape] at hrun
    contradiction
  refine ⟨hparse, hnone, hrun, ?_,
    ((failures_reported_or_escape parse_numberForPath).1 _).1 run_numberForPath⟩
  rcases hreported nofun hnone with ⟨shown, hshown, -⟩ | ⟨failure, hfailed, -, hstart⟩
  · rw [hrun] at hshown
    contradiction
  · exact ⟨failure, hfailed, hstart⟩

end Command
end PciCatalog
