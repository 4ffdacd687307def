import PciCatalog.Command.Report
import PciCatalog.Command.Runtime

/-!
# Running commands

`run` is the whole program: it reads a command line, looks at the files and says how the run ends.
The files that options name are checked first, then the settings are loaded, then the command's own
words are looked at, and last the command is carried out.
-/

namespace PciCatalog
namespace Command

/-- The settings of the settings file, if one is given. -/
def fileSettings (rt : Runtime) (fs : FileSystem) (options : Options) : Except Outcome Settings :=
  match options.file? .settings with
  | none => .ok {}
  | some path =>
    (Settings.load rt.reader rt.levels fs (Path.ofString path)).mapError
      (Outcome.ofSettingsError path)

/-- The settings of a run: a names file given as an option that is not empty comes before the one of
the settings file. -/
def loadSettings (rt : Runtime) (fs : FileSystem) (options : Options) :
    Except Outcome Settings := do
  let settings ← fileSettings rt fs options
  match options.file? .idsFile with
  | none => pure settings
  | some path => pure (if path = "" then settings else { settings with idsFile := some path })

/-- The database that the settings name. -/
def loadDatabase (fs : FileSystem) (settings : Settings) : Except Outcome LoadedDatabase :=
  (Database.load fs settings.idsPaths settings.idsFile).mapError fun e => .broken (.file e)

/-- The database, if names are wanted. -/
def databaseFor (fs : FileSystem) (settings : Settings) (names : Bool) :
    Except Outcome (Option Database) :=
  if names then (loadDatabase fs settings).map fun l => some l.database else .ok none

/-- A device with its labels. -/
def labelled (db : Option Database) (d : Device) : Except Outcome (Device × Labels) :=
  ((d.labels db).mapError Outcome.ofAddressError).map fun labels => (d, labels)

/-- Lists the devices or the GPUs. -/
def list (fs : FileSystem) (settings : Settings) (json gpusOnly names : Bool) :
    Except Outcome String := do
  let db ← databaseFor fs settings names
  let devices ← (Sysfs.discover fs settings.sysfsPath).mapError Outcome.ofDirectoryError
  if gpusOnly then
    let gpus := Gpu.identify db settings.gpuFilter devices
    pure (Report.choose json (Report.gpusJson gpus) (Report.gpuLines gpus))
  else
    let rows ← devices.mapM (labelled db)
    pure (Report.choose json (Report.devicesJson rows) (Report.deviceLines rows))

/-- Tells all about one device; only a report for other programs has the metrics. -/
def info (fs : FileSystem) (settings : Settings) (json : Bool) (address : String)
    (names : Bool) : Except Outcome String := do
  let d ← (Sysfs.read fs address settings.sysfsPath).mapError (Outcome.ofReadError address)
  let db ← databaseFor fs settings names
  let (_, labels) ← labelled db d
  if json then
    match d.metrics? with
    | some metrics => pure ((Report.infoJson d labels metrics).render ++ "\n")
    | none => .error (.broken .numberTooLarge)
  else
    pure (Report.ofLines (Report.infoLines d labels))

/-- What a question asks for, as it was put. -/
def Question.labels : Question → Labels
  | .vendor v => [("vendor_id", v)]
  | .device v d => [("vendor_id", v), ("device_id", d)]
  | .subsystem v d subvendor subdevice =>
    [("vendor_id", v), ("device_id", d), ("subsystem_vendor_id", subvendor),
      ("subsystem_device_id", subdevice)]
  | .deviceClass code => [("class_id", code)]

/-- The answer of a database to a question. -/
def Question.name (db : Database) : Question → String
  | .vendor v => db.vendorName v
  | .device v d => db.deviceName v d
  | .subsystem v d subvendor subdevice => db.subsystemName v d subvendor subdevice
  | .deviceClass code => db.className code

/-- Answers a question. -/
def lookup (fs : FileSystem) (settings : Settings) (json : Bool) (q : Question) :
    Except Outcome String := do
  let l ← loadDatabase fs settings
  let name := q.name l.database
  pure (Report.choose json (Report.nameJson q.labels name) [name])

/-- Tells how large the database is. -/
def stats (fs : FileSystem) (settings : Settings) (json : Bool) : Except Outcome String := do
  let l ← loadDatabase fs settings
  pure (Report.choose json (Report.statsJson l) (Report.statsLines l))

/-- Carries out a request. -/
def carryOut (fs : FileSystem) (settings : Settings) (json : Bool) :
    Request → Except Outcome String
  | .list gpusOnly names => list fs settings json gpusOnly names
  | .info address names => info fs settings json address names
  | .lookup question => lookup fs settings json question
  | .stats => stats fs settings json

/-- The text that a command line prints, or another outcome. -/
def output (rt : Runtime) (fs : FileSystem) (words : List String) : Except Outcome String :=
  match rt.parser words with
  | .request options request => do
    options.files.forM (rt.checkFile fs)
    let settings ← loadSettings rt fs options
    let request ← request.mapError Outcome.ofRefusal
    carryOut fs settings options.json request
  | .refused files refusal => do
    files.forM (rt.checkFile fs)
    .error (.ofRefusal refusal)

/-- Runs the program on the words behind its name. -/
def run (rt : Runtime) (fs : FileSystem) (words : List String) : Outcome :=
  match output rt fs words with
  | .ok text => rt.print text
  | .error outcome => outcome

end Command
end PciCatalog
