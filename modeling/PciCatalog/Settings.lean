import PciCatalog.Database.Loading
import PciCatalog.Gpu
import PciCatalog.Sysfs
import PciCatalog.Value

/-!
# Settings

The settings that a mapping of values can give: the names file, the candidates for a names file, the
device directory, and the lists that decide what counts as a GPU.  A setting that is missing or null
keeps its default.
-/

namespace PciCatalog

/-- What the commands can be told beforehand. -/
structure Settings where
  idsFile : Option String := none
  idsPaths : List String := Database.standardPaths
  sysfsPath : Path := Sysfs.standardPath
  gpuFilter : GpuFilter := .standard
  deriving DecidableEq

/-- How many levels of nesting the forms of values are made within, by what they are made for: each
is asked for at its own depth of calls. -/
structure Levels where
  idsFile : Nat
  idsPaths : Nat
  name : Nat
  id : Nat
  deriving DecidableEq, Repr

/-- What can be wrong with settings; numbers are quoted in their shown form. -/
inductive SettingsError where
  | pathsNotList
  | gpuNotMapping
  | vendorsNotMapping
  | bmcVendorsNotList
  | invalidId (shown : String)
  | idOutOfRange (shown : String)
  | pathNotText
  | numberTooLong
  | tooDeep
  deriving DecidableEq, Repr

namespace SettingsError

/-- The text that reports the error. -/
def message : SettingsError → String
  | pathsNotList => "ids_paths must be a list of paths"
  | gpuNotMapping => "gpu must be a mapping"
  | vendorsNotMapping => "gpu.vendors must be a mapping of vendor ID to name"
  | bmcVendorsNotList => "gpu.bmc_vendors must be a list of vendor IDs"
  | invalidId shown => "Invalid PCI ID: " ++ shown
  | idOutOfRange shown => "PCI ID out of range: " ++ shown
  | pathNotText => "sysfs_path is not a text"
  | numberTooLong => "a number has too many digits"
  | tooDeep => "a value is nested too deeply"

/-- The error for a value that has no form. -/
def ofUnshown : Unshown → SettingsError
  | .tooLong => numberTooLong
  | .tooDeep => tooDeep

/-- An error about a value, which is quoted if it can be shown. -/
def about (levels : Nat) (error : String → SettingsError) (v : Value) : SettingsError :=
  match v.shown levels with
  | .ok shown => error (String.ofList shown)
  | .error reason => ofUnshown reason

end SettingsError

namespace Settings

/-- The largest number of a vendor. -/
def maxId : Int := 0xFFFF

/-- The number that a value gives: an integer, or a text that reads as a hexadecimal number. -/
def idOf? : Value → Option Int
  | .scalar (.int n) => some n
  | .scalar (.text s) => Numeral.hexadecimal? s.toList
  | _ => none

/-- Reads the number of a vendor. -/
def readId (levels : Nat) (v : Value) : Except SettingsError Int :=
  match idOf? v with
  -- Truth values are no numbers here.
  | none => .error (.about levels .invalidId v)
  | some n => if 0 ≤ n && n ≤ maxId then .ok n else .error (.about levels .idOutOfRange v)

/-- The text form of a value. -/
def readText (levels : Nat) (v : Value) : Except SettingsError String :=
  (v.textForm levels).mapError SettingsError.ofUnshown

/-- A setting that is there and not null. -/
def given? (entries : List (Scalar × Value)) (name : String) : Option Value :=
  match Value.lookupText entries name with
  | some (.scalar .null) => none
  | found => found

/-- The candidates for a names file. -/
def readPaths (levels : Nat) : Option Value → Except SettingsError (List String)
  | none => .ok Database.standardPaths
  | some (.list items) => items.mapM (readText levels)
  | some _ => .error .pathsNotList

/-- The device directory. -/
def readSysfsPath : Option Value → Except SettingsError Path
  | none => .ok Sysfs.standardPath
  | some (.scalar (.text s)) => .ok (Path.ofString s)
  | some _ => .error .pathNotText

/-- A vendor and its name. -/
def readVendor (levels : Levels) (entry : Scalar × Value) :
    Except SettingsError (Int × String) := do
  let id ← readId levels.id (.scalar entry.1)
  let name ← readText levels.name entry.2
  pure (id, name)

/-- The makers of GPUs, the last name given to a number counting. -/
def readVendors (levels : Levels) :
    Option Value → Except SettingsError (Std.ExtTreeMap Int String)
  | none => .ok GpuFilter.defaultVendors
  | some (.mapping entries) => do
    pure (Std.ExtTreeMap.ofList (← entries.mapM (readVendor levels)))
  | some _ => .error .vendorsNotMapping

/-- The makers of server management controllers. -/
def readBmcVendors (levels : Levels) : Option Value → Except SettingsError (Std.ExtTreeSet Int)
  | none => .ok GpuFilter.defaultBmcVendors
  | some (.list items) => do pure (Std.ExtTreeSet.ofList (← items.mapM (readId levels.id)))
  | some _ => .error .bmcVendorsNotList

/-- The lists that decide what counts as a GPU. -/
def readGpuFilter (levels : Levels) : Option Value → Except SettingsError GpuFilter
  | none => .ok .standard
  | some (.mapping entries) => do
    let vendors ← readVendors levels (given? entries "vendors")
    let bmcVendors ← readBmcVendors levels (given? entries "bmc_vendors")
    pure ⟨vendors, bmcVendors⟩
  | some _ => .error .gpuNotMapping

/-- The settings that a mapping gives. -/
def ofEntries (levels : Levels) (entries : List (Scalar × Value)) :
    Except SettingsError Settings := do
  let idsFile ← (given? entries "ids_file").mapM (readText levels.idsFile)
  let idsPaths ← readPaths levels.idsPaths (given? entries "ids_paths")
  let sysfsPath ← readSysfsPath (given? entries "sysfs_path")
  let gpuFilter ← readGpuFilter levels (given? entries "gpu")
  pure { idsFile, idsPaths, sysfsPath, gpuFilter }

end Settings
end PciCatalog
