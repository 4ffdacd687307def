import PciCatalog.Settings.Loading
import PciCatalog.Text.ControlSequence

/-!
# Outcomes

How a run of the program ends: with printed text, with a reported failure, with a remark on how to
use the program, or with a fault for which there is no report.
-/

namespace PciCatalog
namespace Command

/-- A failure that is reported to the user. -/
inductive Failure where
  | settings (path : String) (error : SettingsFileError)
  | devices (error : FileError)
  | device (error : Sysfs.ReadError)
  | deviceNotFound (address : String)
  deriving DecidableEq, Repr

/-- A failure that ends the run without a report. -/
inductive Fault where
  | file (error : FileError)
  | settings (error : SettingsFileError)
  | address (error : AddressError)
  | numberTooLarge
  | unprintable
  deriving DecidableEq, Repr

/-- What went wrong. -/
def Fault.message : Fault → String
  | .file e => e.message
  | .settings e => e.message
  | .address e => e.message
  | .numberTooLarge => "a number is too large"
  | .unprintable => "the terminal cannot show a character"

/-- How a run ends. -/
inductive Outcome where
  | printed (output : String)
  | failed (failure : Failure)
  | misused
  | broken (fault : Fault)
  deriving DecidableEq, Repr

namespace Failure

/-- The start of a report: what was tried. -/
def heading : Failure → String
  | settings path _ => "Error: invalid config " ++ path ++ ": "
  | devices _ => "Error: cannot read PCI devices: "
  | device _ => "Error: "
  | deviceNotFound _ => "Error: "

/-- The rest of a report: what went wrong. -/
def message : Failure → String
  | settings _ e => e.message
  | devices e => e.message
  | device e => e.message
  | deviceNotFound address => "Device " ++ address ++ " not found"

/-- The line that reports a failure. -/
def report (f : Failure) : String :=
  String.ofList (Text.withoutControlSequences (f.heading ++ f.message).toList ++ ['\n'])

end Failure

namespace Outcome

/-- The number that tells other programs how the run ended. -/
def exitCode : Outcome → Nat
  | printed _ => 0
  | failed _ => 1
  | misused => 2
  | broken _ => 1

/-- The outcome when settings cannot be loaded from a path. -/
def ofSettingsError (path : String) (e : SettingsFileError) : Outcome :=
  match e with
  | .document (.other _) => .broken (.settings e)
  | .settings .pathNotText => .broken (.settings e)
  | .settings .tooDeep => .broken (.settings e)
  | _ => .failed (.settings path e)

/-- The outcome when the device directory cannot be read. -/
def ofDirectoryError (e : FileError) : Outcome :=
  if e.isSystem then .failed (.devices e) else .broken (.file e)

/-- The outcome when the device with an address cannot be read. -/
def ofReadError (address : String) (e : Sysfs.ReadError) : Outcome :=
  match e with
  | .address _ => .failed (.device e)
  | .noDevice _ => .failed (.deviceNotFound address)
  | .noNumbers _ => .failed (.deviceNotFound address)
  | .file .notFound => .failed (.deviceNotFound address)
  | .file error => if error.isSystem then .broken (.file error) else .failed (.device e)

/-- The outcome when the labels of a device cannot be told. -/
def ofAddressError (e : AddressError) : Outcome :=
  .broken (.address e)

end Outcome
end Command
end PciCatalog
