/-!
# Requests

What a command line can ask for, and the options under which it asks.
-/

namespace PciCatalog
namespace Command

/-- A question for the name of a number. -/
inductive Question where
  | vendor (vendor : String)
  | device (vendor device : String)
  | subsystem (vendor device subvendor subdevice : String)
  | deviceClass (code : String)
  deriving DecidableEq, Repr

/-- What the program is asked to do. -/
inductive Request where
  | list (gpusOnly names : Bool)
  | info (address : String) (names : Bool)
  | lookup (question : Question)
  | stats
  deriving DecidableEq, Repr

/-- The options that name a file. -/
inductive FileOption where
  | idsFile
  | settings
  deriving DecidableEq, Repr

/-- The options for every command. Each option that names a file is kept once, at the place where it
first came, with the last value given. -/
structure Options where
  json : Bool := false
  files : List (FileOption × String) := []
  deriving DecidableEq, Repr

/-- The file that an option names. -/
def Options.file? (o : Options) (option : FileOption) : Option String :=
  o.files.lookup option

end Command
end PciCatalog
