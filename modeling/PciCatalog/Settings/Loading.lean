import PciCatalog.Files.Reading
import PciCatalog.Settings

/-!
# Loading settings

Settings are kept in a file whose document is a mapping.  What reads the document is a library,
which is taken as it comes: it makes a value of what is read from the file, or it fails in one of
four ways that the program tells apart.  A document that says nothing, such as an empty file, leaves
every setting at its default.
-/

namespace PciCatalog

/-- How a document cannot be read: it is not well-formed, a text in it stands for no value, the file
behind it fails, or the library fails in a way of another kind. -/
inductive DocumentFault where
  | malformed (message : String)
  | invalid (message : String)
  | file (error : FileError)
  | other (kind : String)
  deriving DecidableEq, Repr

/-- The text that reports the fault. -/
def DocumentFault.message : DocumentFault → String
  | .malformed message => message
  | .invalid message => message
  | .file e => e.message
  | .other kind => kind

/-- What makes a value of what is read from a file. -/
abbrev DocumentReader := Reading → Except DocumentFault Value

/-- What can be wrong with a settings file. -/
inductive SettingsFileError where
  | file (error : FileError)
  | document (fault : DocumentFault)
  | notMapping (path : Path)
  | settings (error : SettingsError)
  deriving DecidableEq, Repr

/-- The text that reports the error. -/
def SettingsFileError.message : SettingsFileError → String
  | .file e => e.message
  | .document fault => fault.message
  | .notMapping path => "Config file " ++ path.toString ++ " must contain a mapping"
  | .settings e => e.message

namespace Settings

/-- The entries of a document that is a mapping or says nothing. -/
def entriesOf? : Value → Option (List (Scalar × Value))
  | .mapping entries => some entries
  | v => if v.isVoid then some [] else none

/-- Loads the settings file at a path. -/
def load (reader : DocumentReader) (levels : Levels) (fs : FileSystem) (path : Path) :
    Except SettingsFileError Settings := do
  let reading ← (fs.openFile path.toString).mapError SettingsFileError.file
  let document ← (reader reading).mapError SettingsFileError.document
  match entriesOf? document with
  | some entries => (ofEntries levels entries).mapError SettingsFileError.settings
  | none => .error (.notMapping path)

end Settings
end PciCatalog
