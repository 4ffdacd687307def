import PciCatalog.Database
import PciCatalog.Entry.Line
import PciCatalog.Files.Reading

/-!
# Loading a database

A database is read from one file: from a given one, or from the first of some candidates that opens.
A file that does not open is passed over, and a file that cannot be read any further keeps what was
read of it.  Bytes that are not UTF-8 damage only the name or identifier that they stand in.
-/

namespace PciCatalog

/-- A database and the path of the file that it was read from. -/
structure LoadedDatabase where
  database : Database
  source : Option Path
  deriving DecidableEq, Inhabited

namespace Database

/-- The lines of a names file as text. -/
def linesOf (content : List UInt8) : List (List Char) :=
  (Text.byteLines content).map Text.decodeLossy

/-- The database of a names file. -/
def ofFile (content : List UInt8) : Database :=
  empty.addAll (({} : Context).entries (linesOf content))

/-- The lines of what was read from a names file, as text. -/
def linesRead : Reading → List (List Char)
  | .whole content => linesOf content
  | .broken front => front.map Text.decodeLossy

/-- The database of what was read from a names file. -/
def ofReading (reading : Reading) : Database :=
  empty.addAll (({} : Context).entries (linesRead reading))

/-- The first of some paths that opens, with what can be read there; a path that no file
can have ends the search. -/
def openFirst (fs : FileSystem) :
    List String → Except FileError (Option (Path × Reading))
  | [] => .ok none
  | candidate :: others =>
    let path := Path.ofString candidate
    match fs.openFile path.toString with
    | .ok reading => .ok (some (path, reading))
    | .error e => if e.isSystem then openFirst fs others else .error e

/-- The paths to try: a given path that is not empty stands alone. -/
def candidates (paths : List String) (given : Option String) : List String :=
  match given with
  | some path => if path = "" then paths else [path]
  | none => paths

/-- Loads a database from a given path, or else from the first of some paths that opens; when none
opens it is empty and has no source. -/
def load (fs : FileSystem) (paths : List String) (given : Option String) :
    Except FileError LoadedDatabase := do
  match ← openFirst fs (candidates paths given) with
  | some (path, reading) => pure ⟨ofReading reading, some path⟩
  | none => pure ⟨empty, none⟩

/-- The usual paths of a names file, in the order in which they are tried. -/
def standardPaths : List String :=
  ["/usr/share/misc/pci.ids", "/usr/share/hwdata/pci.ids"]

end Database
end PciCatalog
