import PciCatalog.Database.Loading

/-!
# The default database

One database is loaded from the usual paths when it is first asked for and kept from then on; a load
that fails keeps nothing.
-/

namespace PciCatalog

/-- The paths of the default database, and the database once it has been loaded. -/
structure DefaultDatabase where
  paths : List String := Database.standardPaths
  loaded : Option LoadedDatabase := none
  deriving DecidableEq, Inhabited

namespace DefaultDatabase

/-- The default database, loaded unless that has been done, and what is kept of it. -/
def get (d : DefaultDatabase) (fs : FileSystem) :
    Except FileError LoadedDatabase × DefaultDatabase :=
  match d.loaded with
  | some database => (.ok database, d)
  | none =>
    match Database.load fs d.paths none with
    | .ok database => (.ok database, { d with loaded := some database })
    | .error e => (.error e, d)

/-- The answer of the default database to a question, and what is kept of the database. -/
def ask (d : DefaultDatabase) (fs : FileSystem) (question : Database → String) :
    Except FileError String × DefaultDatabase :=
  let (found, kept) := d.get fs
  (found.map fun l => question l.database, kept)

/-- Once loaded, the default database does not look at the files any more. -/
theorem get_of_loaded {d : DefaultDatabase} {database : LoadedDatabase}
    (h : d.loaded = some database) (fs : FileSystem) : d.get fs = (.ok database, d) := by
  rw [get, h]

end DefaultDatabase
end PciCatalog
