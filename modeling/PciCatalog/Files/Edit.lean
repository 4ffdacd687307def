import PciCatalog.Files.Walk

/-!
# Changing files

Putting nodes at paths and removing them.  Directories that are missing on the way to a new node are
made.
-/

namespace PciCatalog
namespace FileSystem

/-- The names of a path that lead somewhere. -/
def plainSteps (path : String) : List String :=
  (steps path).filter fun name => name ≠ "" && name ≠ "."

/-- Goes from a directory to a member, which is made as a directory when it is missing. -/
def enter (state : FileSystem × Place) (name : String) : Except FileError (FileSystem × Place) :=
  let (fs, here) := state
  match fs.walk linkLimit here [name] with
  | .ok place => .ok (fs, place)
  | .error .notFound => .ok (fs.set (here ++ [name]) .directory, here ++ [name])
  | .error e => .error e

/-- Goes along names and makes the directories that are missing. -/
def enterAll (fs : FileSystem) (here : Place) (names : List String) :
    Except FileError (FileSystem × Place) :=
  names.foldlM enter (fs, here)

/-- The place that a file is written to when its name is met in a directory: links are followed,
also to a place where nothing stands yet. -/
def destination (fs : FileSystem) : Nat → Place → String → Except FileError Place
  | links, here, name =>
    if name = ".." then .ok here.dropLast
    else
      match fs.node? (here ++ [name]), links with
      | some (.link _), 0 => .error .tooManyLinks
      | some (.link target), rest + 1 =>
        let names := plainSteps target
        match names.getLast? with
        | none => .ok (startOf target here)
        | some last => do
          let there ← fs.walk linkLimit (startOf target here) names.dropLast
          fs.destination rest there last
      | _, _ => .ok (here ++ [name])

/-- Puts a node at a path: a directory may exist already, a file's content is written through links,
and anything else replaces what stands there. -/
def put (fs : FileSystem) (path : String) (node : Node) : Except FileError FileSystem := do
  let names := plainSteps path
  let start := startOf path fs.workingDir
  match node, names.getLast? with
  | .directory, _ =>
    let (made, place) ← fs.enterAll start names
    if made.isDirectory place then pure made else .error .notDirectory
  | _, none => .error .isDirectory
  | .file content, some name =>
    let (made, here) ← fs.enterAll start names.dropLast
    let place ← made.destination linkLimit here name
    if made.isDirectory place then .error .isDirectory
    else pure (made.set place (.file content))
  | _, some name =>
    let (made, here) ← fs.enterAll start names.dropLast
    pure (made.set (here ++ [name]) node)

/-- Removes the file or link at a path. -/
def remove (fs : FileSystem) (path : String) : Except FileError FileSystem := do
  let names := plainSteps path
  match names.getLast? with
  | none => .error .isDirectory
  | some name =>
    let here ← fs.walk linkLimit (startOf path fs.workingDir) names.dropLast
    match fs.node? (here ++ [name]) with
    | none => .error .notFound
    | some .directory => .error .isDirectory
    | some _ => pure (fs.erase (here ++ [name]))

end FileSystem
end PciCatalog
