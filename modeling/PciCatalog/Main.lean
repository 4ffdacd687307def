import PciCatalog.Command.Standard
import PciCatalog.Files.Edit

/-!
# Command line

The program itself: it looks at the files that a command line is about, hands what it saw to
`Command.run`, prints the outcome and ends with its exit code.
-/

namespace PciCatalog
namespace Snapshot

/-- The files seen so far with one more node, unless its place is taken by something else. -/
def add (fs : FileSystem) (path : String) (node : Node) : FileSystem :=
  (fs.put path node).toOption.getD fs

/-- The files seen so far with a file at a place that may not be read. -/
def addLocked (fs : FileSystem) (path place : String) : FileSystem :=
  { add fs path .unreadable with locked := (Path.ofString place).parts :: fs.locked }

/-- Looks at a path: a file with its bytes or one that may not be read, a directory, or nothing. -/
def look (fs : FileSystem) (path : String) : IO FileSystem := do
  try
    let content ← IO.FS.readBinFile path
    pure (add fs path (.file content.toList))
  catch error =>
    try
      let place ← IO.FS.realPath path
      if ← place.isDir then pure (add fs path .directory)
      else
        match error with
        | .permissionDenied _ _ _ => pure (addLocked fs path place.toString)
        | _ => pure fs
    catch _ => pure fs

/-- Looks at the attributes of a device in a directory. -/
def lookAtAttributes (fs : FileSystem) (path : String) : IO FileSystem :=
  Sysfs.attributes.foldlM (fun fs name => look fs (path ++ "/" ++ name)) fs

/-- Looks at a device; `own` is the place of its directory unless `path` is a link. -/
def lookAtDevice (fs : FileSystem) (path own : String) : IO FileSystem := do
  try
    let place := (← IO.FS.realPath path).toString
    if place = own then lookAtAttributes fs path
    else lookAtAttributes (add fs path (.link place)) place
  catch _ => pure fs

/-- Looks at a device directory and the devices in it. -/
def lookAtDevices (fs : FileSystem) (path : Path) : IO FileSystem := do
  let seen ← look fs path.toString
  try
    let place ← IO.FS.realPath path.toString
    let members ← place.readDir
    let names := members.toList.map (·.fileName)
    (names.filter fun name => Address.accepts name).foldlM
      (fun fs name =>
        lookAtDevice fs (path.child name).toString (place.toString ++ "/" ++ name)) seen
  catch _ => pure seen

/-- Looks at the files that settings name. -/
def lookAtSettings (fs : FileSystem) (settings : Settings) : IO FileSystem := do
  let candidates := Database.candidates settings.idsPaths settings.idsFile
  let seen ← candidates.foldlM (fun fs path => look fs (Path.ofString path).toString) fs
  lookAtDevices seen settings.sysfsPath

/-- Looks at the files that options name. -/
def lookAtFiles (fs : FileSystem) (files : List (Command.FileOption × String)) : IO FileSystem :=
  files.foldlM (fun fs (_, path) => look fs path) fs

/-- The files that a command line is about. -/
def ofWords (words : List String) : IO FileSystem := do
  let here := (← IO.currentDir).toString
  let start := FileSystem.empty (Path.ofString here).parts
  let rt := Command.Runtime.standard
  match rt.parser words with
  | .refused files _ => lookAtFiles start files
  | .request options _ =>
    let seen ← lookAtFiles start options.files
    match Command.loadSettings rt seen options with
    | .ok settings => lookAtSettings seen settings
    | .error _ => pure seen

end Snapshot
end PciCatalog

/-- Runs the program on the words of its command line. -/
def main (words : List String) : IO UInt32 := do
  let outcome := PciCatalog.Command.run .standard (← PciCatalog.Snapshot.ofWords words) words
  match outcome with
  | .printed output => IO.print output
  | .failed failure => IO.eprint failure.report
  | .misused => IO.eprint PciCatalog.Command.usageLine
  | .broken fault => IO.eprintln ("pcinames gave up: " ++ fault.message)
  pure outcome.exitCode.toUInt32
