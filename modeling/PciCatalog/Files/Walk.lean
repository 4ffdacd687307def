import PciCatalog.Files.Path
import PciCatalog.Files.Tree

/-!
# Walking along a path

The place that a path names: one name after the other is looked up in the directory reached so far,
which has to be open to searching, and a symbolic link on the way is replaced by its target.  At
most forty links are followed.
-/

namespace PciCatalog

/-- What is told of a path without opening it: whether something stands there, whether that is a
directory, and whether the program may read it. -/
inductive PathState where
  | missing
  | directory (readable : Bool)
  | file (readable : Bool)
  deriving DecidableEq, Repr

namespace FileSystem

/-- The most bytes in one name. -/
def nameLimit : Nat := 255

/-- The most bytes in a path. -/
def pathLimit : Nat := 4095

/-- The most links that one walk follows. -/
def linkLimit : Nat := 40

/-- The names between the slashes of a path; an empty name stays, and requires a directory before
it. -/
def steps (path : String) : List String :=
  (Text.fields '/' path.toList).map String.ofList

/-- Where a path starts when it is met at a place. -/
def startOf (path : String) (here : Place) : Place :=
  if path.toList.head? = some '/' then [] else here

/-- Walks along names without following a link; at a link, `follow` goes on from the place and
along the names that the link leads to. -/
def walkWith (fs : FileSystem) (follow : Place → List String → Except FileError Place)
    (here : Place) : List String → Except FileError Place
  | [] => .ok here
  | name :: rest =>
    if !fs.isDirectory here then .error .notDirectory
    -- An empty name asks for a directory and looks nothing up in it.
    else if name = "" then walkWith fs follow here rest
    else if fs.isBarred here then .error .accessDenied
    else if name = "." then walkWith fs follow here rest
    -- The root is its own parent.
    else if name = ".." then walkWith fs follow here.dropLast rest
    else if nameLimit < name.utf8ByteSize then .error .nameTooLong
    else
      match fs.node? (here ++ [name]) with
      | none => .error .notFound
      | some (.link target) => follow (startOf target here) (steps target ++ rest)
      | some _ => walkWith fs follow (here ++ [name]) rest

/-- Walks along names and follows at most `links` links. -/
def walk (fs : FileSystem) : Nat → Place → List String → Except FileError Place
  | 0 => fs.walkWith fun _ _ => .error .tooManyLinks
  | links + 1 => fs.walkWith (fs.walk links)

/-- The place that a path names. -/
def locate (fs : FileSystem) (path : String) : Except FileError Place :=
  if path.toList.any fs.refuses then .error .invalidPath
  else if path = "" then .error .notFound
  else if pathLimit < path.utf8ByteSize then .error .nameTooLong
  else fs.walk linkLimit (startOf path fs.workingDir) (steps path)

/-- The node that a path names, with the links on its way followed. -/
def status (fs : FileSystem) (path : String) : Except FileError Node := do
  match fs.node? (← fs.locate path) with
  | some node => pure node
  | none => .error .notFound

/-- Whether a path names a node; a name that is too long and a directory that may not be searched
make the test fail. -/
def pathExists (fs : FileSystem) (path : String) : Except FileError Bool :=
  match fs.status path with
  | .ok _ => .ok true
  | .error .nameTooLong => .error .nameTooLong
  | .error .accessDenied => .error .accessDenied
  | .error _ => .ok false

/-- The names in the directory that a path names. -/
def listDirectory (fs : FileSystem) (path : String) : Except FileError (List String) := do
  let place ← fs.locate path
  if !fs.isDirectory place then .error .notDirectory
  else if fs.isLocked place then .error .accessDenied
  else pure (fs.members place)

/-- Whether a path leads to a place that the program may read. -/
def mayRead (fs : FileSystem) (path : String) : Bool :=
  match fs.locate path with
  | .ok place => !fs.isLocked place
  | .error _ => false

/-- What stands at a path. Only a path that no file can have leaves this open; whatever else is in
the way, nothing stands there. -/
def pathState (fs : FileSystem) (path : String) : Except FileError PathState :=
  match fs.status path with
  | .ok .directory => .ok (.directory (fs.mayRead path))
  | .ok _ => .ok (.file (fs.mayRead path))
  | .error .invalidPath => .error .invalidPath
  | .error _ => .ok .missing

/-- The node that a path names, if the program may read it. -/
def readable (fs : FileSystem) (path : String) : Except FileError Node := do
  let node ← fs.status path
  if fs.mayRead path then pure node else .error .accessDenied

/-- What can be read from the file that is opened at a path. -/
def openFile (fs : FileSystem) (path : String) : Except FileError Reading := do
  match ← fs.readable path with
  | .file content => pure (.whole content)
  | .unreadable front => pure (.broken front)
  | .directory => .error .isDirectory
  | .link _ => .error .tooManyLinks

/-- The bytes of the file at a path. -/
def readBytes (fs : FileSystem) (path : String) : Except FileError (List UInt8) := do
  match ← fs.openFile path with
  | .whole content => pure content
  | .broken _ => .error .readFailed

end FileSystem
end PciCatalog
