import PciCatalog.Text.Split

/-!
# Trees of files

A file system is a list of nodes at places below one root, no two at the same place, and a working
directory.  The order of the list is the order in which a directory lists its members.  What the
program may do with the nodes is kept apart from them: some it may not read, and some directories it
may not search.
-/

namespace PciCatalog

/-- The names that lead from the root to a place. -/
abbrev Place := List String

/-- What stands at a place. An unreadable node is no directory and can be opened, but reading from
it fails behind the given lines. -/
inductive Node where
  | directory
  | file (content : List UInt8)
  | unreadable (front : List (List UInt8) := [])
  | link (target : String)
  deriving DecidableEq, Repr

/-- What is read from a file: all its bytes, or the lines that are handed out before reading
fails. -/
inductive Reading where
  | whole (content : List UInt8)
  | broken (front : List (List UInt8))
  deriving DecidableEq, Repr

/-- The reasons for which a file operation fails. -/
inductive FileError where
  | notFound
  | notDirectory
  | isDirectory
  | tooManyLinks
  | nameTooLong
  | readFailed
  | accessDenied
  | invalidPath
  | undecodable
  deriving DecidableEq, Repr

namespace FileError

/-- The text that reports the failure. -/
def message : FileError → String
  | notFound => "no such file or directory"
  | notDirectory => "not a directory"
  | isDirectory => "is a directory"
  | tooManyLinks => "too many levels of symbolic links"
  | nameTooLong => "file name too long"
  | readFailed => "read failed"
  | accessDenied => "permission denied"
  | invalidPath => "a path contains a character that no name can have"
  | undecodable => "the file is not in UTF-8"

/-- Whether the failure comes from the file system, and not from the text of a path or of a file. -/
def isSystem : FileError → Bool
  | invalidPath => false
  | undecodable => false
  | _ => true

end FileError

/-- Where there are no characters, all of them are beyond ASCII. -/
theorem wide_nil : ∀ c ∈ ([] : List Char), 0x80 ≤ c.toNat :=
  List.forall_mem_nil _

/-- Nodes at distinct places, and the place that relative paths start from.  `locked` are the places
that the program may not read, `barred` the directories that it may not search.  `unencoded` are the
characters that the encoding of names leaves out, as UTF-8 leaves out lone surrogates. -/
structure FileSystem where
  nodes : List (Place × Node)
  workingDir : Place
  distinct : (nodes.map Prod.fst).Nodup
  locked : List Place := []
  barred : List Place := []
  unencoded : List Char := []
  wide : ∀ c ∈ unencoded, 0x80 ≤ c.toNat := by exact wide_nil
  deriving DecidableEq

namespace FileSystem

/-- The file system whose only directories are those on the way to the working directory. -/
def empty (workingDir : Place) : FileSystem where
  nodes := (List.range workingDir.length).map fun n => (workingDir.take (n + 1), .directory)
  workingDir
  distinct := by
    rw [List.map_map, List.Nodup, List.pairwise_map]
    refine List.Pairwise.imp_of_mem ?_ List.nodup_range
    intro m n hm hn hne heq
    have hlen := congrArg List.length heq
    simp only [Function.comp_apply, List.length_take, List.mem_range] at hlen hm hn
    omega

/-- The node at a place; the root is a directory. -/
def node? (fs : FileSystem) (place : Place) : Option Node :=
  if place = [] then some .directory else fs.nodes.lookup place

/-- Whether a place holds a directory. -/
def isDirectory (fs : FileSystem) (place : Place) : Bool :=
  fs.node? place = some .directory

/-- Whether the program may not read what stands at a place. -/
def isLocked (fs : FileSystem) (place : Place) : Bool :=
  fs.locked.contains place

/-- Whether the program may not search a directory. -/
def isBarred (fs : FileSystem) (place : Place) : Bool :=
  fs.barred.contains place

/-- Whether no name can have a character: the null character, or one that is not encoded. -/
def refuses (fs : FileSystem) (c : Char) : Bool :=
  c == '\x00' || fs.unencoded.contains c

/-- The names of the nodes directly below a place, in the order of listing. -/
def members (fs : FileSystem) (place : Place) : List String :=
  fs.nodes.filterMap fun (p, _) => if p.dropLast = place then p.getLast? else none

/-- Nodes with the one at a place replaced, or with a new one at the end. -/
def setIn (place : Place) (node : Node) : List (Place × Node) → List (Place × Node)
  | [] => [(place, node)]
  | (p, n) :: rest => if p = place then (p, node) :: rest else (p, n) :: setIn place node rest

theorem mem_places_setIn {place p : Place} {node : Node} {nodes : List (Place × Node)}
    (h : p ∈ (setIn place node nodes).map Prod.fst) : p = place ∨ p ∈ nodes.map Prod.fst := by
  induction nodes with
  | nil => left; simpa [setIn] using h
  | cons head rest ih =>
    rw [setIn] at h
    split at h
    · right; exact h
    · rcases List.mem_cons.1 h with rfl | h
      · right; exact List.mem_cons_self
      · exact (ih h).imp_right (List.mem_cons_of_mem _)

theorem nodup_places_setIn (place : Place) (node : Node) {nodes : List (Place × Node)}
    (h : (nodes.map Prod.fst).Nodup) : ((setIn place node nodes).map Prod.fst).Nodup := by
  induction nodes with
  | nil => simp [setIn]
  | cons head rest ih =>
    have hrest := List.nodup_cons.1 h
    rw [setIn]
    split
    · exact h
    · next hne =>
      refine List.nodup_cons.2 ⟨fun hmem => ?_, ih hrest.2⟩
      exact (mem_places_setIn hmem).elim hne hrest.1

/-- The file system with a node put at a place. -/
def set (fs : FileSystem) (place : Place) (node : Node) : FileSystem :=
  { fs with
    nodes := setIn place node fs.nodes
    distinct := nodup_places_setIn place node fs.distinct }

/-- The file system without the node at a place. -/
def erase (fs : FileSystem) (place : Place) : FileSystem :=
  { fs with
    nodes := fs.nodes.filter (·.1 ≠ place)
    distinct := (List.filter_sublist.map Prod.fst).nodup fs.distinct }

end FileSystem
end PciCatalog
