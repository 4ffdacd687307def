import PciCatalog.Files.Reading
import PciCatalog.Proofs.Result
import PciCatalog.Proofs.Walking
import Mathlib.Data.List.Nodup

/-!
# What is found at a path

The operations on files, each by the place that its path names and the node that stands there; and
the reasons for which they fail.  Two file systems with the same tree, which differ in the contents
of files only, agree on every operation that does not read a content (`SameTree`).
-/

namespace PciCatalog
namespace FileSystem

variable {fs other : FileSystem} {path : String}

theorem status_eq_ok_iff {node : Node} :
    fs.status path = .ok node ↔
      ∃ place, fs.locate path = .ok place ∧ fs.node? place = some node := by
  rw [status, Result.bind_eq_ok_iff]
  constructor
  · rintro ⟨place, hplace, h⟩
    refine ⟨place, hplace, ?_⟩
    split at h
    · next hnode => rw [hnode, Result.pure_eq_ok_iff.1 h]
    · contradiction
  · rintro ⟨place, hplace, hnode⟩
    exact ⟨place, hplace, by rw [hnode]; rfl⟩

theorem isSystem_of_status (hencoded : fs.Encodes path) {e : FileError}
    (h : fs.status path = .error e) : e.isSystem = true := by
  rw [status, Result.bind_eq_error_iff] at h
  rcases h with h | ⟨place, -, h⟩
  · exact isSystem_of_locate hencoded h
  · split at h
    · contradiction
    · obtain rfl := Except.error.inj h
      rfl

theorem mayRead_eq_true_iff :
    fs.mayRead path = true ↔ ∃ place, fs.locate path = .ok place ∧ fs.isLocked place = false := by
  unfold mayRead
  cases fs.locate path with
  | ok place => simp
  | error e => simp

theorem readable_eq_ok_iff {node : Node} :
    fs.readable path = .ok node ↔ fs.status path = .ok node ∧ fs.mayRead path = true := by
  rw [readable, Result.bind_eq_ok_iff]
  constructor
  · rintro ⟨found, hfound, h⟩
    split at h
    · next hread => exact ⟨Result.pure_eq_ok_iff.1 h ▸ hfound, hread⟩
    · contradiction
  · rintro ⟨hstatus, hread⟩
    exact ⟨node, hstatus, by rw [if_pos hread]; rfl⟩

/-- The node at a place, if the program may read it. -/
def readableAt (fs : FileSystem) (place : Place) : Except FileError Node :=
  match fs.node? place with
  | some node => if fs.isLocked place then .error .accessDenied else .ok node
  | none => .error .notFound

theorem readable_of_locate {place : Place} (hplace : fs.locate path = .ok place) :
    fs.readable path = fs.readableAt place := by
  simp only [readable, status, mayRead, hplace, bind, Except.bind, readableAt]
  cases fs.node? place with
  | none => rfl
  | some node => by_cases hlocked : fs.isLocked place <;> simp [hlocked, pure, Except.pure]

/-- What is read are the bytes of a file that may be read. -/
theorem readBytes_eq_ok_iff {bytes : List UInt8} :
    fs.readBytes path = .ok bytes ↔
      fs.status path = .ok (.file bytes) ∧ fs.mayRead path = true := by
  rw [← readable_eq_ok_iff]
  unfold readBytes openFile
  cases fs.readable path with
  | error e => simp [bind, Except.bind]
  | ok node => cases node <;> simp [bind, Except.bind, pure, Except.pure]

theorem isSystem_of_readable (hencoded : fs.Encodes path) {e : FileError}
    (h : fs.readable path = .error e) : e.isSystem = true := by
  rw [readable, Result.bind_eq_error_iff] at h
  rcases h with h | ⟨node, -, h⟩
  · exact isSystem_of_status hencoded h
  · split at h
    · contradiction
    · obtain rfl := Except.error.inj h
      rfl

theorem isSystem_of_openFile (hencoded : fs.Encodes path) {e : FileError}
    (h : fs.openFile path = .error e) : e.isSystem = true := by
  rw [openFile, Result.bind_eq_error_iff] at h
  rcases h with h | ⟨node, -, h⟩
  · exact isSystem_of_readable hencoded h
  · cases node with
    | file content | unreadable => contradiction
    | directory | link target =>
      obtain rfl := Except.error.inj h
      rfl

/-- A path with a character that no name can have leads nowhere. -/
theorem locate_of_not_encodes (h : ¬ fs.Encodes path) : fs.locate path = .error .invalidPath := by
  rw [locate, if_pos (any_refuses_iff.2 h)]

theorem openFile_of_not_encodes (h : ¬ fs.Encodes path) :
    fs.openFile path = .error .invalidPath := by
  have hstatus : fs.status path = .error .invalidPath :=
    Result.bind_eq_error_iff.2 (.inl (locate_of_not_encodes h))
  have hreadable : fs.readable path = .error .invalidPath :=
    Result.bind_eq_error_iff.2 (.inl hstatus)
  exact Result.bind_eq_error_iff.2 (.inl hreadable)

theorem isSystem_of_readBytes (hencoded : fs.Encodes path) {e : FileError}
    (h : fs.readBytes path = .error e) : e.isSystem = true := by
  rw [readBytes, Result.bind_eq_error_iff] at h
  rcases h with h | ⟨reading, -, h⟩
  · exact isSystem_of_openFile hencoded h
  · cases reading with
    | whole bytes => contradiction
    | broken front =>
      obtain rfl := Except.error.inj h
      rfl

theorem pathExists_eq_true_iff :
    fs.pathExists path = .ok true ↔ ∃ node, fs.status path = .ok node := by
  unfold pathExists
  split
  · next node hstatus => simp [hstatus]
  · next hstatus => simp [hstatus]
  · next hstatus => simp [hstatus]
  · next e _ _ hstatus => simp [hstatus]

/-- A path that names a directory exists. -/
theorem pathExists_of_isDirectory {place : Place} (hlocate : fs.locate path = .ok place)
    (hdirectory : fs.isDirectory place = true) : fs.pathExists path = .ok true :=
  pathExists_eq_true_iff.2
    ⟨.directory, status_eq_ok_iff.2 ⟨place, hlocate, by simpa [isDirectory] using hdirectory⟩⟩

theorem listDirectory_eq_ok_iff {names : List String} :
    fs.listDirectory path = .ok names ↔ ∃ place, fs.locate path = .ok place ∧
      fs.isDirectory place = true ∧ fs.isLocked place = false ∧ names = fs.members place := by
  rw [listDirectory, Result.bind_eq_ok_iff]
  refine exists_congr fun place => and_congr_right fun _ => ?_
  cases fs.isDirectory place with
  | false => simp
  | true =>
    cases fs.isLocked place with
    | false => simpa [Result.pure_eq_ok_iff] using eq_comm
    | true => simp

theorem isSystem_of_listDirectory (hencoded : fs.Encodes path) {e : FileError}
    (h : fs.listDirectory path = .error e) : e.isSystem = true := by
  rw [listDirectory, Result.bind_eq_error_iff] at h
  rcases h with h | ⟨place, -, h⟩
  · exact isSystem_of_locate hencoded h
  · split at h
    · obtain rfl := Except.error.inj h
      rfl
    split at h
    · obtain rfl := Except.error.inj h
      rfl
    · contradiction

/-- The test for a path fails only when a name or the path is too long, or when a directory on the
way may not be searched. -/
theorem of_pathExists_error {e : FileError} (h : fs.pathExists path = .error e) :
    e = .nameTooLong ∨ e = .accessDenied := by
  unfold pathExists at h
  split at h
  · contradiction
  · exact .inl (Except.error.inj h).symm
  · exact .inr (Except.error.inj h).symm
  · contradiction

theorem encodes_of_locate {place : Place} (h : fs.locate path = .ok place) : fs.Encodes path := by
  by_contra hrefused
  rw [locate_of_not_encodes hrefused] at h
  contradiction

theorem encodes_of_pathExists (h : fs.pathExists path = .ok true) : fs.Encodes path := by
  obtain ⟨node, hnode⟩ := pathExists_eq_true_iff.1 h
  obtain ⟨place, hplace, -⟩ := status_eq_ok_iff.1 hnode
  exact encodes_of_locate hplace

/-- The members of a place are told by the places of the nodes. -/
theorem members_eq (fs : FileSystem) (place : Place) :
    fs.members place = (fs.nodes.map Prod.fst).filterMap fun p =>
      if p.dropLast = place then p.getLast? else none := by
  rw [members, List.filterMap_map]
  rfl

/-- A directory lists each of its members once. -/
theorem nodup_members (fs : FileSystem) (place : Place) : (fs.members place).Nodup := by
  rw [members_eq]
  refine List.Nodup.filterMap ?_ fs.distinct
  intro p q name hp hq
  have hplace : ∀ {p : Place}, (if p.dropLast = place then p.getLast? else none) = some name →
      p = place ++ [name] := by
    intro p h
    rw [Option.ite_none_right_eq_some] at h
    rw [← h.1, List.dropLast_append_getLast? _ h.2]
  rw [hplace hp, hplace hq]

end FileSystem

/-! ### File systems that differ in contents only -/

/-- A node without what reading from it gives. -/
def Node.outline : Node → Node
  | .file _ | .unreadable _ => .unreadable
  | node => node

namespace FileSystem

/-- Two file systems with the same directories, the same links, and files at the same places, where
the program may do the same with them. -/
structure SameTree (fs other : FileSystem) : Prop where
  workingDir : fs.workingDir = other.workingDir
  isLocked : fs.isLocked = other.isLocked
  isBarred : fs.isBarred = other.isBarred
  refuses : fs.refuses = other.refuses
  members : ∀ place, fs.members place = other.members place
  outline : ∀ place, (fs.node? place).map Node.outline = (other.node? place).map Node.outline

namespace SameTree

variable {fs other : FileSystem}

theorem symm (h : SameTree fs other) : SameTree other fs where
  workingDir := h.workingDir.symm
  isLocked := h.isLocked.symm
  isBarred := h.isBarred.symm
  refuses := h.refuses.symm
  members := fun place => (h.members place).symm
  outline := fun place => (h.outline place).symm

theorem trans {third : FileSystem} (h : SameTree fs other) (h' : SameTree other third) :
    SameTree fs third where
  workingDir := h.workingDir.trans h'.workingDir
  isLocked := h.isLocked.trans h'.isLocked
  isBarred := h.isBarred.trans h'.isBarred
  refuses := h.refuses.trans h'.refuses
  members := fun place => (h.members place).trans (h'.members place)
  outline := fun place => (h.outline place).trans (h'.outline place)

theorem isDirectory_eq (h : SameTree fs other) (place : Place) :
    fs.isDirectory place = other.isDirectory place := by
  have houtline : ∀ fs : FileSystem,
      fs.isDirectory place = decide ((fs.node? place).map Node.outline = some .directory) := by
    intro fs
    rw [isDirectory]
    cases fs.node? place with
    | none => rfl
    | some node => cases node <;> simp [Node.outline]
  rw [houtline, houtline, h.outline]

/-- What stands at a place stands there in both, up to contents. -/
theorem node?_cases (h : SameTree fs other) (place : Place) :
    fs.node? place = none ∧ other.node? place = none ∨
      ∃ node node', fs.node? place = some node ∧ other.node? place = some node' ∧
        node'.outline = node.outline := by
  have houtline := h.outline place
  cases hnode : fs.node? place with
  | none =>
    rw [hnode, Option.map_none, eq_comm, Option.map_eq_none_iff] at houtline
    exact .inl ⟨rfl, houtline⟩
  | some node =>
    rw [hnode, Option.map_some, eq_comm, Option.map_eq_some_iff] at houtline
    obtain ⟨node', hnode', houtline⟩ := houtline
    exact .inr ⟨node, node', rfl, hnode', houtline⟩

theorem walk_eq (h : SameTree fs other) (links : Nat) (here : Place) (names : List String) :
    fs.walk links here names = other.walk links here names := by
  -- A link makes the names longer but leaves fewer links to follow.
  induction links using Nat.strongRecOn generalizing here names with
  | ind links ihLinks =>
    induction names generalizing here with
    | nil => rw [walk_nil, walk_nil]
    | cons name rest ih =>
      have hfollow : ∀ place names,
          fs.follow links place names = other.follow links place names := by
        intro place names
        cases links with
        | zero => rfl
        | succ links => exact ihLinks links (Nat.lt_succ_self links) place names
      rw [walk_cons, walk_cons, h.isDirectory_eq, h.isBarred, ih here, ih here.dropLast,
        ih (here ++ [name])]
      rcases h.node?_cases (here ++ [name]) with
        ⟨hnode, hnode'⟩ | ⟨node, node', hnode, hnode', houtline⟩
      · rw [hnode, hnode']
      · rw [hnode, hnode']
        cases node <;> cases node' <;> simp [Node.outline] at houtline <;> simp [hfollow, houtline]

theorem locate_eq (h : SameTree fs other) (path : String) : fs.locate path = other.locate path := by
  rw [locate, locate, h.walk_eq, h.workingDir, h.refuses]

theorem mayRead_eq (h : SameTree fs other) (path : String) :
    fs.mayRead path = other.mayRead path := by
  rw [mayRead, mayRead, h.locate_eq, h.isLocked]

theorem listDirectory_eq (h : SameTree fs other) (path : String) :
    fs.listDirectory path = other.listDirectory path := by
  unfold listDirectory
  rw [h.locate_eq]
  simp only [h.isDirectory_eq, h.isLocked, h.members]

/-- What is found at a path is the same up to contents. -/
theorem status_eq (h : SameTree fs other) (path : String) :
    (fs.status path).map Node.outline = (other.status path).map Node.outline := by
  unfold status
  rw [h.locate_eq]
  cases other.locate path with
  | error e => rfl
  | ok place =>
    simp only [bind, Except.bind]
    rcases h.node?_cases place with ⟨hnode, hnode'⟩ | ⟨node, node', hnode, hnode', houtline⟩
    · rw [hnode, hnode']
    · rw [hnode, hnode']
      exact congrArg Except.ok houtline.symm

theorem pathExists_eq (h : SameTree fs other) (path : String) :
    fs.pathExists path = other.pathExists path := by
  have hstatus := h.status_eq path
  unfold pathExists
  cases hfs : fs.status path with
  | ok node =>
    cases hother : other.status path with
    | ok node' => rfl
    | error e => simp [hfs, hother, Except.map] at hstatus
  | error e =>
    cases hother : other.status path with
    | ok node' => simp [hfs, hother, Except.map] at hstatus
    | error e' =>
      simp only [hfs, hother, Except.map, Except.error.injEq] at hstatus
      rw [hstatus]

/-- What is found at a path is the same when the same stands at its place. -/
theorem status_eq_of_node (h : SameTree fs other) {path : String}
    (hnode : ∀ place, fs.locate path = .ok place → fs.node? place = other.node? place) :
    fs.status path = other.status path := by
  unfold status
  rw [← h.locate_eq]
  cases hplace : fs.locate path with
  | error e => rfl
  | ok place => simp only [bind, Except.bind, hnode place hplace]

/-- What is read at a path is the same when the same stands at its place. -/
theorem readText_eq (h : SameTree fs other) {path : String}
    (hnode : ∀ place, fs.locate path = .ok place → fs.node? place = other.node? place) :
    fs.readText path = other.readText path := by
  unfold readText readBytes openFile readable
  rw [h.status_eq_of_node hnode, h.mayRead_eq]

end SameTree

theorem lookup_setIn (place : Place) (node : Node) (nodes : List (Place × Node)) (p : Place) :
    (setIn place node nodes).lookup p = if p = place then some node else nodes.lookup p := by
  induction nodes with
  | nil => by_cases hp : p = place <;> simp [setIn, hp]
  | cons head rest ih =>
    obtain ⟨q, n⟩ := head
    -- The node that stands first decides when its place is asked for.
    have hcons : ∀ (n : Node) (nodes : List (Place × Node)),
        ((q, n) :: nodes).lookup p = if p = q then some n else nodes.lookup p := by
      intro n nodes
      by_cases hpq : p = q
      · rw [List.lookup_cons, beq_iff_eq.2 hpq, if_pos hpq]
      · rw [List.lookup_cons, beq_eq_false_iff_ne.2 hpq, if_neg hpq]
    rw [setIn]
    split
    · next hq =>
      subst hq
      rw [hcons, hcons]
      split <;> rfl
    · next hq =>
      rw [hcons, hcons, ih]
      split
      · next hpq => rw [hpq, if_neg hq]
      · rfl

theorem node?_set {fs : FileSystem} {place : Place} (hplace : place ≠ []) (node : Node)
    (p : Place) : (fs.set place node).node? p = if p = place then some node else fs.node? p := by
  by_cases hp : p = []
  · subst hp
    rw [if_neg (Ne.symm hplace)]
    rfl
  · rw [node?, node?, if_neg hp, if_neg hp]
    exact lookup_setIn place node fs.nodes p

theorem places_setIn {place : Place} (node : Node) {nodes : List (Place × Node)}
    (h : place ∈ nodes.map Prod.fst) :
    (setIn place node nodes).map Prod.fst = nodes.map Prod.fst := by
  induction nodes with
  | nil => simp at h
  | cons head rest ih =>
    rw [setIn]
    split
    · rfl
    · next hne =>
      rw [List.map_cons, List.mem_cons] at h
      rw [List.map_cons, List.map_cons, ih (h.resolve_left (Ne.symm hne))]

/-- The root is a directory and no file. -/
theorem ne_root_of_outline {fs : FileSystem} {place : Place} {node : Node}
    (hnode : fs.node? place = some node) (houtline : node.outline = .unreadable) : place ≠ [] := by
  rintro rfl
  obtain rfl : Node.directory = node := by simpa [node?] using hnode
  simp [Node.outline] at houtline

/-- A new content for a file leaves the tree as it is. -/
theorem sameTree_set {fs : FileSystem} {place : Place} {old new : Node}
    (hold : fs.node? place = some old) (houtline : old.outline = .unreadable)
    (hnew : new.outline = .unreadable) : SameTree fs (fs.set place new) := by
  have hplace := ne_root_of_outline hold houtline
  have hmem : place ∈ fs.nodes.map Prod.fst :=
    List.mem_map_of_mem (mem_nodes_of_node? hplace hold)
  -- The places keep their order, so directories list the same.
  refine ⟨rfl, rfl, rfl, rfl, ?_, ?_⟩
  · intro p
    rw [members_eq, members_eq]
    exact congrArg _ (places_setIn new hmem).symm
  · intro p
    rw [node?_set hplace]
    split
    · next hp => rw [hp, hold, Option.map_some, Option.map_some, houtline, hnew]
    · rfl

end FileSystem
end PciCatalog
