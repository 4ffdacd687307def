import PciCatalog.Proofs.PathText

/-!
# Where a walk leads

The walks that arrive somewhere, as a relation with one rule for each kind of step.  What is known
of a walk follows from the rules: a walk along a path goes along any front of the path first.  Main
statement: a path that names a node below another path shows that the other path names a directory
(`locate_child`).
-/

namespace PciCatalog
namespace FileSystem

variable {fs : FileSystem}

/-- Whether a name leads from a directory to one of its members. -/
structure IsStep (name : String) : Prop where
  ne_empty : name ≠ ""
  ne_point : name ≠ "."
  ne_points : name ≠ ".."
  short : name.utf8ByteSize ≤ nameLimit

/-- Whether names can be looked up in a place: it is a directory, and one that may be searched. -/
structure Searchable (fs : FileSystem) (here : Place) : Prop where
  directory : fs.isDirectory here = true
  allowed : fs.isBarred here = false

/-- A walk along names that may follow `links` links arrives at a place with `left` links left. -/
inductive Reaches (fs : FileSystem) : (links : Nat) → (here : Place) → (names : List String) →
    (left : Nat) → (place : Place) → Prop
  | arrive {links : Nat} {here : Place} : Reaches fs links here [] links here
  | stay {links left : Nat} {here place : Place} {name : String} {rest : List String}
      (directory : fs.isDirectory here = true)
      (same : name = "" ∨ name = "." ∧ fs.isBarred here = false)
      (next : Reaches fs links here rest left place) :
      Reaches fs links here (name :: rest) left place
  | up {links left : Nat} {here place : Place} {rest : List String}
      (search : Searchable fs here) (next : Reaches fs links here.dropLast rest left place) :
      Reaches fs links here (".." :: rest) left place
  | enter {links left : Nat} {here place : Place} {name : String} {rest : List String} {node : Node}
      (search : Searchable fs here) (step : IsStep name)
      (found : fs.node? (here ++ [name]) = some node) (plain : ∀ target, node ≠ .link target)
      (next : Reaches fs links (here ++ [name]) rest left place) :
      Reaches fs links here (name :: rest) left place
  | follow {links left : Nat} {here place : Place} {name target : String} {rest : List String}
      (search : Searchable fs here) (step : IsStep name)
      (found : fs.node? (here ++ [name]) = some (.link target))
      (next : Reaches fs links (startOf target here) (steps target ++ rest) left place) :
      Reaches fs (links + 1) here (name :: rest) left place

/-- Goes on behind a link, if it may be followed. -/
def follow (fs : FileSystem) (links : Nat) (here : Place) (names : List String) :
    Except FileError Place :=
  match links with
  | 0 => .error .tooManyLinks
  | left + 1 => fs.walk left here names

/-- One name of a walk. -/
theorem walk_cons (fs : FileSystem) (links : Nat) (here : Place) (name : String)
    (rest : List String) :
    fs.walk links here (name :: rest) =
      if !fs.isDirectory here then .error .notDirectory
      else if name = "" then fs.walk links here rest
      else if fs.isBarred here then .error .accessDenied
      else if name = "." then fs.walk links here rest
      else if name = ".." then fs.walk links here.dropLast rest
      else if nameLimit < name.utf8ByteSize then .error .nameTooLong
      else
        match fs.node? (here ++ [name]) with
        | none => .error .notFound
        | some (.link target) => fs.follow links (startOf target here) (steps target ++ rest)
        | some _ => fs.walk links (here ++ [name]) rest := by
  cases links with
  | zero =>
    rw [walk, walkWith]
    cases fs.node? (here ++ [name]) with
    | none => rfl
    | some node => cases node <;> rfl
  | succ links =>
    rw [walk, walkWith]
    cases fs.node? (here ++ [name]) with
    | none => rfl
    | some node => cases node <;> rfl

theorem walk_nil (fs : FileSystem) (links : Nat) (here : Place) :
    fs.walk links here [] = .ok here := by
  cases links <;> rfl

/-! One name of a walk in a directory, by what the name stands for. -/

section Step

variable {links : Nat} {here : Place} {name : String} {rest : List String}

theorem walk_same (directory : fs.isDirectory here = true)
    (same : name = "" ∨ name = "." ∧ fs.isBarred here = false) :
    fs.walk links here (name :: rest) = fs.walk links here rest := by
  rw [walk_cons]
  obtain rfl | ⟨rfl, allowed⟩ := same
  · simp [directory]
  · simp [directory, allowed]

theorem walk_up (search : Searchable fs here) :
    fs.walk links here (".." :: rest) = fs.walk links here.dropLast rest := by
  rw [walk_cons]
  simp [search.directory, search.allowed]

theorem walk_step (search : Searchable fs here) (step : IsStep name) :
    fs.walk links here (name :: rest) =
      match fs.node? (here ++ [name]) with
      | none => .error .notFound
      | some (.link target) => fs.follow links (startOf target here) (steps target ++ rest)
      | some _ => fs.walk links (here ++ [name]) rest := by
  rw [walk_cons]
  simp [search.directory, search.allowed, step.ne_empty, step.ne_point, step.ne_points,
    Nat.not_lt.2 step.short]

theorem walk_missing (search : Searchable fs here) (step : IsStep name)
    (missing : fs.node? (here ++ [name]) = none) :
    fs.walk links here (name :: rest) = .error .notFound := by
  rw [walk_step search step, missing]

theorem walk_enter {node : Node} (search : Searchable fs here) (step : IsStep name)
    (found : fs.node? (here ++ [name]) = some node) (plain : ∀ target, node ≠ .link target) :
    fs.walk links here (name :: rest) = fs.walk links (here ++ [name]) rest := by
  rw [walk_step search step, found]
  cases node with
  | link target => exact absurd rfl (plain target)
  | directory | file | unreadable => rfl

theorem walk_follow {target : String} (search : Searchable fs here) (step : IsStep name)
    (found : fs.node? (here ++ [name]) = some (.link target)) :
    fs.walk links here (name :: rest) =
      fs.follow links (startOf target here) (steps target ++ rest) := by
  rw [walk_step search step, found]

/-- A walk that arrives is in a directory before each of its names, in one that may be searched
unless the name is empty, and none of the names is too long. -/
theorem of_walk_cons {place : Place} (h : fs.walk links here (name :: rest) = .ok place) :
    fs.isDirectory here = true ∧
      (name = "" ∨ fs.isBarred here = false ∧ (name = "." ∨ name = ".." ∨ IsStep name)) := by
  rw [walk_cons] at h
  split at h
  · contradiction
  next hdirectory =>
  refine ⟨by simpa using hdirectory, ?_⟩
  split at h
  · next hempty => exact .inl hempty
  next hempty =>
  split at h
  · contradiction
  next hbarred =>
  refine .inr ⟨by simpa using hbarred, ?_⟩
  split at h
  · next hpoint => exact .inl hpoint
  next hpoint =>
  split at h
  · next hup => exact .inr (.inl hup)
  next hup =>
  split at h
  · contradiction
  next hshort =>
  exact .inr (.inr ⟨hempty, hpoint, hup, Nat.not_lt.1 hshort⟩)

end Step

/-- The rules describe the walks that arrive. -/
theorem Reaches.walk_eq {links left : Nat} {here place : Place} {names : List String}
    (h : Reaches fs links here names left place) : fs.walk links here names = .ok place := by
  induction h with
  | arrive => exact walk_nil fs _ _
  | stay directory same next ih => rw [walk_same directory same, ih]
  | up search next ih => rw [walk_up search, ih]
  | enter search step found plain next ih => rw [walk_enter search step found plain, ih]
  | follow search step found next ih =>
    rw [walk_follow search step found, FileSystem.follow, ih]

theorem exists_reaches_of_walk {links : Nat} {here place : Place} {names : List String}
    (h : fs.walk links here names = .ok place) :
    ∃ left, Reaches fs links here names left place := by
  -- A link makes the names longer but leaves fewer links to follow.
  induction links using Nat.strongRecOn generalizing here names with
  | ind links ihLinks =>
    induction names generalizing here with
    | nil =>
      rw [walk_nil] at h
      obtain rfl := Except.ok.inj h
      exact ⟨links, .arrive⟩
    | cons name rest ih =>
      have hstay : fs.isDirectory here = true →
          (name = "" ∨ name = "." ∧ fs.isBarred here = false) →
          ∃ left, Reaches fs links here (name :: rest) left place := by
        intro hdirectory hsame
        rw [walk_same hdirectory hsame] at h
        obtain ⟨left, hreaches⟩ := ih h
        exact ⟨left, .stay hdirectory hsame hreaches⟩
      obtain ⟨hdirectory, hempty | ⟨hallowed, hpoint | rfl | hstep⟩⟩ := of_walk_cons h
      · exact hstay hdirectory (.inl hempty)
      · exact hstay hdirectory (.inr ⟨hpoint, hallowed⟩)
      · have hsearch : Searchable fs here := ⟨hdirectory, hallowed⟩
        rw [walk_up hsearch] at h
        obtain ⟨left, hreaches⟩ := ih h
        exact ⟨left, .up hsearch hreaches⟩
      have hsearch : Searchable fs here := ⟨hdirectory, hallowed⟩
      cases hfound : fs.node? (here ++ [name]) with
      | none =>
        rw [walk_missing hsearch hstep hfound] at h
        contradiction
      | some node =>
        by_cases hlink : ∃ target, node = .link target
        · obtain ⟨target, rfl⟩ := hlink
          rw [walk_follow hsearch hstep hfound] at h
          cases links with
          | zero => simp [follow] at h
          | succ links =>
            obtain ⟨left, hreaches⟩ := ihLinks links (Nat.lt_succ_self links) h
            exact ⟨left, .follow hsearch hstep hfound hreaches⟩
        · have hplain : ∀ target, node ≠ .link target := not_exists.1 hlink
          rw [walk_enter hsearch hstep hfound hplain] at h
          obtain ⟨left, hreaches⟩ := ih h
          exact ⟨left, .enter hsearch hstep hfound hplain hreaches⟩

/-- A walk along names in a row goes along the first of them, and from there along the others. -/
theorem Reaches.split {links left : Nat} {here place : Place} {front back : List String}
    (h : Reaches fs links here (front ++ back) left place) :
    ∃ between middle, Reaches fs links here front between middle ∧
      Reaches fs between middle back left place := by
  generalize hnames : front ++ back = names at h
  induction h generalizing front with
  | arrive =>
    obtain ⟨rfl, rfl⟩ := List.append_eq_nil_iff.1 hnames
    exact ⟨_, _, .arrive, .arrive⟩
  | stay directory same next ih =>
    obtain ⟨rfl, rfl⟩ | ⟨front, rfl, rfl⟩ := List.append_eq_cons_iff.1 hnames
    · exact ⟨_, _, .arrive, .stay directory same next⟩
    · obtain ⟨between, middle, hfront, hback⟩ := ih rfl
      exact ⟨between, middle, .stay directory same hfront, hback⟩
  | up search next ih =>
    obtain ⟨rfl, rfl⟩ | ⟨front, rfl, rfl⟩ := List.append_eq_cons_iff.1 hnames
    · exact ⟨_, _, .arrive, .up search next⟩
    · obtain ⟨between, middle, hfront, hback⟩ := ih rfl
      exact ⟨between, middle, .up search hfront, hback⟩
  | enter search step found plain next ih =>
    obtain ⟨rfl, rfl⟩ | ⟨front, rfl, rfl⟩ := List.append_eq_cons_iff.1 hnames
    · exact ⟨_, _, .arrive, .enter search step found plain next⟩
    · obtain ⟨between, middle, hfront, hback⟩ := ih rfl
      exact ⟨between, middle, .enter search step found plain hfront, hback⟩
  | @follow links left here place name target rest search step found next ih =>
    obtain ⟨rfl, rfl⟩ | ⟨front, rfl, rfl⟩ := List.append_eq_cons_iff.1 hnames
    · exact ⟨_, _, .arrive, .follow search step found next⟩
    · -- The names that the link stands for come before the rest of the front.
      obtain ⟨between, middle, hfront, hback⟩ := @ih (steps target ++ front) (by simp)
      exact ⟨between, middle, .follow search step found hfront, hback⟩

/-- A walk that goes on starts in a directory. -/
theorem Reaches.isDirectory {links left : Nat} {here place : Place} {name : String}
    {rest : List String} (h : Reaches fs links here (name :: rest) left place) :
    fs.isDirectory here = true := by
  cases h with
  | stay directory => exact directory
  | up search | enter search | follow search => exact search.directory

/-- A walk that goes on along a name starts where names can be looked up. -/
theorem Reaches.searchable {links left : Nat} {here place : Place} {name : String}
    {rest : List String} (h : Reaches fs links here (name :: rest) left place)
    (hname : name ≠ "") : Searchable fs here := by
  cases h with
  | stay directory same => exact ⟨directory, (same.resolve_left hname).2⟩
  | up search | enter search | follow search => exact search

@[simp] theorem isDirectory_root (fs : FileSystem) : fs.isDirectory [] = true := by
  simp [isDirectory, node?]

/-- Empty names do not lead away from the root. -/
theorem walk_replicate_root (fs : FileSystem) (links count : Nat) (names : List String) :
    fs.walk links [] (List.replicate count "" ++ names) = fs.walk links [] names := by
  induction count with
  | zero => rfl
  | succ count ih =>
    rw [List.replicate_succ, List.cons_append, walk_same (isDirectory_root fs) (.inl rfl), ih]

/-- A node that is found away from the root is one of the nodes. -/
theorem mem_nodes_of_node? {place : Place} {node : Node} (hplace : place ≠ [])
    (h : fs.node? place = some node) : (place, node) ∈ fs.nodes := by
  rw [node?, if_neg hplace] at h
  obtain ⟨front, back, hnodes, -⟩ := List.lookup_eq_some_iff.1 h
  simp [hnodes]

/-- A node below a place makes its name one of the members of the place. -/
theorem mem_members_of_node? {place : Place} {name : String} {node : Node}
    (h : fs.node? (place ++ [name]) = some node) : name ∈ fs.members place := by
  have hmem := mem_nodes_of_node? (by simp) h
  rw [members, List.mem_filterMap]
  exact ⟨_, hmem, by simp⟩

/-- Whether names can have all the characters of a text. -/
def Encodes (fs : FileSystem) (path : String) : Prop :=
  ∀ c ∈ path.toList, fs.refuses c = false

/-- Whether a text can be looked up at all. -/
structure Nameable (fs : FileSystem) (path : String) : Prop where
  encoded : fs.Encodes path
  ne_empty : path ≠ ""
  short : path.utf8ByteSize ≤ pathLimit

/-- Every name can have the characters of ASCII other than the null character. -/
theorem refuses_eq_false (fs : FileSystem) {c : Char} (hascii : c.toNat < 0x80)
    (hnull : c ≠ '\x00') : fs.refuses c = false := by
  have hencoded : c ∉ fs.unencoded := fun hmem => absurd (fs.wide c hmem) (Nat.not_le.2 hascii)
  simp [refuses, hnull, hencoded]

theorem encodes_of_plain (fs : FileSystem) {path : String}
    (h : path.toList.all (fun c => c.toNat < 0x80 && c ≠ '\x00') = true) : fs.Encodes path := by
  intro c hc
  have hplain := List.all_eq_true.1 h c hc
  rw [Bool.and_eq_true, decide_eq_true_eq, decide_eq_true_eq] at hplain
  exact fs.refuses_eq_false hplain.1 hplain.2

/-- Reading a text as a path leaves out slashes and points only, which names may always have. -/
theorem encodes_ofString_iff {text : String} :
    fs.Encodes (Path.ofString text).toString ↔ fs.Encodes text := by
  refine forall_congr' fun c => ?_
  by_cases hslash : c = '/'
  · simp [hslash, fs.refuses_eq_false (c := '/') (by decide) (by decide)]
  by_cases hpoint : c = '.'
  · simp [hpoint, fs.refuses_eq_false (c := '.') (by decide) (by decide)]
  rw [Path.mem_toString_ofString hslash hpoint]

theorem any_refuses_iff {path : String} :
    path.toList.any fs.refuses = true ↔ ¬ fs.Encodes path := by
  simp [Encodes]

/-- A text that can be looked up names the place that its names lead to. -/
theorem locate_eq_ok_iff_walk {path : String} {place : Place} :
    fs.locate path = .ok place ↔
      Nameable fs path ∧
        fs.walk linkLimit (startOf path fs.workingDir) (steps path) = .ok place := by
  rw [locate]
  constructor
  · intro h
    split at h
    · contradiction
    next hrefused =>
    split at h
    · contradiction
    next hempty =>
    split at h
    · contradiction
    next hshort =>
    exact ⟨⟨not_not.1 (mt any_refuses_iff.2 hrefused), hempty, Nat.not_lt.1 hshort⟩, h⟩
  · rintro ⟨⟨hencoded, hempty, hshort⟩, h⟩
    rw [if_neg (mt any_refuses_iff.1 (not_not.2 hencoded)), if_neg hempty,
      if_neg (Nat.not_lt.2 hshort), h]

/-- The place that a path starts from. -/
def origin (fs : FileSystem) (p : Path) : Place :=
  if p.slashes = 0 then fs.workingDir else []

theorem walk_origin_replicate (p : Path) (links : Nat) (names : List String) :
    fs.walk links (fs.origin p) (List.replicate p.slashes "" ++ names) =
      fs.walk links (fs.origin p) names := by
  rw [origin]
  split
  · next hslashes => rw [hslashes, List.replicate_zero, List.nil_append]
  · exact walk_replicate_root _ _ _ _

/-- A path names the place that its parts lead to from a directory.  The path without parts is a
point, which is looked up in the working directory. -/
theorem locate_eq_ok_iff {p : Path} (hp : p.Proper) {place : Place} :
    fs.locate p.toString = .ok place ↔
      Nameable fs p.toString ∧ fs.isDirectory (fs.origin p) = true ∧
        (p.slashes = 0 → p.parts = [] → fs.isBarred fs.workingDir = false) ∧
        fs.walk linkLimit (fs.origin p) p.parts = .ok place := by
  have hwalk : fs.walk linkLimit (startOf p.toString fs.workingDir) (steps p.toString) = .ok place ↔
      fs.isDirectory (fs.origin p) = true ∧
        (p.slashes = 0 → p.parts = [] → fs.isBarred fs.workingDir = false) ∧
        fs.walk linkLimit (fs.origin p) p.parts = .ok place := by
    rw [Path.startOf_toString hp, ← origin]
    by_cases hparts : p.parts = []
    · rw [Path.steps_toString_nil hparts, hparts, walk_nil, origin]
      split
      · next hslashes =>
        rw [walk_cons, walk_nil]
        cases hdirectory : fs.isDirectory fs.workingDir <;>
          cases hbarred : fs.isBarred fs.workingDir <;> simp [hslashes]
      · next hslashes =>
        have hroot := walk_replicate_root fs linkLimit (p.slashes + 1) []
        rw [List.append_nil, walk_nil] at hroot
        simp [hroot, hslashes]
    · obtain ⟨name, rest, hcons⟩ := List.exists_cons_of_ne_nil hparts
      rw [Path.steps_toString hp hparts, walk_origin_replicate, hcons]
      exact ⟨fun h => ⟨(of_walk_cons h).1, by simp, h⟩, fun h => h.2.2⟩
  rw [← hwalk, locate_eq_ok_iff_walk]

/-- The text of a path can be looked up when that of a member can. -/
theorem Nameable.parent {p : Path} {name : String} (hp : p.Proper)
    (h : Nameable fs (p.child name).toString) : Nameable fs p.toString := by
  by_cases hp' : p.slashes ≠ 0 ∨ p.parts ≠ []
  · have hencoded := h.encoded
    have hshort := h.short
    rw [Encodes, Path.toString_child hp', String.toList_append, List.forall_mem_append] at hencoded
    rw [Path.toString_child hp', String.utf8ByteSize_append] at hshort
    exact ⟨hencoded.1, Path.toString_ne_empty hp, Nat.le_trans (Nat.le_add_right _ _) hshort⟩
  · rw [not_or, not_not, not_not] at hp'
    rw [Path.toString, if_pos (by simp [hp'])]
    refine ⟨?_, by decide, by decide⟩
    simpa [Encodes] using fs.refuses_eq_false (c := '.') (by decide) (by decide)

/-- A path names a node below the directory that the path above it names, and the last name is one
of its members. -/
theorem locate_child {p : Path} {name : String} (hp : p.Proper) (hname : Path.IsName name)
    {place : Place} (h : fs.locate (p.child name).toString = .ok place) :
    ∃ directory, fs.locate p.toString = .ok directory ∧ fs.isDirectory directory = true ∧
      (IsStep name → name ∈ fs.members directory) := by
  obtain ⟨hnameable, hdirectory, -, hwalk⟩ := (locate_eq_ok_iff (hp.child hname)).1 h
  obtain ⟨left, hreaches⟩ := exists_reaches_of_walk hwalk
  obtain ⟨between, directory, hfront, hback⟩ := Reaches.split hreaches
  have hallowed : p.slashes = 0 → p.parts = [] → fs.isBarred fs.workingDir = false := by
    intro hslashes hparts
    have hstart : fs.origin (p.child name) = fs.workingDir := if_pos hslashes
    rw [hparts, hstart] at hfront
    cases hfront
    exact (hback.searchable hname.1).allowed
  refine ⟨directory,
    (locate_eq_ok_iff hp).2 ⟨hnameable.parent hp, hdirectory, hallowed, hfront.walk_eq⟩,
    hback.isDirectory, ?_⟩
  intro hstep
  cases hback with
  | stay _ same =>
    rcases same with hempty | ⟨hpoint, -⟩
    · exact absurd hempty hstep.ne_empty
    · exact absurd hpoint hstep.ne_point
  | up => exact absurd rfl hstep.ne_points
  | enter _ _ found => exact mem_members_of_node? found
  | follow _ _ found => exact mem_members_of_node? found

/-! ### Failures -/

/-- A walk fails for reasons of the file system only. -/
theorem isSystem_of_walk {links : Nat} {here : Place} {names : List String} {e : FileError}
    (h : fs.walk links here names = .error e) : e.isSystem = true := by
  -- A link makes the names longer but leaves fewer links to follow.
  induction links using Nat.strongRecOn generalizing here names with
  | ind links ihLinks =>
    induction names generalizing here with
    | nil => simp [walk_nil] at h
    | cons name rest ih =>
      rw [walk_cons] at h
      split at h
      · obtain rfl := Except.error.inj h
        rfl
      split at h
      · exact ih h
      split at h
      · obtain rfl := Except.error.inj h
        rfl
      split at h
      · exact ih h
      split at h
      · exact ih h
      split at h
      · obtain rfl := Except.error.inj h
        rfl
      split at h
      · obtain rfl := Except.error.inj h
        rfl
      · cases links with
        | zero =>
          obtain rfl := Except.error.inj h
          rfl
        | succ links => exact ihLinks links (Nat.lt_succ_self links) h
      · exact ih h

/-- Only a character that no name can have makes a path fail for another reason. -/
theorem isSystem_of_locate {path : String} (hencoded : fs.Encodes path) {e : FileError}
    (h : fs.locate path = .error e) : e.isSystem = true := by
  rw [locate, if_neg (mt any_refuses_iff.1 (not_not.2 hencoded))] at h
  split at h
  · obtain rfl := Except.error.inj h
    rfl
  split at h
  · obtain rfl := Except.error.inj h
    rfl
  exact isSystem_of_walk h

end FileSystem
end PciCatalog
