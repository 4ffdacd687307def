import PciCatalog.Proofs.OneDevice

/-!
# Files elsewhere

Two file systems with the same directories and the same links, where the regular files at some
places may be there or not, may be read or not and hold what they like.  A walk tells the two apart
only when it comes to one of these places: then it ends there or fails for want of a directory, in
both of them.  So whatever is done with paths that name none of these places comes to the same, up
to the reason for which nothing is found.
-/

namespace PciCatalog
namespace FileSystem

/-- Two file systems that agree but for the regular files at some places. -/
structure AgreeOutside (elsewhere : Place → Prop) (fs other : FileSystem) : Prop where
  workingDir : fs.workingDir = other.workingDir
  isBarred : fs.isBarred = other.isBarred
  refuses : fs.refuses = other.refuses
  same : ∀ place, ¬ elsewhere place → fs.node? place = other.node? place
  isLocked : ∀ place, ¬ elsewhere place → fs.isLocked place = other.isLocked place
  regular : ∀ place node, elsewhere place → fs.node? place = some node →
    node.outline = .unreadable
  regularOther : ∀ place node, elsewhere place → other.node? place = some node →
    node.outline = .unreadable

/-- A walk that comes to a file elsewhere, or to where there is none. -/
inductive Astray (elsewhere : Place → Prop) : Except FileError Place → Prop
  | missing : Astray elsewhere (.error .notFound)
  | blocked : Astray elsewhere (.error .notDirectory)
  | arrived {place : Place} (there : elsewhere place) : Astray elsewhere (.ok place)

variable {elsewhere : Place → Prop} {fs other : FileSystem} {path : String}

/-- Two file systems with the same tree agree outside of the places where files differ. -/
theorem SameTree.agreeOutside (h : SameTree fs other)
    (hfile : ∀ place, elsewhere place → ∃ bytes, other.node? place = some (.file bytes))
    (hsame : ∀ place, ¬ elsewhere place → fs.node? place = other.node? place) :
    AgreeOutside elsewhere fs other where
  workingDir := h.workingDir
  isBarred := h.isBarred
  refuses := h.refuses
  same := hsame
  isLocked := fun place _ => congrFun h.isLocked place
  regular := by
    intro place node hplace hnode
    obtain ⟨bytes, hfile⟩ := hfile place hplace
    have houtline := h.outline place
    rw [hnode, hfile] at houtline
    exact Option.some.inj houtline
  regularOther := by
    intro place node hplace hnode
    obtain ⟨bytes, hfile⟩ := hfile place hplace
    rw [← Option.some.inj (hfile.symm.trans hnode)]
    rfl

namespace AgreeOutside

theorem symm (h : AgreeOutside elsewhere fs other) : AgreeOutside elsewhere other fs where
  workingDir := h.workingDir.symm
  isBarred := h.isBarred.symm
  refuses := h.refuses.symm
  same := fun place hplace => (h.same place hplace).symm
  isLocked := fun place hplace => (h.isLocked place hplace).symm
  regular := h.regularOther
  regularOther := h.regular

/-- There is no directory elsewhere. -/
theorem not_isDirectory (h : AgreeOutside elsewhere fs other) {place : Place}
    (hplace : elsewhere place) : fs.isDirectory place = false := by
  rw [isDirectory, decide_eq_false_iff_not]
  intro hnode
  exact absurd (h.regular place _ hplace hnode) (by simp [Node.outline])

theorem isDirectory_eq (h : AgreeOutside elsewhere fs other) (place : Place) :
    fs.isDirectory place = other.isDirectory place := by
  by_cases hplace : elsewhere place
  · rw [h.not_isDirectory hplace, h.symm.not_isDirectory hplace]
  · rw [isDirectory, isDirectory, h.same place hplace]

/-- Names can be looked up in the same places. -/
theorem searchable (h : AgreeOutside elsewhere fs other) {here : Place}
    (search : Searchable other here) : Searchable fs here :=
  ⟨h.isDirectory_eq here ▸ search.directory, congrFun h.isBarred here ▸ search.allowed⟩

/-- A walk that has come to a file elsewhere ends there. -/
theorem astray_walk (h : AgreeOutside elsewhere fs other) {place : Place}
    (hplace : elsewhere place) (links : Nat) (names : List String) :
    Astray elsewhere (fs.walk links place names) := by
  cases names with
  | nil =>
    rw [walk_nil]
    exact .arrived hplace
  | cons name rest =>
    rw [walk_cons, h.not_isDirectory hplace]
    exact .blocked

/-- One more name leads astray when it is that of a place elsewhere. -/
theorem astray_step (h : AgreeOutside elsewhere fs other) {place : Place}
    (hplace : elsewhere place) (links : Nat) (names : List String)
    (onLink : String → Except FileError Place) :
    Astray elsewhere (match fs.node? place with
      | none => .error .notFound
      | some (.link target) => onLink target
      | some _ => fs.walk links place names) := by
  cases hnode : fs.node? place with
  | none => exact .missing
  | some node =>
    have houtline := h.regular place node hplace hnode
    cases node with
    | directory => simp [Node.outline] at houtline
    | link target => simp [Node.outline] at houtline
    | file content => exact h.astray_walk hplace links names
    | unreadable front => exact h.astray_walk hplace links names

/-- The same walk in both file systems arrives at the same or goes astray in both. -/
theorem walk_eq_or_astray (h : AgreeOutside elsewhere fs other) (links : Nat) (here : Place)
    (names : List String) :
    fs.walk links here names = other.walk links here names ∨
      Astray elsewhere (fs.walk links here names) ∧
        Astray elsewhere (other.walk links here names) := by
  -- A link makes the names longer but leaves fewer links to follow, so the names alone do not carry
  -- the induction.
  induction links using Nat.strongRecOn generalizing here names with
  | ind links ihLinks =>
    induction names generalizing here with
    | nil =>
      rw [walk_nil, walk_nil]
      exact .inl rfl
    | cons name rest ih =>
      rw [walk_cons, walk_cons, h.isDirectory_eq, h.isBarred]
      split
      · exact .inl rfl
      split
      · exact ih here
      split
      · exact .inl rfl
      split
      · exact ih here
      split
      · exact ih here.dropLast
      split
      · exact .inl rfl
      by_cases hplace : elsewhere (here ++ [name])
      · exact .inr ⟨h.astray_step hplace _ _ _, h.symm.astray_step hplace _ _ _⟩
      · rw [h.same _ hplace]
        split
        · exact .inl rfl
        · cases links with
          | zero => exact .inl rfl
          | succ links => exact ihLinks links (Nat.lt_succ_self links) _ _
        · exact ih (here ++ [name])

theorem locate_eq_or_astray (h : AgreeOutside elsewhere fs other) (path : String) :
    fs.locate path = other.locate path ∨
      Astray elsewhere (fs.locate path) ∧ Astray elsewhere (other.locate path) := by
  rw [locate, locate, h.workingDir, h.refuses]
  split
  · exact .inl rfl
  split
  · exact .inl rfl
  split
  · exact .inl rfl
  · exact h.walk_eq_or_astray _ _ _

/-- A place elsewhere that a walk comes to is where it ends: there is what it arrives at, or
nothing. -/
theorem walk_of_elsewhere (h : AgreeOutside elsewhere fs other) {links left : Nat}
    {here place : Place} {name : String} {rest : List String} (hplace : elsewhere (here ++ [name]))
    (search : Searchable fs here) (step : IsStep name)
    (next : Reaches other links (here ++ [name]) rest left place) :
    fs.walk links here (name :: rest) = .ok place ∨
      fs.node? place = none ∧ fs.walk links here (name :: rest) = .error .notFound := by
  cases rest with
  | cons name rest =>
    have hdirectory := next.isDirectory
    rw [h.symm.not_isDirectory hplace] at hdirectory
    contradiction
  | nil =>
    cases next
    cases hnode : fs.node? (here ++ [name]) with
    | none => exact .inr ⟨rfl, walk_missing search step hnode⟩
    | some node =>
      have hplain : ∀ target, node ≠ .link target := by
        rintro target rfl
        exact absurd (h.regular _ _ hplace hnode) (by simp [Node.outline])
      rw [walk_enter search step hnode hplain, walk_nil]
      exact .inl rfl

/-- A walk that arrives in one of the file systems arrives in the other, unless there is nothing. -/
theorem walk_of_reaches (h : AgreeOutside elsewhere fs other) {links left : Nat}
    {here place : Place} {names : List String}
    (hreaches : Reaches other links here names left place) :
    fs.walk links here names = .ok place ∨
      fs.node? place = none ∧ fs.walk links here names = .error .notFound := by
  induction hreaches with
  | arrive => exact .inl (walk_nil fs _ _)
  | stay directory same next ih =>
    rw [← h.isDirectory_eq] at directory
    rw [← h.isBarred] at same
    rwa [walk_same directory same]
  | up search next ih => rwa [walk_up (h.searchable search)]
  | @enter links left here place name rest node search step found plain next ih =>
    by_cases hplace : elsewhere (here ++ [name])
    · exact h.walk_of_elsewhere hplace (h.searchable search) step next
    · rw [← h.same _ hplace] at found
      rwa [walk_enter (h.searchable search) step found plain]
  | @follow links left here place name target rest search step found next ih =>
    -- A link is not elsewhere, so both file systems follow it.
    have hplace : ¬ elsewhere (here ++ [name]) := fun hplace =>
      absurd (h.regularOther _ _ hplace found) (by simp [Node.outline])
    rw [← h.same _ hplace] at found
    rwa [walk_follow (h.searchable search) step found]

theorem locate_of_locate (h : AgreeOutside elsewhere fs other) {place : Place}
    (hplace : other.locate path = .ok place) :
    fs.locate path = .ok place ∨ fs.node? place = none ∧ fs.locate path = .error .notFound := by
  obtain ⟨hnameable, hwalk⟩ := locate_eq_ok_iff_walk.1 hplace
  obtain ⟨left, hreaches⟩ := exists_reaches_of_walk hwalk
  have hlocate :
      fs.locate path = fs.walk linkLimit (startOf path other.workingDir) (steps path) := by
    have hencoded : fs.Encodes path := by
      rw [Encodes, h.refuses]
      exact hnameable.encoded
    rw [locate, if_neg (mt any_refuses_iff.1 (not_not.2 hencoded)), if_neg hnameable.ne_empty,
      if_neg (Nat.not_lt.2 hnameable.short), h.workingDir]
  rw [hlocate]
  exact h.walk_of_reaches hreaches

/-- What can be read at a path is what stands at the place that it leads to in the other file
system. -/
theorem readable_of_locate (h : AgreeOutside elsewhere fs other) {place : Place}
    (hplace : other.locate path = .ok place) :
    fs.readable path = fs.readableAt place := by
  rcases h.locate_of_locate hplace with hfound | ⟨hnode, hmissing⟩
  · exact FileSystem.readable_of_locate hfound
  · rw [readableAt, hnode, readable, status, hmissing]
    rfl

/-- What stands in one of the file systems at the place of a path stands there in the other when it
is not elsewhere. -/
theorem locate_of_node (h : AgreeOutside elsewhere fs other) {place : Place} {node : Node}
    (hplace : other.locate path = .ok place) (hnode : fs.node? place = some node) :
    fs.locate path = .ok place := by
  rcases h.locate_of_locate hplace with hfound | ⟨hmissing, -⟩
  · exact hfound
  · rw [hnode] at hmissing
    contradiction

end AgreeOutside

/-- Without links, names that lead down lead to the place that they spell. -/
theorem Reaches.place_eq {links left : Nat} {here place : Place} {names : List String}
    (h : Reaches fs links here names left place)
    (hlinks : ∀ place target, fs.node? place ≠ some (.link target))
    (hsteps : ∀ name ∈ names, IsStep name) : place = here ++ names := by
  induction h with
  | arrive => rw [List.append_nil]
  | stay directory same next ih =>
    rw [List.forall_mem_cons] at hsteps
    exact absurd same (by simp [hsteps.1.ne_empty, hsteps.1.ne_point])
  | up search next ih =>
    rw [List.forall_mem_cons] at hsteps
    exact absurd rfl hsteps.1.ne_points
  | enter search step found plain next ih =>
    rw [List.forall_mem_cons] at hsteps
    rw [ih hsteps.2, List.append_assoc, List.singleton_append]
  | follow search step found next ih => exact absurd found (hlinks _ _)

/-! ### Paths that lead to no file elsewhere -/

/-- Whether a path names no place elsewhere. -/
def Clear (elsewhere : Place → Prop) (fs : FileSystem) (path : String) : Prop :=
  ∀ place, fs.locate path = .ok place → ¬ elsewhere place

/-- An operation that finds nothing at its path. -/
inductive Lost {α : Type} : Except FileError α → Prop
  | missing : Lost (.error .notFound)
  | blocked : Lost (.error .notDirectory)

/-- Two operations come to the same, or to nothing. -/
def SameOrLost {α : Type} (x y : Except FileError α) : Prop :=
  x = y ∨ Lost x ∧ Lost y

namespace SameOrLost

variable {α β : Type} {x y : Except FileError α}

theorem refl (x : Except FileError α) : SameOrLost x x :=
  .inl rfl

theorem bind {f g : α → Except FileError β} (h : SameOrLost x y)
    (hnext : ∀ a, x = .ok a → y = .ok a → SameOrLost (f a) (g a)) :
    SameOrLost (x >>= f) (y >>= g) := by
  rcases h with rfl | ⟨hx, hy⟩
  · cases x with
    | error e => exact .refl _
    | ok a => exact hnext a rfl rfl
  · refine .inr ⟨?_, ?_⟩
    · cases hx with
      | missing => exact .missing
      | blocked => exact .blocked
    · cases hy with
      | missing => exact .missing
      | blocked => exact .blocked

theorem eq_ok_iff (h : SameOrLost x y) (a : α) : x = .ok a ↔ y = .ok a := by
  rcases h with rfl | ⟨hx, hy⟩
  · rfl
  · cases hx <;> cases hy <;> simp

theorem toOption_eq (h : SameOrLost x y) : x.toOption = y.toOption := by
  rcases h with rfl | ⟨hx, hy⟩
  · rfl
  · cases hx <;> cases hy <;> rfl

end SameOrLost

namespace AgreeOutside

theorem sameOrLost_locate (h : AgreeOutside elsewhere fs other) (hclear : Clear elsewhere fs path)
    (hclear' : Clear elsewhere other path) :
    SameOrLost (fs.locate path) (other.locate path) := by
  have hlost {fs : FileSystem} (hclear : Clear elsewhere fs path)
      (hastray : Astray elsewhere (fs.locate path)) : Lost (fs.locate path) := by
    generalize hplace : fs.locate path = found at hastray
    cases hastray with
    | missing => exact .missing
    | blocked => exact .blocked
    | arrived there => exact absurd there (hclear _ hplace)
  rcases h.locate_eq_or_astray path with heq | ⟨hfs, hother⟩
  · exact .inl heq
  · exact .inr ⟨hlost hclear hfs, hlost hclear' hother⟩

theorem sameOrLost_status (h : AgreeOutside elsewhere fs other) (hclear : Clear elsewhere fs path)
    (hclear' : Clear elsewhere other path) :
    SameOrLost (fs.status path) (other.status path) := by
  refine (h.sameOrLost_locate hclear hclear').bind fun place hplace _ => ?_
  rw [h.same place (hclear place hplace)]
  exact .refl _

theorem mayRead_eq (h : AgreeOutside elsewhere fs other) (hclear : Clear elsewhere fs path)
    (hclear' : Clear elsewhere other path) : fs.mayRead path = other.mayRead path := by
  unfold mayRead
  rcases h.sameOrLost_locate hclear hclear' with heq | ⟨hfs, hother⟩
  · cases hplace : fs.locate path with
    | error e => rw [← heq, hplace]
    | ok place =>
      rw [← heq, hplace]
      exact congrArg not (h.isLocked place (hclear place hplace))
  · generalize fs.locate path = found at hfs
    generalize other.locate path = found' at hother
    cases hfs <;> cases hother <;> rfl

theorem sameOrLost_openFile (h : AgreeOutside elsewhere fs other) (hclear : Clear elsewhere fs path)
    (hclear' : Clear elsewhere other path) :
    SameOrLost (fs.openFile path) (other.openFile path) := by
  have hreadable : SameOrLost (fs.readable path) (other.readable path) := by
    refine (h.sameOrLost_status hclear hclear').bind fun _ _ _ => ?_
    rw [h.mayRead_eq hclear hclear']
    exact .refl _
  exact hreadable.bind fun _ _ _ => .refl _

theorem sameOrLost_readBytes (h : AgreeOutside elsewhere fs other)
    (hclear : Clear elsewhere fs path) (hclear' : Clear elsewhere other path) :
    SameOrLost (fs.readBytes path) (other.readBytes path) :=
  (h.sameOrLost_openFile hclear hclear').bind fun _ _ _ => .refl _

theorem sameOrLost_readText (h : AgreeOutside elsewhere fs other)
    (hclear : Clear elsewhere fs path) (hclear' : Clear elsewhere other path) :
    SameOrLost (fs.readText path) (other.readText path) :=
  (h.sameOrLost_readBytes hclear hclear').bind fun _ _ _ => .refl _

theorem pathExists_eq (h : AgreeOutside elsewhere fs other) (hclear : Clear elsewhere fs path)
    (hclear' : Clear elsewhere other path) : fs.pathExists path = other.pathExists path := by
  unfold pathExists
  rcases h.sameOrLost_status hclear hclear' with heq | ⟨hfs, hother⟩
  · rw [heq]
  · generalize fs.status path = found at hfs
    generalize other.status path = found' at hother
    cases hfs <;> cases hother <;> rfl

end AgreeOutside

end FileSystem

/-! ### Devices -/

namespace Sysfs

open FileSystem

variable {elsewhere : Place → Prop} {fs other : FileSystem} {path dir : Path} {b : String}

/-- The paths that are looked at for the devices in a directory: those of the directory, of a device
and of an attribute. -/
inductive LooksAt (path : Path) : Path → Prop
  | directory : LooksAt path path
  | device {b : String} (address : Address.accepts b = true) : LooksAt path (path.child b)
  | attributeFile {b name : String} (address : Address.accepts b = true)
    (known : name ∈ attributes) : LooksAt path ((path.child b).child name)

/-- Whether a device directory and all that is looked at below it are no files elsewhere. -/
def Apart (elsewhere : Place → Prop) (fs : FileSystem) (path : Path) : Prop :=
  ∀ p, LooksAt path p → Clear elsewhere fs p.toString

/-- A path that is looked at leads down from the device directory. -/
theorem LooksAt.exists_parts {p : Path} (h : LooksAt path p) (hpath : path.Proper) :
    p.Proper ∧ p.slashes = path.slashes ∧
      ∃ names, p.parts = path.parts ++ names ∧ ∀ name ∈ names, IsStep name := by
  have hattributes : ∀ name ∈ attributes, Path.IsName name ∧ name ≠ "." ∧ name ≠ ".." ∧
      name.utf8ByteSize ≤ nameLimit := by decide +kernel
  cases h with
  | directory => exact ⟨hpath, rfl, [], by simp, by simp⟩
  | @device b address =>
    exact ⟨hpath.child (Address.isName_of_accepts address), rfl, [b], rfl,
      by simpa using Address.isStep_of_accepts address⟩
  | @attributeFile b name address known =>
    obtain ⟨hname, hpoint, hpoints, hshort⟩ := hattributes name known
    refine ⟨(hpath.child (Address.isName_of_accepts address)).child hname, rfl, [b, name],
      by simp [Path.child], ?_⟩
    simp only [List.forall_mem_cons]
    exact ⟨Address.isStep_of_accepts address, ⟨hname.1, hpoint, hpoints, hshort⟩,
      List.forall_mem_nil _⟩

/-- Without links, a path that is looked at leads to the place that it spells. -/
theorem LooksAt.place_eq {p : Path} (h : LooksAt path p) (hpath : path.Proper)
    (hsteps : ∀ part ∈ path.parts, IsStep part)
    (hlinks : ∀ place target, fs.node? place ≠ some (.link target)) {place : Place}
    (hplace : fs.locate p.toString = .ok place) : place = fs.origin path ++ p.parts := by
  obtain ⟨hproper, hslashes, names, hparts, hnames⟩ := h.exists_parts hpath
  obtain ⟨-, -, -, hwalk⟩ := (locate_eq_ok_iff hproper).1 hplace
  obtain ⟨left, hreaches⟩ := exists_reaches_of_walk hwalk
  have horigin : fs.origin p = fs.origin path := by rw [origin, origin, hslashes]
  have hall : ∀ part ∈ p.parts, IsStep part := by
    rw [hparts, List.forall_mem_append]
    exact ⟨hsteps, hnames⟩
  rw [hreaches.place_eq hlinks hall, horigin]

/-- Without links, everything that is looked at stands below the place that the path of the device
directory spells. -/
theorem apart_of_no_links (hpath : path.Proper) (hsteps : ∀ part ∈ path.parts, IsStep part)
    (hlinks : ∀ place target, fs.node? place ≠ some (.link target))
    (hbelow : ∀ names, ¬ elsewhere (fs.origin path ++ path.parts ++ names)) :
    Apart elsewhere fs path := by
  intro p hp place hplace
  obtain ⟨-, -, names, hparts, -⟩ := hp.exists_parts hpath
  rw [hp.place_eq hpath hsteps hlinks hplace, hparts, ← List.append_assoc]
  exact hbelow names

/-- An attribute whose file stands nowhere elsewhere is the same. -/
theorem attribute?_eq_of_clear (h : AgreeOutside elsewhere fs other) {name : String}
    (hclear : Clear elsewhere fs (dir.child name).toString)
    (hclear' : Clear elsewhere other (dir.child name).toString) :
    attribute? fs dir name = attribute? other dir name := by
  rw [attribute?, attribute?, (h.sameOrLost_readText hclear hclear').toOption_eq]

variable (h : AgreeOutside elsewhere fs other) (hapart : Apart elsewhere fs path)
  (hapart' : Apart elsewhere other path)

include h hapart hapart'

theorem attribute?_eq (hb : Address.accepts b = true) {name : String} (hname : name ∈ attributes) :
    attribute? fs (path.child b) name = attribute? other (path.child b) name :=
  attribute?_eq_of_clear h (hapart _ (.attributeFile hb hname))
    (hapart' _ (.attributeFile hb hname))

theorem garbled_iff (hb : Address.accepts b = true) {name : String} (hname : name ∈ attributes) :
    Garbled fs (path.child b) name ↔ Garbled other (path.child b) name := by
  have hread := h.sameOrLost_readBytes (hapart _ (.attributeFile hb hname))
    (hapart' _ (.attributeFile hb hname))
  exact exists_congr fun bytes => and_congr_left fun _ => hread.eq_ok_iff bytes

theorem parent?_eq (hb : Address.accepts b = true) :
    parent? fs (path.child b) = parent? other (path.child b) := by
  rw [parent?, parent?]
  rcases h.sameOrLost_locate (hapart _ (.device hb)) (hapart' _ (.device hb)) with
    heq | ⟨hfs, hother⟩
  · rw [heq]
  · generalize fs.locate (path.child b).toString = found at hfs
    generalize other.locate (path.child b).toString = found' at hother
    cases hfs <;> cases hother <;> rfl

theorem record?_eq (hb : Address.accepts b = true) :
    record? fs (path.child b) b = record? other (path.child b) b :=
  record?_congr b (fun _ hname => attribute?_eq h hapart hapart' hb hname)
    (parent?_eq h hapart hapart' hb)

theorem spoiled_iff (hb : Address.accepts b = true) :
    Spoiled fs (path.child b) ↔ Spoiled other (path.child b) := by
  have hnumber : ∀ name ∈ attributes,
      hexadecimal? fs (path.child b) name = hexadecimal? other (path.child b) name :=
    fun name hname => hexadecimal?_congr (attribute?_eq h hapart hapart' hb hname)
  unfold Spoiled
  rw [hnumber "vendor" (by decide), hnumber "device" (by decide)]
  refine and_congr_right fun _ => and_congr_right fun _ => exists_congr fun name => ?_
  exact and_congr_right fun hname =>
    garbled_iff h hapart hapart' hb (mem_attributes_of_optional hname)

/-- A single device is read alike. -/
theorem read_eq_elsewhere (b : String) : read fs b path = read other b path := by
  rw [read_eq_of_every_content, read_eq_of_every_content]
  split
  · next hb =>
    have hexists := h.pathExists_eq (hapart _ (.device hb)) (hapart' _ (.device hb))
    rw [hexists]
    simp only [spoiled_iff h hapart hapart' hb, record?_eq h hapart hapart' hb]
  · rfl

/-- A spoiled device is listed in both file systems or in none. -/
theorem exists_spoiled_of_listed (hpath : path.Proper) {names names' : List String}
    (hlist' : other.listDirectory path.toString = .ok names')
    (hspoiled : ∃ b ∈ names.filter Address.accepts, Spoiled fs (path.child b)) :
    ∃ b ∈ names'.filter Address.accepts, Spoiled other (path.child b) := by
  obtain ⟨b, hb, hspoiled⟩ := hspoiled
  have haccepts := (List.mem_filter.1 hb).2
  rw [spoiled_iff h hapart hapart' haccepts] at hspoiled
  have hexists := pathExists_of_spoiled (hpath.child (Address.isName_of_accepts haccepts)) hspoiled
  obtain ⟨-, hlisted⟩ := listed_of_pathExists hpath haccepts hexists
  exact ⟨b, List.mem_filter.2 ⟨hlisted names' hlist', haccepts⟩, hspoiled⟩

/-- All devices are read alike. -/
theorem discover_eq_elsewhere (hpath : path.Proper) : discover fs path = discover other path := by
  have hlocate := h.sameOrLost_locate (hapart _ .directory) (hapart' _ .directory)
  apply discover_congr (h.pathExists_eq (hapart _ .directory) (hapart' _ .directory))
  · -- What exists stands at one place in both file systems, where they agree on directories.
    intro hfound e
    obtain ⟨node, hstatus⟩ := FileSystem.pathExists_eq_true_iff.1 hfound
    obtain ⟨place, hplace, -⟩ := FileSystem.status_eq_ok_iff.1 hstatus
    have hplace' := (hlocate.eq_ok_iff place).1 hplace
    have hlocked := h.isLocked place (hapart _ .directory place hplace)
    simp only [FileSystem.listDirectory, hplace, hplace', bind, Except.bind, h.isDirectory_eq place,
      hlocked]
    split
    · rfl
    · split <;> simp [pure, Except.pure]
  · intro names names' hlist hlist'
    exact ⟨exists_spoiled_of_listed h hapart hapart' hpath hlist',
      exists_spoiled_of_listed h.symm hapart' hapart hpath hlist⟩
  · intro devices devices' hdevices hdevices' d
    rw [mem_discovered hpath hdevices, mem_discovered hpath hdevices']
    exact and_congr_right fun hd => by rw [record?_eq h hapart hapart' hd]

end Sysfs
end PciCatalog
