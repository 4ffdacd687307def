import PciCatalog.Proofs.LastEntry
import PciCatalog.Proofs.LookBack

/-!
# The line that gives a name

Which lines of a names file give a name to a vendor, a device, a subsystem or a class, told from the
file alone: by what the line says and by the lines that it stands under.  The last such line is the
one whose name a database of the file holds.  Main statements: the positions of these lines are
those that make the entries looked for, kind by kind (`namesVendor_iff` and its siblings), and the
last name among the entries is that of the last such line (`lastNamed_entries`).
-/

namespace PciCatalog

/-- The name that is given at the last of the positions that give one; no name when no position
does. -/
inductive LastNamed (names : Nat → String → Prop) : Option String → Prop
  | none (never : ∀ k name, ¬ names k name) : LastNamed names none
  | last {k : Nat} {name : String} (here : names k name)
      (later : ∀ j, k < j → ∀ other, ¬ names j other) : LastNamed names (some name)

namespace LastNamed

variable {names other : Nat → String → Prop} {found : Option String}

theorem congr (h : LastNamed names found) (hiff : ∀ k name, names k name ↔ other k name) :
    LastNamed other found := by
  have heq : names = other := by
    funext k name
    exact propext (hiff k name)
  rwa [← heq]

/-- A name is given at some position. -/
theorem exists_position {name : String} (h : LastNamed names (some name)) : ∃ k, names k name := by
  cases h with
  | last here => exact ⟨_, here⟩

/-- A position that makes no entry with the property can be left out behind the others. -/
theorem succ_of_not {p : Entry → Prop} {make : Nat → Option Entry} {count : Nat}
    (h : LastNamed (fun k name => k < count ∧ ∃ e, make k = some e ∧ p e ∧ e.name = name) found)
    (hno : ∀ e, make count = some e → ¬ p e) :
    LastNamed (fun k name => k < count + 1 ∧ ∃ e, make k = some e ∧ p e ∧ e.name = name) found := by
  apply h.congr
  intro k name
  refine ⟨fun ⟨hk, h⟩ => ⟨Nat.lt_succ_of_lt hk, h⟩, ?_⟩
  rintro ⟨hk, e, hmake, hp, hname⟩
  refine ⟨Nat.lt_of_le_of_ne (Nat.le_of_lt_succ hk) ?_, e, hmake, hp, hname⟩
  rintro rfl
  exact hno e hmake hp

/-- The last name among the entries that the first positions make is that of the last position that
makes an entry with the property. -/
theorem of_filterMap (p : Entry → Prop) [DecidablePred p] (make : Nat → Option Entry)
    (count : Nat) :
    LastNamed (fun k name => k < count ∧ ∃ e, make k = some e ∧ p e ∧ e.name = name)
      (lastName? p ((List.range count).filterMap make)) := by
  induction count with
  | zero => exact .none (by simp)
  | succ count ih =>
    rw [List.range_succ, List.filterMap_append]
    cases hmake : make count with
    | none => simpa [hmake] using ih.succ_of_not (by simp [hmake])
    | some e =>
      have hlast : [count].filterMap make = [e] := by simp [hmake]
      rw [hlast, lastName?_concat]
      split
      · next hp =>
        refine .last ⟨Nat.lt_succ_self count, e, hmake, hp, rfl⟩ ?_
        rintro j hj other ⟨hlt, -⟩
        omega
      · next hp =>
        apply ih.succ_of_not
        intro e' he'
        rw [hmake] at he'
        obtain rfl := Option.some.inj he'
        exact hp

end LastNamed

/-- Reading a line behind others makes the entries that looking back yields. -/
theorem Context.readLine_after_eq_some_iff {before : List (List Char)} {text : List Char}
    {entry : Entry} :
    ((({} : Context).after before).readLine text).2 = some entry ↔ Yields before text entry := by
  have hbefore := Remembers.after before
  rw [Context.readLine_snd_eq_some_iff]
  exact ⟨fun ⟨_, hstep⟩ => hbefore.yields_of_step hstep, hbefore.step_of_yields⟩

/-- The line at a position makes an entry that has a property and the name. -/
def NamesEntry (lines : List (List Char)) (p : Entry → Prop) (k : Nat) (name : String) : Prop :=
  ∃ text, lines[k]? = some text ∧ ∃ e, Yields (lines.take k) text e ∧ p e ∧ e.name = name

/-- The last name among the entries of some lines is that of the last line that makes an entry with
the property. -/
theorem lastNamed_entries (p : Entry → Prop) [DecidablePred p] (lines : List (List Char)) :
    LastNamed (NamesEntry lines p) (lastName? p (({} : Context).entries lines)) := by
  rw [Context.entries_eq_filterMap_entryAt?]
  apply (LastNamed.of_filterMap p _ _).congr
  intro k name
  simp only [NamesEntry, Context.entryAt?, Option.bind_eq_some_iff,
    Context.readLine_after_eq_some_iff]
  constructor
  · rintro ⟨-, e, ⟨text, htext, hyields⟩, hp, hname⟩
    exact ⟨text, htext, e, hyields, hp, hname⟩
  · rintro ⟨text, htext, e, hyields, hp, hname⟩
    obtain ⟨hk, -⟩ := List.getElem?_eq_some_iff.1 htext
    exact ⟨hk, e, ⟨text, htext, hyields⟩, hp, hname⟩

/-- A name in a slot of the database of some lines comes from one of the lines. -/
theorem exists_namesEntry {lines : List (List Char)} {s : Slot} {name : String}
    (h : (Database.empty.addAll (({} : Context).entries lines)).find? s = some name) :
    ∃ k, NamesEntry lines (fun e => e.slot? = some s) k name := by
  rw [Database.find?_empty_addAll] at h
  have hlast := lastNamed_entries (fun e => e.slot? = some s) lines
  rw [h] at hlast
  exact hlast.exists_position

/-! ### Lines that stand under others -/

/-- Behind the lines `before`, the section of a vendor is open, and `between` are its lines. -/
def UnderVendor (vendor : String) (before between : List (List Char)) : Prop :=
  ∃ ident title, Nearest Line.IsTopLevel before (.indented 0 ident title) between ∧
    Ident.normalize ident = vendor ∧ vendor ≠ ""

/-- Behind the lines `before`, the section of a class is open, and `between` are its lines. -/
def UnderClass (code : String) (before between : List (List Char)) : Prop :=
  ∃ ident title, Nearest Line.IsTopLevel before (.classLine ident title) between ∧
    Ident.normalize ident = code ∧ code ≠ ""

/-- Behind the lines `between` of a section, the last line with one tab has an identifier. -/
def UnderSecond (key : String) (between : List (List Char)) : Prop :=
  ∃ ident title after, Nearest Line.IsSecondLevel between (.indented 1 ident title) after ∧
    Ident.normalize ident = key

/-- The line at a position says something. -/
def LineAt (lines : List (List Char)) (k : Nat) (line : Line) : Prop :=
  ∃ text, lines[k]? = some text ∧ Line.Reads text line

/-- The line at a position gives a name to a vendor. -/
def NamesVendor (lines : List (List Char)) (vendor : String) (k : Nat) (name : String) : Prop :=
  ∃ ident, LineAt lines k (.indented 0 ident name) ∧ Ident.normalize ident = vendor

/-- The line at a position gives a name to a device of a vendor. -/
def NamesDevice (lines : List (List Char)) (vendor device : String) (k : Nat)
    (name : String) : Prop :=
  ∃ ident between, LineAt lines k (.indented 1 ident name) ∧ Ident.normalize ident = device ∧
    UnderVendor vendor (lines.take k) between

/-- The line at a position gives a name to a subsystem of a device. -/
def NamesSubsystem (lines : List (List Char)) (vendor device subvendor subdevice : String) (k : Nat)
    (name : String) : Prop :=
  ∃ ident between first second, LineAt lines k (.indented 2 ident name) ∧
    Text.words ident.toList = [first, second] ∧
    Ident.normalize (String.ofList first) = subvendor ∧
    Ident.normalize (String.ofList second) = subdevice ∧
    UnderVendor vendor (lines.take k) between ∧ UnderSecond device between ∧ device ≠ ""

/-- The line at a position gives a name to a class. -/
def NamesBaseClass (lines : List (List Char)) (key : String) (k : Nat) (name : String) : Prop :=
  ∃ ident, LineAt lines k (.classLine ident name) ∧ Ident.normalize ident = key

/-- The line at a position gives a name to a subclass; its full code is that of the class and its
own. -/
def NamesSubclass (lines : List (List Char)) (key : String) (k : Nat) (name : String) : Prop :=
  ∃ ident code between, LineAt lines k (.indented 1 ident name) ∧
    UnderClass code (lines.take k) between ∧ code ++ Ident.normalize ident = key

/-- The line at a position gives a name to a programming interface; its full code is that of the
class, that of the subclass and its own. -/
def NamesProgIf (lines : List (List Char)) (key : String) (k : Nat) (name : String) : Prop :=
  ∃ ident code sub between, LineAt lines k (.indented 2 ident name) ∧
    UnderClass code (lines.take k) between ∧ UnderSecond sub between ∧
    code ++ sub ++ Ident.normalize ident = key

/-! ### The entries that these lines make -/

section Entries

variable {lines : List (List Char)} {k : Nat} {name : String}

theorem namesVendor_iff {vendor : String} :
    NamesVendor lines vendor k name ↔
      NamesEntry lines (fun e => e.kind = .vendor ∧ e.key = vendor) k name := by
  constructor
  · rintro ⟨ident, ⟨text, htext, reads⟩, hkey⟩
    exact ⟨text, htext, _, .vendor reads, ⟨rfl, hkey⟩, rfl⟩
  · rintro ⟨text, htext, e, hyields, ⟨hkind, hkey⟩, rfl⟩
    cases hyields with
    | vendor reads => exact ⟨_, ⟨text, htext, reads⟩, hkey⟩
    | baseClass | device | subclass | subsystem | progIf => simp at hkind

theorem namesDevice_iff {vendor device : String} :
    NamesDevice lines vendor device k name ↔
      NamesEntry lines (fun e => e.kind = .device ∧ e.parent = some vendor ∧ e.key = device) k
        name := by
  constructor
  · rintro ⟨ident, between, ⟨text, htext, reads⟩, hkey, top, title, hnearest, rfl, hknown⟩
    exact ⟨text, htext, _, .device reads hnearest hknown, ⟨rfl, rfl, hkey⟩, rfl⟩
  · rintro ⟨text, htext, e, hyields, ⟨hkind, hparent, hkey⟩, rfl⟩
    cases hyields with
    | device reads top known =>
      obtain rfl := Option.some.inj hparent
      exact ⟨_, _, ⟨text, htext, reads⟩, hkey, _, _, top, rfl, known⟩
    | baseClass | vendor | subclass | subsystem | progIf => simp at hkind

theorem namesBaseClass_iff {key : String} :
    NamesBaseClass lines key k name ↔
      NamesEntry lines (fun e => e.kind = .baseClass ∧ e.key = key) k name := by
  constructor
  · rintro ⟨ident, ⟨text, htext, reads⟩, hkey⟩
    exact ⟨text, htext, _, .baseClass reads, ⟨rfl, hkey⟩, rfl⟩
  · rintro ⟨text, htext, e, hyields, ⟨hkind, hkey⟩, rfl⟩
    cases hyields with
    | baseClass reads => exact ⟨_, ⟨text, htext, reads⟩, hkey⟩
    | vendor | device | subclass | subsystem | progIf => simp at hkind

theorem namesSubclass_iff {key : String} :
    NamesSubclass lines key k name ↔
      NamesEntry lines (fun e => e.kind = .subclass ∧ e.key = key) k name := by
  constructor
  · rintro ⟨ident, code, between, ⟨text, htext, reads⟩, ⟨top, title, hnearest, rfl, hknown⟩, hkey⟩
    exact ⟨text, htext, _, .subclass reads hnearest hknown, ⟨rfl, hkey⟩, rfl⟩
  · rintro ⟨text, htext, e, hyields, ⟨hkind, hkey⟩, rfl⟩
    cases hyields with
    | subclass reads top known =>
      exact ⟨_, _, _, ⟨text, htext, reads⟩, ⟨_, _, top, rfl, known⟩, hkey⟩
    | baseClass | vendor | device | subsystem | progIf => simp at hkind

theorem namesProgIf_iff {key : String} :
    NamesProgIf lines key k name ↔
      NamesEntry lines (fun e => e.kind = .progIf ∧ e.key = key) k name := by
  constructor
  · rintro ⟨ident, code, sub, between, ⟨text, htext, reads⟩, ⟨top, title, hnearest, rfl, hknown⟩,
      ⟨second, label, after, hsecond, rfl⟩, hkey⟩
    exact ⟨text, htext, _, .progIf reads hnearest hknown hsecond, ⟨rfl, hkey⟩, rfl⟩
  · rintro ⟨text, htext, e, hyields, ⟨hkind, hkey⟩, rfl⟩
    cases hyields with
    | progIf reads top known second =>
      exact ⟨_, _, _, _, ⟨text, htext, reads⟩, ⟨_, _, top, rfl, known⟩,
        ⟨_, _, _, second, rfl⟩, hkey⟩
    | baseClass | vendor | device | subclass | subsystem => simp at hkind

/-- Two pairs of texts for which a colon between the two of a pair does not tell where they meet: a
further colon stands in the first text of one pair and in the second of the other. -/
def Crossed (a b x y : String) : Prop :=
  (':' ∈ x.toList ∧ ':' ∈ b.toList) ∨ (':' ∈ a.toList ∧ ':' ∈ y.toList)

/-- Texts that are joined by a colon come apart again unless they are crossed. -/
theorem colon_join_cases {a b x y : String} (h : a ++ ":" ++ b = x ++ ":" ++ y) :
    (a = x ∧ b = y) ∨ Crossed a b x y := by
  have hlist : a.toList ++ ':' :: b.toList = x.toList ++ ':' :: y.toList := by
    simpa using congrArg String.toList h
  rw [List.append_eq_append_iff] at hlist
  -- When the colons stand at different places, each is inside the longer text on the other side.
  rcases hlist with ⟨more, hxa, hmore⟩ | ⟨more, hax, hmore⟩
  · cases more with
    | nil =>
      obtain ⟨-, hby⟩ := List.cons.inj hmore
      exact .inl ⟨String.toList_inj.1 (by simpa using hxa.symm), String.toList_inj.1 hby⟩
    | cons c more =>
      obtain ⟨rfl, hb⟩ := List.cons.inj hmore
      exact .inr (.inl ⟨by simp [hxa], by simp [hb]⟩)
  · cases more with
    | nil =>
      obtain ⟨-, hyb⟩ := List.cons.inj hmore
      exact .inl ⟨String.toList_inj.1 (by simpa using hax), String.toList_inj.1 hyb.symm⟩
    | cons c more =>
      obtain ⟨rfl, hy⟩ := List.cons.inj hmore
      exact .inr (.inr ⟨by simp [hax], by simp [hy]⟩)

/-- Two texts around a colon can be told apart when one side of the equation has no other colon. -/
theorem colon_join_inj {a b x y : String} (hx : ':' ∉ x.toList) (hy : ':' ∉ y.toList) :
    a ++ ":" ++ b = x ++ ":" ++ y ↔ a = x ∧ b = y := by
  constructor
  · intro h
    exact (colon_join_cases h).resolve_right (by simp [Crossed, hx, hy])
  · rintro ⟨rfl, rfl⟩
    rfl

/-- The line at a position gives a name to a subsystem whose identifiers make up two joined keys. -/
def NamesJoined (lines : List (List Char)) (parent key : String) (k : Nat) (name : String) : Prop :=
  ∃ vendor device subvendor subdevice,
    NamesSubsystem lines vendor device subvendor subdevice k name ∧
    vendor ++ ":" ++ device = parent ∧ subvendor ++ ":" ++ subdevice = key

theorem namesJoined_iff {parent key : String} :
    NamesJoined lines parent key k name ↔
      NamesEntry lines (fun e => e.kind = .subsystem ∧ e.parent = some parent ∧ e.key = key) k
        name := by
  constructor
  · rintro ⟨_, _, _, _, ⟨ident, between, first, second, ⟨text, htext, reads⟩, hwords, rfl, rfl,
      ⟨top, title, hnearest, rfl, hknown⟩, ⟨own, label, after, hsecond, rfl⟩, hknownDevice⟩,
      rfl, rfl⟩
    exact ⟨text, htext, _, .subsystem reads hnearest hknown hsecond hknownDevice hwords,
      ⟨rfl, rfl, rfl⟩, rfl⟩
  · rintro ⟨text, htext, e, hyields, ⟨hkind, hparent, hkey⟩, rfl⟩
    cases hyields with
    | subsystem reads top known second knownDevice words =>
      exact ⟨_, _, _, _, ⟨_, _, _, _, ⟨text, htext, reads⟩, words, rfl, rfl,
        ⟨_, _, top, rfl, known⟩, ⟨_, _, _, second, rfl⟩, knownDevice⟩,
        Option.some.inj hparent, hkey⟩
    | baseClass | vendor | device | subclass | progIf => simp at hkind

/-- A subsystem whose identifiers have no colon is named by the lines that spell each of the four;
no other line makes up the same keys. -/
theorem namesSubsystem_iff {vendor device subvendor subdevice : String}
    (hvendor : ':' ∉ vendor.toList) (hdevice : ':' ∉ device.toList)
    (hsubvendor : ':' ∉ subvendor.toList) (hsubdevice : ':' ∉ subdevice.toList) :
    NamesSubsystem lines vendor device subvendor subdevice k name ↔
      NamesEntry lines (fun e => e.kind = .subsystem ∧ e.parent = some (vendor ++ ":" ++ device) ∧
        e.key = subvendor ++ ":" ++ subdevice) k name := by
  rw [← namesJoined_iff]
  constructor
  · intro h
    exact ⟨_, _, _, _, h, rfl, rfl⟩
  · rintro ⟨_, _, _, _, h, hparent, hkey⟩
    obtain ⟨rfl, rfl⟩ := (colon_join_inj hvendor hdevice).1 hparent
    obtain ⟨rfl, rfl⟩ := (colon_join_inj hsubvendor hsubdevice).1 hkey
    exact h

end Entries
end PciCatalog
