import PciCatalog.Database.Loading
import PciCatalog.Proofs.Step
import Mathlib.Data.List.Induction

/-!
# Every name has its place

In a database that was read from a names file, whatever the lines of the file, every device belongs
to a vendor of the database, every subsystem to a device, every subclass to a class and every
programming interface to a subclass.  The invariant ties the context of the reader to the database:
what the context remembers has been added, also when the lines in between belong to the other kind
of section.
-/

namespace PciCatalog

/-- Every key of a database extends a key of the table above it. -/
structure Database.Intact (db : Database) : Prop where
  /-- A vendor with a sub-table of devices has a key and a name. -/
  vendor_of_devices : ∀ v ∈ db.devices, v ≠ "" ∧ v ∈ db.vendors
  /-- A sub-table of subsystems belongs to a vendor and one of its devices. -/
  device_of_subsystems : ∀ p ∈ db.subsystems,
    ∃ v d, v ≠ "" ∧ d ≠ "" ∧ p = v ++ ":" ++ d ∧ (db.devices.name? v d).isSome
  /-- The key of a subclass starts with that of a class. -/
  class_of_subclass : ∀ k ∈ db.subclasses, ∃ b x, b ≠ "" ∧ k = b ++ x ∧ b ∈ db.classes
  /-- The key of a programming interface starts with that of a subclass. -/
  subclass_of_progIf : ∀ k ∈ db.progIfs, ∃ s y, k = s ++ y ∧ s ∈ db.subclasses
  devices_ne_empty : ∀ (v : String) (table : Table), db.devices[v]? = some table → table ≠ ∅
  subsystems_ne_empty : ∀ (p : String) (table : Table), db.subsystems[p]? = some table → table ≠ ∅

namespace SubTables

/-- Whether each sub-table has a name. -/
def NoneEmpty (tables : SubTables) : Prop :=
  ∀ (parent : String) (table : Table), tables[parent]? = some table → table ≠ ∅

theorem noneEmpty_empty : NoneEmpty ∅ := by
  intro parent table h
  simp at h

/-- A sub-table is made together with its first name. -/
theorem NoneEmpty.insertName {tables : SubTables} (h : tables.NoneEmpty)
    (parent key name : String) : (tables.insertName parent key name).NoneEmpty := by
  intro parent' table htable
  rw [SubTables.insertName, Std.ExtTreeMap.getElem?_insert] at htable
  split at htable
  · obtain rfl := Option.some.inj htable
    exact Std.ExtTreeMap.insert_ne_empty
  · exact h parent' table htable

/-- Without empty sub-tables, a parent with a sub-table has a name in it. -/
theorem NoneEmpty.exists_name? {tables : SubTables} (h : tables.NoneEmpty) {parent : String}
    (hparent : parent ∈ tables) : ∃ key, (tables.name? parent key).isSome := by
  rw [Std.ExtTreeMap.mem_iff_isSome_getElem?, Option.isSome_iff_exists] at hparent
  obtain ⟨table, htable⟩ := hparent
  have hne := h parent table htable
  rw [Ne, Std.ExtTreeMap.eq_empty_iff_forall_not_mem] at hne
  push Not at hne
  obtain ⟨key, hkey⟩ := hne
  refine ⟨key, ?_⟩
  rw [name?, htable, Option.bind_some]
  exact Std.ExtTreeMap.mem_iff_isSome_getElem?.1 hkey

end SubTables

namespace Database

/-- Whether a slot holds a name. -/
def Has (db : Database) (s : Slot) : Prop :=
  (db.find? s).isSome

theorem has_add {db : Database} {e : Entry} {s : Slot} :
    (db.add e).Has s ↔ e.slot? = some s ∨ db.Has s := by
  unfold Has
  rw [find?_add]
  by_cases h : e.slot? = some s <;> simp [h]

/-- Whether the slots that a slot belongs to hold names. -/
def Rooted (db : Database) : Slot → Prop
  | .vendor _ => True
  | .device v _ => v ≠ "" ∧ db.Has (.vendor v)
  | .subsystem p _ => ∃ v d, v ≠ "" ∧ d ≠ "" ∧ p = v ++ ":" ++ d ∧ db.Has (.device v d)
  | .baseClass _ => True
  | .subclass k => ∃ b x, b ≠ "" ∧ k = b ++ x ∧ db.Has (.baseClass b)
  | .progIf k => ∃ s y, k = s ++ y ∧ db.Has (.subclass s)

/-- A slot stays rooted when entries are added. -/
theorem Rooted.add {db : Database} {s : Slot} (h : db.Rooted s) (e : Entry) :
    (db.add e).Rooted s := by
  have hadd : ∀ {t : Slot}, db.Has t → (db.add e).Has t := fun ht => has_add.2 (.inr ht)
  cases s with
  | vendor _ | baseClass _ => trivial
  | device v d => exact ⟨h.1, hadd h.2⟩
  | subsystem p k =>
    obtain ⟨v, d, hv, hd, hp, hdevice⟩ := h
    exact ⟨v, d, hv, hd, hp, hadd hdevice⟩
  | subclass k =>
    obtain ⟨b, x, hb, hk, hclass⟩ := h
    exact ⟨b, x, hb, hk, hadd hclass⟩
  | progIf k =>
    obtain ⟨s, y, hk, hsub⟩ := h
    exact ⟨s, y, hk, hadd hsub⟩

/-- Adding an entry makes no empty sub-table. -/
theorem noneEmpty_add {db : Database} (h : db.devices.NoneEmpty ∧ db.subsystems.NoneEmpty)
    (e : Entry) : (db.add e).devices.NoneEmpty ∧ (db.add e).subsystems.NoneEmpty := by
  unfold add
  cases e.slot? with
  | none => exact h
  | some s =>
    cases s with
    | device v d => exact ⟨h.1.insertName v d e.name, h.2⟩
    | subsystem p k => exact ⟨h.1, h.2.insertName p k e.name⟩
    | vendor _ | baseClass _ | subclass _ | progIf _ => exact h

/-- A database is intact when each name that it holds is rooted and no sub-table is empty. -/
theorem intact_of_rooted {db : Database} (hrooted : ∀ s, db.Has s → db.Rooted s)
    (hne : db.devices.NoneEmpty ∧ db.subsystems.NoneEmpty) : db.Intact where
  vendor_of_devices v hv := by
    obtain ⟨d, hd⟩ := hne.1.exists_name? hv
    obtain ⟨hknown, hvendor⟩ := hrooted (.device v d) hd
    exact ⟨hknown, Std.ExtTreeMap.mem_iff_isSome_getElem?.2 hvendor⟩
  device_of_subsystems p hp := by
    obtain ⟨k, hk⟩ := hne.2.exists_name? hp
    exact hrooted (.subsystem p k) hk
  class_of_subclass k hk := by
    have hhas : db.Has (.subclass k) := Std.ExtTreeMap.mem_iff_isSome_getElem?.1 hk
    obtain ⟨b, x, hb, hsplit, hclass⟩ := hrooted _ hhas
    exact ⟨b, x, hb, hsplit, Std.ExtTreeMap.mem_iff_isSome_getElem?.2 hclass⟩
  subclass_of_progIf k hk := by
    have hhas : db.Has (.progIf k) := Std.ExtTreeMap.mem_iff_isSome_getElem?.1 hk
    obtain ⟨s, y, hsplit, hsub⟩ := hrooted _ hhas
    exact ⟨s, y, hsplit, Std.ExtTreeMap.mem_iff_isSome_getElem?.2 hsub⟩
  devices_ne_empty := hne.1
  subsystems_ne_empty := hne.2

end Database

/-- What a context remembers is in the database. -/
structure Context.Known (c : Context) (db : Database) : Prop where
  vendor : c.vendor ≠ "" → db.Has (.vendor c.vendor)
  device : c.device ≠ "" → c.vendor ≠ "" ∧ db.Has (.device c.vendor c.device)
  baseClass : c.baseClass ≠ "" → db.Has (.baseClass c.baseClass)
  subclass : c.subclass ≠ "" → db.Has (.subclass c.subclass)

/-- A context and a database that a run of lines from the start leads to together. -/
structure Consistent (c : Context) (db : Database) : Prop where
  known : c.Known db
  rooted : ∀ s, db.Has s → db.Rooted s
  noneEmpty : db.devices.NoneEmpty ∧ db.subsystems.NoneEmpty

namespace Context

variable {c next : Context} {db : Database} {text : List Char} {entry : Entry}

theorem Known.add (h : c.Known db) (e : Entry) : c.Known (db.add e) where
  vendor hv := Database.has_add.2 (.inr (h.vendor hv))
  device hd := ⟨(h.device hd).1, Database.has_add.2 (.inr (h.device hd).2)⟩
  baseClass hb := Database.has_add.2 (.inr (h.baseClass hb))
  subclass hs := Database.has_add.2 (.inr (h.subclass hs))

/-- The entry of a step belongs to what its context knows. -/
theorem Known.rooted_of_step (h : c.Known db) (hstep : c.Step text next entry) {s : Slot}
    (hslot : entry.slot? = some s) : db.Rooted s := by
  -- Below a section or a parent the context knows a key, and what it knows is in the database.
  cases hstep with
  | baseClass | vendor =>
    obtain rfl := Option.some.inj hslot
    trivial
  | subclass _ _ known =>
    obtain rfl := Option.some.inj hslot
    exact ⟨_, _, known, rfl, h.baseClass known⟩
  | device _ _ known =>
    obtain rfl := Option.some.inj hslot
    exact ⟨known, h.vendor known⟩
  | progIf _ _ known =>
    obtain rfl := Option.some.inj hslot
    exact ⟨_, _, rfl, h.subclass known⟩
  | subsystem _ _ known knownDevice =>
    obtain rfl := Option.some.inj hslot
    exact ⟨_, _, known, knownDevice, rfl, (h.device knownDevice).2⟩

/-- After a step the context knows what it knew before, and the entry of the step. -/
theorem Known.step (h : c.Known db) (hstep : c.Step text next entry) :
    next.Known (db.add entry) := by
  have hadd := h.add entry
  cases hstep with
  | baseClass =>
    -- The last vendor and device stay behind, as does the entry that each of them has.
    exact { hadd with
      baseClass := fun _ => Database.has_add.2 (.inl rfl)
      subclass := fun hempty => absurd rfl hempty }
  | vendor =>
    -- The device is forgotten: it need not be one of the new vendor's.
    exact { hadd with
      vendor := fun _ => Database.has_add.2 (.inl rfl)
      device := fun hempty => absurd rfl hempty }
  | subclass => exact { hadd with subclass := fun _ => Database.has_add.2 (.inl rfl) }
  | device _ _ known =>
    exact { hadd with device := fun _ => ⟨known, Database.has_add.2 (.inl rfl)⟩ }
  | progIf | subsystem => exact hadd

end Context

namespace Consistent

variable {c : Context} {db : Database}

theorem start : Consistent {} Database.empty where
  known :=
    { vendor := fun h => absurd rfl h
      device := fun h => absurd rfl h
      baseClass := fun h => absurd rfl h
      subclass := fun h => absurd rfl h }
  rooted s h := by
    have hnone : Database.empty.find? s = none := Database.find?_empty s
    simp [Database.Has, hnone] at h
  noneEmpty := ⟨SubTables.noneEmpty_empty, SubTables.noneEmpty_empty⟩

/-- Every line keeps context and database consistent. -/
theorem readLine (h : Consistent c db) (text : List Char) :
    Consistent (c.readLine text).1 (db.addAll (c.readLine text).2.toList) := by
  cases hentry : (c.readLine text).2 with
  | none =>
    rw [Context.readLine_fst_of_none hentry]
    exact h
  | some entry =>
    have hstep := Context.readLine_eq_some_iff.1 (Prod.ext rfl hentry)
    show Consistent _ (db.add entry)
    refine ⟨h.known.step hstep, ?_, Database.noneEmpty_add h.noneEmpty entry⟩
    -- A slot with a name is that of the new entry, or had a name before.
    intro s hs
    rcases Database.has_add.1 hs with hslot | hs
    · exact (h.known.rooted_of_step hstep hslot).add entry
    · exact (h.rooted s hs).add entry

/-- Every run of lines keeps context and database consistent. -/
theorem entries (h : Consistent c db) (lines : List (List Char)) :
    Consistent (c.after lines) (db.addAll (c.entries lines)) := by
  induction lines generalizing c db with
  | nil => exact h
  | cons text rest ih =>
    rw [Context.entries_cons, Database.addAll_append]
    exact ih (h.readLine text)

end Consistent

namespace Database

/-- The first characters of a code are a beginning of it. -/
theorem prefix_of_leading? {count : Nat} {code key : String} (h : leading? count code = some key) :
    key.toList <+: code.toList := by
  rw [leading?, Option.ite_none_right_eq_some] at h
  rw [← Option.some.inj h.2, String.toList_ofList]
  exact List.take_prefix count code.toList

/-- In an intact database, a code that starts with the key of a subclass or of a programming
interface starts with the key of a class. -/
theorem Intact.exists_class_prefix {db : Database} (h : db.Intact) {key : String}
    {code : List Char} (hstart : key.toList <+: code)
    (hkey : key ∈ db.subclasses ∨ key ∈ db.progIfs) :
    ∃ b ∈ db.classes, b.toList <+: code := by
  have hsubclass : ∀ k ∈ db.subclasses, k.toList <+: code →
      ∃ b ∈ db.classes, b.toList <+: code := by
    intro k hk hcode
    obtain ⟨b, x, -, rfl, hb⟩ := h.class_of_subclass k hk
    rw [String.toList_append] at hcode
    exact ⟨b, hb, (List.prefix_append _ _).trans hcode⟩
  rcases hkey with hkey | hkey
  · exact hsubclass key hkey hstart
  · obtain ⟨s, y, rfl, hs⟩ := h.subclass_of_progIf key hkey
    rw [String.toList_append] at hstart
    exact hsubclass s hs ((List.prefix_append _ _).trans hstart)

/-- The name of a class code in the tables below the class table, the more specific one first. -/
def nameBelowClass? (db : Database) (code : String) : Option String :=
  ((leading? 6 code).bind fun key => db.progIfs[key]?).or
    ((leading? 4 code).bind fun key => db.subclasses[key]?)

/-- A code that the tables below the class table have a name for is answered by that name, and
starts with the key of a class. -/
def AnswersWithinClasses (db : Database) : Prop :=
  ∀ query name, db.nameBelowClass? (Ident.normalize query) = some name →
    db.className query = name ∧ ∃ b ∈ db.classes, b.toList <+: (Ident.normalize query).toList

theorem Intact.answersWithinClasses {db : Database} (h : db.Intact) : db.AnswersWithinClasses := by
  intro query name hname
  constructor
  · -- The two tables below the class table are asked before it.
    have hclass : db.className? (Ident.normalize query) = some name := by
      simp only [className?, Option.orElse_eq_orElse, Option.orElse_eq_or]
      rw [← Option.or_assoc]
      show (db.nameBelowClass? (Ident.normalize query)).or _ = some name
      rw [hname, Option.some_or]
    rw [className, hclass]
    rfl
  · rw [nameBelowClass?, Option.or_eq_some_iff] at hname
    rcases hname with hname | ⟨-, hname⟩
    · obtain ⟨key, hkey, hfound⟩ := Option.bind_eq_some_iff.1 hname
      exact h.exists_class_prefix (prefix_of_leading? hkey)
        (.inr (Std.ExtTreeMap.mem_iff_isSome_getElem?.2 (by simp [hfound])))
    · obtain ⟨key, hkey, hfound⟩ := Option.bind_eq_some_iff.1 hname
      exact h.exists_class_prefix (prefix_of_leading? hkey)
        (.inl (Std.ExtTreeMap.mem_iff_isSome_getElem?.2 (by simp [hfound])))

/-- Whatever the lines of a names file are, its database is intact. -/
theorem intact_of_lines (lines : List (List Char)) :
    (empty.addAll (({} : Context).entries lines)).Intact :=
  have hrun := Consistent.start.entries lines
  intact_of_rooted hrun.rooted hrun.noneEmpty

/-- A database that is loaded holds the entries of the lines of some text. -/
theorem exists_lines_of_load {fs : FileSystem} {paths : List String} {given : Option String}
    {loaded : LoadedDatabase} (h : load fs paths given = .ok loaded) :
    ∃ lines, loaded.database = empty.addAll (({} : Context).entries lines) := by
  unfold load at h
  cases hopen : openFirst fs (candidates paths given) with
  | error e => simp [hopen, bind, Except.bind] at h
  | ok opened =>
    cases opened with
    | none =>
      simp only [hopen, bind, Except.bind, pure, Except.pure, Except.ok.injEq] at h
      exact ⟨[], by rw [← h]; rfl⟩
    | some found =>
      simp only [hopen, bind, Except.bind, pure, Except.pure, Except.ok.injEq] at h
      exact ⟨linesRead found.2, by rw [← h]; rfl⟩

/-- Referential integrity of every database that is read from a names file, well-formed or not: each
device table belongs to a known vendor, each subsystem table to a known device, each subclass to a
class, each programming interface to a subclass, and no sub-table is empty.  A class code that gets
the name of a subclass or programming interface therefore starts with a known class. -/
theorem intact_of_every_load :
    (∀ lines : List (List Char),
      (empty.addAll (({} : Context).entries lines)).Intact ∧
        (empty.addAll (({} : Context).entries lines)).AnswersWithinClasses) ∧
    ∀ (fs : FileSystem) (paths : List String) (given : Option String) (loaded : LoadedDatabase),
      load fs paths given = .ok loaded →
        loaded.database.Intact ∧ loaded.database.AnswersWithinClasses := by
  constructor
  · intro lines
    exact ⟨intact_of_lines lines, (intact_of_lines lines).answersWithinClasses⟩
  · intro fs paths given loaded hload
    obtain ⟨lines, hlines⟩ := exists_lines_of_load hload
    rw [hlines]
    exact ⟨intact_of_lines lines, (intact_of_lines lines).answersWithinClasses⟩

/-- A names file with a vendor and a subsystem line that lacks its device. -/
def orphanFile : List UInt8 :=
  "C 02  Network\n\t00  Ethernet\n8086  Intel\n\t\t8086 0001  Adapter\n".toUTF8.data.toList

def orphanFiles : FileSystem where
  nodes := [(["ids"], .file orphanFile)]
  workingDir := []
  distinct := List.pairwise_singleton _ _

theorem intact_of_orphan_load :
    load orphanFiles [] (some "/ids") =
        .ok ⟨ofFile orphanFile, some (Path.ofString "/ids")⟩ ∧
      (ofFile orphanFile).Intact ∧ (ofFile orphanFile).AnswersWithinClasses := by
  have hload : load orphanFiles [] (some "/ids") =
      .ok ⟨ofFile orphanFile, some (Path.ofString "/ids")⟩ := rfl
  exact ⟨hload, intact_of_every_load.2 orphanFiles [] (some "/ids") _ hload⟩

end Database

end PciCatalog
