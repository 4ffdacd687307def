import PciCatalog.Entry
import Std.Data.ExtTreeMap

/-!
# The database of names

A database keeps a table of names for each kind of entry.  The names of devices stand in sub-tables,
one for each vendor, and the names of subsystems in sub-tables for each vendor and device; a
sub-table is made when its first name is added.  A later name replaces an earlier one.  A look-up
never fails: a name that is not known is answered by the normal form of the identifier that was
asked for.
-/

namespace PciCatalog

/-- Names by key. -/
abbrev Table := Std.ExtTreeMap String String

/-- Tables by the key of the parent that they belong to. -/
abbrev SubTables := Std.ExtTreeMap String Table

namespace SubTables

/-- The name that a parent's sub-table has for a key. -/
def name? (tables : SubTables) (parent key : String) : Option String :=
  tables[parent]?.bind fun table => table[key]?

/-- The sub-tables with one more name; a parent without a sub-table gets one. -/
def insertName (tables : SubTables) (parent key name : String) : SubTables :=
  tables.insert parent ((tables.getD parent ∅).insert key name)

/-- The number of names in all sub-tables. -/
def nameCount (tables : SubTables) : Nat :=
  tables.foldl (fun count _ table => count + table.size) 0

end SubTables

/-- The names of vendors, devices, subsystems, classes, subclasses and programming interfaces. -/
structure Database where
  vendors : Table
  devices : SubTables
  subsystems : SubTables
  classes : Table
  subclasses : Table
  progIfs : Table
  deriving DecidableEq

/-- The number of names of each kind. -/
structure Counts where
  vendors : Nat
  devices : Nat
  subsystems : Nat
  classes : Nat
  subclasses : Nat
  progIfs : Nat
  deriving DecidableEq, Repr

namespace Database

/-- The database without names. -/
def empty : Database := ⟨∅, ∅, ∅, ∅, ∅, ∅⟩

instance : EmptyCollection Database := ⟨empty⟩
instance : Inhabited Database := ⟨empty⟩

/-- The name in a slot. -/
def find? (db : Database) : Slot → Option String
  | .vendor key => db.vendors[key]?
  | .device parent key => db.devices.name? parent key
  | .subsystem parent key => db.subsystems.name? parent key
  | .baseClass key => db.classes[key]?
  | .subclass key => db.subclasses[key]?
  | .progIf key => db.progIfs[key]?

/-- The database with another name in a slot. -/
def set (db : Database) (name : String) : Slot → Database
  | .vendor key => { db with vendors := db.vendors.insert key name }
  | .device parent key => { db with devices := db.devices.insertName parent key name }
  | .subsystem parent key => { db with subsystems := db.subsystems.insertName parent key name }
  | .baseClass key => { db with classes := db.classes.insert key name }
  | .subclass key => { db with subclasses := db.subclasses.insert key name }
  | .progIf key => { db with progIfs := db.progIfs.insert key name }

/-- The database with the name of one more entry; an entry without a slot adds nothing. -/
def add (db : Database) (e : Entry) : Database :=
  match e.slot? with
  | some slot => db.set e.name slot
  | none => db

/-- The database with the names of further entries, added in order. -/
def addAll (db : Database) (entries : List Entry) : Database :=
  entries.foldl add db

/-- The slots and names of a table. -/
def rows (slot : String → Slot) (table : Table) : List (Slot × String) :=
  table.toList.map fun (key, name) => (slot key, name)

/-- The slots and names, table by table. -/
def toList (db : Database) : List (Slot × String) :=
  rows .vendor db.vendors ++
  db.devices.toList.flatMap (fun (parent, table) => rows (.device parent) table) ++
  db.subsystems.toList.flatMap (fun (parent, table) => rows (.subsystem parent) table) ++
  rows .baseClass db.classes ++ rows .subclass db.subclasses ++ rows .progIf db.progIfs

/-- The number of names of each kind. -/
def counts (db : Database) : Counts where
  vendors := db.vendors.size
  devices := db.devices.nameCount
  subsystems := db.subsystems.nameCount
  classes := db.classes.size
  subclasses := db.subclasses.size
  progIfs := db.progIfs.size

/-- The name of a vendor, or else its normalized identifier. -/
def vendorName (db : Database) (vendor : String) : String :=
  let key := Ident.normalize vendor
  (db.vendors[key]?).getD key

/-- The name of a vendor's device, or else the normalized identifier of the device. -/
def deviceName (db : Database) (vendor device : String) : String :=
  let key := Ident.normalize device
  (db.devices.name? (Ident.normalize vendor) key).getD key

/-- The name of a subsystem of a vendor's device, or else the normalized identifier of the
subdevice. -/
def subsystemName (db : Database) (vendor device subvendor subdevice : String) : String :=
  let key := Ident.normalize subdevice
  (db.subsystems.name? (Ident.normalize vendor ++ ":" ++ Ident.normalize device)
    (Ident.normalize subvendor ++ ":" ++ key)).getD key

/-- The first characters of a code, if it has that many. -/
def leading? (count : Nat) (code : String) : Option String :=
  if count ≤ code.length then some (String.ofList (code.toList.take count)) else none

/-- The most specific name of a class code: that of the programming interface with its first six
digits, else of the subclass with its first four, else of the class with its first two. -/
def className? (db : Database) (code : String) : Option String :=
  ((leading? 6 code).bind fun key => db.progIfs[key]?) <|>
  ((leading? 4 code).bind fun key => db.subclasses[key]?) <|>
  ((leading? 2 code).bind fun key => db.classes[key]?)

/-- The most specific name of a class, or else a note that the class is unknown. -/
def className (db : Database) (code : String) : String :=
  let key := Ident.normalize code
  (db.className? key).getD ("Unknown class (" ++ key ++ ")")

end Database

namespace SubTables

@[simp] theorem name?_empty (parent key : String) : name? ∅ parent key = none := by
  simp [name?]

/-- A new name stands under its parent and key, and every other name is kept. -/
theorem name?_insertName (tables : SubTables) (parent key name parent' key' : String) :
    (tables.insertName parent key name).name? parent' key' =
      if parent = parent' ∧ key = key' then some name else tables.name? parent' key' := by
  unfold insertName name?
  rw [Std.ExtTreeMap.getElem?_insert]
  by_cases hparent : parent = parent'
  · subst hparent
    rw [if_pos Std.ReflCmp.compare_self, Option.bind_some, Std.ExtTreeMap.getElem?_insert]
    by_cases hkey : key = key'
    · simp [hkey]
    · cases htable : tables[parent]? with
      | none => simp [hkey, Std.ExtTreeMap.getD_eq_getD_getElem?, htable]
      | some table => simp [hkey, Std.ExtTreeMap.getD_eq_getD_getElem?, htable]
  · simp [hparent]

end SubTables

namespace Database

@[simp] theorem find?_empty (s : Slot) : find? ∅ s = none := by
  show find? empty s = none
  cases s <;> simp [find?, empty]

/-- A name that is set stands in its slot, and every other slot keeps its name. -/
theorem find?_set (db : Database) (name : String) (s t : Slot) :
    (db.set name s).find? t = if s = t then some name else db.find? t := by
  cases s <;> cases t <;>
    simp [set, find?, Std.ExtTreeMap.getElem?_insert, SubTables.name?_insertName]

/-- Adding an entry sets the name of its slot and of no other. -/
theorem find?_add (db : Database) (e : Entry) (s : Slot) :
    (db.add e).find? s = if e.slot? = some s then some e.name else db.find? s := by
  unfold add
  cases h : e.slot? with
  | none => simp
  | some t => simp [find?_set]

/-- An entry without a slot changes nothing. -/
theorem add_of_slot?_eq_none {e : Entry} (h : e.slot? = none) (db : Database) : db.add e = db := by
  unfold add
  rw [h]

@[simp] theorem addAll_nil (db : Database) : db.addAll [] = db := rfl

@[simp] theorem addAll_cons (db : Database) (e : Entry) (rest : List Entry) :
    db.addAll (e :: rest) = (db.add e).addAll rest := rfl

theorem addAll_append (db : Database) (front back : List Entry) :
    db.addAll (front ++ back) = (db.addAll front).addAll back :=
  List.foldl_append

end Database
end PciCatalog
