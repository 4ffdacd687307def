import PciCatalog.Proofs.Integrity
import PciCatalog.Proofs.LastEntry

/-!
# A database is what its slots hold

Two databases without empty sub-tables are equal as soon as every slot holds the same name in both.
A database that was filled from empty has no empty sub-table, so the last names of its history
determine it, and with it each of its answers and counts.
-/

namespace PciCatalog
namespace SubTables

theorem mem_of_name?_eq_some {tables : SubTables} {parent key name : String}
    (h : tables.name? parent key = some name) : parent ∈ tables := by
  obtain ⟨table, htable, -⟩ := Option.bind_eq_some_iff.1 h
  rw [Std.ExtTreeMap.mem_iff_isSome_getElem?, htable, Option.isSome_some]

/-- A parent with a name in one of two families of sub-tables has a sub-table in the other. -/
theorem NoneEmpty.mem_of_mem {tables others : SubTables} (h : tables.NoneEmpty)
    (heq : ∀ parent key, tables.name? parent key = others.name? parent key) {parent : String}
    (hparent : parent ∈ tables) : parent ∈ others := by
  obtain ⟨key, hkey⟩ := h.exists_name? hparent
  obtain ⟨name, hname⟩ := Option.isSome_iff_exists.1 hkey
  exact mem_of_name?_eq_some ((heq parent key).symm.trans hname)

/-- Sub-tables that are not empty are determined by the names in them. -/
theorem NoneEmpty.eq_of_name? {tables others : SubTables} (h : tables.NoneEmpty)
    (h' : others.NoneEmpty)
    (heq : ∀ parent key, tables.name? parent key = others.name? parent key) : tables = others := by
  apply Std.ExtTreeMap.ext_getElem?
  intro parent
  -- Sub-tables that are not empty stand under the same parents, because the names do.
  have hiff : parent ∈ tables ↔ parent ∈ others :=
    ⟨h.mem_of_mem heq, h'.mem_of_mem fun p k => (heq p k).symm⟩
  rw [Std.ExtTreeMap.mem_iff_isSome_getElem?, Std.ExtTreeMap.mem_iff_isSome_getElem?] at hiff
  cases htable : tables[parent]? with
  | none =>
    cases hother : others[parent]? with
    | none => rfl
    | some other => simp [htable, hother] at hiff
  | some table =>
    cases hother : others[parent]? with
    | none => simp [htable, hother] at hiff
    | some other =>
      rw [Option.some_inj]
      apply Std.ExtTreeMap.ext_getElem?
      intro key
      have hkey := heq parent key
      rwa [name?, name?, htable, hother] at hkey

end SubTables

namespace Database

/-- Databases without empty sub-tables that hold the same name in every slot are equal. -/
theorem eq_of_find? {db other : Database}
    (h : db.devices.NoneEmpty ∧ db.subsystems.NoneEmpty)
    (h' : other.devices.NoneEmpty ∧ other.subsystems.NoneEmpty)
    (heq : ∀ s, db.find? s = other.find? s) : db = other := by
  have hvendors : db.vendors = other.vendors :=
    Std.ExtTreeMap.ext_getElem? fun key => heq (.vendor key)
  have hdevices : db.devices = other.devices :=
    h.1.eq_of_name? h'.1 fun parent key => heq (.device parent key)
  have hsubsystems : db.subsystems = other.subsystems :=
    h.2.eq_of_name? h'.2 fun parent key => heq (.subsystem parent key)
  have hclasses : db.classes = other.classes :=
    Std.ExtTreeMap.ext_getElem? fun key => heq (.baseClass key)
  have hsubclasses : db.subclasses = other.subclasses :=
    Std.ExtTreeMap.ext_getElem? fun key => heq (.subclass key)
  have hprogIfs : db.progIfs = other.progIfs :=
    Std.ExtTreeMap.ext_getElem? fun key => heq (.progIf key)
  -- A database is its tables.
  cases db
  cases other
  simp_all

/-- Adding entries makes no empty sub-table. -/
theorem noneEmpty_addAll {db : Database} (h : db.devices.NoneEmpty ∧ db.subsystems.NoneEmpty)
    (history : List Entry) :
    (db.addAll history).devices.NoneEmpty ∧ (db.addAll history).subsystems.NoneEmpty := by
  induction history generalizing db with
  | nil => exact h
  | cons e rest ih => exact ih (noneEmpty_add h e)

theorem noneEmpty_empty_addAll (history : List Entry) :
    (empty.addAll history).devices.NoneEmpty ∧ (empty.addAll history).subsystems.NoneEmpty :=
  noneEmpty_addAll ⟨SubTables.noneEmpty_empty, SubTables.noneEmpty_empty⟩ history

/-- Two histories with the same last name for every slot fill equal databases. -/
theorem addAll_eq_of_lastName? {history other : List Entry}
    (h : ∀ s, lastName? (fun e => e.slot? = some s) history =
      lastName? (fun e => e.slot? = some s) other) :
    empty.addAll history = empty.addAll other := by
  apply eq_of_find? (noneEmpty_empty_addAll history) (noneEmpty_empty_addAll other)
  intro s
  rw [find?_empty_addAll, find?_empty_addAll, h]

end Database
end PciCatalog
