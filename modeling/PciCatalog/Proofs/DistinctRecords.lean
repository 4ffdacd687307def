import PciCatalog.Proofs.Integrity
import PciCatalog.Proofs.LastEntry
import Mathlib.Data.Finset.Card

/-!
# Counts of distinct records

The counts of a database say how many different things its history speaks of.  A slot holds a name
exactly when some entry of the history wrote it, so the size of a table is the number of different
keys among the entries of its kind, and the names in sub-tables are as many as there are different
pairs of a parent and a key.  Main statement: after any additions the counts are these numbers; they
never fall, an addition raises their total by at most the number of its entries, and an entry that
repeats an earlier record has no effect on them.
-/

namespace PciCatalog

namespace Entry

/-- The key of an entry of one kind. -/
def keyAs? (kind : Kind) (e : Entry) : Option String :=
  if e.kind = kind then some e.key else none

/-- The parent and the key of an entry of one kind, if it has a parent. -/
def scopedKeyAs? (kind : Kind) (e : Entry) : Option (String × String) :=
  if e.kind = kind then e.parent.map (·, e.key) else none

/-- Whether two entries are records of the same thing: they have one kind, one key and, as devices
or subsystems, one parent. -/
structure SameRecord (d e : Entry) : Prop where
  kind : d.kind = e.kind
  key : d.key = e.key
  parent : e.kind = .device ∨ e.kind = .subsystem → d.parent = e.parent

end Entry

/-- What the entries of a history have to give, each value once. -/
def valuesOf {α : Type} [DecidableEq α] (f : Entry → Option α) (history : List Entry) : Finset α :=
  (history.filterMap f).toFinset

namespace Counts

/-- The number of distinct records of each kind in a history: devices and subsystems are told apart
by parent and key together, all else by the key. -/
def distinct (history : List Entry) : Counts where
  vendors := (valuesOf (Entry.keyAs? .vendor) history).card
  devices := (valuesOf (Entry.scopedKeyAs? .device) history).card
  subsystems := (valuesOf (Entry.scopedKeyAs? .subsystem) history).card
  classes := (valuesOf (Entry.keyAs? .baseClass) history).card
  subclasses := (valuesOf (Entry.keyAs? .subclass) history).card
  progIfs := (valuesOf (Entry.keyAs? .progIf) history).card

/-- The count of one kind. -/
def of (counts : Counts) : Kind → Nat
  | .vendor => counts.vendors
  | .device => counts.devices
  | .subsystem => counts.subsystems
  | .baseClass => counts.classes
  | .subclass => counts.subclasses
  | .progIf => counts.progIfs

/-- The count of all kinds together. -/
def total (counts : Counts) : Nat :=
  counts.vendors + counts.devices + counts.subsystems + counts.classes + counts.subclasses +
    counts.progIfs

end Counts

/-! ### The size of tables -/

theorem Table.size_eq_card {table : Table} {keys : Finset String}
    (h : ∀ key, table[key]?.isSome ↔ key ∈ keys) : table.size = keys.card := by
  have hkeys : table.keys.toFinset = keys := by
    ext key
    rw [List.mem_toFinset, Std.ExtTreeMap.mem_keys, Std.ExtTreeMap.mem_iff_isSome_getElem?, h]
  rw [← hkeys, List.toFinset_card_of_nodup Std.ExtTreeMap.nodup_keys, Std.ExtTreeMap.length_keys]

namespace SubTables

variable {tables : SubTables}

/-- The parents and keys of the names, sub-table by sub-table. -/
def places (tables : SubTables) : List (String × String) :=
  tables.toList.flatMap fun row => row.2.keys.map (row.1, ·)

theorem mem_places {parent key : String} :
    (parent, key) ∈ tables.places ↔ (tables.name? parent key).isSome := by
  rw [places, List.mem_flatMap, name?, Option.isSome_bind, Option.any_eq_true]
  constructor
  · rintro ⟨⟨parent', table⟩, hrow, hpair⟩
    obtain ⟨key', hkey, hpair⟩ := List.mem_map.1 hpair
    obtain ⟨rfl, rfl⟩ := Prod.mk.inj hpair
    exact ⟨table, Std.ExtTreeMap.mem_toList_iff_getElem?_eq_some.1 hrow,
      Std.ExtTreeMap.mem_iff_isSome_getElem?.1 (Std.ExtTreeMap.mem_keys.1 hkey)⟩
  · rintro ⟨table, htable, hkey⟩
    exact ⟨(parent, table), Std.ExtTreeMap.mem_toList_iff_getElem?_eq_some.2 htable,
      List.mem_map_of_mem
        (Std.ExtTreeMap.mem_keys.2 (Std.ExtTreeMap.mem_iff_isSome_getElem?.2 hkey))⟩

theorem nodup_places (tables : SubTables) : tables.places.Nodup := by
  rw [places, List.nodup_flatMap]
  constructor
  · intro row _
    exact Std.ExtTreeMap.nodup_keys.map fun _ _ h => (Prod.mk.inj h).2
  · -- Different sub-tables have different parents.
    refine Std.ExtTreeMap.distinct_keys_toList.imp fun {row other} hne => ?_
    show List.Disjoint _ _
    intro place hplace hother
    obtain ⟨key, -, rfl⟩ := List.mem_map.1 hplace
    obtain ⟨key', -, hpair⟩ := List.mem_map.1 hother
    have hparent : other.1 = row.1 := (Prod.mk.inj hpair).1
    exact hne (hparent ▸ Std.ReflCmp.compare_self)

theorem length_places (tables : SubTables) : tables.places.length = tables.nameCount := by
  rw [places, nameCount, List.length_flatMap, List.sum_eq_foldl, List.foldl_map,
    Std.ExtTreeMap.foldl_eq_foldl_toList]
  simp only [List.length_map, Std.ExtTreeMap.length_keys]

theorem nameCount_eq_card {places : Finset (String × String)}
    (h : ∀ place, (tables.name? place.1 place.2).isSome ↔ place ∈ places) :
    tables.nameCount = places.card := by
  have hplaces : tables.places.toFinset = places := by
    ext place
    rw [List.mem_toFinset, mem_places, h]
  rw [← hplaces, List.toFinset_card_of_nodup tables.nodup_places, length_places]

end SubTables

/-! ### The records of a history -/

namespace Entry

variable {kind : Kind} {d e : Entry}

theorem keyAs?_eq_some_iff {key : String} :
    e.keyAs? kind = some key ↔ e.kind = kind ∧ e.key = key := by
  simp [keyAs?]

theorem scopedKeyAs?_eq_some_iff {place : String × String} :
    e.scopedKeyAs? kind = some place ↔
      e.kind = kind ∧ e.parent = some place.1 ∧ e.key = place.2 := by
  simp [scopedKeyAs?, Prod.ext_iff]

theorem SameRecord.keyAs?_eq (h : d.SameRecord e) (kind : Kind) :
    d.keyAs? kind = e.keyAs? kind := by
  rw [keyAs?, keyAs?, h.kind, h.key]

theorem SameRecord.scopedKeyAs?_eq (h : d.SameRecord e)
    (hkind : kind = .device ∨ kind = .subsystem) : d.scopedKeyAs? kind = e.scopedKeyAs? kind := by
  rw [scopedKeyAs?, scopedKeyAs?, h.kind, h.key]
  by_cases he : e.kind = kind
  · rw [if_pos he, if_pos he, h.parent (he ▸ hkind)]
  · rw [if_neg he, if_neg he]

end Entry

section Values

variable {α : Type} [DecidableEq α] {f : Entry → Option α}

theorem mem_valuesOf {history : List Entry} {a : α} :
    a ∈ valuesOf f history ↔ ∃ e ∈ history, f e = some a := by
  rw [valuesOf, List.mem_toFinset, List.mem_filterMap]

theorem valuesOf_append (f : Entry → Option α) (front back : List Entry) :
    valuesOf f (front ++ back) = valuesOf f front ∪ valuesOf f back := by
  rw [valuesOf, List.filterMap_append, List.toFinset_append, valuesOf, valuesOf]

/-- Further entries take no value away and add one each at most, those of other kinds none. -/
theorem card_valuesOf_append {kind : Kind} (hkind : ∀ {e a}, f e = some a → e.kind = kind)
    (front back : List Entry) :
    (valuesOf f front).card ≤ (valuesOf f (front ++ back)).card ∧
      (valuesOf f (front ++ back)).card ≤
        (valuesOf f front).card + back.countP fun e => e.kind = kind := by
  have hsome : ∀ e, (f e).isSome → e.kind = kind := by
    intro e he
    obtain ⟨a, ha⟩ := Option.isSome_iff_exists.1 he
    exact hkind ha
  have hback : (valuesOf f back).card ≤ back.countP fun e => e.kind = kind :=
    calc
      (valuesOf f back).card ≤ (back.filterMap f).length := List.toFinset_card_le _
      _ = back.countP fun e => (f e).isSome := List.length_filterMap_eq_countP
      _ ≤ back.countP fun e => e.kind = kind :=
        List.countP_mono_left fun e _ he => decide_eq_true (hsome e he)
  rw [valuesOf_append]
  exact ⟨Finset.card_le_card Finset.subset_union_left,
    (Finset.card_union_le _ _).trans (Nat.add_le_add_left hback _)⟩

/-- An entry with the value of an earlier one adds nothing. -/
theorem valuesOf_insert_of_mem {d e : Entry} {front : List Entry} (hd : d ∈ front) (h : f d = f e)
    (back : List Entry) : valuesOf f (front ++ e :: back) = valuesOf f (front ++ back) := by
  have hold : valuesOf f [e] ⊆ valuesOf f front := by
    intro a ha
    obtain ⟨e', he', hvalue⟩ := mem_valuesOf.1 ha
    obtain rfl := List.mem_singleton.1 he'
    exact mem_valuesOf.2 ⟨d, hd, h.trans hvalue⟩
  rw [← List.singleton_append, ← List.append_assoc, valuesOf_append, valuesOf_append f front,
    Finset.union_eq_left.2 hold, valuesOf_append]

end Values

/-- Every entry has one of the six kinds. -/
theorem sum_countP_kind (history : List Entry) :
    (history.countP fun e => e.kind = .vendor) + (history.countP fun e => e.kind = .device) +
      (history.countP fun e => e.kind = .subsystem) +
      (history.countP fun e => e.kind = .baseClass) +
      (history.countP fun e => e.kind = .subclass) + (history.countP fun e => e.kind = .progIf) =
      history.length := by
  induction history with
  | nil => rfl
  | cons e rest ih =>
    cases h : e.kind <;> simp [h] <;> omega

namespace Counts

/-- With further entries no count falls, and each rises by the number of entries of its kind at
most. -/
theorem of_distinct_append (kind : Kind) (front back : List Entry) :
    (distinct front).of kind ≤ (distinct (front ++ back)).of kind ∧
      (distinct (front ++ back)).of kind ≤
        (distinct front).of kind + back.countP fun e => e.kind = kind := by
  cases kind with
  | device | subsystem =>
    exact card_valuesOf_append (fun h => (Entry.scopedKeyAs?_eq_some_iff.1 h).1) front back
  | vendor | baseClass | subclass | progIf =>
    exact card_valuesOf_append (fun h => (Entry.keyAs?_eq_some_iff.1 h).1) front back

theorem total_distinct_append_le (front back : List Entry) :
    (distinct (front ++ back)).total ≤ (distinct front).total + back.length := by
  have hkind := fun kind => (of_distinct_append kind front back).2
  have hvendors := hkind .vendor
  have hdevices := hkind .device
  have hsubsystems := hkind .subsystem
  have hclasses := hkind .baseClass
  have hsubclasses := hkind .subclass
  have hprogIfs := hkind .progIf
  have hlength := sum_countP_kind back
  simp only [of] at hvendors hdevices hsubsystems hclasses hsubclasses hprogIfs
  simp only [total]
  omega

/-- A record that was there before is not counted again. -/
theorem distinct_insert_of_sameRecord {d e : Entry} {front : List Entry} (hd : d ∈ front)
    (h : d.SameRecord e) (back : List Entry) :
    distinct (front ++ e :: back) = distinct (front ++ back) := by
  simp only [distinct, valuesOf_insert_of_mem hd (h.keyAs?_eq _),
    valuesOf_insert_of_mem hd (h.scopedKeyAs?_eq (.inl rfl)),
    valuesOf_insert_of_mem hd (h.scopedKeyAs?_eq (.inr rfl))]

end Counts

namespace Database

/-- A slot holds a name when an entry wrote it, or when it held one before. -/
theorem has_addAll {db : Database} {history : List Entry} {s : Slot} :
    (db.addAll history).Has s ↔ (∃ e ∈ history, e.slot? = some s) ∨ db.Has s := by
  induction history generalizing db with
  | nil => simp
  | cons e rest ih =>
    rw [addAll_cons, ih, has_add, List.exists_mem_cons_iff, or_left_comm, or_assoc]

theorem has_empty_addAll {history : List Entry} {s : Slot} :
    (empty.addAll history).Has s ↔ ∃ e ∈ history, e.slot? = some s := by
  have hempty : ¬ empty.Has s := by
    show ¬ (find? ∅ s).isSome
    simp
  rw [has_addAll, or_iff_left hempty]

/-- The keys of a table are those of the entries of its kind. -/
theorem has_iff_mem_keys {slot : String → Slot} {kind : Kind}
    (hslot : ∀ {e : Entry} {key : String}, e.slot? = some (slot key) ↔ e.kind = kind ∧ e.key = key)
    (history : List Entry) (key : String) :
    (empty.addAll history).Has (slot key) ↔ key ∈ valuesOf (Entry.keyAs? kind) history := by
  simp only [has_empty_addAll, mem_valuesOf, Entry.keyAs?_eq_some_iff, hslot]

/-- The places in sub-tables are those of the entries of their kind. -/
theorem has_iff_mem_places {slot : String → String → Slot} {kind : Kind}
    (hslot : ∀ {e : Entry} {parent key : String}, e.slot? = some (slot parent key) ↔
      e.kind = kind ∧ e.parent = some parent ∧ e.key = key)
    (history : List Entry) (place : String × String) :
    (empty.addAll history).Has (slot place.1 place.2) ↔
      place ∈ valuesOf (Entry.scopedKeyAs? kind) history := by
  simp only [has_empty_addAll, mem_valuesOf, Entry.scopedKeyAs?_eq_some_iff, hslot]

theorem counts_empty_addAll (history : List Entry) :
    (empty.addAll history).counts = Counts.distinct history := by
  rw [counts, Counts.distinct, Counts.mk.injEq]
  exact ⟨Table.size_eq_card (has_iff_mem_keys Entry.slot?_eq_vendor_iff history),
    SubTables.nameCount_eq_card (has_iff_mem_places Entry.slot?_eq_device_iff history),
    SubTables.nameCount_eq_card (has_iff_mem_places Entry.slot?_eq_subsystem_iff history),
    Table.size_eq_card (has_iff_mem_keys Entry.slot?_eq_baseClass_iff history),
    Table.size_eq_card (has_iff_mem_keys Entry.slot?_eq_subclass_iff history),
    Table.size_eq_card (has_iff_mem_keys Entry.slot?_eq_progIf_iff history)⟩

/-- Counts are numbers of distinct records.  In a database that some lists of entries were added to,
the count of each kind is the number of different records of the kind: of keys, or of pairs of a
parent and a key for devices and subsystems, where entries without a parent do not count.  So with
another list of entries no count falls and the total rises by the length of the list at most, and an
entry that repeats a record from before it, under whatever name, makes no difference. -/
theorem counts_are_distinct_records :
    (∀ calls : List (List Entry),
      (calls.foldl addAll empty).counts = Counts.distinct calls.flatten) ∧
    (∀ (calls : List (List Entry)) (entries : List Entry) (kind : Kind),
      (calls.foldl addAll empty).counts.of kind ≤
        ((calls.foldl addAll empty).addAll entries).counts.of kind) ∧
    (∀ (calls : List (List Entry)) (entries : List Entry),
      ((calls.foldl addAll empty).addAll entries).counts.total ≤
        (calls.foldl addAll empty).counts.total + entries.length) ∧
    (∀ (calls : List (List Entry)) (front back : List Entry) (d e : Entry),
      d ∈ calls.flatten ++ front → d.SameRecord e →
        ((calls.foldl addAll empty).addAll (front ++ e :: back)).counts =
          ((calls.foldl addAll empty).addAll (front ++ back)).counts) := by
  have hcalls : ∀ calls : List (List Entry),
      (calls.foldl addAll empty).counts = Counts.distinct calls.flatten := by
    intro calls
    rw [foldl_addAll, counts_empty_addAll]
  have hcall : ∀ (calls : List (List Entry)) (entries : List Entry),
      ((calls.foldl addAll empty).addAll entries).counts =
        Counts.distinct (calls.flatten ++ entries) := by
    intro calls entries
    rw [foldl_addAll, ← addAll_append, counts_empty_addAll]
  refine ⟨hcalls, ?_, ?_, ?_⟩
  · intro calls entries kind
    rw [hcalls, hcall]
    exact (Counts.of_distinct_append kind calls.flatten entries).1
  · intro calls entries
    rw [hcalls, hcall]
    exact Counts.total_distinct_append_le calls.flatten entries
  · intro calls front back d e hd hsame
    rw [hcall, hcall, ← List.append_assoc, ← List.append_assoc]
    exact Counts.distinct_insert_of_sameRecord hd hsame back

/-- A vendor, two devices with one key under different vendors, and a device without a parent. -/
def sharedDevice : List Entry :=
  [⟨.vendor, "8086", "Intel", none⟩, ⟨.device, "1533", "I210", some "8086"⟩,
    ⟨.device, "1533", "Other", some "10ec"⟩, ⟨.device, "1533", "Orphan", none⟩]

theorem counts_of_sharedDevice :
    ([sharedDevice].foldl addAll empty).counts = ⟨1, 2, 0, 0, 0, 0⟩ ∧
      Entry.SameRecord ⟨.vendor, "8086", "Intel", none⟩
        ⟨.vendor, "8086", "Intel Corporation", none⟩ ∧
      (([sharedDevice].foldl addAll empty).addAll
        [⟨.vendor, "8086", "Intel Corporation", none⟩]).counts = ⟨1, 2, 0, 0, 0, 0⟩ := by
  obtain ⟨hcounts, -, -, hrepeat⟩ := counts_are_distinct_records
  have hstart : ([sharedDevice].foldl addAll empty).counts = ⟨1, 2, 0, 0, 0, 0⟩ := by
    rw [hcounts]
    decide +kernel
  have hmem : (⟨.vendor, "8086", "Intel", none⟩ : Entry) ∈ [sharedDevice].flatten ++ [] := by
    decide
  have hsame : Entry.SameRecord ⟨.vendor, "8086", "Intel", none⟩
      ⟨.vendor, "8086", "Intel Corporation", none⟩ := ⟨rfl, rfl, fun _ => rfl⟩
  exact ⟨hstart, hsame, (hrepeat [sharedDevice] [] [] _ _ hmem hsame).trans hstart⟩

end Database
end PciCatalog
