import PciCatalog.Proofs.GpuReports

/-!
# The names of GPUs

A look-up answers a number that has no entry with the number's own text, so a GPU whose numbers have
no entry is recognised by the answer alone.  This is no guess: the answer is that text for every
number, negative or too long for its width, since the normal form takes back what the text of a
number was padded and marked with.  Main statement: the GPUs are a selection of the devices, each
with the names that the entries give it (`gpus_are_selected_and_named`).
-/

namespace PciCatalog

/-- The text of a number without its mark. -/
def Hexadecimal.unmarked (width : Nat) (n : Int) : String :=
  String.ofList (padded width n)

open Hexadecimal (unmarked)

/-- A list that is filtered and mapped at once is a selection, when the property is the one that is
filtered by. -/
theorem selection_filterMap {α β : Type} {p : α → Prop} {r : α → β → Prop} {f : α → Option β}
    (hkeep : ∀ a b, f a = some b → p a ∧ r a b) (hskip : ∀ a, f a = none → ¬ p a)
    (items : List α) : Selection p r items (items.filterMap f) := by
  induction items with
  | nil => exact .nil
  | cons a items ih =>
    cases hfound : f a with
    | none =>
      rw [List.filterMap_cons_none hfound]
      exact .skip (hskip a hfound) ih
    | some b =>
      rw [List.filterMap_cons_some hfound]
      obtain ⟨hselected, hrelated⟩ := hkeep a b hfound
      exact .keep hselected hrelated ih

/-- There is one selection when each item has one partner. -/
theorem Selection.unique {α β : Type} {p : α → Prop} {r : α → β → Prop}
    (hr : ∀ a b b', r a b → r a b' → b = b') {items : List α} {chosen chosen' : List β}
    (h : Selection p r items chosen) (h' : Selection p r items chosen') : chosen = chosen' := by
  induction h generalizing chosen' with
  | nil => cases h' with
    | nil => rfl
  | skip hnot _ ih => cases h' with
    | skip _ rest => exact ih rest
    | keep hselected _ _ => exact absurd hselected hnot
  | keep hselected hrelated _ ih => cases h' with
    | skip hnot _ => exact absurd hselected hnot
    | keep _ hrelated' rest => rw [hr _ _ _ hrelated hrelated', ih rest]

/-- Whether a device counts as a GPU: its class has base class 3, and its vendor is listed as a
maker of GPUs and not as one of server management controllers. -/
def GpuFilter.Selects (f : GpuFilter) (d : Device) : Prop :=
  d.classCode >>> (16 : Nat) = 3 ∧ d.vendorId ∈ f.vendors ∧ d.vendorId ∉ f.bmcVendors

/-- A name for a number: that of its entry in the database, if there is a database and an entry, and
the entry is not empty and says more than the number; another name otherwise. -/
inductive Named (db : Option Database) (slot : Slot) (bare other : String) : String → Prop
  | entry {table : Database} {name : String} (database : db = some table)
      (found : table.find? slot = some name) (nonempty : name ≠ "") (own : name ≠ bare) :
      Named db slot bare other name
  | otherwise (missing : ∀ table, db = some table → ∀ name, table.find? slot = some name →
      name = "" ∨ name = bare) : Named db slot bare other other

/-- There is one name. -/
theorem Named.unique {db : Option Database} {slot : Slot} {bare other name name' : String}
    (h : Named db slot bare other name) (h' : Named db slot bare other name') : name = name' := by
  cases h with
  | entry hdb hfound hnonempty hown => cases h' with
    | entry hdb' hfound' _ _ =>
      obtain rfl := Option.some.inj (hdb.symm.trans hdb')
      exact Option.some.inj (hfound.symm.trans hfound')
    | otherwise hmissing => exact absurd (hmissing _ hdb _ hfound) (not_or.2 ⟨hnonempty, hown⟩)
  | otherwise hmissing => cases h' with
    | entry hdb hfound hnonempty hown =>
      exact absurd (hmissing _ hdb _ hfound) (not_or.2 ⟨hnonempty, hown⟩)
    | otherwise _ => rfl

/-- A GPU that is described by its device, the entries for its numbers and the listed name of its
vendor. -/
structure Gpu.Describes (db : Option Database) (f : GpuFilter) (d : Device) (g : Gpu) : Prop where
  id : g.id = d.address
  vendorText : g.vendorText = d.vendorText
  deviceText : g.deviceText = d.deviceText
  vendor : ∃ maker, f.vendors[d.vendorId]? = some maker ∧
    Named db (.vendor (unmarked 4 d.vendorId)) (unmarked 4 d.vendorId) maker g.vendor
  model : Named db (.device (unmarked 4 d.vendorId) (unmarked 4 d.deviceId))
    (unmarked 4 d.deviceId) d.deviceText g.model

/-- A device describes one GPU. -/
theorem Gpu.Describes.unique {db : Option Database} {f : GpuFilter} {d : Device} {g g' : Gpu}
    (h : Describes db f d g) (h' : Describes db f d g') : g = g' := by
  obtain ⟨maker, hmaker, hvendor⟩ := h.vendor
  obtain ⟨maker', hmaker', hvendor'⟩ := h'.vendor
  obtain rfl := Option.some.inj (hmaker.symm.trans hmaker')
  have hid := h.id.trans h'.id.symm
  have hvendorText := h.vendorText.trans h'.vendorText.symm
  have hdeviceText := h.deviceText.trans h'.deviceText.symm
  cases g
  cases g'
  rw [Gpu.mk.injEq]
  exact ⟨hid, hvendor.unique hvendor', h.model.unique h'.model, hvendorText, hdeviceText⟩

namespace Database

variable (db : Database) (d : Device)

/-- The answer for a vendor is its entry, or else the text of its number. -/
theorem vendorName_vendorText : db.vendorName d.vendorText =
    (db.find? (.vendor (unmarked 4 d.vendorId))).getD (unmarked 4 d.vendorId) := by
  rw [vendorName, Device.vendorText, Hexadecimal.normalize_marked]
  rfl

/-- The answer for a device is its entry, or else the text of its number. -/
theorem deviceName_deviceText : db.deviceName d.vendorText d.deviceText =
    (db.find? (.device (unmarked 4 d.vendorId) (unmarked 4 d.deviceId))).getD
      (unmarked 4 d.deviceId) := by
  rw [deviceName, Device.vendorText, Device.deviceText, Hexadecimal.normalize_marked,
    Hexadecimal.normalize_marked]
  rfl

end Database

namespace Gpu

variable {db : Option Database} {f : GpuFilter} {d : Device}

/-- A name counts unless it is empty or the text of the number. -/
theorem ownName?_marked (name : String) (n : Int) : ownName? name (Hexadecimal.marked 4 n) =
    if name = "" ∨ name = unmarked 4 n then none else some name := by
  have htext : (Hexadecimal.marked 4 n).toList.drop 2 = (unmarked 4 n).toList := by
    rw [Hexadecimal.marked, String.toList_ofList, unmarked, String.toList_ofList]
    rfl
  simp [ownName?, htext, String.toList_inj]

/-- What becomes of the answer to a look-up is the name of the entry or the other one. -/
theorem named_getD (db : Option Database) (slot : Slot) (n : Int) (other : String) :
    Named db slot (unmarked 4 n) other
      (((db.map fun table => (table.find? slot).getD (unmarked 4 n)).bind
        (ownName? · (Hexadecimal.marked 4 n))).getD other) := by
  cases db with
  | none => exact .otherwise fun _ h => nomatch h
  | some table =>
    -- A name that is empty or just the number again does not count as one.
    rw [Option.map_some, Option.bind_some, ownName?_marked]
    cases hfound : table.find? slot with
    | none =>
      rw [Option.getD_none, if_pos (.inr rfl), Option.getD_none]
      refine .otherwise ?_
      rintro _ ⟨⟩ name hname
      rw [hfound] at hname
      contradiction
    | some name =>
      rw [Option.getD_some]
      by_cases hidle : name = "" ∨ name = unmarked 4 n
      · rw [if_pos hidle, Option.getD_none]
        refine .otherwise ?_
        rintro _ ⟨⟩ name' hname'
        rw [hfound] at hname'
        obtain rfl := Option.some.inj hname'
        exact hidle
      · rw [if_neg hidle, Option.getD_some]
        rw [not_or] at hidle
        exact .entry rfl hfound hidle.1 hidle.2

/-- Without an entry, the answer does not count. -/
theorem ownName?_of_missing {table : Database} {slot : Slot} (n : Int)
    (h : table.find? slot = none) :
    ownName? ((table.find? slot).getD (unmarked 4 n)) (Hexadecimal.marked 4 n) = none := by
  rw [h, Option.getD_none, ownName?_marked, if_pos (.inr rfl)]

theorem selects_iff : f.Selects d ↔ (d.isDisplayController && f.accepts d.vendorId) = true := by
  rw [GpuFilter.Selects, Int.shiftRight_eq_div_pow, Bool.and_eq_true, GpuFilter.accepts_iff,
    Device.isDisplayController, beq_iff_eq]
  rfl

/-- The GPU of a device is described by the device. -/
theorem describes_of_ofDevice? {g : Gpu} (h : ofDevice? db f d = some g) :
    f.Selects d ∧ Describes db f d g := by
  rw [ofDevice?, Option.ite_none_right_eq_some] at h
  obtain ⟨hselects, hgpu⟩ := h
  obtain rfl := Option.some.inj hgpu
  rw [← selects_iff] at hselects
  obtain ⟨maker, hmaker⟩ : ∃ maker, f.vendors[d.vendorId]? = some maker :=
    ⟨_, Std.ExtTreeMap.getElem?_eq_some_getElem hselects.2.1⟩
  refine ⟨hselects, rfl, rfl, rfl, ⟨maker, hmaker, ?_⟩, ?_⟩
  · show Named _ _ _ _ (vendorOf d db f)
    simp only [vendorOf, hmaker, Option.getD_some, Database.vendorName_vendorText]
    exact named_getD db _ d.vendorId maker
  · show Named _ _ _ _ (modelOf d db)
    simp only [modelOf, Database.deviceName_deviceText]
    exact named_getD db _ d.deviceId d.deviceText

/-- A database that has entries neither for the vendor nor for the device does without. -/
theorem ofDevice?_of_missing {table : Database}
    (hvendor : table.find? (.vendor (unmarked 4 d.vendorId)) = none)
    (hdevice : table.find? (.device (unmarked 4 d.vendorId) (unmarked 4 d.deviceId)) = none) :
    ofDevice? (some table) f d = ofDevice? none f d := by
  have hvendorName : ownName? (table.vendorName d.vendorText) d.vendorText = none := by
    rw [Database.vendorName_vendorText]
    exact ownName?_of_missing d.vendorId hvendor
  have hmodelName : ownName? (table.deviceName d.vendorText d.deviceText) d.deviceText = none := by
    rw [Database.deviceName_deviceText]
    exact ownName?_of_missing d.deviceId hdevice
  simp only [ofDevice?, vendorOf, modelOf, Option.map_some, Option.bind_some, hvendorName,
    hmodelName, Option.map_none, Option.bind_none]

/-- The GPUs among any devices, whatever integers their numbers are, are those that the filter
selects, in the order of the devices and as often as they occur.  The vendor of each has the name of
its entry, when there is a database with such an entry that is not empty and says more than the
number, and otherwise the listed name; the model has the name of its entry under the same condition,
and otherwise the text of its number.  So a device whose vendor and device have no entries is the
same GPU as without a database. -/
theorem gpus_are_selected_and_named (db : Option Database) (f : GpuFilter)
    (devices : List Device) :
    (∀ gpus, Selection f.Selects (Describes db f) devices gpus ↔ gpus = identify db f devices) ∧
    ∀ (table : Database) (front back : List Device) (d : Device),
      table.find? (.vendor (unmarked 4 d.vendorId)) = none →
      table.find? (.device (unmarked 4 d.vendorId) (unmarked 4 d.deviceId)) = none →
        identify (some table) f (front ++ d :: back) =
          identify (some table) f front ++ identify none f [d] ++ identify (some table) f back := by
  constructor
  · have hselection : Selection f.Selects (Describes db f) devices (identify db f devices) := by
      refine selection_filterMap (fun d g h => describes_of_ofDevice? h) ?_ devices
      intro d h
      rw [selects_iff]
      intro hselects
      rw [ofDevice?, if_pos hselects] at h
      contradiction
    intro gpus
    constructor
    · intro hgpus
      have hunique : ∀ d g g', Describes db f d g → Describes db f d g' → g = g' :=
        fun _ _ _ h h' => h.unique h'
      exact hgpus.unique hunique hselection
    · rintro rfl
      exact hselection
  · intro table front back d hvendor hdevice
    have hone : identify (some table) f [d] = identify none f [d] := by
      simp only [identify, List.filterMap_cons, ofDevice?_of_missing hvendor hdevice,
        List.filterMap_nil]
    rw [← hone, ← List.singleton_append, identify, List.filterMap_append, List.filterMap_append,
      List.append_assoc]
    rfl

/-- A database with one vendor. -/
def oneVendor : Database :=
  Database.empty.set "NVIDIA" (.vendor "10de")

/-- A GPU of another vendor, with a negative number. -/
def unknownGpu : Device where
  address := "0000:02:00.0"
  vendorId := 0x1002
  deviceId := -1
  classCode := 0x38000

theorem unknownGpu_is_named :
    oneVendor.find? (.vendor (unmarked 4 unknownGpu.vendorId)) = none ∧
      oneVendor.find? (.device (unmarked 4 unknownGpu.vendorId) (unmarked 4 unknownGpu.deviceId)) =
        none ∧
      identify (some oneVendor) .standard [Command.onlyGpu, unknownGpu, Command.onlyGpu] =
        identify (some oneVendor) .standard [Command.onlyGpu] ++
          identify none .standard [unknownGpu] ++
          identify (some oneVendor) .standard [Command.onlyGpu] ∧
      (identify (some oneVendor) .standard
        [Command.onlyGpu, unknownGpu, Command.onlyGpu]).map (fun g => (g.vendor, g.model)) =
          [("NVIDIA", "0x2204"), ("AMD/ATI", "0x-001"), ("NVIDIA", "0x2204")] := by
  have hvendor : oneVendor.find? (.vendor (unmarked 4 unknownGpu.vendorId)) = none := by
    decide +kernel
  have hdevice : oneVendor.find? (.device (unmarked 4 unknownGpu.vendorId)
      (unmarked 4 unknownGpu.deviceId)) = none := by decide +kernel
  have hall := gpus_are_selected_and_named (some oneVendor) .standard [Command.onlyGpu]
  exact ⟨hvendor, hdevice,
    hall.2 oneVendor [Command.onlyGpu] [Command.onlyGpu] unknownGpu hvendor hdevice,
    by decide +kernel⟩

end Gpu
end PciCatalog
