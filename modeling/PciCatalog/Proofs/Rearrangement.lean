import PciCatalog.Proofs.Blocks
import PciCatalog.Proofs.Extensionality
import Mathlib.Data.List.FinRange

/-!
# The order of blocks

The blocks of a names file may stand in any order, as long as blocks that give a name to the same
thing keep theirs: the file loads into the same database.  What a slot holds is decided by the
entries that write it, and those stand in blocks whose order is kept.
-/

namespace PciCatalog

/-- `other` has the items of a list in another order, in which any two that clash still stand in the
order that they had. -/
def Rearranged {α : Type} (clash : α → α → Prop) (items other : List α) : Prop :=
  ∃ order : List (Fin items.length), order.Perm (List.finRange items.length) ∧
    other = order.map items.get ∧
    order.Pairwise fun i j => clash (items.get i) (items.get j) → i < j

namespace Rearranged

variable {α : Type} {clash : α → α → Prop} {items other : List α}

/-- Items that clash among each other keep their order. -/
theorem filter_eq (h : Rearranged clash items other) (p : α → Prop) [DecidablePred p]
    (hclash : ∀ a b, p a → p b → clash a b) : other.filter p = items.filter p := by
  obtain ⟨order, hperm, rfl, hkept⟩ := h
  have hsorted : (order.filter fun i => p (items.get i)).Pairwise (· < ·) := by
    refine (hkept.filter _).imp_of_mem ?_
    intro i j hi hj hij
    rw [List.mem_filter, decide_eq_true_eq] at hi hj
    exact hij (hclash _ _ hi.2 hj.2)
  have hbase : ((List.finRange items.length).filter fun i => p (items.get i)).Pairwise (· < ·) :=
    (List.pairwise_lt_finRange items.length).filter _
  -- The places of these items are the same and in increasing order on both sides.
  have hindices : (order.filter fun i => p (items.get i)) =
      (List.finRange items.length).filter fun i => p (items.get i) :=
    (hperm.filter _).eq_of_pairwise (fun i j _ _ hij hji => absurd hij hji.asymm) hsorted hbase
  calc
    (order.map items.get).filter p = (order.filter fun i => p (items.get i)).map items.get :=
      List.filter_map
    _ = ((List.finRange items.length).map items.get).filter p := by
      rw [hindices, List.filter_map]
      rfl
    _ = items.filter p := by rw [List.map_get_finRange]

/-- Items without the property that make nothing can be left out. -/
theorem flatMap_filter_of_nil {β : Type} (p : α → Prop) [DecidablePred p] {f : α → List β}
    (h : ∀ a, ¬ p a → f a = []) (items : List α) :
    (items.filter p).flatMap f = items.flatMap f := by
  induction items with
  | nil => rfl
  | cons a rest ih =>
    by_cases ha : p a
    · rw [List.filter_cons_of_pos (by simpa using ha), List.flatMap_cons, List.flatMap_cons, ih]
    · rw [List.filter_cons_of_neg (by simpa using ha), List.flatMap_cons, h a ha, ih,
        List.nil_append]

end Rearranged

/-- The slots that some entries write. -/
def writtenSlots (entries : List Entry) : List Slot :=
  entries.filterMap Entry.slot?

/-- Items that make entries, in an order in which items that write a common slot stand as before,
fill the same database. -/
theorem Database.addAll_eq_of_rearranged {α : Type} (make : α → List Entry) {items other : List α}
    (h : Rearranged (fun a b => ∃ s ∈ writtenSlots (make a), s ∈ writtenSlots (make b))
      items other) :
    empty.addAll (items.flatMap make) = empty.addAll (other.flatMap make) := by
  apply addAll_eq_of_lastName?
  intro s
  have hfilter := h.filter_eq (fun a => s ∈ writtenSlots (make a)) fun a b ha hb => ⟨s, ha, hb⟩
  -- An item that does not write the slot has no entry that counts.
  have hnone : ∀ a, ¬ s ∈ writtenSlots (make a) →
      (make a).filter (fun e => e.slot? = some s) = [] := by
    intro a ha
    rw [List.filter_eq_nil_iff]
    intro e he hslot
    exact ha (List.mem_filterMap.2 ⟨e, he, by simpa using hslot⟩)
  have hentries : (items.flatMap make).filter (fun e => e.slot? = some s) =
      (other.flatMap make).filter fun e => e.slot? = some s := by
    rw [List.filter_flatMap, List.filter_flatMap,
      ← Rearranged.flatMap_filter_of_nil _ hnone items,
      ← Rearranged.flatMap_filter_of_nil _ hnone other, hfilter]
  rw [lastName?, lastName?, hentries]

/-- Whether two blocks write a common slot. -/
def Block.Clash (b other : Block) : Prop :=
  ∃ s ∈ writtenSlots b.entries, s ∈ writtenSlots other.entries

instance (b other : Block) : Decidable (b.Clash other) :=
  inferInstanceAs (Decidable (∃ s ∈ writtenSlots b.entries, s ∈ writtenSlots other.entries))

/-- Equal databases, which give equal answers and have equal counts. -/
structure Database.Alike (db other : Database) : Prop where
  same : db = other
  answers : ∀ q : Query, q.answer db = q.answer other
  counts : db.counts = other.counts

theorem Database.alike_of_eq {db other : Database} (h : db = other) : db.Alike other :=
  ⟨h, fun _ => by rw [h], by rw [h]⟩

/-- A line of a vendor or class makes the lines from it on independent of what was read before: the
block that it starts has the same entries in every context.  The blocks of a names file can
therefore be rearranged, as long as any two that write a common slot keep their order; the lines in
the new order fill an equal database, and so do the files that are put together from the blocks. -/
theorem rearranged_blocks_load_alike :
    (∀ (b : Block) (c other : Context), c.entries b.lines = other.entries b.lines) ∧
    (∀ blocks other : List Block, Rearranged Block.Clash blocks other →
      (Database.empty.addAll (({} : Context).entries (blocks.flatMap Block.lines))).Alike
        (Database.empty.addAll (({} : Context).entries (other.flatMap Block.lines)))) ∧
    ∀ parts other : List FilePart,
      Rearranged (fun p q => p.block.Clash q.block) parts other →
        (Database.ofFile (parts.flatMap FilePart.bytes)).Alike
          (Database.ofFile (other.flatMap FilePart.bytes)) := by
  refine ⟨Block.entries_lines, ?_, ?_⟩
  · intro blocks other h
    apply Database.alike_of_eq
    rw [Block.entries_flatMap_lines, Block.entries_flatMap_lines]
    exact Database.addAll_eq_of_rearranged Block.entries h
  · intro parts other h
    apply Database.alike_of_eq
    rw [Database.ofFile, Database.ofFile, FilePart.entries_flatMap_bytes,
      FilePart.entries_flatMap_bytes]
    exact Database.addAll_eq_of_rearranged (fun p : FilePart => p.block.entries) h

/-- A vendor with a device. -/
def intelPart : FilePart where
  bytes := "8086  Intel\n\t1533  I210\n".toUTF8.data.toList
  block := ⟨"8086  Intel".toList, ["\t1533  I210".toList], {}, { vendor := "8086" },
    { kind := .vendor, key := "8086", name := "Intel" }, by decide +kernel⟩
  lines_eq := by decide +kernel
  closed := by decide +kernel

/-- A class with a subclass, on lines that end with CR. -/
def networkPart : FilePart where
  bytes := "C 02  Network\r\t00  Ethernet\r".toUTF8.data.toList
  block := ⟨"C 02  Network".toList, ["\t00  Ethernet".toList], {},
    { baseClass := "02", inClass := true },
    { kind := .baseClass, key := "02", name := "Network" }, by decide +kernel⟩
  lines_eq := by decide +kernel
  closed := by decide +kernel

/-- Another name for the vendor. -/
def renamingPart : FilePart where
  bytes := "0x8086  Intel Corporation\n".toUTF8.data.toList
  block := ⟨"0x8086  Intel Corporation".toList, [], {}, { vendor := "8086" },
    { kind := .vendor, key := "8086", name := "Intel Corporation" }, by decide +kernel⟩
  lines_eq := by decide +kernel
  closed := by decide +kernel

theorem rearranged_sample_loads_alike :
    Rearranged (fun p q => p.block.Clash q.block) [intelPart, networkPart, renamingPart]
        [networkPart, intelPart, renamingPart] ∧
      intelPart.block.Clash renamingPart.block ∧
      (Database.ofFile ([intelPart, networkPart, renamingPart].flatMap FilePart.bytes)).Alike
        (Database.ofFile ([networkPart, intelPart, renamingPart].flatMap FilePart.bytes)) := by
  have hrearranged : Rearranged (fun p q => p.block.Clash q.block)
      [intelPart, networkPart, renamingPart] [networkPart, intelPart, renamingPart] :=
    ⟨[1, 0, 2], by decide, rfl, by decide +kernel⟩
  exact ⟨hrearranged, by decide +kernel, rearranged_blocks_load_alike.2.2 _ _ hrearranged⟩

end PciCatalog
