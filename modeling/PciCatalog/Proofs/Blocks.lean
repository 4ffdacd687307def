import PciCatalog.Proofs.CutLines
import PciCatalog.Proofs.Step

/-!
# Blocks

A block is a run of lines of which the first names a vendor or a class.  Such a line closes whatever
came before it: what the context still holds of older sections has no say any more.  Main
statements: the entries of a block are the same in every context, and a file that is put together
from blocks has the entries of its blocks, one block after the other.
-/

namespace PciCatalog

namespace Context

/-- Two contexts in one section.  What they hold of sections of the other kind may differ. -/
inductive Agree (c other : Context) : Prop
  | vendor (vendorSection : c.inClass = false) (vendorSection' : other.inClass = false)
      (vendor : c.vendor = other.vendor) (device : c.device = other.device)
  | baseClass (classSection : c.inClass = true) (classSection' : other.inClass = true)
      (baseClass : c.baseClass = other.baseClass) (subclass : c.subclass = other.subclass)

namespace Agree

variable {c other next : Context} {text : List Char} {entry : Entry}

theorem symm (h : c.Agree other) : other.Agree c := by
  cases h with
  | vendor hc hother vendor device => exact .vendor hother hc vendor.symm device.symm
  | baseClass hc hother baseClass subclass =>
    exact .baseClass hother hc baseClass.symm subclass.symm

/-- A step from one of two agreeing contexts is a step from the other one too, with the same
entry. -/
theorem step (h : c.Agree other) (hstep : c.Step text next entry) :
    ∃ next', other.Step text next' entry ∧ next.Agree next' := by
  -- Which constructor of agreement applies is settled by the section that the step is in.
  cases hstep with
  | baseClass reads => exact ⟨_, .baseClass reads, .baseClass rfl rfl rfl rfl⟩
  | vendor reads => exact ⟨_, .vendor reads, .vendor rfl rfl rfl rfl⟩
  | subclass reads classSection known =>
    cases h with
    | vendor vendorSection => simp [classSection] at vendorSection
    | baseClass _ classSection' baseClass =>
      rw [baseClass] at known ⊢
      exact ⟨_, .subclass reads classSection' known, .baseClass classSection classSection' rfl rfl⟩
  | device reads vendorSection known =>
    cases h with
    | baseClass classSection => simp [vendorSection] at classSection
    | vendor _ vendorSection' vendor =>
      rw [vendor] at known ⊢
      exact ⟨_, .device reads vendorSection' known, .vendor vendorSection vendorSection' rfl rfl⟩
  | progIf reads classSection known =>
    cases h with
    | vendor vendorSection => simp [classSection] at vendorSection
    | baseClass _ classSection' baseClass subclass =>
      rw [subclass] at known ⊢
      exact ⟨_, .progIf reads classSection' known,
        .baseClass classSection classSection' baseClass subclass⟩
  | subsystem reads vendorSection known knownDevice words =>
    cases h with
    | baseClass classSection => simp [vendorSection] at classSection
    | vendor _ vendorSection' vendor device =>
      rw [vendor] at known ⊢
      rw [device] at knownDevice ⊢
      exact ⟨_, .subsystem reads vendorSection' known knownDevice words,
        .vendor vendorSection vendorSection' vendor device⟩

/-- Every line makes the same entry in agreeing contexts, and they still agree behind it. -/
theorem readLine (h : c.Agree other) (text : List Char) :
    (c.readLine text).2 = (other.readLine text).2 ∧
      (c.readLine text).1.Agree (other.readLine text).1 := by
  cases hentry : (c.readLine text).2 with
  | some entry =>
    have hstep := readLine_eq_some_iff.1 (Prod.ext rfl hentry)
    obtain ⟨next', hstep', hagree⟩ := h.step hstep
    rw [readLine_eq_some_iff.2 hstep']
    exact ⟨rfl, hagree⟩
  | none =>
    have hother : (other.readLine text).2 = none := by
      -- An entry of the other context would be one of this context as well.
      by_contra hsome
      obtain ⟨entry, hsome⟩ := Option.ne_none_iff_exists'.1 hsome
      obtain ⟨next', hstep, -⟩ := h.symm.step (readLine_eq_some_iff.1 (Prod.ext rfl hsome))
      exact not_step_of_no_entry hentry next' entry hstep
    rw [readLine_fst_of_none hentry, readLine_fst_of_none hother]
    exact ⟨hother.symm, h⟩

/-- Runs of lines make the same entries in agreeing contexts. -/
theorem entries_eq (h : c.Agree other) (lines : List (List Char)) :
    c.entries lines = other.entries lines := by
  induction lines generalizing c other with
  | nil => rfl
  | cons text rest ih =>
    obtain ⟨hentry, hagree⟩ := h.readLine text
    rw [entries_cons, entries_cons, hentry, ih hagree]

end Agree

/-- Behind a candidate of the top level all contexts agree. -/
theorem agree_of_isTopLevel {text : List Char} {line : Line} (reads : Line.Reads text line)
    (top : line.IsTopLevel) (c other : Context) :
    (c.readLine text).2 = (other.readLine text).2 ∧
      (c.readLine text).1.Agree (other.readLine text).1 := by
  cases line with
  | classLine ident name =>
    rw [readLine_eq_some_iff.2 (.baseClass reads), readLine_eq_some_iff.2 (.baseClass reads)]
    exact ⟨rfl, .baseClass rfl rfl rfl rfl⟩
  | indented depth ident name =>
    obtain rfl : depth = 0 := top
    rw [readLine_eq_some_iff.2 (.vendor reads), readLine_eq_some_iff.2 (.vendor reads)]
    exact ⟨rfl, .vendor rfl rfl rfl rfl⟩

end Context

/-- Whether a line opens a section: in some context it is taken as the line of a vendor or class. -/
def Line.Opens (text : List Char) : Prop :=
  ∃ (c next : Context) (entry : Entry), c.readLine text = (next, some entry) ∧
    (entry.kind = .vendor ∨ entry.kind = .baseClass)

/-- The lines that open a section are the candidates of the top level. -/
theorem Line.opens_iff {text : List Char} :
    Line.Opens text ↔ ∃ line, Line.Reads text line ∧ line.IsTopLevel := by
  constructor
  · rintro ⟨c, next, entry, hread, hkind⟩
    cases Context.readLine_eq_some_iff.1 hread with
    | baseClass reads => exact ⟨_, reads, trivial⟩
    | vendor reads => exact ⟨_, reads, rfl⟩
    | subclass | device | progIf | subsystem => simp at hkind
  · rintro ⟨line, reads, top⟩
    cases line with
    | classLine ident name =>
      exact ⟨{}, _, _, Context.readLine_eq_some_iff.2 (.baseClass reads), .inr rfl⟩
    | indented depth ident name =>
      obtain rfl : depth = 0 := top
      exact ⟨{}, _, _, Context.readLine_eq_some_iff.2 (.vendor reads), .inl rfl⟩

/-- A run of lines of which the first opens a section. -/
structure Block where
  first : List Char
  rest : List (List Char)
  opens : Line.Opens first

namespace Block

def lines (b : Block) : List (List Char) :=
  b.first :: b.rest

/-- The entries of a block; they are the same in every context. -/
def entries (b : Block) : List Entry :=
  ({} : Context).entries b.lines

/-- A block makes the same entries whatever was read before it. -/
theorem entries_lines (b : Block) (c other : Context) :
    c.entries b.lines = other.entries b.lines := by
  obtain ⟨line, reads, top⟩ := Line.opens_iff.1 b.opens
  obtain ⟨hentry, hagree⟩ := Context.agree_of_isTopLevel reads top c other
  rw [lines, Context.entries_cons, Context.entries_cons, hentry, hagree.entries_eq]

/-- Blocks in a row make the entries of the first, then those of the second, and so on. -/
theorem entries_flatMap_lines (blocks : List Block) (c : Context) :
    c.entries (blocks.flatMap lines) = blocks.flatMap entries := by
  induction blocks generalizing c with
  | nil => rfl
  | cons b rest ih =>
    rw [List.flatMap_cons, Context.entries_append, ih, b.entries_lines c {}, List.flatMap_cons,
      entries]

end Block

/-- A part of a names file whose lines, each with its line end, are a block. -/
structure FilePart where
  bytes : List UInt8
  block : Block
  lines_eq : Database.linesOf bytes = block.lines
  closed : Text.Closed bytes

namespace FilePart

/-- A part of a file does not start with a line end. -/
theorem head?_ne (p : FilePart) : p.bytes.head? ≠ some 10 := by
  intro hhead
  obtain ⟨line, reads, -⟩ := Line.opens_iff.1 p.block.opens
  cases hbytes : p.bytes with
  | nil => simp [hbytes] at hhead
  | cons b rest =>
    obtain rfl : b = 10 := by simpa [hbytes] using hhead
    have hlines := p.lines_eq
    rw [hbytes, Block.lines, Database.linesOf, Text.byteLines,
      Text.byteLinesFrom.eq_3 _ _ _ (by simp), if_pos (by decide)] at hlines
    obtain ⟨hfirst, -⟩ := List.cons.inj hlines
    rw [← hfirst] at reads
    have hnone : Line.read? [] = none := rfl
    exact absurd (Line.read?_eq_some_iff.2 reads) (by simp [Text.decodeLossy, hnone])

/-- The lines of a file that is put together from parts are those of its parts. -/
theorem linesOf_flatMap_bytes (parts : List FilePart) :
    Database.linesOf (parts.flatMap bytes) = parts.flatMap fun p => p.block.lines := by
  induction parts with
  | nil => rfl
  | cons p rest ih =>
    have hhead : (rest.flatMap bytes).head? ≠ some 10 := by
      cases rest with
      | nil => simp
      | cons q others =>
        have hne : q.bytes ≠ [] := by
          intro hnil
          simpa [hnil, Text.Closed] using q.closed
        rw [List.flatMap_cons, List.head?_append_of_ne_nil _ hne]
        exact q.head?_ne
    rw [List.flatMap_cons, List.flatMap_cons, ← ih, ← p.lines_eq, Database.linesOf,
      Text.byteLines_append p.closed hhead, List.map_append]
    rfl

/-- The entries of a file that is put together from parts are those of its parts. -/
theorem entries_flatMap_bytes (parts : List FilePart) :
    ({} : Context).entries (Database.linesOf (parts.flatMap bytes)) =
      parts.flatMap fun p => p.block.entries := by
  have hblocks := Block.entries_flatMap_lines (parts.map block) {}
  rw [List.flatMap_map, List.flatMap_map] at hblocks
  rw [linesOf_flatMap_bytes, hblocks]

end FilePart
end PciCatalog
