import PciCatalog.Proofs.Integrity
import PciCatalog.Proofs.Step
import PciCatalog.Proofs.Writer

/-!
# Loading undoes writing

The database that is loaded from a written catalog holds the records of the catalog and nothing
else.  The argument follows the lines: the context of the reader is always in the block of the
record written last, so the next record finds its parent there.  Main statement:
`Database.loading_undoes_writing`.
-/

namespace PciCatalog

/-- Whether a context stands in the block of a record. -/
def Context.Inside (c : Context) : Catalog.Position → Prop
  | .vendor v => c.inClass = false ∧ c.vendor = v.key
  | .device v d => c.inClass = false ∧ c.vendor = v.key ∧ c.device = d.key
  | .subsystem v d _ _ => c.inClass = false ∧ c.vendor = v.key ∧ c.device = d.key
  | .baseClass b => c.inClass = true ∧ c.baseClass = b.key
  | .subclass b s => c.inClass = true ∧ c.baseClass = b.key ∧ c.subclass = b.key ++ s.key
  | .progIf b s _ => c.inClass = true ∧ c.baseClass = b.key ∧ c.subclass = b.key ++ s.key

namespace Catalog

/-- The name of a record as the database keeps it. -/
def Record.label (r : Record) : String :=
  String.ofList r.name.text

/-- The entry of a record. -/
def Record.entry (r : Record) : Entry :=
  match r.position with
  | .vendor v => { kind := .vendor, key := v.key, name := r.label }
  | .device v d => { kind := .device, key := d.key, name := r.label, parent := some v.key }
  | .subsystem v d sv sd =>
    { kind := .subsystem, key := sv.key ++ ":" ++ sd.key, name := r.label,
      parent := some (v.key ++ ":" ++ d.key) }
  | .baseClass b => { kind := .baseClass, key := b.key, name := r.label }
  | .subclass b s => { kind := .subclass, key := b.key ++ s.key, name := r.label }
  | .progIf b s p => { kind := .progIf, key := b.key ++ s.key ++ p.key, name := r.label }

@[simp] theorem Record.slot?_entry (r : Record) : r.entry.slot? = some r.position.slot := by
  rcases r with ⟨position, name⟩
  cases position <;> rfl

@[simp] theorem Record.name_entry (r : Record) : r.entry.name = r.label := by
  rcases r with ⟨position, name⟩
  cases position <;> rfl

variable {c : Context} {p q : Position}

/-- A context in the block of a record is in the blocks that this block belongs to. -/
theorem inside_of_mem_path (h : c.Inside q) (hp : p ∈ q.path) : c.Inside p := by
  cases q with
  | vendor v | baseClass b =>
    obtain rfl := List.mem_singleton.1 hp
    exact h
  | device v d | subclass b s =>
    simp only [Position.path, List.mem_cons, List.not_mem_nil, or_false] at hp
    rcases hp with rfl | rfl
    · exact h
    · exact ⟨h.1, h.2.1⟩
  | subsystem v d sv sd | progIf b s p =>
    simp only [Position.path, List.mem_cons, List.not_mem_nil, or_false] at hp
    rcases hp with rfl | rfl | rfl
    · exact h
    · exact h
    · exact ⟨h.1, h.2.1⟩

/-- In the block of its parent, the line of a record makes the record's entry, and the context is in
the block of the record from then on. -/
theorem Record.WrittenAs.step {r : Record} {line : List Char} (h : r.WrittenAs line)
    (plain : Text.Plain line)
    (hparent : ∀ parent, r.position.parent? = some parent → c.Inside parent) :
    ∃ next, c.Step line next r.entry ∧ next.Inside r.position := by
  obtain ⟨ident, hident, hreads⟩ := h.reads plain
  rcases r with ⟨position, name⟩
  -- The keys of the parents are those that the context has, since it is in their blocks.
  cases position with
  | vendor v =>
    have hstep := Context.Step.vendor (c := c) hreads
    rw [Code.normalize_of_spells (show v.Spells ident from hident)] at hstep
    exact ⟨_, hstep, rfl, rfl⟩
  | baseClass b =>
    have hstep := Context.Step.baseClass (c := c) hreads
    rw [Code.normalize_of_spells (show b.Spells ident from hident)] at hstep
    exact ⟨_, hstep, rfl, rfl⟩
  | device v d =>
    obtain ⟨hsection, hv⟩ := hparent (.vendor v) rfl
    have hstep := Context.Step.device hreads hsection (by rw [hv]; exact v.key_ne_empty)
    rw [Code.normalize_of_spells (show d.Spells ident from hident), hv] at hstep
    exact ⟨_, hstep, hsection, rfl, rfl⟩
  | subclass b s =>
    obtain ⟨hsection, hb⟩ := hparent (.baseClass b) rfl
    have hstep := Context.Step.subclass hreads hsection (by rw [hb]; exact b.key_ne_empty)
    rw [Code.normalize_of_spells (show s.Spells ident from hident), hb] at hstep
    exact ⟨_, hstep, hsection, rfl, rfl⟩
  | subsystem v d sv sd =>
    obtain ⟨hsection, hv, hd⟩ := hparent (.device v d) rfl
    obtain ⟨subvendor, subdevice, hsv, hsd, rfl⟩ := hident
    have hwords : Text.words (String.ofList (subvendor ++ ' ' :: subdevice)).toList =
        [subvendor, subdevice] := by
      rw [String.toList_ofList]
      exact Text.words_two (Code.isWord_of_spells hsv) (Code.isWord_of_spells hsd)
    have hstep := Context.Step.subsystem hreads hsection (by rw [hv]; exact v.key_ne_empty)
      (by rw [hd]; exact d.key_ne_empty) hwords
    rw [Code.normalize_of_spells hsv, Code.normalize_of_spells hsd, hv, hd] at hstep
    exact ⟨c, hstep, hsection, hv, hd⟩
  | progIf b s p =>
    obtain ⟨hsection, hb, hs⟩ := hparent (.subclass b s) rfl
    have hstep := Context.Step.progIf hreads hsection
      (by rw [hs, ← Code.key_append]; exact Code.key_ne_empty _)
    rw [Code.normalize_of_spells (show p.Spells ident from hident), hs] at hstep
    exact ⟨c, hstep, hsection, hb, hs⟩

/-- The entries of a listing are those of its records, whatever stands between their lines. -/
theorem Listing.entries_eq {last : Option Position} {records : List Record}
    {lines : List (List Char)} (h : Listing last records lines)
    (plain : ∀ line ∈ lines, Text.Plain line) (hlast : ∀ q, last = some q → c.Inside q) :
    c.entries lines = records.map Record.entry := by
  -- Every line keeps the context in the block of the record written last.
  induction h generalizing c with
  | nil => rfl
  | @noise last records line lines noise rest ih =>
    have hnone : (c.readLine line).2 = none := by
      cases hentry : (c.readLine line).2 with
      | none => rfl
      | some entry =>
        obtain ⟨read, hreads, -⟩ := Context.readLine_eq_some_iff_accept?.1 (Prod.ext rfl hentry)
        exact absurd hreads (noise.not_reads (plain line List.mem_cons_self) read)
    rw [Context.entries_cons, hnone, Context.readLine_fst_of_none hnone]
    exact ih (fun line' hline => plain line' (List.mem_cons_of_mem _ hline)) hlast
  | @record last r records line lines under written rest ih =>
    have hparent : ∀ parent, r.position.parent? = some parent → c.Inside parent := by
      intro parent hp
      obtain ⟨q, hq, hpath⟩ := under parent hp
      exact inside_of_mem_path (hlast q hq) hpath
    obtain ⟨next, hstep, hinside⟩ := written.step (plain line List.mem_cons_self) hparent
    have hnext : ∀ q, some r.position = some q → next.Inside q := by
      rintro _ ⟨rfl⟩
      exact hinside
    rw [Context.entries_cons, Context.readLine_eq_some_iff.2 hstep,
      ih (fun line' hline => plain line' (List.mem_cons_of_mem _ hline)) hnext]
    rfl

/-- The entries of a written catalog are those of its records, in the order of the file. -/
theorem entries_of_written {t : Catalog} {text : List Char} (h : t.Written text) :
    ∃ records : List Record, (∀ r, r ∈ records ↔ t.Has r) ∧
      ({} : Context).entries (Database.linesOf (Text.utf8 text)) = records.map Record.entry := by
  obtain ⟨records, lines, hrecords, hlisting, htext⟩ := h
  refine ⟨records, hrecords, ?_⟩
  rw [Context.entries_linesOf htext]
  exact hlisting.entries_eq htext.plain (by simp)

/-- Filled with the entries of a catalog's records, in any order, a database holds in each slot the
name of the record with that slot. -/
theorem find?_addAll_records {t : Catalog} {records : List Record}
    (hrecords : ∀ r, r ∈ records ↔ t.Has r) (s : Slot) (name : String) :
    (Database.empty.addAll (records.map Record.entry)).find? s = some name ↔
      ∃ r, t.Has r ∧ r.position.slot = s ∧ r.label = name := by
  rw [Database.find?_empty_addAll]
  constructor
  · intro h
    obtain ⟨e, he, hslot, rfl⟩ := exists_mem_of_lastName? _ h
    obtain ⟨r, hr, rfl⟩ := List.mem_map.1 he
    rw [r.slot?_entry, Option.some_inj] at hslot
    exact ⟨r, (hrecords r).1 hr, hslot, r.name_entry.symm⟩
  · rintro ⟨r, hr, rfl, rfl⟩
    rw [← r.name_entry]
    apply lastName?_eq_of_agree _ (List.mem_map_of_mem ((hrecords r).2 hr)) r.slot?_entry
    intro e he hslot
    obtain ⟨r', hr', rfl⟩ := List.mem_map.1 he
    rw [r'.slot?_entry, Option.some_inj] at hslot
    rw [r'.name_entry, r.name_entry, Record.label, Record.label,
      name_eq_of_slot_eq ((hrecords r').1 hr') hr hslot]

end Catalog

namespace Database

/-- A database holds a catalog: its tables have the names of the records and no others, no sub-table
is empty, and every query for a record is answered with its name. -/
structure Holds (db : Database) (t : Catalog) : Prop where
  find?_eq_some_iff : ∀ s name,
    db.find? s = some name ↔ ∃ r, t.Has r ∧ r.position.slot = s ∧ r.label = name
  devices_noneEmpty : db.devices.NoneEmpty
  subsystems_noneEmpty : db.subsystems.NoneEmpty
  answer_eq : ∀ r q, t.Has r → r.position.AskedBy q → q.answer db = r.label

/-- A query for a record looks into the slot of the record. -/
theorem probes_of_askedBy {p : Catalog.Position} {q : Query} (hq : p.AskedBy q) :
    q.Probes p.slot := by
  cases p with
  | vendor v =>
    cases q with
    | vendor qv => exact .of_vendor (Code.normalize_of_askedBy hq)
    | _ => exact hq.elim
  | device v d =>
    cases q with
    | device qv qd =>
      obtain ⟨hv, hd⟩ := hq
      exact .of_device (Code.normalize_of_askedBy hv) (Code.normalize_of_askedBy hd)
    | _ => exact hq.elim
  | subsystem v d sv sd =>
    cases q with
    | subsystem qv qd qsv qsd =>
      obtain ⟨hv, hd, hsv, hsd⟩ := hq
      exact .of_subsystem (Code.normalize_of_askedBy hv) (Code.normalize_of_askedBy hd)
        (Code.normalize_of_askedBy hsv) (Code.normalize_of_askedBy hsd)
    | _ => exact hq.elim
  | baseClass b =>
    cases q with
    | classCode code => exact .of_baseClass (Code.normalize_of_askedBy hq) b.length_key
    | _ => exact hq.elim
  | subclass b s =>
    cases q with
    | classCode code =>
      rw [Catalog.Position.slot, ← Code.key_append]
      exact .of_subclass (Code.normalize_of_askedBy hq) (b.append s).length_key
    | _ => exact hq.elim
  | progIf b s p =>
    cases q with
    | classCode code =>
      rw [Catalog.Position.slot, ← Code.key_append, ← Code.key_append]
      exact .of_progIf (Code.normalize_of_askedBy hq) ((b.append s).append p).length_key
    | _ => exact hq.elim

theorem holds_of_written {t : Catalog} {text : List Char} (h : t.Written text) :
    (ofFile (Text.utf8 text)).Holds t := by
  obtain ⟨records, hrecords, hentries⟩ := Catalog.entries_of_written h
  have hempty := (Consistent.start.entries (linesOf (Text.utf8 text))).noneEmpty
  have hnames := Catalog.find?_addAll_records hrecords
  rw [← hentries] at hnames
  refine ⟨hnames, hempty.1, hempty.2, ?_⟩
  intro r q hr hq
  exact answer_of_probes ((hnames _ _).2 ⟨r, hr, rfl, rfl⟩) (probes_of_askedBy hq)

/-- Loading undoes writing.  Every catalog can be written, and whatever way it is written in, the
database of the file holds the catalog. -/
theorem loading_undoes_writing (t : Catalog) :
    t.Written t.text ∧ ∀ text, t.Written text → (ofFile (Text.utf8 text)).Holds t :=
  ⟨t.written_text, fun _ h => holds_of_written h⟩

end Database

namespace Catalog

/-- A catalog of four records. -/
def sample : Catalog where
  vendors :=
    [{ code := ⟨['8', '0', '8', '6'], rfl, Text.forall_mem_of_all (by decide)⟩
       name := ⟨"Intel Corporation".toList, by decide +kernel, by decide +kernel⟩
       devices :=
        [{ code := ⟨['1', '5', 'F', 'f'], rfl, Text.forall_mem_of_all (by decide)⟩
           name := ⟨"I210  Gigabit".toList, by decide +kernel, by decide +kernel⟩
           subsystems := []
           distinct := List.nodup_nil }]
       distinct := by decide +kernel }]
  classes :=
    [{ code := ⟨['0', '2'], rfl, Text.forall_mem_of_all (by decide)⟩
       name := ⟨"Network controller".toList, by decide +kernel, by decide +kernel⟩
       subclasses :=
        [{ code := ⟨['0', '0'], rfl, Text.forall_mem_of_all (by decide)⟩
           name := ⟨[], by decide, by decide⟩
           progIfs := []
           distinct := List.nodup_nil }]
       distinct := by decide +kernel }]
  distinctVendors := by decide +kernel
  distinctClasses := by decide +kernel

/-- The sample in another order and spelling than those of its plainest file; the empty line gets
lost in a line end. -/
def sampleLines : List (List Char × List Char) :=
  [("C 0x02   Network controller ".toList, ['\n']),
    ("\t00  ".toList, ['\r', '\n']),
    ("# vendors".toList, ['\r']),
    ([], ['\n']),
    ("0X8086  Intel Corporation".toList, ['\r']),
    (" \t ".toList, ['\n']),
    ("\t15FF    I210  Gigabit".toList, ['\n'])]

end Catalog

namespace Database

open Catalog (sample sampleLines)

theorem loading_undoes_writing_sample :
    sample.Written (Text.join sampleLines) ∧
      (ofFile (Text.utf8 (Text.join sampleLines))).Holds sample := by
  have hwritten : sample.Written (Text.join sampleLines) := by
    refine ⟨sample.classes.flatMap Catalog.BaseClass.records ++
      sample.vendors.flatMap Catalog.Vendor.records, sampleLines.map Prod.fst, ?_, ?_,
      Text.hasLines_join (by decide +kernel)⟩
    · intro r
      rw [List.mem_append, or_comm, ← List.mem_append]
      exact Catalog.mem_records_iff
    · refine .record (Catalog.Position.under_none _) ⟨"0x02".toList, 1, 1, ?_, rfl⟩
        (.record (Catalog.Position.under_of_mem List.mem_cons_self) ⟨"00".toList, 0, 0, ?_, rfl⟩
        (.noise (.inl rfl) (.noise (.inr (by simp))
        (.record (Catalog.Position.under_none _) ⟨"0X8086".toList, 0, 0, ?_, rfl⟩
        (.noise (.inr (Text.forall_mem_of_all (by decide +kernel)))
        (.record (Catalog.Position.under_of_mem List.mem_cons_self) ⟨"15FF".toList, 2, 0, ?_, rfl⟩
        .nil))))))
      · exact ⟨['0', 'x'], by decide, ⟨['0', '2'], rfl, Text.forall_mem_of_all (by decide)⟩,
          rfl, rfl⟩
      · exact ⟨[], by decide, ⟨['0', '0'], rfl, Text.forall_mem_of_all (by decide)⟩, rfl, rfl⟩
      · exact ⟨['0', 'X'], by decide,
          ⟨['8', '0', '8', '6'], rfl, Text.forall_mem_of_all (by decide)⟩, rfl, rfl⟩
      · exact ⟨[], by decide, ⟨['1', '5', 'F', 'F'], rfl, Text.forall_mem_of_all (by decide)⟩,
          by decide +kernel, rfl⟩
  exact ⟨hwritten, (loading_undoes_writing sample).2 _ hwritten⟩

end Database
end PciCatalog
