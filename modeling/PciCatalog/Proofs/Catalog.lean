import PciCatalog.Proofs.FileLines
import PciCatalog.Proofs.LastEntry
import PciCatalog.Proofs.Spelling
import Mathlib.Data.List.Nodup

/-!
# Written catalogs

A catalog is a tree of named codes, and a names file is one of the many ways to write it down: the
order of the blocks, the letter case and marks of the identifiers, the spaces around the names, the
line ends, and the comments and blank lines in between are all free.  This file says which files
write a catalog, without reference to the reader.
-/

namespace PciCatalog
namespace Catalog

/-- A name stands on one line and has no blanks at its ends; it may be empty. -/
structure Name where
  text : List Char
  plain : Text.Plain text
  trimmed : Text.Trimmed text
  deriving DecidableEq

structure Subsystem where
  subvendor : Code 4
  subdevice : Code 4
  name : Name

structure Device where
  code : Code 4
  name : Name
  subsystems : List Subsystem
  distinct : (subsystems.map fun s => (s.subvendor.key, s.subdevice.key)).Nodup

structure Vendor where
  code : Code 4
  name : Name
  devices : List Device
  distinct : (devices.map fun d => d.code.key).Nodup

structure ProgIf where
  code : Code 2
  name : Name

structure Subclass where
  code : Code 2
  name : Name
  progIfs : List ProgIf
  distinct : (progIfs.map fun p => p.code.key).Nodup

structure BaseClass where
  code : Code 2
  name : Name
  subclasses : List Subclass
  distinct : (subclasses.map fun s => s.code.key).Nodup

end Catalog

/-- Vendors with their devices and subsystems, and classes with their subclasses and programming
interfaces.  On each level the keys differ, so no two codes are the same up to letter case. -/
structure Catalog where
  vendors : List Catalog.Vendor
  classes : List Catalog.BaseClass
  distinctVendors : (vendors.map fun v => v.code.key).Nodup
  distinctClasses : (classes.map fun b => b.code.key).Nodup

namespace Catalog

/-- The position of a record: its own code behind the codes that it belongs to. -/
inductive Position where
  | vendor (v : Code 4)
  | device (v d : Code 4)
  | subsystem (v d sv sd : Code 4)
  | baseClass (b : Code 2)
  | subclass (b s : Code 2)
  | progIf (b s p : Code 2)
  deriving DecidableEq

structure Record where
  position : Position
  name : Name
  deriving DecidableEq

/-- The records of a catalog. -/
inductive Has (t : Catalog) : Record → Prop
  | vendor {v : Vendor} (hv : v ∈ t.vendors) : Has t ⟨.vendor v.code, v.name⟩
  | device {v : Vendor} {d : Device} (hv : v ∈ t.vendors) (hd : d ∈ v.devices) :
      Has t ⟨.device v.code d.code, d.name⟩
  | subsystem {v : Vendor} {d : Device} {s : Subsystem} (hv : v ∈ t.vendors)
      (hd : d ∈ v.devices) (hs : s ∈ d.subsystems) :
      Has t ⟨.subsystem v.code d.code s.subvendor s.subdevice, s.name⟩
  | baseClass {b : BaseClass} (hb : b ∈ t.classes) : Has t ⟨.baseClass b.code, b.name⟩
  | subclass {b : BaseClass} {s : Subclass} (hb : b ∈ t.classes) (hs : s ∈ b.subclasses) :
      Has t ⟨.subclass b.code s.code, s.name⟩
  | progIf {b : BaseClass} {s : Subclass} {p : ProgIf} (hb : b ∈ t.classes)
      (hs : s ∈ b.subclasses) (hp : p ∈ s.progIfs) :
      Has t ⟨.progIf b.code s.code p.code, p.name⟩

namespace Position

/-- The slot that the name of a record is kept in. -/
def slot : Position → Slot
  | vendor v => .vendor v.key
  | device v d => .device v.key d.key
  | subsystem v d sv sd => .subsystem (v.key ++ ":" ++ d.key) (sv.key ++ ":" ++ sd.key)
  | baseClass b => .baseClass b.key
  | subclass b s => .subclass (b.key ++ s.key)
  | progIf b s p => .progIf (b.key ++ s.key ++ p.key)

/-- The position that a record stands below. -/
def parent? : Position → Option Position
  | vendor _ => none
  | device v _ => some (vendor v)
  | subsystem v d _ _ => some (device v d)
  | baseClass _ => none
  | subclass b _ => some (baseClass b)
  | progIf b s _ => some (subclass b s)

/-- A position and those above it. -/
def path : Position → List Position
  | vendor v => [vendor v]
  | device v d => [device v d, vendor v]
  | subsystem v d sv sd => [subsystem v d sv sd, device v d, vendor v]
  | baseClass b => [baseClass b]
  | subclass b s => [subclass b s, baseClass b]
  | progIf b s p => [progIf b s p, subclass b s, baseClass b]

/-- What the line of a record starts with. -/
def margin : Position → List Char
  | vendor _ => []
  | device _ _ => ['\t']
  | subsystem _ _ _ _ => ['\t', '\t']
  | baseClass _ => ['C', ' ']
  | subclass _ _ => ['\t']
  | progIf _ _ _ => ['\t', '\t']

/-- A record's identifier spells its own code or, for subsystems, its two codes. -/
def SpelledBy : Position → List Char → Prop
  | vendor v, ident => v.Spells ident
  | device _ d, ident => d.Spells ident
  | subsystem _ _ sv sd, ident =>
    ∃ subvendor subdevice, sv.Spells subvendor ∧ sd.Spells subdevice ∧
      ident = subvendor ++ ' ' :: subdevice
  | baseClass b, ident => b.Spells ident
  | subclass _ s, ident => s.Spells ident
  | progIf _ _ p, ident => p.Spells ident

/-- Whether a query asks for the record at a position, in whatever spelling. -/
def AskedBy : Position → Query → Prop
  | vendor v, .vendor qv => v.AskedBy qv
  | device v d, .device qv qd => v.AskedBy qv ∧ d.AskedBy qd
  | subsystem v d sv sd, .subsystem qv qd qsv qsd =>
    v.AskedBy qv ∧ d.AskedBy qd ∧ sv.AskedBy qsv ∧ sd.AskedBy qsd
  | baseClass b, .classCode q => b.AskedBy q
  | subclass b s, .classCode q => (b.append s).AskedBy q
  | progIf b s p, .classCode q => ((b.append s).append p).AskedBy q
  | _, _ => False

/-- The last record is a given one or stands below it; below nothing is anywhere. -/
def Under (top last : Option Position) : Prop :=
  ∀ p, top = some p → ∃ q, last = some q ∧ p ∈ q.path

theorem under_none (last : Option Position) : Under none last :=
  fun _ h => nomatch h

theorem under_of_mem {p q : Position} (h : p ∈ q.path) : Under (some p) (some q) := by
  rintro _ ⟨rfl⟩
  exact ⟨q, rfl, h⟩

end Position

/-- A record's line: the margin, the identifier, two or more spaces, the name, and any number of
spaces at the end. -/
def Record.WrittenAs (r : Record) (line : List Char) : Prop :=
  ∃ ident gap trail, r.position.SpelledBy ident ∧
    line = r.position.margin ++ (ident ++ (List.replicate (gap + 2) ' ' ++
      (r.name.text ++ List.replicate trail ' ')))

/-- Comments and blank lines. -/
def Noise (line : List Char) : Prop :=
  line.head? = some '#' ∨ ∀ c ∈ line, Text.isBlank c = true

/-- Lines that write some records, each of them in the block of its parent, with noise anywhere. -/
inductive Listing : Option Position → List Record → List (List Char) → Prop
  | nil {last : Option Position} : Listing last [] []
  | noise {last : Option Position} {records : List Record} {line : List Char}
      {lines : List (List Char)} (noise : Noise line) (rest : Listing last records lines) :
      Listing last records (line :: lines)
  | record {last : Option Position} {r : Record} {records : List Record} {line : List Char}
      {lines : List (List Char)} (under : Position.Under r.position.parent? last)
      (written : r.WrittenAs line) (rest : Listing (some r.position) records lines) :
      Listing last (r :: records) (line :: lines)

/-- A text writes a catalog when its lines list the records of the catalog and no others. -/
def Written (t : Catalog) (text : List Char) : Prop :=
  ∃ records lines, (∀ r, r ∈ records ↔ t.Has r) ∧ Listing none records lines ∧
    Text.HasLines text lines

/-! No two records of a catalog are kept in one slot.  Below a common key the records have different
keys, and the joined keys come apart again since the codes on each level have one length. -/

theorem key_append_inj {width : Nat} {a b : Code width} {x y : String}
    (h : a.key ++ x = b.key ++ y) : a.key = b.key ∧ x = y := by
  have hlist := congrArg String.toList h
  rw [String.toList_append, String.toList_append] at hlist
  obtain ⟨hkey, hrest⟩ := List.append_inj hlist (by rw [a.length_key, b.length_key])
  exact ⟨String.toList_inj.1 hkey, String.toList_inj.1 hrest⟩

/-- Two keys with a colon between them come apart again. -/
theorem key_colon_inj {width : Nat} {a b : Code width} {x y : String}
    (h : a.key ++ ":" ++ x = b.key ++ ":" ++ y) : a.key = b.key ∧ x = y := by
  rw [String.append_assoc, String.append_assoc] at h
  obtain ⟨hkey, hrest⟩ := key_append_inj h
  have hlist := congrArg String.toList hrest
  rw [String.toList_append, String.toList_append, List.append_cancel_left_eq] at hlist
  exact ⟨hkey, String.toList_inj.1 hlist⟩

variable {t : Catalog}

theorem name_eq_of_slot_eq {r r' : Record} (h : t.Has r) (h' : t.Has r')
    (hslot : r.position.slot = r'.position.slot) : r.name = r'.name := by
  -- The two vendors and the two classes at the root are the same as soon as their keys are.
  have hvendor := List.inj_on_of_nodup_map t.distinctVendors
  have hclass := List.inj_on_of_nodup_map t.distinctClasses
  cases h with
  | @vendor v hv =>
    cases h' with
    | @vendor v' hv' =>
      obtain rfl : v = v' := hvendor hv hv' (Slot.vendor.inj hslot)
      rfl
    | _ => cases hslot
  | @device v d hv hd =>
    cases h' with
    | @device v' d' hv' hd' =>
      obtain ⟨hparent, hkey⟩ := Slot.device.inj hslot
      obtain rfl : v = v' := hvendor hv hv' hparent
      obtain rfl : d = d' := List.inj_on_of_nodup_map v.distinct hd hd' hkey
      rfl
    | _ => cases hslot
  | @subsystem v d s hv hd hs =>
    cases h' with
    | @subsystem v' d' s' hv' hd' hs' =>
      obtain ⟨hparent, hkey⟩ := Slot.subsystem.inj hslot
      obtain ⟨hv'', hd''⟩ := key_colon_inj hparent
      obtain rfl : v = v' := hvendor hv hv' hv''
      obtain rfl : d = d' := List.inj_on_of_nodup_map v.distinct hd hd' hd''
      obtain rfl : s = s' :=
        List.inj_on_of_nodup_map d.distinct hs hs' (Prod.ext_iff.2 (key_colon_inj hkey))
      rfl
    | _ => cases hslot
  | @baseClass b hb =>
    cases h' with
    | @baseClass b' hb' =>
      obtain rfl : b = b' := hclass hb hb' (Slot.baseClass.inj hslot)
      rfl
    | _ => cases hslot
  | @subclass b s hb hs =>
    cases h' with
    | @subclass b' s' hb' hs' =>
      obtain ⟨hbase, hkey⟩ := key_append_inj (Slot.subclass.inj hslot)
      obtain rfl : b = b' := hclass hb hb' hbase
      obtain rfl : s = s' := List.inj_on_of_nodup_map b.distinct hs hs' hkey
      rfl
    | _ => cases hslot
  | @progIf b s p hb hs hp =>
    cases h' with
    | @progIf b' s' p' hb' hs' hp' =>
      have hkeys := Slot.progIf.inj hslot
      rw [String.append_assoc, String.append_assoc] at hkeys
      obtain ⟨hbase, hkeys⟩ := key_append_inj hkeys
      obtain ⟨hsub, hkey⟩ := key_append_inj hkeys
      obtain rfl : b = b' := hclass hb hb' hbase
      obtain rfl : s = s' := List.inj_on_of_nodup_map b.distinct hs hs' hsub
      obtain rfl : p = p' := List.inj_on_of_nodup_map s.distinct hp hp' hkey
      rfl
    | _ => cases hslot

end Catalog
end PciCatalog
