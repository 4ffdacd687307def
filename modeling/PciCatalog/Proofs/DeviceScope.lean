import PciCatalog.Database.Loading
import PciCatalog.Proofs.NamedLines

/-!
# Subsystems stay with their devices

The tables of subsystems are keyed by joined texts: a parent is a vendor and a device with a colon
between them, and a key is made of a subvendor and a subdevice in the same way.  Nothing keeps
colons out of the identifiers themselves.  Main statement: a name that is found for a subsystem
comes from a line with these four identifiers under the lines of this device, except that two
identifiers of the line may be crossed with the two that they are joined like.

The exception does occur: in the file `crossedNames`, a device without subsystems
is answered with the name of another device's subsystem.
-/

namespace PciCatalog

/-- Two texts are those of a pair, or their join by a colon does not tell them from the pair. -/
def SameOrCrossed (a b x y : String) : Prop :=
  (a = x ∧ b = y) ∨ Crossed a b x y

/-- Against texts without a colon there is nothing to be crossed with. -/
theorem SameOrCrossed.eq_of_no_colon {a b x y : String} (h : SameOrCrossed a b x y)
    (hx : ':' ∉ x.toList) (hy : ':' ∉ y.toList) : a = x ∧ b = y :=
  h.resolve_right (by simp [Crossed, hx, hy])

namespace Database

variable {lines : List (List Char)} {name : String}

/-- A name in a sub-table of subsystems comes from a line whose identifiers make up the keys. -/
theorem exists_namesJoined {parent key : String}
    (h : (empty.addAll (({} : Context).entries lines)).find? (.subsystem parent key) = some name) :
    ∃ k, NamesJoined lines parent key k name := by
  obtain ⟨k, text, htext, e, hyields, hslot, hname⟩ := exists_namesEntry h
  exact ⟨k, namesJoined_iff.2
    ⟨text, htext, e, hyields, Entry.slot?_eq_subsystem_iff.1 hslot, hname⟩⟩

/-- Subsystem names stay with their devices as far as joined keys can tell devices apart.  Whatever
the content of a names file, an entry that is found for a query is its answer and was read from a
subsystem line, under a device line under a vendor line: the identifiers of the device's two lines
are those that were asked for or are crossed with them, and so are the two identifiers of the line
itself.  Two pairs of a vendor and a device share a sub-table only when they are crossed. -/
theorem subsystem_names_stay_with_devices (content : List UInt8) :
    (∀ v d sv sd name,
      (ofFile content).find? (.subsystem (Ident.normalize v ++ ":" ++ Ident.normalize d)
        (Ident.normalize sv ++ ":" ++ Ident.normalize sd)) = some name →
      (ofFile content).subsystemName v d sv sd = name ∧
      ∃ k vendor device subvendor subdevice,
        NamesSubsystem (linesOf content) vendor device subvendor subdevice k name ∧
        SameOrCrossed vendor device (Ident.normalize v) (Ident.normalize d) ∧
        SameOrCrossed subvendor subdevice (Ident.normalize sv) (Ident.normalize sd)) ∧
    (∀ vendor device vendor' device',
      Context.subsystemParent vendor device = Context.subsystemParent vendor' device' →
      SameOrCrossed vendor device vendor' device') := by
  refine ⟨?_, fun _ _ _ _ h => colon_join_cases h⟩
  intro v d sv sd name hfind
  refine ⟨answer_of_probes hfind (.subsystem v d sv sd), ?_⟩
  obtain ⟨k, vendor, device, subvendor, subdevice, hnames, hparent, hkey⟩ :=
    exists_namesJoined hfind
  exact ⟨k, vendor, device, subvendor, subdevice, hnames, colon_join_cases hparent,
    colon_join_cases hkey⟩

/-- Two devices of one vendor, the second without subsystems. -/
def adapterNames : List UInt8 :=
  "8086  Intel\n\t1533  I210\n\t\t1028 0001  Adapter\n\t1539  I211\n".toUTF8.data.toList

theorem adapter_stays_with_its_device :
    (ofFile adapterNames).find? (.subsystem "8086:1533" "1028:0001") = some "Adapter" ∧
      (ofFile adapterNames).subsystemName "0x8086" "1533" "1028" "0001" = "Adapter" ∧
      (∃ k, NamesSubsystem (linesOf adapterNames) "8086" "1533" "1028" "0001" k "Adapter") ∧
      (∀ device, Context.subsystemParent "8086" "1533" = Context.subsystemParent "8086" device →
        device = "1533") := by
  obtain ⟨hfound, hshared⟩ := subsystem_names_stay_with_devices adapterNames
  have hfind : (ofFile adapterNames).find? (.subsystem "8086:1533" "1028:0001") =
      some "Adapter" := by decide +kernel
  have hvendor : Ident.normalize "0x8086" = "8086" := by decide +kernel
  have hdevice : Ident.normalize "1533" = "1533" := by decide +kernel
  have hsubvendor : Ident.normalize "1028" = "1028" := by decide +kernel
  have hsubdevice : Ident.normalize "0001" = "0001" := by decide +kernel
  have hanswer := hfound "0x8086" "1533" "1028" "0001" "Adapter"
  rw [hvendor, hdevice, hsubvendor, hsubdevice] at hanswer
  obtain ⟨hname, k, vendor, device, subvendor, subdevice, hnames, houter, hinner⟩ := hanswer hfind
  obtain ⟨rfl, rfl⟩ := houter.eq_of_no_colon (by decide) (by decide)
  obtain ⟨rfl, rfl⟩ := hinner.eq_of_no_colon (by decide) (by decide)
  refine ⟨hfind, hname, ⟨k, hnames⟩, ?_⟩
  intro device hparent
  exact ((hshared _ _ _ _ hparent.symm).eq_of_no_colon (by decide) (by decide)).2

/-- A vendor with a colon in its identifier, and a second vendor with a colon in that of its
device. -/
def crossedNames : List UInt8 :=
  ("80:86  First\n\t1533  Card\n\t\t1028 0001  Adapter\n" ++
    "80  Second\n\t86:1533  Other\n").toUTF8.data.toList

/-- What the lines of the file say. -/
theorem read?_crossedNames :
    (linesOf crossedNames).map Line.read? =
      [some (.indented 0 "80:86" "First"), some (.indented 1 "1533" "Card"),
        some (.indented 2 "1028 0001" "Adapter"), some (.indented 0 "80" "Second"),
        some (.indented 1 "86:1533" "Other")] := by
  decide +kernel

/-- The only subsystem line stands in the section of the first vendor. -/
theorem not_namesSubsystem_crossedNames (k : Nat) (name : String) :
    ¬ NamesSubsystem (linesOf crossedNames) "80" "86:1533" "1028" "0001" k name := by
  rintro ⟨ident, between, first, second, ⟨text, htext, hreads⟩, -, -, -,
    ⟨top, title, hnearest, htop, -⟩, -⟩
  have hread : ((linesOf crossedNames).map Line.read?)[k]? =
      some (some (.indented 2 ident name)) := by
    rw [List.getElem?_map, htext, Option.map_some, Line.read?_eq_some_iff.2 hreads]
  have hk : k = 2 := by
    rw [read?_crossedNames] at hread
    match k with
    | 0 | 1 | 3 | 4 => simp at hread
    | 2 => rfl
    | k + 5 => simp at hread
  -- Before the line with two tabs there is one line of the top level.
  subst hk
  obtain ⟨found, hmem, hfound, -⟩ := hnearest.exists_reads
  have hread' : Line.read? found ∈ ((linesOf crossedNames).take 2).map Line.read? :=
    List.mem_map_of_mem hmem
  rw [List.map_take, read?_crossedNames, Line.read?_eq_some_iff.2 hfound] at hread'
  obtain ⟨rfl, -⟩ : top = "80:86" ∧ title = "First" := by simpa using hread'
  exact absurd htop (by decide +kernel)

/-- A name crosses devices: an entry is found for the device `86:1533` of the vendor `80`, which has
no subsystems, and its name was read below the device `1533` of the vendor `80:86`. -/
theorem name_from_another_device :
    (ofFile crossedNames).find? (.subsystem (Ident.normalize "80" ++ ":" ++
        Ident.normalize "86:1533") (Ident.normalize "1028" ++ ":" ++ Ident.normalize "0001")) =
      some "Adapter" ∧
    (ofFile crossedNames).subsystemName "80" "86:1533" "1028" "0001" = "Adapter" ∧
    (∀ k name, ¬ NamesSubsystem (linesOf crossedNames) (Ident.normalize "80")
      (Ident.normalize "86:1533") (Ident.normalize "1028") (Ident.normalize "0001") k name) ∧
    Context.subsystemParent "80:86" "1533" = Context.subsystemParent "80" "86:1533" := by
  have hfind : (ofFile crossedNames).find? (.subsystem (Ident.normalize "80" ++ ":" ++
      Ident.normalize "86:1533") (Ident.normalize "1028" ++ ":" ++ Ident.normalize "0001")) =
      some "Adapter" := by decide +kernel
  have hvendor : Ident.normalize "80" = "80" := by decide +kernel
  have hdevice : Ident.normalize "86:1533" = "86:1533" := by decide +kernel
  have hsubvendor : Ident.normalize "1028" = "1028" := by decide +kernel
  have hsubdevice : Ident.normalize "0001" = "0001" := by decide +kernel
  refine ⟨hfind, answer_of_probes hfind (.subsystem _ _ _ _), ?_, rfl⟩
  rw [hvendor, hdevice, hsubvendor, hsubdevice]
  exact not_namesSubsystem_crossedNames

end Database
end PciCatalog
