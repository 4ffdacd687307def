import PciCatalog.Proofs.AddressNumbers
import PciCatalog.Proofs.OneDevice

/-!
# The order of a listing

A directory lists its members in any order.  Discovery reads the same devices from it whichever
order that is, and puts them into the order of their addresses.  Main statement: the list is the
same for every order of the nodes, and holds each device with an address and both numbers once, from
the least address to the greatest; with addresses in lower case this is the order of their numbers
(`discovery_in_address_order`).
-/

namespace PciCatalog

/-- What stands under a key of its own does not depend on the order. -/
theorem lookup_eq_of_perm {α β : Type} [BEq α] [LawfulBEq α] {entries entries' : List (α × β)}
    (h : entries.Perm entries') (hnodup : (entries.map Prod.fst).Nodup) (key : α) :
    entries.lookup key = entries'.lookup key := by
  induction h with
  | nil => rfl
  | cons entry _ ih =>
    rw [List.lookup_cons, List.lookup_cons, ih (List.nodup_cons.1 hnodup).2]
  | swap first second rest =>
    have hne : second.1 ≠ first.1 := by
      have hhead := (List.nodup_cons.1 hnodup).1
      rw [List.map_cons, List.mem_cons, not_or] at hhead
      exact hhead.1
    rw [List.lookup_cons, List.lookup_cons, List.lookup_cons, List.lookup_cons]
    -- At most one of the two keys is the one that is asked for.
    cases hfirst : key == first.1 with
    | false => rfl
    | true =>
      have hsecond : (key == second.1) = false := by
        rw [beq_eq_false_iff_ne, beq_iff_eq.1 hfirst]
        exact hne.symm
      rw [hsecond]
  | trans hfirst _ ih ih' =>
    rw [ih hnodup, ih' ((hfirst.map Prod.fst).nodup_iff.1 hnodup)]

/-- What comes out of some members can be put into any order by putting these members into one. -/
theorem exists_perm_filterMap_eq {α β : Type} {f : α → Option β} {l : List α} {m : List β}
    (h : m.Perm (l.filterMap f)) : ∃ l', l.Perm l' ∧ l'.filterMap f = m := by
  induction m generalizing l with
  | nil => exact ⟨l, .refl l, h.nil_eq.symm⟩
  | cons b m ih =>
    obtain ⟨a, ha, hb⟩ := List.mem_filterMap.1 (h.mem_iff.1 List.mem_cons_self)
    obtain ⟨front, back, rfl⟩ := List.append_of_mem ha
    have hfirst : (front ++ a :: back).Perm (a :: (front ++ back)) := List.perm_middle
    have hrest : m.Perm ((front ++ back).filterMap f) := by
      have hall := h.trans (hfirst.filterMap f)
      rw [List.filterMap_cons_some hb] at hall
      exact hall.cons_inv
    obtain ⟨l', hperm, heq⟩ := ih hrest
    exact ⟨a :: l', hfirst.trans (hperm.cons a), by rw [List.filterMap_cons_some hb, heq]⟩

namespace FileSystem

/-- Two file systems with the same nodes, with which the program may do the same, but which
directories may list in different orders. -/
structure Reordered (fs other : FileSystem) : Prop where
  workingDir : fs.workingDir = other.workingDir
  isLocked : fs.isLocked = other.isLocked
  isBarred : fs.isBarred = other.isBarred
  refuses : fs.refuses = other.refuses
  nodes : fs.nodes.Perm other.nodes

namespace Reordered

variable {fs other : FileSystem}

theorem node?_eq (h : Reordered fs other) (place : Place) : fs.node? place = other.node? place := by
  rw [node?, node?, lookup_eq_of_perm h.nodes fs.distinct]

theorem isDirectory_eq (h : Reordered fs other) (place : Place) :
    fs.isDirectory place = other.isDirectory place := by
  rw [isDirectory, isDirectory, h.node?_eq]

/-- A directory lists the same members. -/
theorem members_perm (h : Reordered fs other) (place : Place) :
    (fs.members place).Perm (other.members place) :=
  h.nodes.filterMap _

theorem walkWith_eq (h : Reordered fs other)
    (follow : Place → List String → Except FileError Place) (here : Place) (names : List String) :
    fs.walkWith follow here names = other.walkWith follow here names := by
  induction names generalizing here with
  | nil => rfl
  | cons name rest ih =>
    rw [walkWith, walkWith, h.isDirectory_eq, h.isBarred, h.node?_eq, ih here, ih here.dropLast,
      ih (here ++ [name])]

theorem walk_eq (h : Reordered fs other) (links : Nat) : fs.walk links = other.walk links := by
  induction links with
  | zero =>
    funext here names
    exact h.walkWith_eq _ here names
  | succ links ih =>
    funext here names
    rw [walk, walk, ih]
    exact h.walkWith_eq _ here names

theorem locate_eq (h : Reordered fs other) (path : String) :
    fs.locate path = other.locate path := by
  rw [locate, locate, h.walk_eq, h.workingDir, h.refuses]

theorem status_eq (h : Reordered fs other) (path : String) :
    fs.status path = other.status path := by
  simp only [status, h.locate_eq, h.node?_eq]

theorem pathExists_eq (h : Reordered fs other) (path : String) :
    fs.pathExists path = other.pathExists path := by
  rw [pathExists, pathExists, h.status_eq]

theorem readBytes_eq (h : Reordered fs other) (path : String) :
    fs.readBytes path = other.readBytes path := by
  have hread : fs.mayRead path = other.mayRead path := by
    rw [mayRead, mayRead, h.locate_eq, h.isLocked]
  simp only [readBytes, openFile, readable, h.status_eq, hread]

theorem readText_eq (h : Reordered fs other) (path : String) :
    fs.readText path = other.readText path := by
  rw [readText, readText, h.readBytes_eq]

theorem listDirectory_error_iff (h : Reordered fs other) (path : String) (e : FileError) :
    fs.listDirectory path = .error e ↔ other.listDirectory path = .error e := by
  unfold listDirectory
  rw [h.locate_eq]
  cases other.locate path with
  | error e' => rfl
  | ok place =>
    simp only [bind, Except.bind, h.isDirectory_eq place, h.isLocked]
    split
    · rfl
    · split <;> simp [pure, Except.pure]

/-- Every order of the members of a directory is the one in which some reordering lists them. -/
theorem exists_listDirectory_eq {path : String} {names names' : List String}
    (hnames : fs.listDirectory path = .ok names) (h : names'.Perm names) :
    ∃ other, Reordered fs other ∧ other.listDirectory path = .ok names' := by
  obtain ⟨place, hplace, hdirectory, hlocked, rfl⟩ := listDirectory_eq_ok_iff.1 hnames
  obtain ⟨nodes, hperm, hmembers⟩ := exists_perm_filterMap_eq h
  have hdistinct : (nodes.map Prod.fst).Nodup :=
    (hperm.map Prod.fst).nodup_iff.1 fs.distinct
  have hreordered : Reordered fs { fs with nodes, distinct := hdistinct } :=
    ⟨rfl, rfl, rfl, rfl, hperm⟩
  refine ⟨_, hreordered, listDirectory_eq_ok_iff.2 ⟨place, ?_, ?_, hlocked, hmembers.symm⟩⟩
  · rw [← hreordered.locate_eq, hplace]
  · rw [← hreordered.isDirectory_eq, hdirectory]

/-- Both list a directory, with the same names. -/
theorem mem_iff_of_listDirectory (h : Reordered fs other) {path : String}
    {names names' : List String} (hnames : fs.listDirectory path = .ok names)
    (hnames' : other.listDirectory path = .ok names') (name : String) :
    name ∈ names ↔ name ∈ names' := by
  obtain ⟨place, hplace, -, -, rfl⟩ := listDirectory_eq_ok_iff.1 hnames
  obtain ⟨place', hplace', -, -, rfl⟩ := listDirectory_eq_ok_iff.1 hnames'
  obtain rfl : place = place' := by
    rw [h.locate_eq, hplace'] at hplace
    exact (Except.ok.inj hplace).symm
  exact (h.members_perm place).mem_iff

end Reordered
end FileSystem

namespace Sysfs

open Result (Settles)

variable {fs other : FileSystem} {path : Path} {devices : List Device}

/-! ### The devices of two listings -/

theorem record?_reordered (h : fs.Reordered other) (dir : Path) (address : String) :
    record? fs dir address = record? other dir address :=
  record?_congr address (fun _ _ => by rw [attribute?, attribute?, h.readText_eq])
    (by rw [parent?, parent?, h.locate_eq])

theorem spoiled_reordered_iff (h : fs.Reordered other) (dir : Path) :
    Spoiled fs dir ↔ Spoiled other dir := by
  simp only [Spoiled, Garbled, hexadecimal?, h.readText_eq, h.readBytes_eq]

/-- Discovery does not depend on the order of a listing. -/
theorem discover_reordered (h : fs.Reordered other) (path : Path) :
    discover fs path = discover other path := by
  apply discover_congr (h.pathExists_eq _) (fun _ => h.listDirectory_error_iff _)
  · intro names names' hnames hnames'
    simp only [List.mem_filter, h.mem_iff_of_listDirectory hnames hnames',
      spoiled_reordered_iff h]
  · intro devices devices' hdevices hdevices' d
    rcases discover_cases hdevices with ⟨hmissing, rfl⟩ | ⟨names, hexists, hnames, -⟩
    · rcases discover_cases hdevices' with ⟨-, rfl⟩ | ⟨names', hexists', -⟩
      · rfl
      · rw [h.pathExists_eq, hexists'] at hmissing
        contradiction
    -- The other file system lists the directory too, as it fails alike.
    · obtain ⟨names', hnames'⟩ : ∃ names', other.listDirectory path.toString = .ok names' := by
        cases hnames' : other.listDirectory path.toString with
        | ok names' => exact ⟨names', rfl⟩
        | error e =>
          rw [(h.listDirectory_error_iff _ e).2 hnames'] at hnames
          contradiction
      rw [mem_discovered_iff hexists hnames hdevices,
        mem_discovered_iff (h.pathExists_eq _ ▸ hexists) hnames' hdevices']
      simp only [h.mem_iff_of_listDirectory hnames hnames', record?_reordered h]

/-! ### The order of the devices -/

/-- The addresses of a list increase. -/
theorem pairwise_address_lt (h : discover fs path = .ok devices) :
    devices.Pairwise fun a b => a.address < b.address := by
  have hne := List.pairwise_map.1 (nodup_addresses h)
  refine ((pairwise_address_le h).and hne).imp ?_
  rintro a b ⟨hle, hne⟩
  exact String.not_le.1 fun hge => hne (String.le_antisymm hle hge)

/-- An entry of the device directory that has an address as its name, and in which the vendor and
the device number can be read. -/
structure Numbered (fs : FileSystem) (path : Path) (b : String) : Prop where
  listed : ∃ names, fs.listDirectory path.toString = .ok names ∧ b ∈ names
  address : Address.accepts b = true
  vendor : ∃ n, hexadecimal? fs (path.child b) "vendor" = some n
  device : ∃ n, hexadecimal? fs (path.child b) "device" = some n

/-- A list has a device for every numbered entry. -/
theorem exists_device_of_numbered (h : discover fs path = .ok devices) {b : String}
    (hb : Numbered fs path b) : ∃ d ∈ devices, d.address = b := by
  obtain ⟨names, hlist, hmem⟩ := hb.listed
  obtain ⟨place, hplace, hdirectory, -⟩ := FileSystem.listDirectory_eq_ok_iff.1 hlist
  have hexists := FileSystem.pathExists_of_isDirectory hplace hdirectory
  obtain ⟨d, hrecord⟩ := exists_record?_iff.2 ⟨hb.vendor, hb.device⟩
  exact ⟨d, (mem_discovered_iff hexists hlist h d).2 ⟨b, hmem, hb.address, hrecord⟩,
    address_of_record? hrecord⟩

/-- A device of a list is what its own entry, a numbered one, gives. -/
theorem numbered_of_mem (h : discover fs path = .ok devices) {d : Device} (hd : d ∈ devices) :
    Numbered fs path d.address ∧ readMember fs path d.address = .ok (some d) := by
  rcases discover_cases h with ⟨-, rfl⟩ | ⟨names, hexists, hlist, hclean, -⟩
  · simp at hd
  · obtain ⟨b, hb, haccepts, hrecord⟩ := (mem_discovered_iff hexists hlist h d).1 hd
    rw [address_of_record? hrecord]
    obtain ⟨hvendor, hdevice⟩ := exists_record?_iff.1 ⟨d, hrecord⟩
    have hread : Settles (Spoiled fs (path.child b)) .undecodable (readMember fs path b)
        (record? fs (path.child b) b) :=
      settles_member (FileSystem.encodes_of_pathExists hexists) haccepts
    refine ⟨⟨⟨names, hlist, hb⟩, haccepts, hvendor, hdevice⟩, ?_⟩
    rw [← hrecord]
    exact hread.ok (hclean b hb haccepts)

/-- Discovery gives the same result for every order in which directories list their members, and
every order of the device directory is among these.  When discovery gives a list, the list increases
by address; it has exactly one device for each entry with an address as its name and with a readable
vendor and device number, the one that is read from this entry, and no others.  If these names have
twelve characters in lower case, the list increases by the numbers of the addresses: segment, bus,
device and function. -/
theorem discovery_in_address_order (fs : FileSystem) (path : Path) :
    (∀ names names', fs.listDirectory path.toString = .ok names → names'.Perm names →
      ∃ other, fs.Reordered other ∧ other.listDirectory path.toString = .ok names') ∧
    (∀ other, fs.Reordered other → discover fs path = discover other path) ∧
    ∀ devices, discover fs path = .ok devices →
      devices.Pairwise (fun a b => a.address < b.address) ∧
      (∀ b, Numbered fs path b → ∃! d, d ∈ devices ∧ d.address = b) ∧
      (∀ d ∈ devices, Numbered fs path d.address ∧
        readMember fs path d.address = .ok (some d)) ∧
      ((∀ b, Numbered fs path b → b.length = 12 ∧ Text.lower b.toList = b.toList) →
        devices.Pairwise fun a b => ∃ ns ns', Address.numbers a.address = .ok ns ∧
          Address.numbers b.address = .ok ns' ∧ ns < ns') := by
  refine ⟨fun _ _ hnames => FileSystem.Reordered.exists_listDirectory_eq hnames,
    fun _ h => discover_reordered h path, ?_⟩
  intro devices hdevices
  have hsorted := pairwise_address_lt hdevices
  refine ⟨hsorted, ?_, fun d hd => numbered_of_mem hdevices hd, ?_⟩
  · intro b hb
    obtain ⟨d, hd, haddress⟩ := exists_device_of_numbered hdevices hb
    refine ⟨d, ⟨hd, haddress⟩, ?_⟩
    rintro d' ⟨hd', haddress'⟩
    exact List.inj_on_of_nodup_map (nodup_addresses hdevices) hd' hd
      (haddress'.trans haddress.symm)
  · intro hplain
    refine hsorted.imp_of_mem ?_
    intro a b ha hb hlt
    have hnumbered := (numbered_of_mem hdevices ha).1
    have hnumbered' := (numbered_of_mem hdevices hb).1
    obtain ⟨hlength, hlower⟩ := hplain _ hnumbered
    obtain ⟨hlength', hlower'⟩ := hplain _ hnumbered'
    exact Address.numbers_lt hnumbered.address hnumbered'.address hlength hlength' hlower hlower'
      hlt

/-- Two devices in two orders. -/
def higherFirst : FileSystem where
  nodes := (["s"], .directory) :: (deviceNodes "0000:00:1f.6" "D0\n".toUTF8.data.toList ++
    deviceNodes "0000:00:02.0" "D3hot\n".toUTF8.data.toList)
  workingDir := []
  distinct := by simp [deviceNodes]

def lowerFirst : FileSystem where
  nodes := (["s"], .directory) :: (deviceNodes "0000:00:02.0" "D3hot\n".toUTF8.data.toList ++
    deviceNodes "0000:00:1f.6" "D0\n".toUTF8.data.toList)
  workingDir := []
  distinct := by simp [deviceNodes]

/-- The two devices in the order of their numbers, although the directory lists them the other way
round. -/
theorem discovery_of_higherFirst :
    higherFirst.Reordered lowerFirst ∧
      higherFirst.listDirectory (Path.ofString "s").toString =
        .ok ["0000:00:1f.6", "0000:00:02.0"] ∧
      ∃ devices, discover higherFirst (Path.ofString "s") = .ok devices ∧
        discover lowerFirst (Path.ofString "s") = .ok devices ∧
        devices.map Device.address = ["0000:00:02.0", "0000:00:1f.6"] ∧
        devices.Pairwise fun a b => ∃ ns ns', Address.numbers a.address = .ok ns ∧
          Address.numbers b.address = .ok ns' ∧ ns < ns' := by
  have hreordered : higherFirst.Reordered lowerFirst :=
    ⟨rfl, rfl, rfl, rfl, .cons _ List.perm_append_comm⟩
  have hexists : higherFirst.pathExists (Path.ofString "s").toString = .ok true := by
    decide +kernel
  have hlist : higherFirst.listDirectory (Path.ofString "s").toString =
      .ok ["0000:00:1f.6", "0000:00:02.0"] := by decide +kernel
  have hclean := @not_spoiled_of_clean higherFirst (by decide +kernel)
  obtain ⟨devices, hdevices⟩ : ∃ devices, discover higherFirst (Path.ofString "s") = .ok devices :=
    ⟨_, (settles_discover hexists hlist).ok fun ⟨_, _, hspoiled⟩ => hclean _ hspoiled⟩
  obtain ⟨-, hsame, hlists⟩ := discovery_in_address_order higherFirst (Path.ofString "s")
  obtain ⟨hsorted, hone, hnumbered, hnumbers⟩ := hlists devices hdevices
  have hlisted : ∀ {b : String}, Numbered higherFirst (Path.ofString "s") b →
      b = "0000:00:1f.6" ∨ b = "0000:00:02.0" := by
    intro b hb
    obtain ⟨names, hnames, hmem⟩ := hb.listed
    rw [hlist] at hnames
    obtain rfl := Except.ok.inj hnames
    simpa using hmem
  have hhigher : Numbered higherFirst (Path.ofString "s") "0000:00:1f.6" :=
    ⟨⟨_, hlist, by simp⟩, by decide +kernel, ⟨0x8086, by decide +kernel⟩,
      ⟨0x1533, by decide +kernel⟩⟩
  have hlower : Numbered higherFirst (Path.ofString "s") "0000:00:02.0" :=
    ⟨⟨_, hlist, by simp⟩, by decide +kernel, ⟨0x8086, by decide +kernel⟩,
      ⟨0x1533, by decide +kernel⟩⟩
  have haddresses : (devices.map Device.address).Pairwise (· < ·) := List.pairwise_map.2 hsorted
  have hnames : (["0000:00:02.0", "0000:00:1f.6"] : List String).Pairwise (· < ·) := by
    decide +kernel
  have hmem : ∀ b, b ∈ devices.map Device.address ↔ b ∈ ["0000:00:02.0", "0000:00:1f.6"] := by
    intro b
    simp only [List.mem_map, List.mem_cons, List.not_mem_nil, or_false]
    constructor
    · rintro ⟨d, hd, rfl⟩
      exact (hlisted (hnumbered d hd).1).symm
    · rintro (rfl | rfl)
      · exact (hone _ hlower).exists
      · exact (hone _ hhigher).exists
  refine ⟨hreordered, hlist, devices, hdevices, hsame lowerFirst hreordered ▸ hdevices, ?_,
    hnumbers ?_⟩
  · refine List.Perm.eq_of_pairwise ?_ haddresses hnames
      ((List.perm_ext_iff_of_nodup (haddresses.imp String.ne_of_lt)
        (hnames.imp String.ne_of_lt)).2 hmem)
    intro a b _ _ hab hba
    exact absurd (String.lt_trans hab hba) (String.lt_irrefl a)
  · intro b hb
    rcases hlisted hb with rfl | rfl
    · decide +kernel
    · decide +kernel

end Sysfs
end PciCatalog
