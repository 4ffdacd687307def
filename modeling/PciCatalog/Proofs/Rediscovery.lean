import PciCatalog.Proofs.ReadBack

/-!
# Discovering a device again

The devices that are discovered after the texts of one device's numbers were written into the files
of these numbers.  Main statement: the device comes out again with its numbers, except that negative
ones are lost, and with them the device when one of them is its vendor or device number
(`numbers_read_back`).
-/

namespace PciCatalog

namespace Sysfs

open FileSystem

variable {fs other : FileSystem} {path : Path} {devices : List Device} {d : Device}

/-- The files of a device's numbers serve no other attribute and no other device. -/
def Unshared (other : FileSystem) (path : Path) (d : Device) : Prop :=
  ∀ (b name : String) (place : Place), Address.accepts b = true → name ∈ attributes →
    other.locate ((path.child b).child name).toString = .ok place →
      WrittenAt other (path.child d.address) d place → b = d.address ∧ name ∈ numberAttributes

theorem source_mem_of_shownNumber {s : ShownNumber} (hs : s ∈ d.shownNumbers) :
    s.source ∈ numberAttributes := by
  rw [← map_source_shownNumbers d]
  exact List.mem_map_of_mem hs

/-- Without links, no file is shared. -/
theorem unshared_of_no_links (hpath : path.Proper) (hsteps : ∀ part ∈ path.parts, IsStep part)
    (hlinks : ∀ place target, other.node? place ≠ some (.link target))
    (hd : Address.accepts d.address = true) : Unshared other path d := by
  have hknown : ∀ name ∈ numberAttributes, name ∈ attributes := by decide
  rintro b name place hb hname hplace ⟨s, hs, hplace', -⟩
  have hsource := source_mem_of_shownNumber hs
  have hspelled := LooksAt.place_eq (.attributeFile hb hname) hpath hsteps hlinks hplace
  have hspelled' :=
    LooksAt.place_eq (.attributeFile hd (hknown _ hsource)) hpath hsteps hlinks hplace'
  rw [hspelled] at hspelled'
  obtain ⟨rfl, rfl⟩ : b = d.address ∧ name = s.source := by simpa [Path.child] using hspelled'
  exact ⟨rfl, hsource⟩

/-- The directory of a device that has a vendor number before the writing stays where it is. -/
theorem parent?_of_rewritten (hpath : path.Proper) (h : Rewritten fs other (path.child d.address) d)
    {b : String} (hb : Address.accepts b = true) {text : List Char}
    (hvendor : attribute? fs (path.child b) "vendor" = some text) :
    parent? fs (path.child b) = parent? other (path.child b) := by
  obtain ⟨place, bytes, hplace, -⟩ := exists_file_of_attribute? hvendor
  obtain ⟨directory, hlocate, hdirectory, -⟩ :=
    locate_child (hpath.child (Address.isName_of_accepts hb)) (by decide) hplace
  rw [parent?, parent?, hlocate, (h.locate_of_isDirectory hlocate hdirectory).1]

/-- An attribute that does not share a file with a number of the device is read alike. -/
theorem attribute?_of_unshared (h : Rewritten fs other (path.child d.address) d)
    (hunshared : Unshared other path d) {b name : String} (hb : Address.accepts b = true)
    (hname : name ∈ attributes) (hapart : b ≠ d.address ∨ name ∉ numberAttributes) :
    attribute? fs (path.child b) name = attribute? other (path.child b) name := by
  have hclear' : Clear (WrittenAt other (path.child d.address) d) other
      ((path.child b).child name).toString := by
    intro place hplace hwritten
    obtain ⟨rfl, hnumber⟩ := hunshared b name place hb hname hplace hwritten
    exact hapart.elim (absurd rfl) (absurd hnumber)
  refine attribute?_eq_of_clear h.outside (fun place hplace hwritten => ?_) hclear'
  obtain ⟨s, -, -, hcontent, -⟩ := id hwritten
  exact hclear' place (h.outside.symm.locate_of_node hplace hcontent) hwritten

/-- Another device is described alike. -/
theorem record?_of_unshared (hpath : path.Proper) (h : Rewritten fs other (path.child d.address) d)
    (hunshared : Unshared other path d) {b : String} (hb : Address.accepts b = true)
    (hother : b ≠ d.address) :
    record? fs (path.child b) b = record? other (path.child b) b := by
  have hattribute : ∀ name ∈ attributes,
      attribute? fs (path.child b) name = attribute? other (path.child b) name :=
    fun name hname => attribute?_of_unshared h hunshared hb hname (.inl hother)
  cases hvendor : attribute? fs (path.child b) "vendor" with
  | none =>
    -- Without a vendor number there is no record, so it does not matter what stands above.
    have hvendor' : attribute? other (path.child b) "vendor" = none := by
      rw [← hattribute "vendor" (by decide), hvendor]
    simp [record?, hvendor, hvendor']
  | some text => exact record?_congr b hattribute (parent?_of_rewritten hpath h hb hvendor)

/-- The device is described with its numbers read again. -/
theorem record?_again (hpath : path.Proper) (h : Rewritten fs other (path.child d.address) d)
    (hunshared : Unshared other path d) (hb : Address.accepts d.address = true)
    (hrecord : record? fs (path.child d.address) d.address = some d) :
    record? other (path.child d.address) d.address = d.reread? := by
  have hoptional : ∀ name ∈ optionalAttributes, attribute? other (path.child d.address) name =
      attribute? fs (path.child d.address) name := by
    intro name hname
    have hapart : ∀ name ∈ optionalAttributes, name ∉ numberAttributes := by decide
    exact (attribute?_of_unshared h hunshared hb (mem_attributes_of_optional hname)
      (.inr (hapart name hname))).symm
  obtain ⟨hvendor, -⟩ := isSome_of_record? hrecord
  rw [hexadecimal?_eq, Option.isSome_iff_exists] at hvendor
  obtain ⟨n, hvendor⟩ := hvendor
  obtain ⟨text, htext, -⟩ := Option.bind_eq_some_iff.1 hvendor
  exact h.record?_eq_reread? hrecord hoptional (parent?_of_rewritten hpath h hb htext)

/-! ### The list of devices -/

/-- A device that had both of its numbers is not spoiled by the texts. -/
theorem not_spoiled_again (hpath : path.Proper) (hdevices : discover fs path = .ok devices)
    (h : Rewritten fs other (path.child d.address) d) {b : String} (hb : Address.accepts b = true)
    (hnumbers : (hexadecimal? fs (path.child b) "vendor").isSome ∧
      (hexadecimal? fs (path.child b) "device").isSome) : ¬ Spoiled other (path.child b) := by
  rintro ⟨-, -, name, hname, hgarbled⟩
  have hspoiled : Spoiled fs (path.child b) :=
    ⟨hnumbers.1, hnumbers.2, name, hname, h.garbled hgarbled⟩
  have hexists := pathExists_of_spoiled (hpath.child (Address.isName_of_accepts hb)) hspoiled
  exact not_spoiled_of_discover hpath hdevices hb hexists hspoiled

/-- A list of devices with the numbers of one device read again. -/
def rereadIn (d : Device) (devices : List Device) : List Device :=
  devices.filterMap fun e => if e.address = d.address then d.reread? else some e

theorem address_of_rereadIn {e e' : Device}
    (h : (if e.address = d.address then d.reread? else some e) = some e') :
    e'.address = e.address := by
  split at h
  · next hself => rw [Device.address_of_reread? h, hself]
  · rw [Option.some.inj h]

/-- Reading numbers again keeps the addresses and their order. -/
theorem pairwise_address_rereadIn {R : String → String → Prop}
    (h : devices.Pairwise fun a b => R a.address b.address) :
    (rereadIn d devices).Pairwise fun a b => R a.address b.address := by
  refine h.filterMap _ fun a a' hrel b hb b' hb' => ?_
  rwa [address_of_rereadIn hb, address_of_rereadIn hb']

theorem mem_rereadIn_iff (hd : d ∈ devices) {d' : Device} : d' ∈ rereadIn d devices ↔
    d'.address = d.address ∧ d.reread? = some d' ∨ d' ∈ devices ∧ d'.address ≠ d.address := by
  rw [rereadIn, List.mem_filterMap]
  constructor
  · rintro ⟨e, he, hread⟩
    have haddress := address_of_rereadIn hread
    split at hread
    · next hself => exact .inl ⟨haddress.trans hself, hread⟩
    · next hself =>
      obtain rfl := Option.some.inj hread
      exact .inr ⟨he, hself⟩
  · rintro (⟨-, hread⟩ | ⟨hmem, hself⟩)
    · exact ⟨d, hd, by rw [if_pos rfl, hread]⟩
    · exact ⟨d', hmem, by rw [if_neg hself]⟩

/-- A device without negative numbers stays as it is in a list where it has its address alone. -/
theorem rereadIn_eq_self (hnodup : (devices.map Device.address).Nodup) (hd : d ∈ devices)
    (hnumbers : ∀ s ∈ d.shownNumbers, 0 ≤ s.number) : rereadIn d devices = devices := by
  have hself : ∀ e ∈ devices,
      (if e.address = d.address then d.reread? else some e) = some e := by
    intro e he
    split
    · next haddress =>
      rw [Device.reread?_eq_self hnumbers, List.inj_on_of_nodup_map hnodup he hd haddress]
    · rfl
  rw [rereadIn, List.filterMap_congr hself, List.filterMap_some]

/-- The device is found again with its numbers, but 0 for each negative one. -/
theorem numbers_found_again (hdevices : discover fs path = .ok devices) (hd : d ∈ devices)
    (h : Rewritten fs other (path.child d.address) d) {devices' : List Device}
    (hdevices' : discover other path = .ok devices') {d' : Device} (hd' : d' ∈ devices')
    (haddress : d'.address = d.address) :
    d'.shownNumbers.map ShownNumber.number = d.shownNumbers.map fun s => max s.number 0 := by
  obtain ⟨-, hrecord⟩ := record_of_mem hdevices hd
  obtain ⟨-, hrecord'⟩ := record_of_mem hdevices' hd'
  rw [haddress] at hrecord'
  rw [map_number_of_record? hrecord', ← map_source_shownNumbers d, List.map_map]
  exact List.map_congr_left fun s hs => h.getD_hexadecimal? hrecord hs

section Discovery

variable (hpath : path.Proper) (hdevices : discover fs path = .ok devices) (hd : d ∈ devices)
  (h : Rewritten fs other (path.child d.address) d)

include hpath hdevices hd h

omit hpath in
/-- The device directory can still be listed. -/
theorem listed_again : other.pathExists path.toString = .ok true ∧
    ∃ names, other.listDirectory path.toString = .ok names := by
  rcases discover_cases hdevices with ⟨-, rfl⟩ | ⟨names, -, hlist, -⟩
  · cases hd
  obtain ⟨place, hlocate, hdirectory, hlocked, -⟩ := listDirectory_eq_ok_iff.1 hlist
  obtain ⟨hlocate', hdirectory'⟩ := h.locate_of_isDirectory hlocate hdirectory
  have hclear : ¬ WrittenAt other (path.child d.address) d place := by
    rintro ⟨s, -, -, hfile, -⟩
    simp [isDirectory, hfile] at hdirectory'
  rw [h.outside.isLocked place hclear] at hlocked
  exact ⟨pathExists_of_isDirectory hlocate' hdirectory',
    _, listDirectory_eq_ok_iff.2 ⟨place, hlocate', hdirectory', hlocked, rfl⟩⟩

/-- Only another device can stop the discovery. -/
theorem spoiled_of_discover_again {e : FileError} (herror : discover other path = .error e) :
    e = .undecodable ∧ ∃ b, b ≠ d.address ∧ Address.accepts b = true ∧
      Spoiled other (path.child b) := by
  obtain ⟨hexists, names, hlist⟩ := listed_again hdevices hd h
  obtain ⟨hundecodable, b, -, hb, hspoiled⟩ := (discover_listed_eq_error_iff hexists hlist).1 herror
  obtain ⟨-, hrecord⟩ := record_of_mem hdevices hd
  refine ⟨hundecodable, b, ?_, hb, hspoiled⟩
  rintro rfl
  exact not_spoiled_again hpath hdevices h hb (isSome_of_record? hrecord) hspoiled

/-- The device is found again when neither of the numbers that make it a device is negative. -/
theorem exists_found_again_iff {devices' : List Device}
    (hdevices' : discover other path = .ok devices') :
    (∃ d' ∈ devices', d'.address = d.address) ↔ 0 ≤ d.vendorId ∧ 0 ≤ d.deviceId := by
  obtain ⟨hb, hrecord⟩ := record_of_mem hdevices hd
  have hvendor := h.hexadecimal?_required hrecord (s := ⟨"vendor", d.vendorId, d.vendorText⟩)
    (by simp [Device.shownNumbers]) (.inl rfl)
  have hdevice := h.hexadecimal?_required hrecord (s := ⟨"device", d.deviceId, d.deviceText⟩)
    (by simp [Device.shownNumbers]) (.inr rfl)
  -- Only these two numbers decide whether there is a record.
  dsimp only at hvendor hdevice
  constructor
  · rintro ⟨d', hd', haddress⟩
    obtain ⟨-, hrecord'⟩ := record_of_mem hdevices' hd'
    rw [haddress] at hrecord'
    have hsome := isSome_of_record? hrecord'
    rw [hvendor, hdevice] at hsome
    simpa using hsome
  · rintro ⟨hvendorId, hdeviceId⟩
    rw [if_pos hvendorId] at hvendor
    rw [if_pos hdeviceId] at hdevice
    have hfound : ∃ d', record? other (path.child d.address) d.address = some d' :=
      exists_record?_iff.2 ⟨⟨_, hvendor⟩, _, hdevice⟩
    obtain ⟨d', hrecord'⟩ := hfound
    have haddress := address_of_record? hrecord'
    refine ⟨d', (mem_discovered hpath hdevices').2 ?_, haddress⟩
    rw [haddress]
    exact ⟨hb, hrecord'⟩

/-- When the files of the numbers are not shared, nothing can stop the discovery. -/
theorem clean_again (hunshared : Unshared other path d) {b : String}
    (haccepts : Address.accepts b = true) : ¬ Spoiled other (path.child b) := by
  intro hspoiled
  obtain ⟨hb, hrecord⟩ := record_of_mem hdevices hd
  by_cases hself : b = d.address
  · subst hself
    exact not_spoiled_again hpath hdevices h hb (isSome_of_record? hrecord) hspoiled
  · have hnumber : ∀ name ∈ attributes,
        hexadecimal? fs (path.child b) name = hexadecimal? other (path.child b) name :=
      fun name hname =>
        hexadecimal?_congr (attribute?_of_unshared h hunshared haccepts hname (.inl hself))
    refine not_spoiled_again hpath hdevices h haccepts ?_ hspoiled
    rw [hnumber "vendor" (by decide), hnumber "device" (by decide)]
    exact ⟨hspoiled.1, hspoiled.2.1⟩

/-- When the files of the numbers are not shared, the devices are those from before, the one with
its numbers read again. -/
theorem record?_again_iff (hunshared : Unshared other path d) {d' : Device} :
    Address.accepts d'.address = true ∧
        record? other (path.child d'.address) d'.address = some d' ↔
      d' ∈ rereadIn d devices := by
  obtain ⟨hb, hrecord⟩ := record_of_mem hdevices hd
  rw [mem_rereadIn_iff hd]
  by_cases hself : d'.address = d.address
  · simp only [hself, hb, record?_again hpath h hunshared hb hrecord, true_and, ne_eq,
      not_true_eq_false, and_false, or_false]
  · rw [mem_discovered hpath hdevices]
    constructor
    · rintro ⟨haccepts, hfound⟩
      rw [← record?_of_unshared hpath h hunshared haccepts hself] at hfound
      exact .inr ⟨⟨haccepts, hfound⟩, hself⟩
    · rintro (⟨-, hread⟩ | ⟨⟨haccepts, hfound⟩, -⟩)
      · exact absurd (Device.address_of_reread? hread) hself
      · rw [record?_of_unshared hpath h hunshared haccepts hself] at hfound
        exact ⟨haccepts, hfound⟩

/-- When the files of the numbers are not shared, the list is the one from before with the numbers
of the device read again. -/
theorem discover_again (hunshared : Unshared other path d) :
    discover other path = .ok (rereadIn d devices) := by
  obtain ⟨hexists, names, hlist⟩ := listed_again hdevices hd h
  have hok := (discover_listed_eq_ok_iff hexists hlist).2
    ⟨fun b _ haccepts => clean_again hpath hdevices hd h hunshared haccepts, rfl⟩
  have hnodup : ((rereadIn d devices).map Device.address).Nodup := by
    have hdistinct := nodup_addresses hdevices
    rw [List.Nodup, List.pairwise_map] at hdistinct ⊢
    exact pairwise_address_rereadIn hdistinct
  -- Both lists are sorted without repetitions, so the same members make them the same list.
  rw [hok]
  refine congrArg Except.ok (eq_of_sorted_addresses (nodup_addresses hok)
    hnodup (pairwise_address_le hok)
    (pairwise_address_rereadIn (pairwise_address_le hdevices)) fun d' => ?_)
  rw [mem_discovered hpath hok]
  exact record?_again_iff hpath hdevices hd h hunshared

/-- The numbers of a device are read back from their texts, as far as they are not negative.  When
each text has been written into the file of its number and discovery comes to a list again, the
device is in it exactly when neither its vendor nor its device number is negative, and it has the
same six numbers there, but 0 for each negative one.  Discovery comes to a list unless another
device has an attribute that is not in UTF-8.  When the files of the six numbers serve nothing else,
the rest of the list stays as it was; so the list is the same when no number is negative. -/
theorem numbers_read_back :
    (∀ s ∈ d.shownNumbers,
      Numeral.hexadecimal? s.text.toList = if 0 ≤ s.number then some s.number else none) ∧
    (∀ devices', discover other path = .ok devices' →
      (∀ d' ∈ devices', d'.address = d.address →
        d'.shownNumbers.map ShownNumber.number = d.shownNumbers.map fun s => max s.number 0) ∧
      ((∃ d' ∈ devices', d'.address = d.address) ↔ 0 ≤ d.vendorId ∧ 0 ≤ d.deviceId)) ∧
    (∀ e, discover other path = .error e → e = .undecodable ∧
      ∃ b, b ≠ d.address ∧ Address.accepts b = true ∧ Spoiled other (path.child b)) ∧
    (Unshared other path d → discover other path = .ok (rereadIn d devices) ∧
      ((∀ s ∈ d.shownNumbers, 0 ≤ s.number) → discover other path = .ok devices)) := by
  refine ⟨fun s hs => hexadecimal?_shownNumber hs, ?_, ?_, ?_⟩
  · exact fun devices' hdevices' =>
      ⟨fun _ => numbers_found_again hdevices hd h hdevices',
        exists_found_again_iff hpath hdevices hd h hdevices'⟩
  · exact fun e herror => spoiled_of_discover_again hpath hdevices hd h herror
  · intro hunshared
    have hagain := discover_again hpath hdevices hd h hunshared
    refine ⟨hagain, fun hnumbers => ?_⟩
    rw [hagain, rereadIn_eq_self (nodup_addresses hdevices) hd hnumbers]

end Discovery

/-! ### Two devices -/

/-- The place of the only device below a device directory. -/
def onlyPlace : Place := ["s", "0000:00:1f.6"]

/-- A device directory with one device, whose two number files are empty. -/
def bareDevice : FileSystem where
  nodes := [(["s"], .directory), (onlyPlace, .directory),
    (onlyPlace ++ ["vendor"], .file []), (onlyPlace ++ ["device"], .file [])]
  workingDir := []
  distinct := by decide

/-- The device directory with some content in the two files. -/
def numberedDevice (vendor device : List UInt8) : FileSystem :=
  (bareDevice.set (onlyPlace ++ ["vendor"]) (.file vendor)).set (onlyPlace ++ ["device"])
    (.file device)

/-- The device directory with the texts of a device's numbers in the files. -/
def rewrittenDevice (d : Device) : FileSystem :=
  numberedDevice (Text.utf8 (d.vendorText.toList ++ ['\n']))
    (Text.utf8 (d.deviceText.toList ++ ['\n']))

theorem sameTree_numberedDevice (vendor device : List UInt8) :
    SameTree bareDevice (numberedDevice vendor device) := by
  have hvendor : bareDevice.node? (onlyPlace ++ ["vendor"]) = some (.file []) := rfl
  have hdevice : (bareDevice.set (onlyPlace ++ ["vendor"]) (.file vendor)).node?
      (onlyPlace ++ ["device"]) = some (.file []) := by
    rw [node?_set (by decide)]
    rfl
  exact (sameTree_set hvendor rfl rfl).trans (sameTree_set hdevice rfl rfl)

theorem node?_numberedDevice (vendor device : List UInt8) (place : Place) :
    (numberedDevice vendor device).node? place =
      if place = onlyPlace ++ ["device"] then some (.file device)
      else if place = onlyPlace ++ ["vendor"] then some (.file vendor)
      else bareDevice.node? place := by
  rw [numberedDevice, node?_set (by decide), node?_set (by decide)]

/-- The path of the only device. -/
def onlyPath : Path := (Path.ofString "s").child "0000:00:1f.6"

theorem no_links_numberedDevice (vendor device : List UInt8) (place : Place) (target : String) :
    (numberedDevice vendor device).node? place ≠ some (.link target) := by
  have hbare : ∀ entry ∈ bareDevice.nodes, entry.2.outline = entry.2 → entry.2 = .directory := by
    decide
  rw [node?_numberedDevice]
  split
  · simp
  split
  · simp
  intro hnode
  have hplace : place ≠ [] := by
    rintro rfl
    simp [node?] at hnode
  exact absurd (hbare _ (mem_nodes_of_node? hplace hnode) rfl) (by simp)

/-- Of the files of the six numbers there are two. -/
theorem locate_rewrittenDevice (d : Device) : ∀ name ∈ numberAttributes,
    (rewrittenDevice d).locate (onlyPath.child name).toString =
      if name = "vendor" ∨ name = "device" then .ok (onlyPlace ++ [name])
      else .error .notFound := by
  rw [rewrittenDevice]
  -- What is found where does not depend on the texts, so the empty files show it.
  simp only [← (sameTree_numberedDevice _ _).locate_eq]
  decide +kernel

theorem writtenAt_vendor (d : Device) :
    WrittenAt (rewrittenDevice d) onlyPath d (onlyPlace ++ ["vendor"]) :=
  ⟨⟨"vendor", d.vendorId, d.vendorText⟩, by simp [Device.shownNumbers],
    locate_rewrittenDevice d "vendor" (by decide), node?_numberedDevice _ _ _, rfl⟩

theorem writtenAt_device (d : Device) :
    WrittenAt (rewrittenDevice d) onlyPath d (onlyPlace ++ ["device"]) :=
  ⟨⟨"device", d.deviceId, d.deviceText⟩, by simp [Device.shownNumbers],
    locate_rewrittenDevice d "device" (by decide), node?_numberedDevice _ _ _, rfl⟩

/-- The texts stand in the two files, and the other numbers have no files. -/
theorem rewritten_numberedDevice (vendor device : List UInt8) (d : Device) :
    Rewritten (numberedDevice vendor device) (rewrittenDevice d) onlyPath d := by
  have htree : SameTree (numberedDevice vendor device) (rewrittenDevice d) :=
    (sameTree_numberedDevice vendor device).symm.trans (sameTree_numberedDevice _ _)
  refine ⟨htree.agreeOutside ?_ ?_, ?_⟩
  · rintro place ⟨s, -, -, hcontent, -⟩
    exact ⟨_, hcontent⟩
  · intro place hclear
    have hplace : place ≠ onlyPlace ++ ["device"] ∧ place ≠ onlyPlace ++ ["vendor"] :=
      ⟨fun heq => hclear (heq ▸ writtenAt_device d), fun heq => hclear (heq ▸ writtenAt_vendor d)⟩
    rw [rewrittenDevice, node?_numberedDevice, node?_numberedDevice]
    simp only [hplace, if_false]
  · intro s hs
    have hsource := locate_rewrittenDevice d _ (source_mem_of_shownNumber hs)
    split at hsource
    · next hname =>
      refine .inl ⟨_, hsource, ?_⟩
      rcases hname with hname | hname
      · rw [hname]
        exact writtenAt_vendor d
      · rw [hname]
        exact writtenAt_device d
    · right
      rw [Option.eq_none_iff_forall_ne_some]
      intro text htext
      obtain ⟨place, bytes, hplace, -⟩ := exists_file_of_attribute? htext
      rw [hsource] at hplace
      contradiction

/-- A device whose numbers are written in unusual ways. -/
def oddDevice : FileSystem :=
  numberedDevice "8_086".toUTF8.data.toList " +0X1533\n".toUTF8.data.toList

/-- A device with a negative vendor number. -/
def negativeDevice : FileSystem :=
  numberedDevice "-1\n".toUTF8.data.toList "0x1533\n".toUTF8.data.toList

/-- The device in the files of `oddDevice`. -/
def ethernetDevice : Device where
  address := "0000:00:1f.6"
  vendorId := 0x8086
  deviceId := 0x1533

/-- The device in the files of `negativeDevice`. -/
def vanishingDevice : Device where
  address := "0000:00:1f.6"
  vendorId := -1
  deviceId := 0x1533

/-- The only device of a directory makes a list of one. -/
theorem discover_numberedDevice {vendor device : List UInt8} {d : Device}
    (h : readMember (numberedDevice vendor device) (Path.ofString "s") "0000:00:1f.6" =
      .ok (some d)) :
    discover (numberedDevice vendor device) (Path.ofString "s") = .ok [d] := by
  have htree := sameTree_numberedDevice vendor device
  refine discover_single ?_ ?_ (by decide) h
  · rw [← htree.pathExists_eq]
    decide +kernel
  · rw [← htree.listDirectory_eq]
    decide +kernel

theorem numbers_of_oddDevice_read_back :
    discover oddDevice (Path.ofString "s") = .ok [ethernetDevice] ∧
      Rewritten oddDevice (rewrittenDevice ethernetDevice) onlyPath ethernetDevice ∧
      discover (rewrittenDevice ethernetDevice) (Path.ofString "s") = .ok [ethernetDevice] := by
  have hdevices : discover oddDevice (Path.ofString "s") = .ok [ethernetDevice] :=
    discover_numberedDevice (by decide +kernel)
  have hrewritten : Rewritten oddDevice (rewrittenDevice ethernetDevice) onlyPath ethernetDevice :=
    rewritten_numberedDevice _ _ _
  have hpath := Path.proper_ofString "s"
  obtain ⟨-, -, -, hunshared⟩ :=
    numbers_read_back hpath hdevices List.mem_cons_self hrewritten
  have hparts : (Path.ofString "s").parts = ["s"] := by decide +kernel
  have hsteps : ∀ part ∈ (Path.ofString "s").parts, IsStep part := by
    rw [hparts, List.forall_mem_singleton]
    exact ⟨by decide, by decide, by decide, by decide⟩
  have hprivate : Unshared (rewrittenDevice ethernetDevice) (Path.ofString "s") ethernetDevice :=
    unshared_of_no_links hpath hsteps (no_links_numberedDevice _ _) (by decide)
  exact ⟨hdevices, hrewritten, (hunshared hprivate).2 (by decide)⟩

/-- The text of a negative number is no number: the device is not found again. -/
theorem negative_vendor_not_read_back :
    discover negativeDevice (Path.ofString "s") = .ok [vanishingDevice] ∧
      Rewritten negativeDevice (rewrittenDevice vanishingDevice) onlyPath vanishingDevice ∧
      vanishingDevice.vendorText = "0x-001" ∧
      discover (rewrittenDevice vanishingDevice) (Path.ofString "s") = .ok [] := by
  have hdevices : discover negativeDevice (Path.ofString "s") = .ok [vanishingDevice] :=
    discover_numberedDevice (by decide +kernel)
  exact ⟨hdevices, rewritten_numberedDevice _ _ _, by decide +kernel, by decide +kernel⟩

end Sysfs
end PciCatalog
