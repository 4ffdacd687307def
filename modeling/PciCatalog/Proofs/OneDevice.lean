import PciCatalog.Proofs.Attributes

/-!
# One device and all devices

A device is read from its own directory when it is asked for by its address, and from the list of
the device directory otherwise.  The two ways meet in the device's record: the list has the devices
with an address and a record (`mem_discovered`), and those are the devices that are read one by one
(`read_eq_ok_iff_mem`).  They fail differently: a spoiled device takes the list with it, and the
search for a single device stops at a path that is too long or leads through a directory that may
not be searched (`discover_eq_error_iff`, `read_eq_file_error_iff`).
-/

namespace PciCatalog
namespace Sysfs

open Result (Settles)

variable {fs : FileSystem} {path : Path} {devices : List Device}

/-- What stands below a device directory at an address is a member of the directory. -/
theorem listed_of_locate (hpath : path.Proper) {b : String} (hb : Address.accepts b = true)
    {place : Place} (h : fs.locate (path.child b).toString = .ok place) :
    fs.pathExists path.toString = .ok true ∧
      ∀ names, fs.listDirectory path.toString = .ok names → b ∈ names := by
  obtain ⟨directory, hlocate, hdirectory, hmem⟩ :=
    FileSystem.locate_child hpath (Address.isName_of_accepts hb) h
  refine ⟨FileSystem.pathExists_of_isDirectory hlocate hdirectory, fun names hnames => ?_⟩
  obtain ⟨place', hlocate', -, -, rfl⟩ := FileSystem.listDirectory_eq_ok_iff.1 hnames
  rw [hlocate] at hlocate'
  obtain rfl := Except.ok.inj hlocate'
  exact hmem (Address.isStep_of_accepts hb)

/-- An attribute that is read is a file. -/
theorem exists_file_of_attribute? {dir : Path} {name : String} {text : List Char}
    (h : attribute? fs dir name = some text) :
    ∃ place bytes, fs.locate (dir.child name).toString = .ok place ∧
      fs.node? place = some (.file bytes) := by
  rw [attribute?, Option.map_eq_some_iff] at h
  obtain ⟨content, hcontent, -⟩ := h
  cases hread : fs.readBytes (dir.child name).toString with
  | error e => simp [FileSystem.readText, hread, bind, Except.bind, Except.toOption] at hcontent
  | ok bytes =>
    obtain ⟨place, hplace, hnode⟩ :=
      FileSystem.status_eq_ok_iff.1 (FileSystem.readBytes_eq_ok_iff.1 hread).1
    exact ⟨place, bytes, hplace, hnode⟩

/-- An attribute that is read stands in a directory. -/
theorem pathExists_of_attribute? {dir : Path} (hdir : dir.Proper) {name : String}
    (hname : Path.IsName name) {text : List Char} (h : attribute? fs dir name = some text) :
    fs.pathExists dir.toString = .ok true := by
  obtain ⟨place, bytes, hplace, -⟩ := exists_file_of_attribute? h
  obtain ⟨directory, hlocate, hdirectory, -⟩ := FileSystem.locate_child hdir hname hplace
  exact FileSystem.pathExists_of_isDirectory hlocate hdirectory

/-- A device with a record has a directory. -/
theorem pathExists_of_record? {dir : Path} (hdir : dir.Proper) {address : String} {d : Device}
    (h : record? fs dir address = some d) : fs.pathExists dir.toString = .ok true := by
  simp only [record?, Option.bind_eq_bind, Option.bind_eq_some_iff] at h
  obtain ⟨vendorId, ⟨text, htext, -⟩, -⟩ := h
  exact pathExists_of_attribute? hdir (by decide) htext

/-- A spoiled device has a directory. -/
theorem pathExists_of_spoiled {dir : Path} (hdir : dir.Proper) (h : Spoiled fs dir) :
    fs.pathExists dir.toString = .ok true := by
  obtain ⟨hvendor, -, -⟩ := h
  rw [hexadecimal?_eq, Option.isSome_iff_exists] at hvendor
  obtain ⟨vendorId, hvendor⟩ := hvendor
  obtain ⟨text, htext, -⟩ := Option.bind_eq_some_iff.1 hvendor
  exact pathExists_of_attribute? hdir (by decide) htext

theorem listed_of_pathExists (hpath : path.Proper) {b : String} (hb : Address.accepts b = true)
    (h : fs.pathExists (path.child b).toString = .ok true) :
    fs.pathExists path.toString = .ok true ∧
      ∀ names, fs.listDirectory path.toString = .ok names → b ∈ names := by
  obtain ⟨node, hnode⟩ := FileSystem.pathExists_eq_true_iff.1 h
  obtain ⟨place, hplace, -⟩ := FileSystem.status_eq_ok_iff.1 hnode
  exact listed_of_locate hpath hb hplace

/-- What is known when there is a list: without the directory it is empty, and with it no device is
spoiled. -/
theorem discover_cases (h : discover fs path = .ok devices) :
    (fs.pathExists path.toString = .ok false ∧ devices = []) ∨
      ∃ names, fs.pathExists path.toString = .ok true ∧
        fs.listDirectory path.toString = .ok names ∧
        (∀ b ∈ names, Address.accepts b = true → ¬ Spoiled fs (path.child b)) ∧
        devices = ((names.filter Address.accepts).filterMap fun b =>
          record? fs (path.child b) b).mergeSort fun a b => a.address ≤ b.address := by
  cases hexists : fs.pathExists path.toString with
  | error e =>
    rw [discover_of_error hexists] at h
    contradiction
  | ok found =>
    cases found with
    | false =>
      rw [discover_of_missing hexists] at h
      exact .inl ⟨rfl, (Except.ok.inj h).symm⟩
    | true =>
      cases hlist : fs.listDirectory path.toString with
      | error e =>
        rw [discover_of_unlisted hexists hlist] at h
        contradiction
      | ok names =>
        obtain ⟨hclean, hdevices⟩ := (discover_listed_eq_ok_iff hexists hlist).1 h
        exact .inr ⟨names, rfl, rfl, hclean, hdevices⟩

/-- A device of a list has an address, and the record that this leads to. -/
theorem record_of_mem (h : discover fs path = .ok devices) {d : Device} (hd : d ∈ devices) :
    Address.accepts d.address = true ∧ record? fs (path.child d.address) d.address = some d := by
  rcases discover_cases h with ⟨-, rfl⟩ | ⟨names, hexists, hlist, -⟩
  · simp at hd
  · obtain ⟨b, -, haccepts, hrecord⟩ := (mem_discovered_iff hexists hlist h d).1 hd
    rw [address_of_record? hrecord]
    exact ⟨haccepts, hrecord⟩

/-- A list has the devices whose address is one and leads to a record. -/
theorem mem_discovered (hpath : path.Proper) (h : discover fs path = .ok devices) {d : Device} :
    d ∈ devices ↔ Address.accepts d.address = true ∧
      record? fs (path.child d.address) d.address = some d := by
  constructor
  · exact record_of_mem h
  · rintro ⟨haccepts, hrecord⟩
    have hdirectory :=
      pathExists_of_record? (hpath.child (Address.isName_of_accepts haccepts)) hrecord
    obtain ⟨hexists, hlisted⟩ := listed_of_pathExists hpath haccepts hdirectory
    rcases discover_cases h with ⟨hmissing, -⟩ | ⟨names, -, hlist, -⟩
    · rw [hmissing] at hexists
      contradiction
    · exact (mem_discovered_iff hexists hlist h d).2
        ⟨d.address, hlisted names hlist, haccepts, hrecord⟩

/-- No two devices of a list have one address. -/
theorem nodup_addresses (h : discover fs path = .ok devices) :
    (devices.map Device.address).Nodup := by
  rcases discover_cases h with ⟨-, rfl⟩ | ⟨names, -, hlist, -, rfl⟩
  · simp
  · obtain ⟨place, -, -, -, rfl⟩ := FileSystem.listDirectory_eq_ok_iff.1 hlist
    have hnames := (fs.nodup_members place).filter fun b => Address.accepts b
    have hnodup : (((fs.members place).filter Address.accepts).filterMap fun b =>
        (record? fs (path.child b) b).map Device.address).Nodup := by
      refine List.Nodup.filterMap ?_ hnames
      -- A record has the address that it was read for, so addresses differ as the names do.
      intro a b address ha hb
      obtain ⟨d, hd, rfl⟩ := Option.map_eq_some_iff.1 ha
      obtain ⟨d', hd', heq⟩ := Option.map_eq_some_iff.1 hb
      rw [← address_of_record? hd, ← heq, address_of_record? hd']
    rw [← List.map_filterMap] at hnodup
    exact ((List.mergeSort_perm _ _).map Device.address).nodup_iff.2 hnodup

/-- A list is sorted by the addresses. -/
theorem pairwise_address_le (h : discover fs path = .ok devices) :
    devices.Pairwise fun a b => a.address ≤ b.address := by
  rcases discover_cases h with ⟨-, rfl⟩ | ⟨names, -, -, -, rfl⟩
  · exact .nil
  · have htrans : ∀ a b c : Device, decide (a.address ≤ b.address) = true →
        decide (b.address ≤ c.address) = true → decide (a.address ≤ c.address) = true := by
      intro a b c hab hbc
      rw [decide_eq_true_eq] at hab hbc ⊢
      exact String.le_trans hab hbc
    have htotal : ∀ a b : Device,
        (decide (a.address ≤ b.address) || decide (b.address ≤ a.address)) = true := by
      intro a b
      simpa using String.le_total a.address b.address
    exact (List.pairwise_mergeSort htrans htotal _).imp of_decide_eq_true

/-- Two lists that are sorted by addresses without repetition are told by their devices. -/
theorem eq_of_sorted_addresses {devices' : List Device}
    (hnodup : (devices.map Device.address).Nodup) (hnodup' : (devices'.map Device.address).Nodup)
    (hsorted : devices.Pairwise fun a b => a.address ≤ b.address)
    (hsorted' : devices'.Pairwise fun a b => a.address ≤ b.address)
    (hmem : ∀ d, d ∈ devices ↔ d ∈ devices') : devices = devices' := by
  have hperm : devices.Perm devices' :=
    (List.perm_ext_iff_of_nodup hnodup.of_map hnodup'.of_map).2 hmem
  refine hperm.eq_of_pairwise ?_ hsorted hsorted'
  intro a b ha hb hab hba
  exact List.inj_on_of_nodup_map hnodup ha ((hmem b).2 hb) (String.le_antisymm hab hba)

/-- A list is told by its devices. -/
theorem discovered_ext {other : FileSystem} {devices' : List Device}
    (h : discover fs path = .ok devices) (h' : discover other path = .ok devices')
    (hmem : ∀ d, d ∈ devices ↔ d ∈ devices') : devices = devices' :=
  eq_of_sorted_addresses (nodup_addresses h) (nodup_addresses h') (pairwise_address_le h)
    (pairwise_address_le h') hmem

/-- Discovery is the same in two file systems when they test for the directory alike, fail to list
it alike, have spoiled devices in it or not, and lead to lists with the same devices. -/
theorem discover_congr {other : FileSystem}
    (hexists : fs.pathExists path.toString = other.pathExists path.toString)
    (hlist : fs.pathExists path.toString = .ok true → ∀ e,
      fs.listDirectory path.toString = .error e ↔ other.listDirectory path.toString = .error e)
    (hspoiled : ∀ names names', fs.listDirectory path.toString = .ok names →
      other.listDirectory path.toString = .ok names' →
        ((∃ b ∈ names.filter Address.accepts, Spoiled fs (path.child b)) ↔
          ∃ b ∈ names'.filter Address.accepts, Spoiled other (path.child b)))
    (hmem : ∀ devices devices', discover fs path = .ok devices →
      discover other path = .ok devices' → ∀ d, d ∈ devices ↔ d ∈ devices') :
    discover fs path = discover other path := by
  cases hfound : fs.pathExists path.toString with
  | error e => rw [discover_of_error hfound, discover_of_error (hexists ▸ hfound)]
  | ok found =>
    cases found with
    | false => rw [discover_of_missing hfound, discover_of_missing (hexists ▸ hfound)]
    | true =>
      have hfound' : other.pathExists path.toString = .ok true := hexists ▸ hfound
      have herrors := hlist hfound
      cases hnames : fs.listDirectory path.toString with
      | error e =>
        rw [discover_of_unlisted hfound hnames, discover_of_unlisted hfound' ((herrors e).1 hnames)]
      | ok names =>
        cases hnames' : other.listDirectory path.toString with
        | error e =>
          rw [(herrors e).2 hnames'] at hnames
          contradiction
        | ok names' =>
          have hsettles := settles_discover hfound hnames
          have hsettles' := settles_discover hfound' hnames'
          have hiff := hspoiled names names' hnames hnames'
          by_cases hbad : ∃ b ∈ names.filter Address.accepts, Spoiled fs (path.child b)
          · rw [hsettles.error hbad, hsettles'.error (hiff.1 hbad)]
          · have hdevices := hsettles.ok hbad
            have hdevices' := hsettles'.ok (mt hiff.2 hbad)
            -- The listings may differ in their order and in names that are no addresses, so the
            -- devices are compared by membership; sorting by address leaves them one order.
            have heq := discovered_ext hdevices hdevices' (hmem _ _ hdevices hdevices')
            rw [hdevices, hdevices', heq]

/-- A directory with a single device makes a list of one. -/
theorem discover_single {b : String} {d : Device}
    (hexists : fs.pathExists path.toString = .ok true)
    (hlist : fs.listDirectory path.toString = .ok [b]) (hb : Address.accepts b = true)
    (hread : readMember fs path b = .ok (some d)) : discover fs path = .ok [d] := by
  have hnames : [b].filter Address.accepts = [b] := by simp [hb]
  refine Result.bind_eq_ok_iff.2 ⟨true, hexists, ?_⟩
  rw [if_pos rfl]
  refine Result.bind_eq_ok_iff.2 ⟨[b], hlist, ?_⟩
  rw [hnames]
  refine Result.bind_eq_ok_iff.2 ⟨[some d], ?_, ?_⟩
  · exact Result.mapM_eq_ok_iff.2 (by rw [List.map_singleton, hread]; rfl)
  · exact congrArg Except.ok (List.mergeSort_singleton d)

/-- Reading the directory of a device fails only when the device is spoiled. -/
theorem settles_readMember {b : String}
    (hexists : fs.pathExists (path.child b).toString = .ok true) :
    Settles (Spoiled fs (path.child b)) .undecodable (readMember fs path b)
      (record? fs (path.child b) b) := by
  have hencoded := encodes_child (FileSystem.encodes_of_pathExists hexists)
  exact settles_readDirectory (fun name hname => hencoded name (mem_attributes_of_optional hname)) b

/-- How a single device is read, whatever the files hold. -/
theorem read_eq_of_every_content (fs : FileSystem) (path : Path) (b : String) :
    read fs b path =
      if Address.accepts b = true then
        match fs.pathExists (path.child b).toString with
        | .error e => .error (.file e)
        | .ok false => .error (.noDevice b)
        | .ok true =>
          if Spoiled fs (path.child b) then .error (.file .undecodable)
          else
            match record? fs (path.child b) b with
            | some d => .ok d
            | none => .error (.noNumbers b)
      else .error (.address (.malformed b)) := by
  rw [read, Address.validate]
  split
  · cases hexists : fs.pathExists (path.child b).toString with
    | error e => rfl
    | ok found =>
      cases found with
      | false => rfl
      | true =>
        have hmember := settles_readMember hexists
        by_cases hspoiled : Spoiled fs (path.child b)
        · simp only [bind, Except.bind, hmember.error hspoiled, if_pos hspoiled]
          rfl
        · simp only [bind, Except.bind, hmember.ok hspoiled, if_neg hspoiled]
          cases record? fs (path.child b) b <;> rfl
  · rfl

/-- Where there is a list, no device is spoiled. -/
theorem not_spoiled_of_discover (hpath : path.Proper) (h : discover fs path = .ok devices)
    {b : String} (hb : Address.accepts b = true)
    (hexists : fs.pathExists (path.child b).toString = .ok true) :
    ¬ Spoiled fs (path.child b) := by
  obtain ⟨hpathExists, hlisted⟩ := listed_of_pathExists hpath hb hexists
  rcases discover_cases h with ⟨hmissing, -⟩ | ⟨names, -, hlist, hclean, -⟩
  · rw [hmissing] at hpathExists
    contradiction
  · exact hclean b (hlisted names hlist) hb

/-- How a single device is read where there is a list. -/
theorem read_eq (hpath : path.Proper) (h : discover fs path = .ok devices) (b : String) :
    read fs b path =
      if Address.accepts b = true then
        match fs.pathExists (path.child b).toString with
        | .error e => .error (.file e)
        | .ok false => .error (.noDevice b)
        | .ok true =>
          match record? fs (path.child b) b with
          | some d => .ok d
          | none => .error (.noNumbers b)
      else .error (.address (.malformed b)) := by
  rw [read_eq_of_every_content]
  split
  · next hb =>
    cases hexists : fs.pathExists (path.child b).toString with
    | error e => rfl
    | ok found =>
      cases found with
      | false => rfl
      | true => simp only [if_neg (not_spoiled_of_discover hpath h hb hexists)]
  · rfl

/-- The devices that are read one by one are those of the list. -/
theorem read_eq_ok_iff_mem (hpath : path.Proper) (h : discover fs path = .ok devices) (b : String)
    (d : Device) : read fs b path = .ok d ↔ d ∈ devices ∧ d.address = b := by
  rw [mem_discovered hpath h, read_eq hpath h]
  constructor
  · intro hread
    split at hread
    · next hb =>
      split at hread
      · contradiction
      · contradiction
      · split at hread
        · next d' hrecord =>
          obtain rfl := Except.ok.inj hread
          have haddress := address_of_record? hrecord
          rw [haddress]
          exact ⟨⟨hb, hrecord⟩, rfl⟩
        · contradiction
    · contradiction
  · rintro ⟨⟨hb, hrecord⟩, rfl⟩
    -- A record cannot come from nowhere, so the device has a directory.
    have hexists := pathExists_of_record? (hpath.child (Address.isName_of_accepts hb)) hrecord
    rw [if_pos hb, hexists]
    simp only [hrecord]

/-- An address without a device in the list is refused, or there is no such device, or the device
has no numbers; or the test whether there is one fails. -/
theorem read_of_not_mem (hpath : path.Proper) (h : discover fs path = .ok devices) {b : String}
    (hb : ∀ d ∈ devices, d.address ≠ b) :
    if Address.accepts b = true then
      (∀ e, fs.pathExists (path.child b).toString = .error e →
        read fs b path = .error (.file e) ∧ (e = .nameTooLong ∨ e = .accessDenied)) ∧
      ∀ found, fs.pathExists (path.child b).toString = .ok found →
        read fs b path = .error (.noDevice b) ∨ read fs b path = .error (.noNumbers b)
    else read fs b path = .error (.address (.malformed b)) := by
  have hread := read_eq hpath h b
  split
  · next haccepts =>
    rw [if_pos haccepts] at hread
    constructor
    · intro e hexists
      rw [hexists] at hread
      exact ⟨hread, FileSystem.of_pathExists_error hexists⟩
    · intro found hexists
      rw [hexists] at hread
      cases found with
      | false => exact .inl hread
      | true =>
        cases hrecord : record? fs (path.child b) b with
        | none => exact .inr (by rw [hread, hrecord])
        | some d =>
          -- A record would put the device into the list.
          have hok : read fs b path = .ok d := by rw [hread, hrecord]
          obtain ⟨hd, haddress⟩ := (read_eq_ok_iff_mem hpath h b d).1 hok
          exact absurd haddress (hb d hd)
  · next hrefused => rw [hread, if_neg hrefused]

/-! ### Failures -/

/-- All failures of a list come from the file system, except for a spoiled device. -/
theorem discover_eq_error_iff {e : FileError} (he : e.isSystem = false) :
    discover fs path = .error e ↔ e = .undecodable ∧
      ∃ names, fs.pathExists path.toString = .ok true ∧
        fs.listDirectory path.toString = .ok names ∧
        ∃ b ∈ names, Address.accepts b = true ∧ Spoiled fs (path.child b) := by
  constructor
  · intro h
    -- The failures before a device is read are those of the file system.
    cases hexists : fs.pathExists path.toString with
    | error e' =>
      rw [discover_of_error hexists] at h
      obtain rfl := Except.error.inj h
      rcases FileSystem.of_pathExists_error hexists with rfl | rfl <;> contradiction
    | ok found =>
      cases found with
      | false =>
        rw [discover_of_missing hexists] at h
        contradiction
      | true =>
        cases hlist : fs.listDirectory path.toString with
        | error e' =>
          rw [discover_of_unlisted hexists hlist] at h
          obtain rfl := Except.error.inj h
          have hsystem :=
            FileSystem.isSystem_of_listDirectory (FileSystem.encodes_of_pathExists hexists) hlist
          rw [he] at hsystem
          contradiction
        | ok names =>
          obtain ⟨hundecodable, hspoiled⟩ := (discover_listed_eq_error_iff hexists hlist).1 h
          exact ⟨hundecodable, names, rfl, rfl, hspoiled⟩
  · rintro ⟨rfl, names, hexists, hlist, hspoiled⟩
    exact (discover_listed_eq_error_iff hexists hlist).2 ⟨rfl, hspoiled⟩

/-- The files stand in the way of a single device when the test whether there is one fails, or when
it is spoiled. -/
theorem read_eq_file_error_iff {b : String} {e : FileError} :
    read fs b path = .error (.file e) ↔ Address.accepts b = true ∧
      (fs.pathExists (path.child b).toString = .error e ∨
        fs.pathExists (path.child b).toString = .ok true ∧ Spoiled fs (path.child b) ∧
          e = .undecodable) := by
  rw [read_eq_of_every_content]
  by_cases hb : Address.accepts b = true
  · rw [if_pos hb]
    cases fs.pathExists (path.child b).toString with
    | error e' => simp [hb]
    | ok found =>
      cases found with
      | false => simp
      | true =>
        by_cases hspoiled : Spoiled fs (path.child b)
        · simp [hb, hspoiled, eq_comm]
        · cases record? fs (path.child b) b <;> simp [hspoiled]
  · simp [hb]

/-- A device that is read has an address and the record that the address leads to. -/
theorem record_of_read {b : String} {d : Device} (h : read fs b path = .ok d) :
    Address.accepts b = true ∧ record? fs (path.child b) b = some d := by
  rw [read_eq_of_every_content] at h
  split at h
  · next hb =>
    refine ⟨hb, ?_⟩
    split at h
    · contradiction
    · contradiction
    · split at h
      · contradiction
      · split at h
        · next d' hrecord => rw [hrecord, Except.ok.inj h]
        · contradiction
  · contradiction

end Sysfs
end PciCatalog
