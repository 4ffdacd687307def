import PciCatalog.Proofs.AddressForm
import PciCatalog.Proofs.FileAccess
import PciCatalog.Sysfs

/-!
# What discovery makes of attributes

The device that the files in a directory describe, with every attribute that cannot be read at its
default (`record?`).  Discovery finds these devices, for whatever the files hold, unless a text
attribute is not in UTF-8: then it comes to no list at all.  Main statements: `settles_discover`,
and `record?_set`, by which a file has a say in the devices that it belongs to only.
-/

namespace PciCatalog

namespace Sysfs

open Result (Settles)

variable {fs : FileSystem} {dir path : Path} {name address : String}

/-! ### One attribute -/

/-- The text of an attribute without the blanks around it, if its file can be read and is in
UTF-8. -/
def attribute? (fs : FileSystem) (dir : Path) (name : String) : Option (List Char) :=
  (fs.readText (dir.child name).toString).toOption.map Text.trim

/-- Whether an attribute has bytes that are not in UTF-8. -/
def Garbled (fs : FileSystem) (dir : Path) (name : String) : Prop :=
  ∃ bytes, fs.readBytes (dir.child name).toString = .ok bytes ∧ Text.decodeStrict? bytes = none

instance (fs : FileSystem) (dir : Path) (name : String) : Decidable (Garbled fs dir name) :=
  match h : fs.readBytes (dir.child name).toString with
  | .ok bytes => decidable_of_iff (Text.decodeStrict? bytes = none) (by simp [Garbled, h])
  | .error _ => isFalse (by simp [Garbled, h])

theorem hexadecimal?_eq (fs : FileSystem) (dir : Path) (name : String) :
    hexadecimal? fs dir name = (attribute? fs dir name).bind Numeral.hexadecimal? := by
  unfold hexadecimal? attribute?
  cases fs.readText (dir.child name).toString <;> rfl

section Readers

variable (hencoded : fs.Encodes (dir.child name).toString)

include hencoded

/-- Reading an attribute fails only when the attribute is garbled. -/
theorem settles_text? :
    Settles (Garbled fs dir name) .undecodable (text? fs dir name) (attribute? fs dir name) := by
  unfold text? attribute? Garbled FileSystem.readText FileSystem.textOf
  cases hbytes : fs.readBytes (dir.child name).toString with
  | error e =>
    -- A file that cannot be read counts as absent: such a failure is caught.
    refine ⟨fun _ => ?_, fun ⟨_, h, _⟩ => by contradiction⟩
    simp [bind, Except.bind, Except.toOption, FileSystem.isSystem_of_readBytes hencoded hbytes]
  | ok bytes =>
    cases hdecode : Text.decodeStrict? bytes with
    | none =>
      refine ⟨fun hclean => absurd ⟨bytes, rfl, hdecode⟩ hclean, fun _ => ?_⟩
      simp [bind, Except.bind, hdecode, FileError.isSystem]
    | some text =>
      constructor
      · intro _
        simp [bind, Except.bind, Except.toOption, hdecode]
      · rintro ⟨_, hbytes', hnone⟩
        obtain rfl := Except.ok.inj hbytes'
        rw [hdecode] at hnone
        contradiction

theorem settles_decimal? :
    Settles (Garbled fs dir name) .undecodable (decimal? fs dir name)
      ((attribute? fs dir name).bind Numeral.decimal?) :=
  (settles_text? hencoded).map fun text => text.bind Numeral.decimal?

theorem settles_flag? :
    Settles (Garbled fs dir name) .undecodable (flag? fs dir name)
      (((attribute? fs dir name).bind Numeral.decimal?).map (· ≠ 0)) :=
  (settles_decimal? hencoded).map fun found => found.map fun n => decide (n ≠ 0)

theorem settles_speed? :
    Settles (Garbled fs dir name) .undecodable (speed? fs dir name)
      ((attribute? fs dir name).bind speedOf?) :=
  (settles_text? hencoded).map fun text => text.bind speedOf?

theorem settles_word? :
    Settles (Garbled fs dir name) .undecodable (word? fs dir name)
      ((attribute? fs dir name).bind fun text =>
        if text.isEmpty then none else some (String.ofList text)) :=
  (settles_text? hencoded).map fun text =>
    text.bind fun text => if text.isEmpty then none else some (String.ofList text)

end Readers

/-! ### One device -/

/-- The attributes that a device may be without. -/
def optionalAttributes : List String :=
  ["max_link_speed", "max_link_width", "current_link_speed", "current_link_width", "power_state",
    "d3cold_allowed", "sriov_drivers_autoprobe", "sriov_numvfs", "sriov_totalvfs",
    "sriov_vf_total_msix", "numa_node"]

/-- The device in a directory, if it has a vendor and a device number: any other number that cannot
be read is 0, and any other attribute that cannot be read is missing. -/
def record? (fs : FileSystem) (dir : Path) (address : String) : Option Device := do
  let vendorId ← (attribute? fs dir "vendor").bind Numeral.hexadecimal?
  let deviceId ← (attribute? fs dir "device").bind Numeral.hexadecimal?
  let number (name : String) : Int :=
    ((attribute? fs dir name).bind Numeral.hexadecimal?).getD 0
  let decimal (name : String) : Option Int := (attribute? fs dir name).bind Numeral.decimal?
  let flag (name : String) : Option Bool := (decimal name).map (· ≠ 0)
  let speed (name : String) : Option Binary64 := (attribute? fs dir name).bind speedOf?
  pure {
    address
    vendorId
    deviceId
    subsystemVendor := number "subsystem_vendor"
    subsystemDevice := number "subsystem_device"
    revision := number "revision"
    classCode := number "class"
    parentAddress := parent? fs dir
    maxLinkSpeed := speed "max_link_speed"
    maxLinkWidth := decimal "max_link_width"
    currentLinkSpeed := speed "current_link_speed"
    currentLinkWidth := decimal "current_link_width"
    powerState := (attribute? fs dir "power_state").bind fun text =>
      if text.isEmpty then none else some (String.ofList text)
    d3coldAllowed := flag "d3cold_allowed"
    driversAutoprobe := flag "sriov_drivers_autoprobe"
    virtualFunctions := decimal "sriov_numvfs"
    totalVirtualFunctions := decimal "sriov_totalvfs"
    totalVectors := decimal "sriov_vf_total_msix"
    numaNode := decimal "numa_node" }

/-- Whether a device with both numbers has a garbled attribute. -/
def Spoiled (fs : FileSystem) (dir : Path) : Prop :=
  (hexadecimal? fs dir "vendor").isSome ∧ (hexadecimal? fs dir "device").isSome ∧
    ∃ name ∈ optionalAttributes, Garbled fs dir name

instance (fs : FileSystem) (dir : Path) : Decidable (Spoiled fs dir) :=
  inferInstanceAs (Decidable (_ ∧ _ ∧ ∃ name ∈ optionalAttributes, Garbled fs dir name))

/-- Whether a node is no file with bytes that are not in UTF-8. -/
def IsClean : Node → Prop
  | .file bytes => Text.decodeStrict? bytes ≠ none
  | _ => True

instance : DecidablePred IsClean
  | .file bytes => inferInstanceAs (Decidable (Text.decodeStrict? bytes ≠ none))
  | .directory | .unreadable _ | .link _ => isTrue trivial

/-- Where all files are in UTF-8, no device is spoiled. -/
theorem not_spoiled_of_clean (hclean : ∀ entry ∈ fs.nodes, IsClean entry.2) (dir : Path) :
    ¬ Spoiled fs dir := by
  rintro ⟨-, -, name, -, bytes, hbytes, hnone⟩
  obtain ⟨place, -, hnode⟩ :=
    FileSystem.status_eq_ok_iff.1 (FileSystem.readBytes_eq_ok_iff.1 hbytes).1
  have hplace : place ≠ [] := by
    rintro rfl
    simp [FileSystem.node?] at hnode
  exact hclean _ (FileSystem.mem_nodes_of_node? hplace hnode) hnone

/-- Reading a device fails only when one of its attributes is garbled. -/
theorem settles_readDirectory
    (hencoded : ∀ name ∈ optionalAttributes, fs.Encodes (dir.child name).toString)
    (address : String) :
    Settles (Spoiled fs dir) .undecodable (readDirectory fs dir address)
      (record? fs dir address) := by
  unfold Spoiled record? readDirectory
  rw [← hexadecimal?_eq, ← hexadecimal?_eq]
  -- Without its two numbers an entry is no device, and nothing else of it is read.
  cases hvendor : hexadecimal? fs dir "vendor" with
  | none => exact (Settles.pure _ none).congr (by simp)
  | some vendorId =>
    cases hdevice : hexadecimal? fs dir "device" with
    | none => exact (Settles.pure _ none).congr (by simp)
    | some deviceId =>
      simp only [hexadecimal?_eq]
      -- The optional attributes in the order of reading.
      refine Settles.congr ((settles_speed? (hencoded "max_link_speed" ?_)).bind <|
        (settles_decimal? (hencoded "max_link_width" ?_)).bind <|
        (settles_speed? (hencoded "current_link_speed" ?_)).bind <|
        (settles_decimal? (hencoded "current_link_width" ?_)).bind <|
        (settles_word? (hencoded "power_state" ?_)).bind <|
        (settles_flag? (hencoded "d3cold_allowed" ?_)).bind <|
        (settles_flag? (hencoded "sriov_drivers_autoprobe" ?_)).bind <|
        (settles_decimal? (hencoded "sriov_numvfs" ?_)).bind <|
        (settles_decimal? (hencoded "sriov_totalvfs" ?_)).bind <|
        (settles_decimal? (hencoded "sriov_vf_total_msix" ?_)).bind <|
        (settles_decimal? (hencoded "numa_node" ?_)).bind <| Settles.pure _ _) ?_
      all_goals simp [optionalAttributes]

/-- There is a record where both numbers can be read. -/
theorem exists_record?_iff :
    (∃ d, record? fs dir address = some d) ↔
      (∃ n, hexadecimal? fs dir "vendor" = some n) ∧
        ∃ n, hexadecimal? fs dir "device" = some n := by
  rw [hexadecimal?_eq, hexadecimal?_eq]
  simp only [record?, Option.bind_eq_bind, Option.bind_eq_some_iff, Option.pure_def,
    Option.some_inj]
  constructor
  · rintro ⟨d, vendorId, hvendor, deviceId, hdevice, -⟩
    exact ⟨⟨vendorId, hvendor⟩, deviceId, hdevice⟩
  · rintro ⟨⟨vendorId, hvendor⟩, deviceId, hdevice⟩
    exact ⟨_, vendorId, hvendor, deviceId, hdevice, rfl⟩

/-- A device that was read has the address that was asked for. -/
theorem address_of_record? {d : Device} (h : record? fs dir address = some d) :
    d.address = address := by
  simp only [record?, Option.bind_eq_bind, Option.bind_eq_some_iff, Option.pure_def,
    Option.some_inj] at h
  obtain ⟨vendorId, -, deviceId, -, rfl⟩ := h
  rfl

/-- The address above a device that was read is an address. -/
theorem accepts_parentAddress {d : Device} (h : record? fs dir address = some d) :
    ∀ parent ∈ d.parentAddress, Address.accepts parent = true := by
  simp only [record?, Option.bind_eq_bind, Option.bind_eq_some_iff, Option.pure_def,
    Option.some_inj] at h
  obtain ⟨vendorId, -, deviceId, -, rfl⟩ := h
  intro parent hparent
  simp only [parent?] at hparent
  split at hparent
  · exact (Option.filter_eq_some_iff.1 hparent).2
  · contradiction

/-! ### All devices -/

/-- Below a directory that can be looked up, so can the attributes of a device. -/
theorem encodes_child (hdir : fs.Encodes dir.toString) :
    ∀ name ∈ attributes, fs.Encodes (dir.child name).toString := by
  intro name hname
  have hattributes : ∀ name ∈ attributes,
      name.toList.all (fun c => c.toNat < 0x80 && c ≠ '\x00') = true := by decide +kernel
  exact Path.forall_mem_toString_child (fs.refuses_eq_false (by decide) (by decide)) hdir
    (fs.encodes_of_plain (hattributes name hname))

theorem encodes_attribute (hpath : fs.Encodes path.toString)
    (haddress : Address.accepts address = true) :
    ∀ name ∈ attributes, fs.Encodes ((path.child address).child name).toString :=
  encodes_child (Path.forall_mem_toString_child (fs.refuses_eq_false (by decide) (by decide)) hpath
    (Address.encodes_of_accepts fs haddress))

theorem mem_attributes_of_optional {name : String} (h : name ∈ optionalAttributes) :
    name ∈ attributes := by
  revert name
  decide

/-- Reading one device of a directory fails only when it is spoiled. -/
theorem settles_member (hpath : fs.Encodes path.toString)
    (haddress : Address.accepts address = true) :
    Settles (Spoiled fs (path.child address)) .undecodable (readMember fs path address)
      (record? fs (path.child address) address) := by
  have hencoded := encodes_attribute hpath haddress
  exact settles_readDirectory
    (fun name hname => hencoded name (mem_attributes_of_optional hname)) address

/-! What discovery comes to before it reads a device. -/

theorem discover_of_error {e : FileError} (h : fs.pathExists path.toString = .error e) :
    discover fs path = .error e :=
  Result.bind_eq_error_iff.2 (.inl h)

theorem discover_of_missing (h : fs.pathExists path.toString = .ok false) :
    discover fs path = .ok [] :=
  Result.bind_eq_ok_iff.2 ⟨false, h, rfl⟩

theorem discover_of_unlisted {e : FileError} (hexists : fs.pathExists path.toString = .ok true)
    (h : fs.listDirectory path.toString = .error e) : discover fs path = .error e :=
  Result.bind_eq_error_iff.2 (.inr ⟨true, hexists, Result.bind_eq_error_iff.2 (.inl h)⟩)

/-- Reading all devices of a directory fails only when one of them is spoiled. -/
theorem settles_discover {names : List String} (hexists : fs.pathExists path.toString = .ok true)
    (hlist : fs.listDirectory path.toString = .ok names) :
    Settles (∃ b ∈ names.filter Address.accepts, Spoiled fs (path.child b)) .undecodable
      (discover fs path)
      (((names.filter Address.accepts).filterMap fun b =>
        record? fs (path.child b) b).mergeSort fun a b => a.address ≤ b.address) := by
  have hmember : ∀ b ∈ names.filter Address.accepts, Settles (Spoiled fs (path.child b))
      .undecodable (readMember fs path b) (record? fs (path.child b) b) := fun b hb =>
    settles_member (FileSystem.encodes_of_pathExists hexists) (List.mem_filter.1 hb).2
  have hmembers := Settles.mapM hmember
  have hsorted := hmembers.map fun found =>
    (found.filterMap id).mergeSort fun a b => a.address ≤ b.address
  have hdiscover : discover fs path = (names.filter Address.accepts).mapM (readMember fs path) >>=
      fun found => .ok ((found.filterMap id).mergeSort fun a b => a.address ≤ b.address) := by
    rw [discover, hexists]
    simp only [bind, Except.bind, hlist]
    rfl
  rw [hdiscover]
  rw [List.filterMap_map] at hsorted
  exact hsorted

/-- The list that discovery comes to in a directory without spoiled devices. -/
theorem discover_listed_eq_ok_iff {names : List String} {devices : List Device}
    (hexists : fs.pathExists path.toString = .ok true)
    (hlist : fs.listDirectory path.toString = .ok names) :
    discover fs path = .ok devices ↔
      (∀ b ∈ names, Address.accepts b = true → ¬ Spoiled fs (path.child b)) ∧
        devices = ((names.filter Address.accepts).filterMap fun b =>
          record? fs (path.child b) b).mergeSort fun a b => a.address ≤ b.address := by
  rw [(settles_discover hexists hlist).eq_ok_iff, eq_comm (a := devices)]
  simp only [List.mem_filter, not_exists, not_and, and_imp]

/-- The failure of discovery in a directory with a spoiled device. -/
theorem discover_listed_eq_error_iff {names : List String} {e : FileError}
    (hexists : fs.pathExists path.toString = .ok true)
    (hlist : fs.listDirectory path.toString = .ok names) :
    discover fs path = .error e ↔ e = .undecodable ∧
      ∃ b ∈ names, Address.accepts b = true ∧ Spoiled fs (path.child b) := by
  rw [(settles_discover hexists hlist).eq_error_iff, and_comm, eq_comm]
  simp only [List.mem_filter, and_assoc]

/-- A list of devices has the record of every listed address, and nothing else. -/
theorem mem_discovered_iff {names : List String} {devices : List Device}
    (hexists : fs.pathExists path.toString = .ok true)
    (hlist : fs.listDirectory path.toString = .ok names) (h : discover fs path = .ok devices)
    (d : Device) : d ∈ devices ↔
      ∃ b ∈ names, Address.accepts b = true ∧ record? fs (path.child b) b = some d := by
  obtain ⟨-, rfl⟩ := (discover_listed_eq_ok_iff hexists hlist).1 h
  rw [List.mem_mergeSort, List.mem_filterMap]
  simp only [List.mem_filter, and_assoc]

/-! ### Contents that change -/

theorem hexadecimal?_congr {other : FileSystem}
    (h : attribute? fs dir name = attribute? other dir name) :
    hexadecimal? fs dir name = hexadecimal? other dir name := by
  rw [hexadecimal?_eq, hexadecimal?_eq, h]

/-- A device has what its own attributes say, and nothing from any other file. -/
theorem record?_congr {other : FileSystem} (address : String)
    (hattribute : ∀ name ∈ attributes, attribute? fs dir name = attribute? other dir name)
    (hparent : parent? fs dir = parent? other dir) :
    record? fs dir address = record? other dir address := by
  simp (disch := decide) only [record?, hattribute, hparent]

/-- A new content in a file leaves a device as it is that the file is no attribute of. -/
theorem record?_set {place : Place} {old new : Node} (hold : fs.node? place = some old)
    (houtline : old.outline = .unreadable) (hnew : new.outline = .unreadable)
    (hother : ∀ name ∈ attributes, fs.locate (dir.child name).toString ≠ .ok place) :
    record? (fs.set place new) dir address = record? fs dir address := by
  have hsame := FileSystem.sameTree_set hold houtline hnew
  symm
  apply record?_congr
  · intro name hname
    rw [attribute?, attribute?, hsame.readText_eq]
    intro found hfound
    have hne : found ≠ place := by
      rintro rfl
      exact hother name hname hfound
    rw [FileSystem.node?_set (FileSystem.ne_root_of_outline hold houtline), if_neg hne]
  · rw [parent?, parent?, hsame.locate_eq]

/-- What discovery does for every content of every attribute.  In a directory that can be listed it
comes to a list of the devices with a vendor and a device number, each with its defaults for what
cannot be read, unless an optional attribute of such a device is not in UTF-8: then it fails.  As
long as it does not fail, a file has no say in the devices that it is no attribute of. -/
theorem discovery_of_every_content {names : List String}
    (hexists : fs.pathExists path.toString = .ok true)
    (hlist : fs.listDirectory path.toString = .ok names) :
    ((∀ b ∈ names, Address.accepts b = true → ¬ Spoiled fs (path.child b)) →
      ∃ devices, discover fs path = .ok devices ∧ ∀ d, d ∈ devices ↔
        ∃ b ∈ names, Address.accepts b = true ∧ record? fs (path.child b) b = some d) ∧
    ((∃ b ∈ names, Address.accepts b = true ∧ Spoiled fs (path.child b)) →
      discover fs path = .error .undecodable) ∧
    ∀ (place : Place) (old new : Node), fs.node? place = some old → old.outline = .unreadable →
      new.outline = .unreadable → ∀ devices devices', discover fs path = .ok devices →
        discover (fs.set place new) path = .ok devices' → ∀ d : Device,
          (∀ name ∈ attributes,
            fs.locate ((path.child d.address).child name).toString ≠ .ok place) →
          (d ∈ devices ↔ d ∈ devices') := by
  have hsettles := settles_discover hexists hlist
  have hspoiled : (∃ b ∈ names.filter Address.accepts, Spoiled fs (path.child b)) ↔
      ∃ b ∈ names, Address.accepts b = true ∧ Spoiled fs (path.child b) := by
    simp only [List.mem_filter, and_assoc]
  refine ⟨?_, fun h => hsettles.error (hspoiled.2 h), ?_⟩
  · intro hclean
    have hok := hsettles.ok (by simpa [hspoiled] using hclean)
    exact ⟨_, hok, mem_discovered_iff hexists hlist hok⟩
  · intro place old new hold houtline hnew devices devices' h h' d hother
    have hsame := FileSystem.sameTree_set hold houtline hnew
    rw [mem_discovered_iff hexists hlist h,
      mem_discovered_iff (hsame.pathExists_eq _ ▸ hexists) (hsame.listDirectory_eq _ ▸ hlist) h']
    apply exists_congr
    intro b
    apply and_congr_right
    intro _
    apply and_congr_right
    intro _
    constructor
    · intro hrecord
      rw [record?_set hold houtline hnew]
      · exact hrecord
      · rwa [address_of_record? hrecord] at hother
    · intro hrecord
      rw [record?_set hold houtline hnew] at hrecord
      · exact hrecord
      · rwa [address_of_record? hrecord] at hother

/-- The directory of a device with a power state. -/
def deviceNodes (address : String) (powerState : List UInt8) : List (Place × Node) :=
  [(["s", address], .directory), (["s", address, "vendor"], .file "0x8086\n".toUTF8.data.toList),
    (["s", address, "device"], .file "0x1533\n".toUTF8.data.toList),
    (["s", address, "power_state"], .file powerState)]

/-- Two devices, the power state of the second as given. -/
def twoDevices (powerState : List UInt8) : FileSystem where
  nodes := (["s"], .directory) :: (deviceNodes "0000:00:00.0" "D0\n".toUTF8.data.toList ++
    deviceNodes "0000:00:01.0" powerState)
  workingDir := []
  distinct := by simp [deviceNodes]

theorem spoiled_of_garbled_power_state :
    Spoiled (twoDevices [0xFF]) ((Path.ofString "s").child "0000:00:01.0") := by
  decide +kernel

/-- A byte that is not UTF-8 in one attribute leaves no list, although the directory can be listed
and another device is in order. -/
theorem no_list_with_garbled_power_state :
    (twoDevices [0xFF]).pathExists (Path.ofString "s").toString = .ok true ∧
      (twoDevices [0xFF]).listDirectory (Path.ofString "s").toString =
        .ok ["0000:00:00.0", "0000:00:01.0"] ∧
      (record? (twoDevices [0xFF]) ((Path.ofString "s").child "0000:00:00.0")
        "0000:00:00.0").isSome = true ∧
      discover (twoDevices [0xFF]) (Path.ofString "s") = .error .undecodable := by
  have hexists : (twoDevices [0xFF]).pathExists (Path.ofString "s").toString = .ok true := by
    decide +kernel
  have hlist : (twoDevices [0xFF]).listDirectory (Path.ofString "s").toString =
      .ok ["0000:00:00.0", "0000:00:01.0"] := by decide +kernel
  have hspoiled : ∃ b ∈ ["0000:00:00.0", "0000:00:01.0"].filter Address.accepts,
      Spoiled (twoDevices [0xFF]) ((Path.ofString "s").child b) :=
    ⟨"0000:00:01.0", by decide +kernel, spoiled_of_garbled_power_state⟩
  exact ⟨hexists, hlist, by decide +kernel, (settles_discover hexists hlist).error hspoiled⟩

/-- The second device when it is in a power state. -/
def sleepingDevice : Device where
  address := "0000:00:01.0"
  vendorId := 0x8086
  deviceId := 0x1533
  powerState := some "D3hot"

theorem discovery_of_twoDevices :
    (∃ devices, discover (twoDevices "D3hot\n".toUTF8.data.toList) (Path.ofString "s") =
        .ok devices ∧ sleepingDevice ∈ devices) ∧
      discover (twoDevices [0xFF]) (Path.ofString "s") = .error .undecodable := by
  constructor
  · have hall := @discovery_of_every_content (twoDevices "D3hot\n".toUTF8.data.toList)
      (Path.ofString "s") ["0000:00:00.0", "0000:00:01.0"] (by decide +kernel) (by decide +kernel)
    have hclean := @not_spoiled_of_clean (twoDevices "D3hot\n".toUTF8.data.toList)
      (by decide +kernel)
    obtain ⟨devices, hdevices, hmem⟩ := hall.1 fun b _ _ => hclean _
    have hrecord : record? (twoDevices "D3hot\n".toUTF8.data.toList)
        ((Path.ofString "s").child "0000:00:01.0") "0000:00:01.0" = some sleepingDevice := by
      decide +kernel
    exact ⟨devices, hdevices, (hmem _).2 ⟨"0000:00:01.0", by simp, by decide +kernel, hrecord⟩⟩
  · have hall := @discovery_of_every_content (twoDevices [0xFF]) (Path.ofString "s")
      ["0000:00:00.0", "0000:00:01.0"] (by decide +kernel) (by decide +kernel)
    exact hall.2.1 ⟨"0000:00:01.0", by simp, by decide +kernel, spoiled_of_garbled_power_state⟩

end Sysfs
end PciCatalog
