import PciCatalog.Command.Standard
import PciCatalog.Proofs.DeviceNames
import PciCatalog.Proofs.JsonIdentity
import PciCatalog.Proofs.OneDevice
import PciCatalog.Proofs.Requests

/-!
# Two ways to a device

A device can be found in the list of all devices or asked for by its address.  The two ways filter
differently, by the names in a directory on the one hand and by the form of the address and a test
for a path on the other, and yet they come to the same devices; so do the two commands that report
on devices, whose reports give a device the same labels.
-/

namespace PciCatalog

namespace Json

/-- The value of a member of an object. -/
def member? : Json → String → Option Json
  | .object members, key => members.lookup key
  | _, _ => none

end Json

/-- What the labels of a device are when they come out. -/
theorem Device.exists_of_labels {d : Device} {db : Option Database} {labels : Labels}
    (h : d.labels db = .ok labels) :
    ∃ own parent, labels = addressLabels own parent ++ d.numberLabels ++
      (db.map d.nameLabels).getD [] := by
  obtain ⟨own, -, h⟩ := Result.bind_eq_ok_iff.1 h
  obtain ⟨parent, -, h⟩ := Result.bind_eq_ok_iff.1 h
  refine ⟨own, parent, ?_⟩
  rw [← Result.pure_eq_ok_iff.1 h]
  cases db <;> rfl

namespace Command

variable {fs : FileSystem} {settings : Settings} {names : Bool} {text b : String}

/-- The labels of a device come out when the addresses that it has are addresses. -/
theorem exists_labelled_of_accepts {d : Device} (haddress : Address.accepts d.address = true)
    (hparent : ∀ parent ∈ d.parentAddress, Address.accepts parent = true) (db : Option Database) :
    ∃ labels, labelled db d = .ok (d, labels) := by
  obtain ⟨own, parent, hlabels⟩ := d.labels_eq db haddress hparent
  exact ⟨_, by rw [labelled, hlabels]; rfl⟩

/-- The labels of a device that was read come out. -/
theorem exists_labelled {dir : Path} {d : Device} (haddress : Address.accepts d.address = true)
    (hrecord : Sysfs.record? fs dir d.address = some d) (db : Option Database) :
    ∃ labels, labelled db d = .ok (d, labels) :=
  exists_labelled_of_accepts haddress (Sysfs.accepts_parentAddress hrecord) db

/-- All devices that are discovered can be shown. -/
theorem exists_rows {path : Path} {devices : List Device} (hpath : path.Proper)
    (hdevices : Sysfs.discover fs path = .ok devices) (db : Option Database) :
    ∃ rows, devices.mapM (labelled db) = .ok rows := by
  apply Result.exists_ok_of_mapM
  intro d hd
  obtain ⟨haccepts, hrecord⟩ := (Sysfs.mem_discovered hpath hdevices).1 hd
  obtain ⟨labels, hlabels⟩ := exists_labelled haccepts hrecord db
  exact ⟨_, hlabels⟩

/-- What a list of devices for other programs holds. -/
theorem list_eq_ok_iff : list fs settings true false names = .ok text ↔
    ∃ db devices rows, databaseFor fs settings names = .ok db ∧
      Sysfs.discover fs settings.sysfsPath = .ok devices ∧
      devices.map (labelled db) = rows.map .ok ∧
      text = (Report.devicesJson rows).render ++ "\n" := by
  constructor
  · intro h
    obtain ⟨db, hdb, h⟩ := Result.bind_eq_ok_iff.1 h
    obtain ⟨devices, hdevices, h⟩ := Result.bind_eq_ok_iff.1 h
    obtain ⟨rows, hrows, h⟩ := Result.bind_eq_ok_iff.1 h
    exact ⟨db, devices, rows, hdb, Result.mapError_eq_ok_iff.1 hdevices,
      Result.mapM_eq_ok_iff.1 hrows, (Result.pure_eq_ok_iff.1 h).symm⟩
  · rintro ⟨db, devices, rows, hdb, hdevices, hrows, rfl⟩
    exact Result.bind_eq_ok_iff.2 ⟨db, hdb, Result.bind_eq_ok_iff.2 ⟨devices,
      Result.mapError_eq_ok_iff.2 hdevices, Result.bind_eq_ok_iff.2 ⟨rows,
        Result.mapM_eq_ok_iff.2 hrows, rfl⟩⟩⟩

/-- What the report on a device for other programs holds. -/
theorem info_eq_ok_iff : info fs settings true b names = .ok text ↔
    ∃ d db labels metrics, Sysfs.read fs b settings.sysfsPath = .ok d ∧
      databaseFor fs settings names = .ok db ∧ labelled db d = .ok (d, labels) ∧
      d.metrics? = some metrics ∧ text = (Report.infoJson d labels metrics).render ++ "\n" := by
  constructor
  · intro h
    obtain ⟨d, hd, h⟩ := Result.bind_eq_ok_iff.1 h
    obtain ⟨db, hdb, h⟩ := Result.bind_eq_ok_iff.1 h
    obtain ⟨⟨d', labels⟩, hlabelled, h⟩ := Result.bind_eq_ok_iff.1 h
    -- The device is shown with its own labels.
    have hsame : d' = d := by
      obtain ⟨_, -, hpair⟩ := Result.map_eq_ok_iff.1 hlabelled
      exact (congrArg Prod.fst hpair).symm
    subst hsame
    dsimp only at h
    rw [if_pos rfl] at h
    split at h
    · next metrics hmetrics =>
      exact ⟨d', db, labels, metrics, Result.mapError_eq_ok_iff.1 hd, hdb, hlabelled, hmetrics,
        (Result.pure_eq_ok_iff.1 h).symm⟩
    · contradiction
  · rintro ⟨d, db, labels, metrics, hd, hdb, hlabelled, hmetrics, rfl⟩
    refine Result.bind_eq_ok_iff.2 ⟨d, Result.mapError_eq_ok_iff.2 hd,
      Result.bind_eq_ok_iff.2 ⟨db, hdb, Result.bind_eq_ok_iff.2 ⟨_, hlabelled, ?_⟩⟩⟩
    dsimp only
    rw [if_pos rfl, hmetrics]
    rfl

/-- The labels of a device stand in the list of devices as in the report on the device. -/
theorem member?_deviceJson (d : Device) (labels : Labels) (metrics : List (String × Quantity))
    {label : String} (hpower : label ≠ "power_state") (hmetrics : label ≠ "metrics") :
    (Report.deviceJson d labels).member? label =
      (Report.infoJson d labels metrics).member? label := by
  have hpower' : (label == "power_state") = false := beq_eq_false_iff_ne.2 hpower
  have hmetrics' : (label == "metrics") = false := beq_eq_false_iff_ne.2 hmetrics
  simp only [Report.deviceJson, Report.infoJson, Json.member?, List.lookup_append,
    List.lookup_cons, hpower', hmetrics', List.lookup_nil, Option.or_none]

/-- The members of a listed device by which it is found and told. -/
theorem members_of_labelled {db : Option Database} {d : Device} {row : Device × Labels}
    (h : labelled db d = .ok row) :
    (Report.deviceJson row.1 row.2).member? "bdf" = some (.text d.address) ∧
      (Report.deviceJson row.1 row.2).member? "class_id" = some (.text d.classText) ∧
      (Report.deviceJson row.1 row.2).member? "vendor_id" = some (.text d.vendorText) ∧
      (Report.deviceJson row.1 row.2).member? "device_id" = some (.text d.deviceText) := by
  obtain ⟨labels, hlabels, rfl⟩ := Result.map_eq_ok_iff.1 h
  obtain ⟨own, parent, rfl⟩ := Device.exists_of_labels (Result.mapError_eq_ok_iff.1 hlabels)
  exact ⟨rfl, rfl, rfl, rfl⟩

namespace Report

/-- Labels are texts. -/
theorem reals_members (labels : Labels) : ∀ member ∈ members labels, member.2.reals = [] := by
  intro member hmember
  obtain ⟨label, -, rfl⟩ := List.mem_map.1 hmember
  rw [Json.reals]

theorem devicesJson_eq (rows : List (Device × Labels)) :
    devicesJson rows = .list (rows.map fun row => deviceJson row.1 row.2) := rfl

theorem reals_devicesJson (rows : List (Device × Labels)) : (devicesJson rows).reals = [] := by
  apply Json.reals_list_eq_nil
  rw [List.forall_mem_map]
  intro row _
  apply Json.reals_object_eq_nil
  rw [List.forall_mem_cons]
  exact ⟨by rw [Json.reals], reals_members row.2⟩

end Report

/-- A row of the list that has the address of a device is the row of this device. -/
theorem row_eq {db : Option Database} {devices : List Device} {rows : List (Device × Labels)}
    {path : Path} (hdevices : Sysfs.discover fs path = .ok devices)
    (hrows : devices.map (labelled db) = rows.map .ok) {d : Device} (hd : d ∈ devices)
    {labels : Labels} (hlabels : labelled db d = .ok (d, labels)) :
    (d, labels) ∈ rows ∧ ∀ row ∈ rows, row.1.address = d.address → row = (d, labels) := by
  constructor
  · have hmem : labelled db d ∈ rows.map .ok := hrows ▸ List.mem_map_of_mem hd
    obtain ⟨row, hrow, heq⟩ := List.mem_map.1 hmem
    rw [hlabels] at heq
    rwa [← Except.ok.inj heq]
  · intro row hrow haddress
    have hmem : Except.ok row ∈ devices.map (labelled db) := hrows ▸ List.mem_map_of_mem hrow
    obtain ⟨d', hd', heq⟩ := List.mem_map.1 hmem
    have hfirst : row.1 = d' := by
      obtain ⟨_, -, hpair⟩ := Result.map_eq_ok_iff.1 heq
      rw [← hpair]
    rw [hfirst] at haddress
    -- No two devices of a list have one address, so the row is that of the device itself.
    obtain rfl := List.inj_on_of_nodup_map (Sysfs.nodup_addresses hdevices) hd' hd haddress
    rw [hlabels] at heq
    exact (Except.ok.inj heq).symm

/-- There is no difference between the devices of the list and those that are asked for one by one.
Wherever the device directory can be turned into a list, an address is answered with a device when
the list has one with this address, and then with that very device; the list has one at most.  An
address that the list does not have is refused when it has not the form of an address, and otherwise
there is no such device or it has no numbers, unless already the test for its path fails.  So the
commands that list all devices and that tell about one device, run with the same options on the same
files, report the same value for every label of the device. -/
theorem list_and_info_agree :
    (∀ (fs : FileSystem) (text : String) (devices : List Device),
      Sysfs.discover fs (Path.ofString text) = .ok devices →
        (∀ b d, Sysfs.read fs b (Path.ofString text) = .ok d ↔ d ∈ devices ∧ d.address = b) ∧
        (devices.map Device.address).Nodup ∧
        ∀ b, (∀ d ∈ devices, d.address ≠ b) →
          if Address.accepts b = true then
            (∀ e, fs.pathExists ((Path.ofString text).child b).toString = .error e →
              Sysfs.read fs b (Path.ofString text) = .error (.file e) ∧
                (e = .nameTooLong ∨ e = .accessDenied)) ∧
            ∀ found, fs.pathExists ((Path.ofString text).child b).toString = .ok found →
              Sysfs.read fs b (Path.ofString text) = .error (.noDevice b) ∨
                Sysfs.read fs b (Path.ofString text) = .error (.noNumbers b)
          else Sysfs.read fs b (Path.ofString text) = .error (.address (.malformed b))) ∧
    ∀ (rt : Runtime) (fs : FileSystem) (options : Options) (names : Bool) (b : String)
      (listWords infoWords : List String) (shownList shownInfo : String), options.json = true →
      Asks rt fs listWords options (.list false names) →
      Asks rt fs infoWords options (.info b names) →
      run rt fs listWords = .printed shownList → run rt fs infoWords = .printed shownInfo →
        ∃ (items : List Json) (report : Json), shownList = (Json.list items).render ++ "\n" ∧
          shownInfo = report.render ++ "\n" ∧
          (∃ item ∈ items, item.member? "bdf" = some (.text b)) ∧
          ∀ item ∈ items, item.member? "bdf" = some (.text b) →
            ∀ label, label ≠ "power_state" → label ≠ "metrics" →
              item.member? label = report.member? label := by
  constructor
  · intro fs text devices hdevices
    have hpath := Path.proper_ofString text
    exact ⟨Sysfs.read_eq_ok_iff_mem hpath hdevices, Sysfs.nodup_addresses hdevices,
      fun b => Sysfs.read_of_not_mem hpath hdevices⟩
  · intro rt fs options names b listWords infoWords shownList shownInfo hjson hlistAsks hinfoAsks
      hlistRun hinfoRun
    obtain ⟨settings, listText, hsettings, hlist, hlistPrint⟩ :=
      (run_eq_printed_iff hlistAsks).1 hlistRun
    obtain ⟨settings', infoText, hsettings', hinfo, hinfoPrint⟩ :=
      (run_eq_printed_iff hinfoAsks).1 hinfoRun
    obtain rfl : settings = settings' := Except.ok.inj (hsettings.symm.trans hsettings')
    rw [hjson] at hlist hinfo
    obtain ⟨db, devices, rows, hdb, hdevices, hrows, rfl⟩ := list_eq_ok_iff.1 hlist
    obtain ⟨d, db', labels, metrics, hread, hdb', hlabelled, -, rfl⟩ := info_eq_ok_iff.1 hinfo
    obtain rfl : db = db' := Except.ok.inj (hdb.symm.trans hdb')
    obtain ⟨hd, haddress⟩ :=
      (Sysfs.read_eq_ok_iff_mem (proper_sysfsPath hsettings) hdevices b d).1 hread
    obtain ⟨hmem, hunique⟩ := row_eq hdevices hrows hd hlabelled
    rw [Report.devicesJson_eq] at hlistPrint
    have hshownList := print_render_eq_printed_iff.1 hlistPrint
    have hshownInfo := print_render_eq_printed_iff.1 hinfoPrint
    refine ⟨rows.map fun row => Report.deviceJson row.1 row.2,
      Report.infoJson d labels metrics, hshownList, hshownInfo, ?_, ?_⟩
    · exact ⟨_, List.mem_map_of_mem hmem, by rw [← haddress]; rfl⟩
    · intro item hitem hbdf label hpower hmetrics
      obtain ⟨row, hrow, rfl⟩ := List.mem_map.1 hitem
      have hrowAddress : row.1.address = d.address := by
        rw [haddress]
        exact Json.text.inj (Option.some.inj hbdf)
      rw [hunique row hrow hrowAddress]
      exact member?_deviceJson d labels metrics hpower hmetrics

/-- A list that holds one device is printed as the list of its labels. -/
theorem run_list_single {rt : Runtime} {fs : FileSystem} {words : List String} {options : Options}
    {settings : Settings} {names : Bool} {db : Option Database} {d : Device} {labels : Labels}
    (hasks : Asks rt fs words options (.list false names)) (hjson : options.json = true)
    (hsettings : loadSettings rt fs options = .ok settings)
    (hdb : databaseFor fs settings names = .ok db)
    (hdevices : Sysfs.discover fs settings.sysfsPath = .ok [d])
    (hlabelled : labelled db d = .ok (d, labels)) :
    run rt fs words = .printed ((Report.devicesJson [(d, labels)]).render ++ "\n") := by
  have hrows : [d].map (labelled db) = [(d, labels)].map .ok := by
    rw [List.map_singleton, List.map_singleton, hlabelled]
  have hlist : carryOut fs settings options.json (.list false names) =
      .ok ((Report.devicesJson [(d, labels)]).render ++ "\n") := by
    rw [hjson]
    exact list_eq_ok_iff.2 ⟨db, [d], _, hdb, hdevices, hrows, rfl⟩
  exact (run_eq_printed_iff hasks).2 ⟨settings, _, hsettings, hlist, print_render _ _⟩

/-- A single device in the usual place. -/
def oneDevice : FileSystem where
  nodes := [(["sys"], .directory), (["sys", "bus"], .directory),
    (["sys", "bus", "pci"], .directory),
    (["sys", "bus", "pci", "devices"], .directory),
    (["sys", "bus", "pci", "devices", "0000:00:1F.6"], .directory),
    (["sys", "bus", "pci", "devices", "0000:00:1F.6", "vendor"],
      .file "0x8086\n".toUTF8.data.toList),
    (["sys", "bus", "pci", "devices", "0000:00:1F.6", "device"],
      .file "0x1533\n".toUTF8.data.toList)]
  workingDir := []
  distinct := by decide

/-- The device of `oneDevice`. -/
def onlyDevice : Device where
  address := "0000:00:1F.6"
  vendorId := 0x8086
  deviceId := 0x1533

theorem readMember_oneDevice :
    Sysfs.readMember oneDevice Sysfs.standardPath "0000:00:1F.6" = .ok (some onlyDevice) := by
  decide +kernel

theorem exists_labelled_onlyDevice (db : Option Database) :
    ∃ labels, labelled db onlyDevice = .ok (onlyDevice, labels) :=
  exists_labelled_of_accepts (by decide +kernel) (by simp [onlyDevice]) db

theorem discover_oneDevice : Sysfs.discover oneDevice Sysfs.standardPath = .ok [onlyDevice] :=
  Sysfs.discover_single (by decide +kernel) (by decide +kernel) (by decide +kernel)
    readMember_oneDevice

theorem list_and_info_agree_on_oneDevice :
    Sysfs.read oneDevice "0000:00:1F.6" Sysfs.standardPath = .ok onlyDevice ∧
      ∃ shownList shownInfo,
        run .standard oneDevice ["--json", "list", "--no-names"] = .printed shownList ∧
        run .standard oneDevice ["--json", "info", "--no-names", "0000:00:1F.6"] =
          .printed shownInfo ∧
        ∃ (items : List Json) (report : Json), shownList = (Json.list items).render ++ "\n" ∧
          shownInfo = report.render ++ "\n" ∧
          ∃ item ∈ items, item.member? "bdf" = some (.text "0000:00:1F.6") ∧
            item.member? "vendor_id" = some (.text "0x8086") ∧
            report.member? "vendor_id" = some (.text "0x8086") := by
  obtain ⟨hdevices, hreports⟩ := list_and_info_agree
  have hread := ((hdevices oneDevice "/sys/bus/pci/devices" [onlyDevice] discover_oneDevice).1
    "0000:00:1F.6" onlyDevice).2 ⟨by simp, rfl⟩
  have hlistAsks : Asks .standard oneDevice ["--json", "list", "--no-names"] { json := true }
      (.list false false) := ⟨by decide +kernel, rfl⟩
  have hinfoAsks : Asks .standard oneDevice ["--json", "info", "--no-names", "0000:00:1F.6"]
      { json := true } (.info "0000:00:1F.6" false) := ⟨by decide +kernel, rfl⟩
  obtain ⟨labels, hlabelled⟩ := exists_labelled_onlyDevice none
  have hmetrics : ∃ metrics, onlyDevice.metrics? = some metrics := ⟨_, rfl⟩
  obtain ⟨metrics, hmetrics⟩ := hmetrics
  have hinfo : carryOut oneDevice {} true (.info "0000:00:1F.6" false) =
      .ok ((Report.infoJson onlyDevice labels metrics).render ++ "\n") :=
    info_eq_ok_iff.2 ⟨onlyDevice, none, labels, metrics, hread, rfl, hlabelled, hmetrics, rfl⟩
  have hlistRun := run_list_single hlistAsks rfl rfl rfl discover_oneDevice hlabelled
  have hinfoRun := (run_eq_printed_iff hinfoAsks).2 ⟨{}, _, rfl, hinfo, print_render _ _⟩
  obtain ⟨items, report, hshownList, hshownInfo, ⟨item, hitem, hbdf⟩, hsame⟩ :=
    hreports .standard oneDevice { json := true } false "0000:00:1F.6" _ _ _ _ rfl hlistAsks
      hinfoAsks hlistRun hinfoRun
  have hvendor : item.member? "vendor_id" = some (.text "0x8086") := by
    have hitems := Json.eq_of_render_line (Report.reals_devicesJson _) hshownList
    obtain rfl := Json.list.inj hitems
    obtain rfl := List.mem_singleton.1 hitem
    have htext : onlyDevice.vendorText = "0x8086" := by decide +kernel
    rw [(members_of_labelled hlabelled).2.2.1, htext]
  exact ⟨hread, _, _, hlistRun, hinfoRun, items, report, hshownList, hshownInfo, item, hitem,
    hbdf, hvendor, (hsame item hitem hbdf "vendor_id" (by decide) (by decide)).symm.trans hvendor⟩

end Command
end PciCatalog
