import PciCatalog.Proofs.GpuReports
import PciCatalog.Proofs.OutsideQuotes
import PciCatalog.Proofs.Quantities

/-!
# Reports that are JSON

Which answers for other programs are JSON.  Names, identifiers and the texts of attributes are
always written as the format asks.  The only doubles in an answer are the metrics of a device, and
of these only its transfer rates can be other than finite: the reader of link speeds takes the words
for infinity and for no number, and a speed may be too large to be counted in transfers.
-/

namespace PciCatalog

namespace Binary64

theorem isFinite_of_finite? {x y : Binary64} (h : x.finite? = some y) : y.isFinite = true := by
  cases x with
  | finite negative units =>
    obtain rfl := Option.some.inj h
    rfl
  | infinite negative => contradiction
  | nan => contradiction

theorem isFinite_of_ofInt? {n : Int} {x : Binary64} (h : ofInt? n = some x) :
    x.isFinite = true := by
  rw [ofInt?] at h
  exact isFinite_of_finite? h

end Binary64

/-- Whether a number of a report is finite. -/
def Quantity.isFinite : Quantity → Bool
  | .whole _ => true
  | .real x => x.isFinite

/-! ### Metrics -/

namespace Device

variable {d : Device}

/-- Whether the transfers per second of a device are finite, where its link speeds are known. -/
structure FiniteRates (d : Device) : Prop where
  maximum : (transferRate d.maxLinkSpeed).isFinite = true
  current : (transferRate d.currentLinkSpeed).isFinite = true

/-- The integers of a device have finite doubles. -/
theorem isFinite_of_measured? {missing : Int} {found : Option Int} {q : Quantity}
    (h : measured? missing found = some q) : q.isFinite = true := by
  cases found with
  | none =>
    obtain rfl := Option.some.inj h
    rfl
  | some n =>
    rw [measured?] at h
    obtain ⟨x, hx, rfl⟩ := Option.map_eq_some_iff.1 h
    exact Binary64.isFinite_of_ofInt? hx

theorem isFinite_of_numaMetric? {metrics : List (String × Quantity)}
    (h : d.numaMetric? = some metrics) : ∀ metric ∈ metrics, metric.2.isFinite = true := by
  obtain rfl | ⟨node, x, hx, rfl⟩ := numaMetric?_cases h
  · exact List.forall_mem_nil _
  · rw [List.forall_mem_singleton]
    exact Binary64.isFinite_of_ofInt? hx

/-- The metrics of a device are finite when its transfer rates are. -/
theorem isFinite_metrics_iff {metrics : List (String × Quantity)} (h : d.metrics? = some metrics) :
    (∀ metric ∈ metrics, metric.2.isFinite = true) ↔ d.FiniteRates := by
  simp only [metrics?, Option.bind_eq_bind, Option.bind_eq_some_iff, Option.pure_def,
    Option.some_inj] at h
  obtain ⟨maxWidth, hmaxWidth, currentWidth, hcurrentWidth, d3cold, hd3cold, autoprobe, hautoprobe,
    functions, hfunctions, total, htotal, vectors, hvectors, numa, hnuma, rfl⟩ := h
  simp only [List.forall_mem_append, List.forall_mem_cons, isFinite_of_measured? hmaxWidth,
    isFinite_of_measured? hcurrentWidth, isFinite_of_measured? hd3cold,
    isFinite_of_measured? hautoprobe, isFinite_of_measured? hfunctions,
    isFinite_of_measured? htotal, isFinite_of_measured? hvectors, true_and]
  constructor
  · rintro ⟨⟨hmaximum, hcurrent, -⟩, -⟩
    exact ⟨hmaximum, hcurrent⟩
  · rintro ⟨hmaximum, hcurrent⟩
    exact ⟨⟨hmaximum, hcurrent, List.forall_mem_nil _⟩, isFinite_of_numaMetric? hnuma⟩

end Device

/-! ### Doubles in a report -/

namespace Json

theorem finite_text (s : String) : (text s).Finite := by
  simp [Finite, reals]

theorem finite_int (n : Int) : (int n).Finite := by
  simp [Finite, reals]

theorem finite_null : null.Finite := by
  simp [Finite, reals]

theorem finite_object_iff {members : List (String × Json)} :
    (object members).Finite ↔ ∀ member ∈ members, member.2.Finite := by
  rw [Finite, reals]
  induction members with
  | nil => simp [realsOfMembers]
  | cons member members ih =>
    rw [realsOfMembers, List.forall_mem_append, List.forall_mem_cons, ih]
    rfl

end Json

namespace Command

namespace Report

theorem finite_members (labels : Labels) : ∀ member ∈ members labels, member.2.Finite := by
  intro member hmember
  rw [Json.Finite, reals_members labels member hmember]
  exact List.forall_mem_nil _

theorem finite_devicesJson (rows : List (Device × Labels)) : (devicesJson rows).Finite := by
  rw [Json.Finite, reals_devicesJson]
  exact List.forall_mem_nil _

theorem finite_gpusJson (gpus : List Gpu) : (gpusJson gpus).Finite := by
  rw [Json.Finite, reals_gpusJson]
  exact List.forall_mem_nil _

theorem finite_nameJson (query : Labels) (name : String) : (nameJson query name).Finite := by
  rw [nameJson, Json.finite_object_iff, List.forall_mem_append, List.forall_mem_singleton]
  exact ⟨finite_members query, Json.finite_text name⟩

theorem finite_statsJson (l : LoadedDatabase) : (statsJson l).Finite := by
  rw [statsJson, Json.finite_object_iff]
  simp only [List.forall_mem_cons]
  refine ⟨?_, Json.finite_int _, Json.finite_int _, Json.finite_int _, Json.finite_int _,
    Json.finite_int _, Json.finite_int _, List.forall_mem_nil _⟩
  cases l.source with
  | none => exact Json.finite_null
  | some source => exact Json.finite_text _

theorem finite_quantity_iff {q : Quantity} : (quantity q).Finite ↔ q.isFinite = true := by
  cases q <;> simp [quantity, Json.Finite, Json.reals, Quantity.isFinite]

/-- The only doubles in the report on a device are its metrics. -/
theorem finite_infoJson_iff {d : Device} {labels : Labels} {metrics : List (String × Quantity)} :
    (infoJson d labels metrics).Finite ↔ ∀ metric ∈ metrics, metric.2.isFinite = true := by
  have hpower : ((d.powerState.map Json.text).getD .null).Finite := by
    cases d.powerState with
    | none => exact Json.finite_null
    | some state => exact Json.finite_text state
  simp only [infoJson, Json.finite_object_iff, List.forall_mem_append, List.forall_mem_cons,
    List.forall_mem_map, finite_quantity_iff, hpower, Json.finite_text, true_and]
  exact ⟨fun h => h.2.1, fun h => ⟨finite_members labels, h, List.forall_mem_nil _⟩⟩

end Report

/-! ### Requests -/

variable {rt : Runtime} {fs : FileSystem} {settings : Settings} {request : Request} {text : String}

/-- Whether a request under some settings is answered with all about a device. -/
def ReportsOn (fs : FileSystem) (settings : Settings) (request : Request) (d : Device) : Prop :=
  ∃ b names, request = .info b names ∧ Sysfs.read fs b settings.sysfsPath = .ok d

/-- An answer for other programs is one report, whose doubles are finite when the transfer rates of
the device that it reports on are. -/
theorem exists_report_of_carryOut (h : carryOut fs settings true request = .ok text) :
    ∃ j : Json, text = j.render ++ "\n" ∧
      (j.Finite ↔ ∀ d, ReportsOn fs settings request d → d.FiniteRates) := by
  -- Only the report on a single device has doubles in it.
  have hnone (hrequest : ∀ b names, request ≠ .info b names) :
      ∀ d, ReportsOn fs settings request d → d.FiniteRates := by
    rintro d ⟨b, names, rfl, -⟩
    exact absurd rfl (hrequest b names)
  cases request with
  | list gpusOnly names =>
    have hall := hnone (by simp)
    cases gpusOnly with
    | true =>
      obtain ⟨db, devices, -, -, rfl⟩ := list_gpus_eq_ok_iff.1 h
      exact ⟨_, rfl, iff_of_true (Report.finite_gpusJson _) hall⟩
    | false =>
      obtain ⟨db, devices, rows, -, -, -, rfl⟩ := list_eq_ok_iff.1 h
      exact ⟨_, rfl, iff_of_true (Report.finite_devicesJson rows) hall⟩
  | info b names =>
    obtain ⟨d, db, labels, metrics, hread, -, -, hmetrics, rfl⟩ := info_eq_ok_iff.1 h
    refine ⟨_, rfl, ?_⟩
    rw [Report.finite_infoJson_iff, Device.isFinite_metrics_iff hmetrics]
    constructor
    · rintro hfinite d' ⟨b', names', hrequest, hread'⟩
      obtain ⟨rfl, rfl⟩ := Request.info.inj hrequest
      obtain rfl : d = d' := Except.ok.inj (hread.symm.trans hread')
      exact hfinite
    · exact fun hall => hall d ⟨b, names, rfl, hread⟩
  | lookup question =>
    obtain ⟨l, -, h⟩ := Result.bind_eq_ok_iff.1 h
    obtain rfl := Result.pure_eq_ok_iff.1 h
    exact ⟨_, rfl, iff_of_true (Report.finite_nameJson _ _) (hnone (by simp))⟩
  | stats =>
    obtain ⟨l, -, h⟩ := Result.bind_eq_ok_iff.1 h
    obtain rfl := Result.pure_eq_ok_iff.1 h
    exact ⟨_, rfl, iff_of_true (Report.finite_statsJson l) (hnone (by simp))⟩

/-- Which answers for other programs are JSON.  Whatever the files hold and whatever is asked, an
answer is a JSON text, except that the report on a device is none when the transfers per second of
its highest or its current link speed come to infinity or to no number. -/
theorem answer_is_json_iff {words : List String} {options : Options} {shown : String}
    (hjson : options.json = true) (hasks : Asks rt fs words options request)
    (hrun : run rt fs words = .printed shown) :
    IsJson shown.toList ↔ ∀ settings d, loadSettings rt fs options = .ok settings →
      ReportsOn fs settings request d → d.FiniteRates := by
  obtain ⟨settings, text, hsettings, htext, hprint⟩ := (run_eq_printed_iff hasks).1 hrun
  rw [hjson] at htext
  obtain ⟨j, rfl, hfinite⟩ := exists_report_of_carryOut htext
  -- A report has its control characters escaped, so no control sequence is taken out of it.
  rw [print_render_eq_printed_iff.1 hprint, Json.isJson_render_iff, hfinite]
  constructor
  · intro hall settings' d hsettings'
    obtain rfl : settings = settings' := Except.ok.inj (hsettings.symm.trans hsettings')
    exact hall d
  · exact fun hall d => hall settings d hsettings

/-- A device whose highest link speed is not a number. -/
def speedless : FileSystem where
  nodes := [(["sys"], .directory), (["sys", "bus"], .directory),
    (["sys", "bus", "pci"], .directory),
    (["sys", "bus", "pci", "devices"], .directory),
    (["sys", "bus", "pci", "devices", "0000:00:1F.6"], .directory),
    (["sys", "bus", "pci", "devices", "0000:00:1F.6", "vendor"],
      .file "0x8086\n".toUTF8.data.toList),
    (["sys", "bus", "pci", "devices", "0000:00:1F.6", "device"],
      .file "0x1533\n".toUTF8.data.toList),
    (["sys", "bus", "pci", "devices", "0000:00:1F.6", "max_link_speed"],
      .file "nan\n".toUTF8.data.toList)]
  workingDir := []
  distinct := by decide

/-- The device of `speedless`. -/
def speedlessDevice : Device :=
  { onlyDevice with maxLinkSpeed := some .nan }

theorem discover_speedless :
    Sysfs.discover speedless Sysfs.standardPath = .ok [speedlessDevice] :=
  Sysfs.discover_single (b := "0000:00:1F.6") (by decide +kernel) (by decide +kernel)
    (by decide +kernel) (by decide +kernel)

theorem asks_speedless : Asks .standard speedless
    ["--json", "info", "--no-names", "0000:00:1F.6"] { json := true }
    (.info "0000:00:1F.6" false) :=
  ⟨by decide +kernel, rfl⟩

theorem reportsOn_speedless (names : Bool) :
    ReportsOn speedless {} (.info "0000:00:1F.6" names) speedlessDevice :=
  ⟨_, _, rfl, (Sysfs.read_eq_ok_iff_mem (Path.proper_ofString _) discover_speedless _ _).2
    ⟨List.mem_singleton_self _, rfl⟩⟩

theorem labelled_speedlessDevice :
    ∃ labels, labelled none speedlessDevice = .ok (speedlessDevice, labels) :=
  exists_labelled_of_accepts (by decide +kernel) (by simp [speedlessDevice, onlyDevice]) none

theorem run_speedless : ∃ shown,
    run .standard speedless ["--json", "info", "--no-names", "0000:00:1F.6"] = .printed shown := by
  obtain ⟨b, names, hrequest, hread⟩ := reportsOn_speedless false
  obtain ⟨rfl, rfl⟩ := Request.info.inj hrequest
  obtain ⟨labels, hlabelled⟩ := labelled_speedlessDevice
  have hinfo : ∃ j : Json, info speedless {} true "0000:00:1F.6" false =
      .ok (j.render ++ "\n") :=
    ⟨_, info_eq_ok_iff.2 ⟨_, none, labels, _, hread, rfl, hlabelled, rfl, rfl⟩⟩
  obtain ⟨j, hinfo⟩ := hinfo
  exact ⟨_, (run_eq_printed_iff asks_speedless).2 ⟨{}, _, rfl, hinfo, print_render _ j⟩⟩

/-- The word for the speed that is not a number makes the report on the device no JSON. -/
theorem speedless_is_not_json :
    ¬ ∀ (fs : FileSystem) (words : List String) (options : Options) (request : Request)
      (shown : String), options.json = true → Asks .standard fs words options request →
        run .standard fs words = .printed shown → IsJson shown.toList := by
  intro hall
  obtain ⟨shown, hrun⟩ := run_speedless
  have hjson := hall _ _ _ _ _ rfl asks_speedless hrun
  obtain ⟨settings, text, hsettings, htext, hprint⟩ :=
    (run_eq_printed_iff asks_speedless).1 hrun
  obtain rfl : ({} : Settings) = settings := Except.ok.inj hsettings
  obtain ⟨j, rfl, hfinite⟩ := exists_report_of_carryOut htext
  rw [print_render_eq_printed_iff.1 hprint, Json.isJson_render_iff, hfinite] at hjson
  exact Bool.false_ne_true (hjson _ (reportsOn_speedless false)).maximum

theorem speedless_list_is_json :
    ∃ shownList shownInfo,
      run .standard speedless ["--json", "list", "--no-names"] = .printed shownList ∧
      run .standard speedless ["--json", "info", "--no-names", "0000:00:1F.6"] =
        .printed shownInfo ∧
      IsJson shownList.toList ∧ ¬ IsJson shownInfo.toList := by
  have hlistAsks : Asks .standard speedless ["--json", "list", "--no-names"] { json := true }
      (.list false false) := ⟨by decide +kernel, rfl⟩
  obtain ⟨labels, hlabelled⟩ := labelled_speedlessDevice
  have hlistRun := run_list_single hlistAsks rfl rfl rfl discover_speedless hlabelled
  obtain ⟨shownInfo, hinfoRun⟩ := run_speedless
  refine ⟨_, shownInfo, hlistRun, hinfoRun, ?_, ?_⟩
  · rw [answer_is_json_iff rfl hlistAsks hlistRun]
    rintro settings d - ⟨b, names, hrequest, -⟩
    cases hrequest
  · rw [answer_is_json_iff rfl asks_speedless hinfoRun]
    intro hall
    exact Bool.false_ne_true (hall {} _ rfl (reportsOn_speedless false)).maximum

end Command
end PciCatalog
