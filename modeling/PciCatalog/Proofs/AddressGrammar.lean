import PciCatalog.Proofs.DeviceReports

/-!
# Which texts are addresses

An address has twelve characters, and `IsAddress` lists them.  The check of an address lets all of
these texts through, and besides them every such text with one line feed behind it; so do discovery
with the names of directories and the search for the bridge above a device.  Main statements:
`accepts_iff_accepted` and `accepted_texts_are_addresses`.
-/

namespace PciCatalog
namespace Address

/-- The digits that a function number can have. -/
def functionDigits : List Char :=
  ['0', '1', '2', '3', '4', '5', '6', '7']

/-- Whether a text is an address: it consists of four hexadecimal digits, a colon, two hexadecimal
digits, a colon, two hexadecimal digits, a point and a digit up to seven. -/
def IsAddress (text : String) : Prop :=
  ∃ s₁ s₂ s₃ s₄ b₁ b₂ d₁ d₂ f : Char,
    text.toList = [s₁, s₂, s₃, s₄, ':', b₁, b₂, ':', d₁, d₂, '.', f] ∧
      (∀ c ∈ [s₁, s₂, s₃, s₄, b₁, b₂, d₁, d₂], c ∈ hexDigits) ∧ f ∈ functionDigits

/-- Whether a text is an address or an address with one line feed behind it. -/
def Accepted (text : String) : Prop :=
  IsAddress text ∨ ∃ address, IsAddress address ∧ text = address ++ "\n"

theorem IsAddress.length_eq {text : String} (h : IsAddress text) : text.toList.length = 12 := by
  obtain ⟨s₁, s₂, s₃, s₄, b₁, b₂, d₁, d₂, f, htext, -, -⟩ := h
  rw [htext]
  rfl

theorem isHexDigit_iff {c : Char} : isHexDigit c = true ↔ c ∈ hexDigits := by
  refine ⟨mem_hexDigits_of_isHexDigit, ?_⟩
  have hall : ∀ c ∈ hexDigits, isHexDigit c = true := Text.forall_mem_of_all (by decide)
  exact hall c

theorem isFunctionDigit_iff {c : Char} : isFunctionDigit c = true ↔ c ∈ functionDigits := by
  constructor
  · intro h
    have hmem : c ∈ hexDigits := isHexDigit_iff.1 (isHexDigit_of_isFunctionDigit h)
    have hall : ∀ c ∈ hexDigits, isFunctionDigit c = true → c ∈ functionDigits :=
      Text.forall_mem_of_all (by decide)
    exact hall c hmem h
  · have hall : ∀ c ∈ functionDigits, isFunctionDigit c = true :=
      Text.forall_mem_of_all (by decide)
    exact hall c

/-- The pieces of an address hold its twelve characters. -/
theorem isAddress_iff {text : String} :
    IsAddress text ↔ ∃ f : Form, f.ending = [] ∧ text.toList = f.text := by
  constructor
  · rintro ⟨s₁, s₂, s₃, s₄, b₁, b₂, d₁, d₂, f, htext, hex, hfunction⟩
    have hdigits : ∀ c ∈ [s₁, s₂, s₃, s₄] ++ [b₁, b₂] ++ [d₁, d₂], isHexDigit c = true :=
      fun c hc => isHexDigit_iff.2 (hex c hc)
    exact ⟨⟨[s₁, s₂, s₃, s₄], [b₁, b₂], [d₁, d₂], f, [], rfl, rfl, rfl, hdigits,
      isFunctionDigit_iff.2 hfunction, .inl rfl⟩, rfl, htext⟩
  · rintro ⟨⟨segment, bus, device, f, ending, hsegment, hbus, hdevice, hex, hfunction, hmem⟩,
      hending, htext⟩
    obtain ⟨s₁, s₂, s₃, s₄, rfl⟩ := List.length_eq_four.1 hsegment
    obtain ⟨b₁, b₂, rfl⟩ := List.length_eq_two.1 hbus
    obtain ⟨d₁, d₂, rfl⟩ := List.length_eq_two.1 hdevice
    obtain rfl : ending = [] := hending
    exact ⟨s₁, s₂, s₃, s₄, b₁, b₂, d₁, d₂, f, htext, fun c hc => isHexDigit_iff.1 (hex c hc),
      isFunctionDigit_iff.1 hfunction⟩

/-- A line feed may stand behind the pieces of an address. -/
theorem exists_isAddress_append_iff {text : String} :
    (∃ address, IsAddress address ∧ text = address ++ "\n") ↔
      ∃ f : Form, f.ending = ['\n'] ∧ text.toList = f.text := by
  constructor
  · rintro ⟨address, haddress, rfl⟩
    obtain ⟨f, hending, htext⟩ := isAddress_iff.1 haddress
    refine ⟨{ f with ending := ['\n'], ending_mem := .inr rfl }, rfl, ?_⟩
    have hfeed : "\n".toList = ['\n'] := rfl
    rw [String.toList_append, htext, hfeed, Form.text, Form.text, hending]
    simp
  · rintro ⟨f, hending, htext⟩
    have haddress : IsAddress
        (String.ofList { f with ending := [], ending_mem := .inl rfl : Form }.text) :=
      isAddress_iff.2 ⟨_, rfl, String.toList_ofList⟩
    refine ⟨_, haddress, ?_⟩
    have hfeed : "\n".toList = ['\n'] := rfl
    rw [← String.toList_inj, String.toList_append, String.toList_ofList, htext, hfeed, Form.text,
      Form.text, hending]
    simp

/-- The check of an address knows the twelve characters and tolerates one line feed. -/
theorem accepts_iff_accepted {text : String} : accepts text = true ↔ Accepted text := by
  rw [accepts_iff, Accepted, isAddress_iff, exists_isAddress_append_iff]
  constructor
  · rintro ⟨f, htext⟩
    rcases f.ending_mem with hending | hending
    · exact .inl ⟨f, hending, htext⟩
    · exact .inr ⟨f, hending, htext⟩
  · rintro (⟨f, -, htext⟩ | ⟨f, -, htext⟩)
    · exact ⟨f, htext⟩
    · exact ⟨f, htext⟩

/-- The addresses of a device's record are accepted as addresses. -/
theorem accepted_of_record? {fs : FileSystem} {dir : Path} {b : String} {d : Device}
    (hb : accepts b = true) (h : Sysfs.record? fs dir b = some d) :
    Accepted d.address ∧ ∀ parent, d.parentAddress = some parent → Accepted parent := by
  constructor
  · rw [Sysfs.address_of_record? h]
    exact accepts_iff_accepted.1 hb
  · intro parent hparent
    exact accepts_iff_accepted.1 (Sysfs.accepts_parentAddress h parent hparent)

/-- An address is valid, and so is an address with one line feed behind it; every other text is
refused as malformed, whatever stands before or behind an address in it.  Whoever reads devices, one
or all of a directory, gets no other addresses than these, neither for the devices nor for the
bridges above them. -/
theorem accepted_texts_are_addresses (text : String) (fs : FileSystem) (path : Path) :
    ((validate text = .ok () ↔ Accepted text) ∧
      (¬ Accepted text → validate text = .error (.malformed text))) ∧
    (∀ devices, Sysfs.discover fs path = .ok devices → ∀ d ∈ devices, Accepted d.address ∧
      ∀ parent, d.parentAddress = some parent → Accepted parent) ∧
    ∀ b d, Sysfs.read fs b path = .ok d → Accepted d.address ∧
      ∀ parent, d.parentAddress = some parent → Accepted parent := by
  refine ⟨?_, ?_, ?_⟩
  · rw [← accepts_iff_accepted, validate]
    split
    · next h => simp [h]
    · next h => simp [h]
  · intro devices h d hd
    rcases Sysfs.discover_cases h with ⟨-, rfl⟩ | ⟨names, hexists, hlist, -⟩
    · simp at hd
    · obtain ⟨b, -, hb, hrecord⟩ := (Sysfs.mem_discovered_iff hexists hlist h d).1 hd
      exact accepted_of_record? hb hrecord
  · intro b d h
    obtain ⟨hb, hrecord⟩ := Sysfs.record_of_read h
    exact accepted_of_record? hb hrecord

theorem isAddress_sample : IsAddress "0000:03:00.0" :=
  ⟨'0', '0', '0', '0', '0', '3', '0', '0', '0', rfl,
    Text.forall_mem_of_all (by decide), by decide⟩

/-- A text of thirteen characters, the last of them a line feed, is valid. -/
theorem line_feed_is_valid :
    ¬ ∀ text, validate text = .ok () ↔ IsAddress text := by
  intro hvalid
  have haddress := ((hvalid "0000:03:00.0\n").1 (by decide +kernel)).length_eq
  contradiction

/-- A bridge and the device behind it, both in directories whose names end with a line feed. -/
def lineFeedDevice : FileSystem where
  nodes := [(["s"], .directory),
    (["s", "0000:00:01.0\n"], .link "../d/0000:00:1c.0\n/0000:00:01.0"),
    (["d"], .directory), (["d", "0000:00:1c.0\n"], .directory),
    (["d", "0000:00:1c.0\n", "0000:00:01.0"], .directory),
    (["d", "0000:00:1c.0\n", "0000:00:01.0", "vendor"], .file "0x8086\n".toUTF8.data.toList),
    (["d", "0000:00:1c.0\n", "0000:00:01.0", "device"], .file "0x1533\n".toUTF8.data.toList)]
  workingDir := []
  distinct := by decide

/-- The device of `lineFeedDevice`. -/
def deviceWithLineFeed : Device where
  address := "0000:00:01.0\n"
  vendorId := 0x8086
  deviceId := 0x1533
  parentAddress := some "0000:00:1c.0\n"

theorem accepted_of_lineFeedDevice :
    validate "0000:03:00.0" = .ok () ∧
      validate " 0000:03:00.0" = .error (.malformed " 0000:03:00.0") ∧
      Sysfs.discover lineFeedDevice (Path.ofString "s") = .ok [deviceWithLineFeed] ∧
      Sysfs.read lineFeedDevice "0000:00:01.0\n" (Path.ofString "s") = .ok deviceWithLineFeed ∧
      Accepted "0000:00:01.0\n" ∧ Accepted "0000:00:1c.0\n" := by
  obtain ⟨hvalid, hdiscover, hread⟩ :=
    accepted_texts_are_addresses "0000:03:00.0" lineFeedDevice (Path.ofString "s")
  obtain ⟨hinvalid, -, -⟩ :=
    accepted_texts_are_addresses " 0000:03:00.0" lineFeedDevice (Path.ofString "s")
  have hrefused : ¬ Accepted " 0000:03:00.0" := by
    rw [← accepts_iff_accepted]
    decide +kernel
  have hlist : Sysfs.discover lineFeedDevice (Path.ofString "s") = .ok [deviceWithLineFeed] :=
    Sysfs.discover_single (b := "0000:00:01.0\n") (by decide +kernel) (by decide +kernel)
      (by decide +kernel) (by decide +kernel)
  have hone : Sysfs.read lineFeedDevice "0000:00:01.0\n" (Path.ofString "s") =
      .ok deviceWithLineFeed :=
    (Sysfs.read_eq_ok_iff_mem (Path.proper_ofString "s") hlist _ _).2 ⟨by simp, rfl⟩
  exact ⟨hvalid.1.2 (.inl isAddress_sample), hinvalid.2 hrefused, hlist, hone,
    (hdiscover _ hlist deviceWithLineFeed (by simp)).1, (hread _ _ hone).2 _ rfl⟩

end Address
end PciCatalog
