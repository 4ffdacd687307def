import PciCatalog.Proofs.Elsewhere
import PciCatalog.Proofs.Encoding
import PciCatalog.Proofs.WrittenNumber

/-!
# Numbers that are written back

The six hexadecimal numbers of a device are shown as texts.  What becomes of the device when each of
these texts is written into the file that its number was read from: the text of a negative number
has its sign behind the mark and is no numeral any more, and every other text is read as its number.
The attribute files may be links to each other; then only the text that was written last is left,
but all of these files had one number from the start.  Main statements: `hexadecimal?_marked`,
`Rewritten.getD_hexadecimal?`, and `Rewritten.record?_eq_reread?`.
-/

namespace PciCatalog

/-! ### Texts of numbers -/

theorem Text.decodeStrict?_utf8 (text : List Char) : decodeStrict? (utf8 text) = some text := by
  rw [decodeStrict?, decode_utf8]
  induction text with
  | nil => rfl
  | cons c text ih =>
    rw [List.map_cons, List.mapM_cons, ih]
    rfl

namespace Hexadecimal

open Numeral

theorem no_space_around : ∀ c ∈ ([] : List Char) ++ [], Text.isWhiteSpace c = true := by
  simp

theorem mark_mem_marks : ['0', 'x'] ∈ Code.marks := by
  simp [Code.marks]

theorem forall_mem_padded_natCast (width n : Nat) : ∀ c ∈ padded width n, c ∈ hexDigits := by
  have hzeros : ∀ count, ∀ c ∈ List.replicate count '0', c ∈ hexDigits := by
    intro count c hc
    rw [List.eq_of_mem_replicate hc]
    decide
  rw [padded, if_neg (by omega), List.forall_mem_append]
  exact ⟨hzeros _, forall_mem_toDigits (by decide) n⟩

theorem map_toLower_padded (width n : Nat) : (padded width n).map Char.toLower =
    List.replicate (width - (Nat.toDigits 16 n).length) '0' ++ Nat.toDigits 16 n := by
  have hlower : ∀ c ∈ padded width n, c.toLower = c :=
    forall_mem_padded (by decide) (by decide) width n
  rw [List.map_congr_left hlower, List.map_id', padded, if_neg (by omega), Int.natAbs_natCast]

/-- The marked text of a number is a way to write the number. -/
def markedSpelling (width n : Nat) : Spelling n where
  front := []
  mark := ['0', 'x']
  zeros := width - (Nat.toDigits 16 n).length
  digits := padded width n
  back := []
  space := no_space_around
  mark_mem := mark_mem_marks
  hex := forall_mem_padded_natCast width n
  lower := map_toLower_padded width n

theorem text_markedSpelling (width n : Nat) : (markedSpelling width n).text = marked width n := by
  show String.ofList ([] ++ (['0', 'x'] ++ padded width n) ++ []) = _
  rw [List.nil_append, List.append_nil]
  rfl

/-- The text of an integer is read as the integer, unless the integer is negative: then it cannot be
read. -/
theorem hexadecimal?_marked (width : Nat) (n : Int) :
    hexadecimal? (marked width n).toList = if 0 ≤ n then some n else none := by
  split
  · next hn =>
    obtain ⟨m, rfl⟩ := Int.eq_ofNat_of_zero_le hn
    rw [← text_markedSpelling]
    exact (markedSpelling width m).hexadecimal?_text
  · next hn =>
    have hchar : ∀ c ∈ '0' :: 'x' :: padded width n, plainChar c = c ∧ isMargin c = false :=
      forall_mem_marked (by decide) (by decide) (by decide) width n
    have hcore : core (marked width n).toList = '0' :: 'x' :: padded width n := by
      have hpad := @core_pad [] ('0' :: 'x' :: padded width n) [] (by simp) hchar
      rw [marked, String.toList_ofList]
      rwa [List.nil_append, List.append_nil] at hpad
    rw [hexadecimal?, hcore, padded, if_pos (by omega)]
    -- The sign stands behind the mark, where a digit is due.
    rfl

end Hexadecimal

/-! ### The texts of a device -/

/-- A hexadecimal number of a device, the attribute that it is read from and its text. -/
structure ShownNumber where
  source : String
  number : Int
  text : String

/-- A text with a line feed behind it, in UTF-8. -/
def ShownNumber.content (s : ShownNumber) : List UInt8 :=
  Text.utf8 (s.text.toList ++ ['\n'])

/-- The hexadecimal numbers of a device. -/
def Device.shownNumbers (d : Device) : List ShownNumber :=
  [⟨"vendor", d.vendorId, d.vendorText⟩, ⟨"device", d.deviceId, d.deviceText⟩,
    ⟨"subsystem_vendor", d.subsystemVendor, d.subsystemVendorText⟩,
    ⟨"subsystem_device", d.subsystemDevice, d.subsystemDeviceText⟩,
    ⟨"revision", d.revision, d.revisionText⟩, ⟨"class", d.classCode, d.classText⟩]

theorem exists_width_of_shownNumber {d : Device} {s : ShownNumber} (hs : s ∈ d.shownNumbers) :
    ∃ width, s.text = Hexadecimal.marked width s.number := by
  simp only [Device.shownNumbers, List.mem_cons, List.not_mem_nil, or_false] at hs
  rcases hs with rfl | rfl | rfl | rfl | rfl | rfl <;> exact ⟨_, rfl⟩

/-- A text of a device is read as its number, unless the number is negative. -/
theorem hexadecimal?_shownNumber {d : Device} {s : ShownNumber} (hs : s ∈ d.shownNumbers) :
    Numeral.hexadecimal? s.text.toList = if 0 ≤ s.number then some s.number else none := by
  obtain ⟨width, hwidth⟩ := exists_width_of_shownNumber hs
  rw [hwidth, Hexadecimal.hexadecimal?_marked]

/-- The line feed behind a text of a device is cut off again. -/
theorem trim_unifyLineEnds_shownNumber {d : Device} {s : ShownNumber} (hs : s ∈ d.shownNumbers) :
    Text.trim (Text.unifyLineEnds (s.text.toList ++ ['\n'])) = s.text.toList := by
  obtain ⟨width, hwidth⟩ := exists_width_of_shownNumber hs
  have hlist : s.text.toList = '0' :: 'x' :: Hexadecimal.padded width s.number := by
    rw [hwidth, Hexadecimal.marked, String.toList_ofList]
  have hplain : Text.Plain s.text.toList := by
    rw [hlist]
    exact Hexadecimal.forall_mem_marked (by decide) (by decide) (by decide) width s.number
  have hword : Text.IsWord s.text.toList := by
    rw [hlist]
    exact ⟨List.cons_ne_nil _ _,
      Hexadecimal.forall_mem_marked (by decide) (by decide) (by decide) width s.number⟩
  have hfeed : ∀ c ∈ ['\n'], Text.isBlank c = true := List.forall_mem_singleton.2 rfl
  rw [Text.unifyLineEnds_append hplain]
  exact @Text.trim_pad [] s.text.toList ['\n'] (by simp) hword.trimmed hfeed

/-- What is left of a device when its numbers are read from their texts. -/
def Device.reread? (d : Device) : Option Device :=
  if d.vendorId < 0 ∨ d.deviceId < 0 then none
  else some { d with
    subsystemVendor := max d.subsystemVendor 0
    subsystemDevice := max d.subsystemDevice 0
    revision := max d.revision 0
    classCode := max d.classCode 0 }

/-- A device without negative numbers is read again as it was. -/
theorem Device.reread?_eq_self {d : Device} (h : ∀ s ∈ d.shownNumbers, 0 ≤ s.number) :
    d.reread? = some d := by
  simp only [shownNumbers, List.forall_mem_cons] at h
  obtain ⟨hvendor, hdevice, hsubvendor, hsubdevice, hrevision, hclass, -⟩ := h
  rw [reread?, if_neg (by omega), Int.max_eq_left hsubvendor, Int.max_eq_left hsubdevice,
    Int.max_eq_left hrevision, Int.max_eq_left hclass]

theorem Device.address_of_reread? {d d' : Device} (h : d.reread? = some d') :
    d'.address = d.address := by
  rw [reread?, Option.ite_none_left_eq_some] at h
  obtain ⟨-, h⟩ := h
  rw [← Option.some.inj h]

/-! ### Files that are rewritten -/

namespace Sysfs

open FileSystem

variable {fs other : FileSystem} {dir : Path} {d : Device} {address : String}

/-- The attributes that hold hexadecimal numbers. -/
def numberAttributes : List String :=
  ["vendor", "device", "subsystem_vendor", "subsystem_device", "revision", "class"]

theorem map_source_shownNumbers (d : Device) :
    d.shownNumbers.map ShownNumber.source = numberAttributes := rfl

/-- The numbers of a device are those that its attributes are read as, or 0. -/
theorem map_number_of_record? (h : record? fs dir address = some d) :
    d.shownNumbers.map ShownNumber.number =
      numberAttributes.map fun name => (hexadecimal? fs dir name).getD 0 := by
  simp only [record?, Option.bind_eq_bind, Option.bind_eq_some_iff, Option.pure_def,
    Option.some_inj] at h
  obtain ⟨vendorId, hvendor, deviceId, hdevice, rfl⟩ := h
  simp only [numberAttributes, hexadecimal?_eq, List.map_cons, List.map_nil,
    Option.bind_eq_some_iff.2 hvendor, Option.bind_eq_some_iff.2 hdevice, Option.getD_some]
  rfl

theorem number_of_record? (h : record? fs dir address = some d) {s : ShownNumber}
    (hs : s ∈ d.shownNumbers) : s.number = (hexadecimal? fs dir s.source).getD 0 := by
  have hnumbers := map_number_of_record? h
  rw [← map_source_shownNumbers d, List.map_map] at hnumbers
  exact List.map_inj_left.1 hnumbers s hs

/-- A device has both of the numbers that no device is without. -/
theorem isSome_of_record? (h : record? fs dir address = some d) :
    (hexadecimal? fs dir "vendor").isSome ∧ (hexadecimal? fs dir "device").isSome := by
  simpa only [Option.isSome_iff_exists] using exists_record?_iff.1 ⟨d, h⟩

/-- A place that one of the number files of a device stands at, with the text of this number, and
where it may be read. -/
def WrittenAt (other : FileSystem) (dir : Path) (d : Device) (place : Place) : Prop :=
  ∃ s ∈ d.shownNumbers, other.locate (dir.child s.source).toString = .ok place ∧
    other.node? place = some (.file s.content) ∧ other.isLocked place = false

/-- The texts of a device's numbers are written into the files of these numbers.  A file that
several numbers are read from is left with the text of one of them, a file that cannot be read may
stay so, and nothing else changes. -/
structure Rewritten (fs other : FileSystem) (dir : Path) (d : Device) : Prop where
  outside : AgreeOutside (WrittenAt other dir d) fs other
  written : ∀ s ∈ d.shownNumbers,
    (∃ place, other.locate (dir.child s.source).toString = .ok place ∧
      WrittenAt other dir d place) ∨ attribute? other dir s.source = none

/-- What is read at a place with a text of a device. -/
theorem readText_of_writtenAt {s : ShownNumber} {path : String} {place : Place}
    (hplace : other.locate path = .ok place) (hnode : other.node? place = some (.file s.content))
    (hlocked : other.isLocked place = false) :
    other.readText path = .ok (Text.unifyLineEnds (s.text.toList ++ ['\n'])) := by
  have hbytes : other.readBytes path = .ok s.content :=
    readBytes_eq_ok_iff.2 ⟨status_eq_ok_iff.2 ⟨place, hplace, hnode⟩,
      mayRead_eq_true_iff.2 ⟨place, hplace, hlocked⟩⟩
  simp only [readText, textOf, hbytes, bind, Except.bind, ShownNumber.content,
    Text.decodeStrict?_utf8]

/-- Where no text is written, an attribute is read alike. -/
theorem attribute?_eq_of_not_writtenAt {elsewhere : Place → Prop}
    (h : AgreeOutside elsewhere fs other) {name : String} {place : Place}
    (hplace : other.locate (dir.child name).toString = .ok place) (hclear : ¬ elsewhere place) :
    attribute? fs dir name = attribute? other dir name := by
  have hreadable :
      fs.readable (dir.child name).toString = other.readable (dir.child name).toString := by
    rw [h.readable_of_locate hplace, readable_of_locate hplace, readableAt, readableAt,
      h.same place hclear, h.isLocked place hclear]
  simp only [attribute?, readText, readBytes, openFile, hreadable]

namespace Rewritten

variable (h : Rewritten fs other dir d)

/-- An attribute that is not read after the writing was not read before. -/
theorem attribute?_eq_none (h : Rewritten fs other dir d) {name : String}
    (hnone : attribute? other dir name = none) : attribute? fs dir name = none := by
  by_contra hread
  obtain ⟨text, htext⟩ := Option.ne_none_iff_exists'.1 hread
  obtain ⟨place, bytes, hplace, hnode⟩ := exists_file_of_attribute? htext
  by_cases hwritten : WrittenAt other dir d place
  · obtain ⟨s, -, -, hcontent, hlocked⟩ := hwritten
    have hplace' := h.outside.symm.locate_of_node hplace hcontent
    rw [attribute?, readText_of_writtenAt hplace' hcontent hlocked] at hnone
    cases hnone
  · rw [h.outside.same place hwritten] at hnode
    have hplace' := h.outside.symm.locate_of_node hplace hnode
    rw [attribute?_eq_of_not_writtenAt h.outside hplace' hwritten, hnone] at htext
    cases htext

/-- An attribute that is not in UTF-8 after the writing was not so before. -/
theorem garbled (h : Rewritten fs other dir d) {p : Path} {name : String}
    (hgarbled : Garbled other p name) : Garbled fs p name := by
  obtain ⟨bytes, hbytes, hnone⟩ := hgarbled
  obtain ⟨hstatus, hread⟩ := readBytes_eq_ok_iff.1 hbytes
  obtain ⟨place, hplace, hnode⟩ := status_eq_ok_iff.1 hstatus
  by_cases hwritten : WrittenAt other dir d place
  · obtain ⟨s, -, -, hcontent, -⟩ := hwritten
    obtain ⟨⟩ := Option.some.inj (hnode.symm.trans hcontent)
    rw [ShownNumber.content, Text.decodeStrict?_utf8] at hnone
    contradiction
  · rw [← h.outside.same place hwritten] at hnode
    have hplace' := h.outside.locate_of_node hplace hnode
    obtain ⟨found, hfound, hlocked⟩ := mayRead_eq_true_iff.1 hread
    rw [hplace] at hfound
    obtain rfl := Except.ok.inj hfound
    rw [← h.outside.isLocked place hwritten] at hlocked
    exact ⟨bytes, readBytes_eq_ok_iff.2 ⟨status_eq_ok_iff.2 ⟨place, hplace', hnode⟩,
      mayRead_eq_true_iff.2 ⟨place, hplace', hlocked⟩⟩, hnone⟩

/-- A directory stays where it is. -/
theorem locate_of_isDirectory (h : Rewritten fs other dir d) {path : String} {place : Place}
    (hplace : fs.locate path = .ok place) (hdirectory : fs.isDirectory place = true) :
    other.locate path = .ok place ∧ other.isDirectory place = true := by
  rw [h.outside.isDirectory_eq] at hdirectory
  exact ⟨h.outside.symm.locate_of_node hplace (of_decide_eq_true hdirectory), hdirectory⟩

variable (hrecord : record? fs dir address = some d)

include h hrecord

/-- Files that stand at one place after the writing gave the same number before. -/
theorem number_eq {s s' : ShownNumber} (hs : s ∈ d.shownNumbers) (hs' : s' ∈ d.shownNumbers)
    {place : Place} (hplace : other.locate (dir.child s.source).toString = .ok place)
    (hplace' : other.locate (dir.child s'.source).toString = .ok place) : s.number = s'.number := by
  have hreadable : fs.readable (dir.child s.source).toString =
      fs.readable (dir.child s'.source).toString := by
    rw [h.outside.readable_of_locate hplace, h.outside.readable_of_locate hplace']
  rw [number_of_record? hrecord hs, number_of_record? hrecord hs']
  simp only [hexadecimal?, readText, readBytes, openFile, hreadable]

/-- A number is read again from its text, unless it is negative or its file was left unread. -/
theorem hexadecimal?_eq {s : ShownNumber} (hs : s ∈ d.shownNumbers) :
    hexadecimal? other dir s.source = (if 0 ≤ s.number then some s.number else none) ∨
      hexadecimal? other dir s.source = none ∧ hexadecimal? fs dir s.source = none := by
  rcases h.written s hs with ⟨place, hplace, s', hs', hplace', hcontent, hlocked⟩ | hnone
  · left
    rw [number_eq h hrecord hs hs' hplace hplace', hexadecimal?,
      readText_of_writtenAt hplace hcontent hlocked]
    dsimp only
    rw [trim_unifyLineEnds_shownNumber hs', hexadecimal?_shownNumber hs']
  · right
    rw [Sysfs.hexadecimal?_eq, Sysfs.hexadecimal?_eq, hnone, h.attribute?_eq_none hnone]
    exact ⟨rfl, rfl⟩

/-- Every number is read again, but negative ones are read as 0. -/
theorem getD_hexadecimal? {s : ShownNumber} (hs : s ∈ d.shownNumbers) :
    (hexadecimal? other dir s.source).getD 0 = max s.number 0 := by
  rcases hexadecimal?_eq h hrecord hs with hread | ⟨hread, hbefore⟩
  · rw [hread]
    split
    · next hn => exact (Int.max_eq_left hn).symm
    · next hn => exact (Int.max_eq_right (Int.le_of_lt (Int.not_le.1 hn))).symm
  · rw [number_of_record? hrecord hs, hread, hbefore]
    rfl

/-- The numbers that no device is without are read again unless they are negative. -/
theorem hexadecimal?_required {s : ShownNumber} (hs : s ∈ d.shownNumbers)
    (hrequired : s.source = "vendor" ∨ s.source = "device") :
    hexadecimal? other dir s.source = if 0 ≤ s.number then some s.number else none := by
  refine (hexadecimal?_eq h hrecord hs).resolve_right ?_
  rintro ⟨-, hbefore⟩
  obtain ⟨hvendor, hdevice⟩ := isSome_of_record? hrecord
  rcases hrequired with hsource | hsource
  · rw [← hsource, hbefore] at hvendor
    contradiction
  · rw [← hsource, hbefore] at hdevice
    contradiction

/-- The device is described with its numbers read again, as long as nothing else of it changes. -/
theorem record?_eq_reread? (hoptional : ∀ name ∈ optionalAttributes,
      attribute? other dir name = attribute? fs dir name)
    (hparent : parent? fs dir = parent? other dir) : record? other dir address = d.reread? := by
  have hrequired := fun s hs => hexadecimal?_required h hrecord (s := s) hs
  have hnumber := fun s hs => getD_hexadecimal? h hrecord (s := s) hs
  simp only [Device.shownNumbers, List.forall_mem_cons, Sysfs.hexadecimal?_eq, true_or, or_true,
    forall_const] at hrequired hnumber
  obtain ⟨hvendorId, hdeviceId, -⟩ := hrequired
  obtain ⟨-, -, hsubvendor, hsubdevice, hrevision, hclass, -⟩ := hnumber
  simp (disch := decide) only [record?, hvendorId, hdeviceId, hsubvendor, hsubdevice, hrevision,
    hclass, hoptional, ← hparent]
  rw [Device.reread?]
  -- A negative number is read as none, and without one of the first two there is no device.
  by_cases hnegative : d.vendorId < 0 ∨ d.deviceId < 0
  · rw [if_pos hnegative]
    rcases hnegative with hvendor | hdevice
    · rw [if_neg (Int.not_le.2 hvendor)]
      rfl
    · rw [if_neg (Int.not_le.2 hdevice)]
      split <;> rfl
  · rw [if_neg hnegative, if_pos (by omega), if_pos (by omega)]
    simp only [record?, Option.bind_eq_bind, Option.bind_eq_some_iff, Option.pure_def,
      Option.some_inj] at hrecord
    obtain ⟨vendorId, -, deviceId, -, rfl⟩ := hrecord
    rfl

end Rewritten
end Sysfs
end PciCatalog
