import PciCatalog.Address
import PciCatalog.Proofs.Spelling
import PciCatalog.Proofs.Walking
import Mathlib.Data.List.Induction

/-!
# The form of an address

An address consists of four, two and two hexadecimal digits and one digit for the function, with two
colons and a point between them.  A line feed may follow.  Main statements: these are the texts that
`accepts` lets through, each of them is taken apart into its pieces, and each can be the name of a
directory.
-/

namespace PciCatalog
namespace Address

/-- The pieces of an address. -/
structure Form where
  segment : List Char
  bus : List Char
  device : List Char
  function : Char
  ending : List Char
  length_segment : segment.length = 4
  length_bus : bus.length = 2
  length_device : device.length = 2
  hex : ∀ c ∈ segment ++ bus ++ device, isHexDigit c = true
  functionDigit : isFunctionDigit function = true
  ending_mem : ending = [] ∨ ending = ['\n']

/-- The address that consists of some pieces. -/
def Form.text (f : Form) : List Char :=
  f.segment ++ ':' :: (f.bus ++ ':' :: (f.device ++ '.' :: f.function :: f.ending))

theorem strip?_append (first second : List (Char → Bool)) (text : List Char) :
    strip? (first ++ second) text = (strip? first text).bind (strip? second) := by
  induction first generalizing text with
  | nil => rfl
  | cons p first ih =>
    cases text with
    | nil => rfl
    | cons c text =>
      rw [List.cons_append, strip?, strip?]
      split
      · exact ih text
      · rfl

/-- A condition that is repeated takes as many characters off the front. -/
theorem strip?_replicate_eq_some_iff {count : Nat} {p : Char → Bool} {text rest : List Char} :
    strip? (List.replicate count p) text = some rest ↔
      ∃ front, text = front ++ rest ∧ front.length = count ∧ ∀ c ∈ front, p c = true := by
  induction count generalizing text with
  | zero => simp [strip?, List.length_eq_zero_iff]
  | succ count ih =>
    cases text with
    | nil => simp [strip?, List.replicate_succ]
    | cons c text =>
      rw [List.replicate_succ, strip?, Option.ite_none_right_eq_some, ih]
      constructor
      · rintro ⟨hc, front, rfl, rfl, hfront⟩
        exact ⟨c :: front, rfl, rfl, List.forall_mem_cons.2 ⟨hc, hfront⟩⟩
      · rintro ⟨front, htext, hlength, hfront⟩
        obtain ⟨d, front, rfl⟩ := List.exists_cons_of_length_eq_add_one hlength
        obtain ⟨rfl, rfl⟩ := List.cons.inj htext
        rw [List.forall_mem_cons] at hfront
        exact ⟨hfront.1, front, rfl, by simpa using hlength, hfront.2⟩

theorem strip?_singleton_eq_some_iff {p : Char → Bool} {text rest : List Char} :
    strip? [p] text = some rest ↔ ∃ c, text = c :: rest ∧ p c = true := by
  cases text with
  | nil => simp [strip?]
  | cons c text => simp [strip?, and_comm]

/-- The conditions, with those for the digits of one piece taken together. -/
theorem pattern_eq : pattern =
    List.replicate 4 isHexDigit ++ ([(· == ':')] ++ (List.replicate 2 isHexDigit ++
      ([(· == ':')] ++ (List.replicate 2 isHexDigit ++ ([(· == '.')] ++ [isFunctionDigit]))))) :=
  rfl

theorem accepts_iff_strip? {address : String} :
    accepts address = true ↔
      ∃ rest, strip? pattern address.toList = some rest ∧ (rest = [] ∨ rest = ['\n']) := by
  unfold accepts
  constructor
  · intro h
    split at h
    · next hrest => exact ⟨[], hrest, .inl rfl⟩
    · next hrest => exact ⟨['\n'], hrest, .inr rfl⟩
    · contradiction
  · rintro ⟨rest, hrest, rfl | rfl⟩
    · rw [hrest]
    · simp [hrest]

/-- The texts that are let through are the addresses. -/
theorem accepts_iff {address : String} :
    accepts address = true ↔ ∃ f : Form, address.toList = f.text := by
  simp only [accepts_iff_strip?, pattern_eq, strip?_append, Option.bind_eq_some_iff,
    strip?_replicate_eq_some_iff, strip?_singleton_eq_some_iff, beq_iff_eq]
  constructor
  -- One piece of the text for each condition of the pattern; a separator is no piece.
  · rintro ⟨rest, ⟨_, ⟨segment, htext, hsegment, hexSegment⟩, _, ⟨_, rfl, rfl⟩, _,
      ⟨bus, rfl, hbus, hexBus⟩, _, ⟨_, rfl, rfl⟩, _, ⟨device, rfl, hdevice, hexDevice⟩, _,
      ⟨_, rfl, rfl⟩, function, rfl, hfunction⟩, hrest⟩
    have hex : ∀ c ∈ segment ++ bus ++ device, isHexDigit c = true := by
      rw [List.forall_mem_append, List.forall_mem_append]
      exact ⟨⟨hexSegment, hexBus⟩, hexDevice⟩
    exact ⟨⟨segment, bus, device, function, rest, hsegment, hbus, hdevice, hex, hfunction, hrest⟩,
      htext⟩
  · rintro ⟨f, htext⟩
    have hex := f.hex
    rw [List.forall_mem_append, List.forall_mem_append] at hex
    exact ⟨f.ending, ⟨_, ⟨f.segment, htext, f.length_segment, hex.1.1⟩, _, ⟨_, rfl, rfl⟩, _,
      ⟨f.bus, rfl, f.length_bus, hex.1.2⟩, _, ⟨_, rfl, rfl⟩, _,
      ⟨f.device, rfl, f.length_device, hex.2⟩, _, ⟨_, rfl, rfl⟩, f.function, rfl, f.functionDigit⟩,
      f.ending_mem⟩

theorem mem_hexDigits_of_isHexDigit {c : Char} (h : isHexDigit c = true) : c ∈ hexDigits := by
  have hle : ∀ {d : Char}, c ≤ d → c.toNat ≤ d.toNat := fun hcd => hcd
  have hlow : c.toNat < 0x80 := by
    simp only [isHexDigit, Bool.or_eq_true, Bool.and_eq_true, decide_eq_true_eq] at h
    rcases h with (⟨-, h⟩ | ⟨-, h⟩) | ⟨-, h⟩
    · exact Nat.lt_of_le_of_lt (hle h) (by decide)
    · exact Nat.lt_of_le_of_lt (hle h) (by decide)
    · exact Nat.lt_of_le_of_lt (hle h) (by decide)
  have hall : ∀ n : Fin 0x80, isHexDigit (Char.ofNat n) = true → Char.ofNat n ∈ hexDigits := by
    decide
  simpa using hall ⟨c.toNat, hlow⟩ (by simpa using h)

theorem isHexDigit_of_isFunctionDigit {c : Char} (h : isFunctionDigit c = true) :
    isHexDigit c = true := by
  simp only [isFunctionDigit, Bool.and_eq_true, decide_eq_true_eq] at h
  have hnine : c ≤ '9' := Char.le_trans h.2 (by decide)
  simp [isHexDigit, h.1, hnine]

namespace Form

variable (f : Form)

/-- What holds of a colon, a point, a line feed and the hexadecimal digits holds of the characters
of an address. -/
theorem forall_mem_text {p : Char → Prop} (hcolon : p ':') (hpoint : p '.') (hfeed : p '\n')
    (hdigit : ∀ c ∈ hexDigits, p c) : ∀ c ∈ f.text, p c := by
  have hex := f.hex
  simp only [List.forall_mem_append] at hex
  have hpiece : ∀ {piece : List Char}, (∀ c ∈ piece, isHexDigit c = true) → ∀ c ∈ piece, p c :=
    fun h c hc => hdigit c (mem_hexDigits_of_isHexDigit (h c hc))
  have hfunction : p f.function :=
    hdigit _ (mem_hexDigits_of_isHexDigit (isHexDigit_of_isFunctionDigit f.functionDigit))
  have hending : ∀ c ∈ f.ending, p c := by
    rcases f.ending_mem with h | h
    · simp [h]
    · simpa [h] using hfeed
  simp only [text, List.forall_mem_append, List.forall_mem_cons]
  exact ⟨hpiece hex.1.1, hcolon, hpiece hex.1.2, hcolon, hpiece hex.2, hpoint, hfunction, hending⟩

/-- No piece holds a separator. -/
theorem separators_not_mem :
    (':' ∉ f.segment ∧ ':' ∉ f.bus ∧ ':' ∉ f.device ∧ ':' ∉ f.function :: f.ending) ∧
      '.' ∉ f.device ∧ '.' ∉ f.function :: f.ending := by
  have hex := f.hex
  simp only [List.forall_mem_append] at hex
  have hplain : ∀ c ∈ hexDigits, c ≠ ':' ∧ c ≠ '.' := Text.forall_mem_of_all (by decide)
  have hpiece : ∀ {piece : List Char}, (∀ c ∈ piece, isHexDigit c = true) →
      ':' ∉ piece ∧ '.' ∉ piece := by
    intro piece hpiece
    have hmem : ∀ c ∈ piece, c ≠ ':' ∧ c ≠ '.' :=
      fun c hc => hplain c (mem_hexDigits_of_isHexDigit (hpiece c hc))
    exact ⟨fun hcolon => (hmem _ hcolon).1 rfl, fun hpoint => (hmem _ hpoint).2 rfl⟩
  -- The line feed that may end the text is no separator either.
  have hlast : ':' ∉ f.function :: f.ending ∧ '.' ∉ f.function :: f.ending := by
    have hfunction : ':' ∉ [f.function] ∧ '.' ∉ [f.function] :=
      hpiece (by simpa using isHexDigit_of_isFunctionDigit f.functionDigit)
    rcases f.ending_mem with h | h
    · simpa [h] using hfunction
    · simpa [h] using hfunction
  exact ⟨⟨(hpiece hex.1.1).1, (hpiece hex.1.2).1, (hpiece hex.2).1, hlast.1⟩,
    (hpiece hex.2).2, hlast.2⟩

/-- The colons of an address stand around the bus. -/
theorem fields_text : Text.fields ':' f.text =
    [f.segment, f.bus, f.device ++ '.' :: f.function :: f.ending] := by
  obtain ⟨⟨hsegment, hbus, hdevice, hlast⟩, -⟩ := f.separators_not_mem
  have hrest : ':' ∉ f.device ++ '.' :: f.function :: f.ending := by
    rw [List.mem_append, List.mem_cons, not_or, not_or]
    exact ⟨hdevice, by decide, hlast⟩
  rw [text, Text.fields_append_cons, Text.fields_append_cons, Text.fields_of_not_mem hsegment,
    Text.fields_of_not_mem hbus, Text.fields_of_not_mem hrest]
  rfl

/-- Its point stands between the device and the function. -/
theorem fields_last : Text.fields '.' (f.device ++ '.' :: f.function :: f.ending) =
    [f.device, f.function :: f.ending] := by
  obtain ⟨-, hdevice, hlast⟩ := f.separators_not_mem
  rw [Text.fields_append_cons, Text.fields_of_not_mem hdevice, Text.fields_of_not_mem hlast]
  rfl

theorem split?_text : split? f.text = some ⟨String.ofList f.segment, String.ofList f.bus,
    String.ofList f.device, String.ofList (f.function :: f.ending)⟩ := by
  rw [split?, f.fields_text]
  dsimp only
  rw [f.fields_last]

/-- The pieces in lower case. -/
def lower : Form where
  segment := f.segment.map Char.toLower
  bus := f.bus.map Char.toLower
  device := f.device.map Char.toLower
  function := f.function.toLower
  ending := f.ending.map Char.toLower
  length_segment := by rw [List.length_map, f.length_segment]
  length_bus := by rw [List.length_map, f.length_bus]
  length_device := by rw [List.length_map, f.length_device]
  hex := by
    have hlower : ∀ c ∈ hexDigits, isHexDigit c.toLower = true :=
      Text.forall_mem_of_all (by decide)
    simp only [← List.map_append, List.forall_mem_map]
    exact fun c hc => hlower c (mem_hexDigits_of_isHexDigit (f.hex c hc))
  functionDigit := by
    have hlower : ∀ c ∈ hexDigits, isFunctionDigit c = true → isFunctionDigit c.toLower = true :=
      Text.forall_mem_of_all (by decide)
    exact hlower _
      (mem_hexDigits_of_isHexDigit (isHexDigit_of_isFunctionDigit f.functionDigit)) f.functionDigit
  ending_mem := by
    rcases f.ending_mem with h | h
    · exact .inl (by rw [h]; rfl)
    · exact .inr (by rw [h]; rfl)

/-- An address in lower case has its pieces in lower case. -/
theorem lower_text : Text.lower f.text = f.lower.text := by
  have hascii : ∀ c ∈ f.text, c.toNat < 0x80 :=
    f.forall_mem_text (by decide) (by decide) (by decide) (Text.forall_mem_of_all (by decide))
  rw [Text.lower_of_ascii hascii]
  simp [text, lower]

/-- The pieces in lower case, as the parts of the address. -/
def parts : Parts where
  segment := String.ofList (f.segment.map Char.toLower)
  bus := String.ofList (f.bus.map Char.toLower)
  device := String.ofList (f.device.map Char.toLower)
  function := String.ofList ((f.function :: f.ending).map Char.toLower)

/-- An address is taken apart into its pieces. -/
theorem parts_eq {address : String} (h : address.toList = f.text) :
    Address.parts address = .ok f.parts := by
  have hsplit : split? (Text.lower address.toList) = some f.parts := by
    rw [h, f.lower_text]
    exact f.lower.split?_text
  rw [Address.parts, hsplit]

end Form

/-- The parts of an address can be told. -/
theorem exists_parts_of_accepts {address : String} (h : accepts address = true) :
    ∃ parts, Address.parts address = .ok parts := by
  obtain ⟨f, htext⟩ := accepts_iff.1 h
  exact ⟨f.parts, f.parts_eq htext⟩

/-! ### Addresses as names -/

/-- The characters of an address. -/
theorem forall_mem_of_accepts {address : String} (h : accepts address = true) {p : Char → Prop}
    (hcolon : p ':') (hpoint : p '.') (hfeed : p '\n') (hdigit : ∀ c ∈ hexDigits, p c) :
    ∀ c ∈ address.toList, p c := by
  obtain ⟨f, htext⟩ := accepts_iff.1 h
  rw [htext]
  exact f.forall_mem_text hcolon hpoint hfeed hdigit

/-- A name can have all characters of an address. -/
theorem encodes_of_accepts (fs : FileSystem) {address : String} (h : accepts address = true) :
    fs.Encodes address := by
  have hplain : ∀ c ∈ address.toList, c.toNat < 0x80 ∧ c ≠ '\x00' :=
    forall_mem_of_accepts h (by decide) (by decide) (by decide)
      (Text.forall_mem_of_all (by decide))
  exact fun c hc => fs.refuses_eq_false (hplain c hc).1 (hplain c hc).2

theorem length_of_accepts {address : String} (h : accepts address = true) :
    12 ≤ address.toList.length ∧ address.toList.length ≤ 13 := by
  obtain ⟨f, htext⟩ := accepts_iff.1 h
  have hending : f.ending.length ≤ 1 := by
    rcases f.ending_mem with h | h <;> simp [h]
  rw [htext, Form.text]
  simp only [List.length_append, List.length_cons, f.length_segment, f.length_bus,
    f.length_device]
  omega

theorem isName_of_accepts {address : String} (h : accepts address = true) :
    Path.IsName address := by
  constructor
  · rintro rfl
    have hlength := (length_of_accepts h).1
    simp at hlength
  · intro hslash
    exact forall_mem_of_accepts (p := fun c => c ≠ '/') h (by decide) (by decide) (by decide)
      (Text.forall_mem_of_all (by decide)) '/' hslash rfl

/-- A text has four bytes to a character at most. -/
theorem utf8ByteSize_ofList_le (text : List Char) :
    (String.ofList text).utf8ByteSize ≤ 4 * text.length := by
  induction text using List.reverseRecOn with
  | nil => simp
  | append_singleton front c ih =>
    have hpush : String.ofList (front ++ [c]) = (String.ofList front).push c := by
      rw [← String.toList_inj]
      simp
    have hsize := Char.utf8Size_le_four c
    rw [hpush, String.utf8ByteSize_push, List.length_append, List.length_singleton]
    omega

/-- An address is a name that leads from a directory to one of its members. -/
theorem isStep_of_accepts {address : String} (h : accepts address = true) :
    FileSystem.IsStep address := by
  have hlength := length_of_accepts h
  refine ⟨(isName_of_accepts h).1, ?_, ?_, ?_⟩
  · rintro rfl
    simp at hlength
  · rintro rfl
    simp at hlength
  · have hsize := utf8ByteSize_ofList_le address.toList
    rw [String.ofList_toList] at hsize
    exact Nat.le_trans hsize (by rw [FileSystem.nameLimit]; omega)

end Address
end PciCatalog
