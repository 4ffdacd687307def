import PciCatalog.Proofs.AddressForm
import PciCatalog.Proofs.WrittenNumber

/-!
# The numbers of an address

The pieces of an address are numbers in hexadecimal: segment, bus, device and function.  Each piece
is read as the value of its digits, a line feed behind the function notwithstanding.  Main
statement: among addresses of twelve characters in lower case, the order of the texts is the order
of the numbers, compared one after the other (`numbers_lt`).
-/

namespace PciCatalog

namespace Hexadecimal

/-- The value of a hexadecimal digit. -/
def digitValue (c : Char) : Nat :=
  (Numeral.digitValue? 16 c).getD 0

/-- The value of hexadecimal digits. -/
def value (digits : List Char) : Nat :=
  digits.foldl (fun n c => n * 16 + digitValue c) 0

example : value "1Fa".toList = 0x1fa := by decide +kernel

theorem digitValue?_eq {c : Char} (h : c ∈ hexDigits) :
    Numeral.digitValue? 16 c = some (digitValue c) := by
  have hall : ∀ c ∈ hexDigits, Numeral.digitValue? 16 c = some (digitValue c) :=
    Text.forall_mem_of_all (by decide)
  exact hall c h

theorem digitValue_lt {c : Char} (h : c ∈ hexDigits) : digitValue c < 16 := by
  have hall : ∀ c ∈ hexDigits, digitValue c < 16 := Text.forall_mem_of_all (by decide)
  exact hall c h

/-- Lower-case digits are in the order of their values. -/
theorem digitValue_lt_digitValue {c d : Char} (hc : c ∈ hexDigits) (hd : d ∈ hexDigits)
    (hlowerC : c.toLower = c) (hlowerD : d.toLower = d) (h : c < d) :
    digitValue c < digitValue d := by
  -- The decimal digits and the letters are two runs of codes, the letters behind the digits.
  have hcode : ∀ c ∈ hexDigits, c.toLower = c →
      c.toNat = digitValue c + 48 ∧ digitValue c < 10 ∨
        c.toNat = digitValue c + 87 ∧ 10 ≤ digitValue c := Text.forall_mem_of_all (by decide)
  have hlt : c.toNat < d.toNat := h
  have hcodeC := hcode c hc hlowerC
  have hcodeD := hcode d hd hlowerD
  omega

theorem foldl_eq (digits : List Char) (n : Nat) :
    digits.foldl (fun n c => n * 16 + digitValue c) n = n * 16 ^ digits.length + value digits := by
  induction digits generalizing n with
  | nil => simp [value]
  | cons c rest ih =>
    have hvalue : value (c :: rest) =
        rest.foldl (fun n c => n * 16 + digitValue c) (0 * 16 + digitValue c) := rfl
    rw [List.foldl_cons, ih, hvalue, ih, List.length_cons, Nat.pow_succ, Nat.zero_mul, Nat.zero_add,
      Nat.add_mul, Nat.mul_assoc, Nat.mul_comm 16, Nat.add_assoc]

/-- The first digit counts as often as there are numbers in the digits behind it. -/
theorem value_cons (c : Char) (rest : List Char) :
    value (c :: rest) = digitValue c * 16 ^ rest.length + value rest := by
  rw [value, List.foldl_cons, foldl_eq, Nat.zero_mul, Nat.zero_add]

theorem value_lt {digits : List Char} (h : ∀ c ∈ digits, c ∈ hexDigits) :
    value digits < 16 ^ digits.length := by
  induction digits with
  | nil => decide
  | cons c rest ih =>
    rw [List.forall_mem_cons] at h
    have hdigit : digitValue c + 1 ≤ 16 := digitValue_lt h.1
    calc value (c :: rest) = digitValue c * 16 ^ rest.length + value rest := value_cons c rest
      _ < (digitValue c + 1) * 16 ^ rest.length := by
        rw [Nat.add_mul, Nat.one_mul]
        exact Nat.add_lt_add_left (ih h.2) _
      _ ≤ 16 * 16 ^ rest.length := Nat.mul_le_mul_right _ hdigit
      _ = 16 ^ (c :: rest).length := by rw [List.length_cons, Nat.pow_succ, Nat.mul_comm]

/-- Digits in lower case, as many on both sides, are in the order of their values. -/
theorem value_lt_value {a b : List Char} (hlength : a.length = b.length)
    (ha : ∀ c ∈ a, c ∈ hexDigits ∧ c.toLower = c) (hb : ∀ c ∈ b, c ∈ hexDigits ∧ c.toLower = c)
    (h : a < b) : value a < value b := by
  induction a generalizing b with
  | nil =>
    obtain rfl : b = [] := List.length_eq_zero_iff.1 hlength.symm
    exact absurd h (List.lt_irrefl [])
  | cons c a ih =>
    cases b with
    | nil => simp at hlength
    | cons d b =>
      rw [List.forall_mem_cons] at ha hb
      have hlengths : a.length = b.length := by simpa using hlength
      rw [value_cons, value_cons, hlengths]
      -- The first digits decide, since what is behind them stays below one of their unit; where
      -- they agree, the rest decides.
      rcases List.cons_lt_cons_iff.1 h with hcd | ⟨rfl, hab⟩
      · have hdigit := digitValue_lt_digitValue ha.1.1 hb.1.1 ha.1.2 hb.1.2 hcd
        have hrest : value a < 16 ^ b.length := hlengths ▸ value_lt fun c hc => (ha.2 c hc).1
        calc digitValue c * 16 ^ b.length + value a
            < (digitValue c + 1) * 16 ^ b.length := by
              rw [Nat.add_mul, Nat.one_mul]
              exact Nat.add_lt_add_left hrest _
          _ ≤ digitValue d * 16 ^ b.length := Nat.mul_le_mul_right _ hdigit
          _ ≤ digitValue d * 16 ^ b.length + value b := Nat.le_add_right _ _
      · exact Nat.add_lt_add_left (ih hlengths ha.2 hb.2 hab) _

theorem continueNatural?_eq {digits : List Char} (h : ∀ c ∈ digits, c ∈ hexDigits) (n : Nat) :
    Numeral.continueNatural? 16 n digits =
      some (digits.foldl (fun n c => n * 16 + digitValue c) n) := by
  have hdigit : ∀ c ∈ hexDigits, c ≠ '_' := Text.forall_mem_of_all (by decide)
  induction digits generalizing n with
  | nil => rfl
  | cons c rest ih =>
    rw [List.forall_mem_cons] at h
    rw [Numeral.continueNatural?_cons (hdigit c h.1), digitValue?_eq h.1, Option.bind_some, ih h.2,
      List.foldl_cons]

/-- Digits are read as their value, whatever white space follows them. -/
theorem hexadecimal?_append {digits space : List Char} (hne : digits ≠ [])
    (h : ∀ c ∈ digits, c ∈ hexDigits) (hspace : ∀ c ∈ space, Text.isWhiteSpace c = true) :
    Numeral.hexadecimal? (digits ++ space) = some (value digits : Int) := by
  have hchar : ∀ c ∈ hexDigits, (Numeral.plainChar c = c ∧ Numeral.isMargin c = false) ∧
      (c ≠ '-' ∧ c ≠ '+') ∧ c ≠ '_' := Text.forall_mem_of_all (by decide)
  -- What the reader does in turn: it cuts off the margin, the sign and the mark, and reads digits.
  have hcore : Numeral.core (digits ++ space) = digits :=
    @Numeral.core_pad [] digits space hspace fun c hc => (hchar c (h c hc)).1
  have hsign : Numeral.cutSign digits = (false, digits) :=
    Numeral.cutSign_of_unsigned fun c hc => (hchar c (h c hc)).2.1
  have hmark : Numeral.dropHexMark digits = digits :=
    @Numeral.dropHexMark_append [] digits List.mem_cons_self h
  have hdigits : Numeral.natural? 16 digits = some (value digits) := by
    rw [Numeral.natural?_eq_continueNatural? hne fun c hc => (hchar c (h c hc)).2.2,
      continueNatural?_eq h]
    rfl
  rw [Numeral.hexadecimal?, hcore, hsign]
  dsimp only
  rw [hmark, hdigits]
  rfl

end Hexadecimal

namespace Address

open Hexadecimal (value)

/-- The numbers of an address in the order of its parts. -/
def numbers (address : String) : Except AddressError (List Int) := do
  let segment ← domain address
  let bus ← bus address
  let (device, function) ← deviceAndFunction address
  pure [segment, bus, device, function]

example : numbers "0000:3A:1f.7" = .ok [0, 0x3a, 0x1f, 7] := by decide +kernel

namespace Form

variable (f : Form) {address : String}

theorem mem_hexDigits : (∀ c ∈ f.segment, c ∈ hexDigits) ∧ (∀ c ∈ f.bus, c ∈ hexDigits) ∧
    (∀ c ∈ f.device, c ∈ hexDigits) ∧ ∀ c ∈ [f.function], c ∈ hexDigits := by
  have hex := f.hex
  simp only [List.forall_mem_append] at hex
  have hpiece : ∀ {piece : List Char}, (∀ c ∈ piece, isHexDigit c = true) →
      ∀ c ∈ piece, c ∈ hexDigits :=
    fun h c hc => mem_hexDigits_of_isHexDigit (h c hc)
  exact ⟨hpiece hex.1.1, hpiece hex.1.2, hpiece hex.2,
    hpiece (by simpa using isHexDigit_of_isFunctionDigit f.functionDigit)⟩

/-- The pieces are read as the values of their digits. -/
theorem hexadecimal?_pieces :
    Numeral.hexadecimal? f.segment = some (value f.segment : Int) ∧
      Numeral.hexadecimal? f.bus = some (value f.bus : Int) ∧
      Numeral.hexadecimal? f.device = some (value f.device : Int) ∧
      Numeral.hexadecimal? (f.function :: f.ending) = some (value [f.function] : Int) := by
  obtain ⟨hsegment, hbus, hdevice, hfunction⟩ := f.mem_hexDigits
  have hpiece : ∀ {piece : List Char} {n : Nat}, piece.length = n + 1 →
      (∀ c ∈ piece, c ∈ hexDigits) → Numeral.hexadecimal? piece = some (value piece : Int) := by
    intro piece n hlength hex
    have hread := @Hexadecimal.hexadecimal?_append piece []
      (List.ne_nil_of_length_eq_add_one hlength) hex (by simp)
    rwa [List.append_nil] at hread
  -- Only behind the last piece something may stand, a line feed.
  have hending : ∀ c ∈ f.ending, Text.isWhiteSpace c = true := by
    rcases f.ending_mem with h | h
    · simp [h]
    · rw [h, List.forall_mem_singleton]
      decide
  exact ⟨hpiece f.length_segment hsegment, hpiece f.length_bus hbus,
    hpiece f.length_device hdevice,
    @Hexadecimal.hexadecimal?_append [f.function] f.ending (List.cons_ne_nil _ _) hfunction hending⟩

variable {f} (h : address.toList = f.text)

include h

theorem domain_eq : domain address = .ok (value f.segment : Int) := by
  rw [domain, colonPart, h, f.fields_text]
  show readPart f.segment = _
  rw [readPart, f.hexadecimal?_pieces.1]

theorem bus_eq : Address.bus address = .ok (value f.bus : Int) := by
  rw [Address.bus, colonPart, h, f.fields_text]
  show readPart f.bus = _
  rw [readPart, f.hexadecimal?_pieces.2.1]

theorem deviceAndFunction_eq :
    deviceAndFunction address = .ok ((value f.device : Int), (value [f.function] : Int)) := by
  obtain ⟨-, -, hdevice, hfunction⟩ := f.hexadecimal?_pieces
  rw [deviceAndFunction, colonPart, h, f.fields_text]
  simp only [List.getElem?_cons_succ, List.getElem?_cons_zero, bind, Except.bind, f.fields_last,
    readPart, hdevice, hfunction]
  rfl

theorem numbers_eq : numbers address = .ok [(value f.segment : Int), (value f.bus : Int),
    (value f.device : Int), (value [f.function] : Int)] := by
  rw [numbers, domain_eq h, bus_eq h, deviceAndFunction_eq h]
  rfl

end Form

/-- Texts that start with as many characters are compared by their fronts first. -/
theorem append_lt_append_iff {a b x y : List Char} (h : a.length = b.length) :
    a ++ x < b ++ y ↔ a < b ∨ a = b ∧ x < y := by
  induction a generalizing b with
  | nil =>
    obtain rfl : b = [] := List.length_eq_zero_iff.1 h.symm
    simp
  | cons c a ih =>
    cases b with
    | nil => simp at h
    | cons d b =>
      rw [List.cons_append, List.cons_append, List.cons_lt_cons_iff, List.cons_lt_cons_iff,
        ih (by simpa using h), List.cons.injEq]
      tauto

/-- Texts that start with digits in lower case, as many on both sides, are compared by the values of
these digits first. -/
theorem value_cons_lt {a b x y : List Char} {ns ns' : List Int} (hlength : a.length = b.length)
    (ha : ∀ c ∈ a, c ∈ hexDigits ∧ c.toLower = c) (hb : ∀ c ∈ b, c ∈ hexDigits ∧ c.toLower = c)
    (h : a ++ x < b ++ y) (hrest : x < y → ns < ns') :
    (value a : Int) :: ns < (value b : Int) :: ns' := by
  rw [List.cons_lt_cons_iff]
  rcases (append_lt_append_iff hlength).1 h with hlt | ⟨rfl, hxy⟩
  · exact .inl (Int.ofNat_lt.2 (Hexadecimal.value_lt_value hlength ha hb hlt))
  · exact .inr ⟨rfl, hrest hxy⟩

/-- An address of twelve characters has nothing behind its function. -/
theorem Form.ending_eq_nil {f : Form} {address : String} (h : address.toList = f.text)
    (hlength : address.length = 12) : f.ending = [] := by
  rw [← String.length_toList, h, text] at hlength
  simp only [List.length_append, List.length_cons, f.length_segment, f.length_bus,
    f.length_device] at hlength
  rw [← List.length_eq_zero_iff]
  omega

/-- The pieces of an address in lower case consist of digits in lower case. -/
theorem Form.lower_digits {f : Form} (h : Text.lower f.text = f.text) :
    (∀ c ∈ f.segment, c ∈ hexDigits ∧ c.toLower = c) ∧
      (∀ c ∈ f.bus, c ∈ hexDigits ∧ c.toLower = c) ∧
      (∀ c ∈ f.device, c ∈ hexDigits ∧ c.toLower = c) ∧
      ∀ c ∈ [f.function], c ∈ hexDigits ∧ c.toLower = c := by
  have hascii : ∀ c ∈ f.text, c.toNat < 0x80 :=
    f.forall_mem_text (by decide) (by decide) (by decide) (Text.forall_mem_of_all (by decide))
  have hmap : f.text.map Char.toLower = f.text.map id := by
    rw [← Text.lower_of_ascii hascii, h, List.map_id]
  have hlower : ∀ c ∈ f.text, c.toLower = c := List.map_inj_left.1 hmap
  simp only [text, List.forall_mem_append, List.forall_mem_cons] at hlower
  obtain ⟨hsegment, -, hbus, -, hdevice, -, hfunction, -⟩ := hlower
  obtain ⟨hexSegment, hexBus, hexDevice, hexFunction⟩ := f.mem_hexDigits
  refine ⟨fun c hc => ⟨hexSegment c hc, hsegment c hc⟩, fun c hc => ⟨hexBus c hc, hbus c hc⟩,
    fun c hc => ⟨hexDevice c hc, hdevice c hc⟩, fun c hc => ⟨hexFunction c hc, ?_⟩⟩
  rw [List.mem_singleton.1 hc, hfunction]

/-- Addresses of twelve characters in lower case are in the order of their numbers. -/
theorem numbers_lt {address address' : String} (haccepts : accepts address = true)
    (haccepts' : accepts address' = true) (hlength : address.length = 12)
    (hlength' : address'.length = 12) (hlower : Text.lower address.toList = address.toList)
    (hlower' : Text.lower address'.toList = address'.toList) (h : address < address') :
    ∃ ns ns', numbers address = .ok ns ∧ numbers address' = .ok ns' ∧ ns < ns' := by
  obtain ⟨f, htext⟩ := accepts_iff.1 haccepts
  obtain ⟨g, htext'⟩ := accepts_iff.1 haccepts'
  refine ⟨_, _, f.numbers_eq htext, g.numbers_eq htext', ?_⟩
  rw [htext] at hlower
  rw [htext'] at hlower'
  obtain ⟨hsegment, hbus, hdevice, hfunction⟩ := Form.lower_digits hlower
  obtain ⟨hsegment', hbus', hdevice', hfunction'⟩ := Form.lower_digits hlower'
  have hbehind : ∀ {sep : Char} {x y : List Char}, sep :: x < sep :: y → x < y := fun hxy =>
    ((List.cons_lt_cons_iff.1 hxy).resolve_left (Char.lt_irrefl _)).2
  rw [String.lt_iff, htext, htext', Form.text, Form.text,
    Form.ending_eq_nil htext hlength, Form.ending_eq_nil htext' hlength'] at h
  -- Pieces of equal length stand at the same place, so the first two that differ decide.
  refine value_cons_lt (f.length_segment.trans g.length_segment.symm) hsegment hsegment' h
    fun h => ?_
  refine value_cons_lt (f.length_bus.trans g.length_bus.symm) hbus hbus' (hbehind h) fun h => ?_
  refine value_cons_lt (f.length_device.trans g.length_device.symm) hdevice hdevice' (hbehind h)
    fun h => ?_
  exact value_cons_lt rfl hfunction hfunction' (hbehind h) fun h => absurd h (List.lt_irrefl [])

end Address
end PciCatalog
