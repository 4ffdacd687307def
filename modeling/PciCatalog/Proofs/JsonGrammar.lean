import PciCatalog.Address
import PciCatalog.Proofs.Encoding
import PciCatalog.Proofs.JsonText

/-!
# The grammar of JSON

Which texts are JSON, by the rules of the format alone, and that a report whose doubles are all
finite is written as such a text (`derives_write`): its texts are escaped as the grammar asks,
whatever they contain, and its numbers are laid out without zeros in front.
-/

namespace PciCatalog

/-! ### The rules -/

namespace JsonGrammar

/-- Blanks without meaning. -/
def Blanks (text : List Char) : Prop :=
  ∀ c ∈ text, c ∈ [' ', '\t', '\n', '\r']

/-- At least one decimal digit and nothing else. -/
structure Digits (text : List Char) : Prop where
  ne_nil : text ≠ []
  digit : ∀ c ∈ text, c.isDigit = true

/-- The whole part of a number has no zero in front unless it is zero. -/
inductive Whole : List Char → Prop
  | zero : Whole ['0']
  | nonzero {text : List Char} (digits : Digits text) (first : text.head? ≠ some '0') : Whole text

/-- A decimal point needs digits behind it. -/
inductive Fraction : List Char → Prop
  | absent : Fraction []
  | point {text : List Char} (digits : Digits text) : Fraction ('.' :: text)

/-- An exponent may have a sign. -/
inductive Exponent : List Char → Prop
  | absent : Exponent []
  | mark {c : Char} {sign text : List Char} (letter : c ∈ ['e', 'E'])
    (signed : sign ∈ [[], ['+'], ['-']]) (digits : Digits text) : Exponent (c :: (sign ++ text))

/-- A number: only a minus sign may stand in front. -/
inductive Number : List Char → Prop
  | mk {sign whole fraction exponent : List Char} (signed : sign ∈ [[], ['-']])
    (first : Whole whole) (second : Fraction fraction) (third : Exponent exponent) :
    Number (sign ++ (whole ++ (fraction ++ exponent)))

/-- What may stand between two quotes: no control character, and no quote or backslash that is not
part of an escape. -/
inductive Inside : List Char → Prop
  | nil : Inside []
  | plain {c : Char} {rest : List Char} (printed : 0x20 ≤ c.toNat) (notQuote : c ≠ '"')
    (notBackslash : c ≠ '\\') (next : Inside rest) : Inside (c :: rest)
  | escape {c : Char} {rest : List Char} (short : c ∈ ['"', '\\', '/', 'b', 'f', 'n', 'r', 't'])
    (next : Inside rest) : Inside ('\\' :: c :: rest)
  | unit {digits rest : List Char} (length : digits.length = 4)
    (hex : ∀ c ∈ digits, Address.isHexDigit c = true) (next : Inside rest) :
    Inside ('\\' :: 'u' :: (digits ++ rest))

/-- The phrases of the grammar: a value, a value with blanks around it, such values in a row, a
member of an object, and members in a row. -/
inductive Phrase where
  | value
  | element
  | elements
  | member
  | members

/-- The texts of each phrase. -/
inductive Derives : Phrase → List Char → Prop
  | null : Derives .value "null".toList
  | yes : Derives .value "true".toList
  | no : Derives .value "false".toList
  | number {text : List Char} (number : Number text) : Derives .value text
  | string {text : List Char} (inside : Inside text) : Derives .value ('"' :: (text ++ ['"']))
  | emptyList {blanks : List Char} (blank : Blanks blanks) :
    Derives .value ('[' :: (blanks ++ [']']))
  | list {text : List Char} (elements : Derives .elements text) :
    Derives .value ('[' :: (text ++ [']']))
  | emptyObject {blanks : List Char} (blank : Blanks blanks) :
    Derives .value ('{' :: (blanks ++ ['}']))
  | object {text : List Char} (members : Derives .members text) :
    Derives .value ('{' :: (text ++ ['}']))
  | padded {before value after : List Char} (front : Blanks before) (inner : Derives .value value)
    (back : Blanks after) : Derives .element (before ++ (value ++ after))
  | lastElement {text : List Char} (element : Derives .element text) : Derives .elements text
  | moreElements {text rest : List Char} (element : Derives .element text)
    (others : Derives .elements rest) : Derives .elements (text ++ ',' :: rest)
  | keyed {before key after text : List Char} (front : Blanks before) (inside : Inside key)
    (back : Blanks after) (element : Derives .element text) :
    Derives .member (before ++ '"' :: (key ++ '"' :: (after ++ ':' :: text)))
  | lastMember {text : List Char} (member : Derives .member text) : Derives .members text
  | moreMembers {text rest : List Char} (member : Derives .member text)
    (others : Derives .members rest) : Derives .members (text ++ ',' :: rest)

end JsonGrammar

/-- Whether a text is JSON: a single value, with blanks around it. -/
def IsJson (text : List Char) : Prop :=
  JsonGrammar.Derives .element text

/-! ### Numbers -/

namespace JsonGrammar

theorem digits_toDigits (n : Nat) : Digits (Nat.toDigits 10 n) :=
  ⟨Nat.toDigits_ne_nil, forall_mem_decimal_digits n⟩

theorem whole_toDigits (n : Nat) : Whole (Nat.toDigits 10 n) := by
  rcases Nat.eq_zero_or_pos n with rfl | hn
  · exact .zero
  · exact .nonzero (digits_toDigits n) (head?_toDigits_ne_zero (by decide) hn)

theorem number_intText (n : Int) : Number (Json.intText n) := by
  have hsign : Json.intText n =
      (if n < 0 then ['-'] else []) ++ (Nat.toDigits 10 n.natAbs ++ ([] ++ [])) := by
    rw [Json.intText]
    split <;> simp
  rw [hsign]
  refine .mk ?_ (whole_toDigits _) .absent .absent
  split <;> decide

end JsonGrammar

/-- Whether a double is a number. -/
def Binary64.isFinite : Binary64 → Bool
  | .finite _ _ => true
  | .infinite _ => false
  | .nan => false

namespace Decimal

open JsonGrammar (Digits Whole Fraction Exponent Number)

/-- A decimal without a zero in front, or zero itself. -/
inductive Normal : Decimal → Prop
  | zero : Normal ⟨['0'], 1⟩
  | nonzero {d : Decimal} (digits : Digits d.digits) (first : d.digits.head? ≠ some '0') : Normal d

/-- What is left of a numeral without the zeros at its end. -/
theorem normal_of_dropWhile {n : Nat} {point : Int}
    (h : ((Nat.toDigits 10 n).reverse.dropWhile (· == '0')).reverse ≠ []) :
    Normal ⟨((Nat.toDigits 10 n).reverse.dropWhile (· == '0')).reverse, point⟩ := by
  have hkept : ((Nat.toDigits 10 n).reverse.dropWhile (· == '0')).reverse <+:
      Nat.toDigits 10 n := by
    rw [← List.reverse_suffix, List.reverse_reverse]
    exact List.dropWhile_suffix _
  have hpos : 0 < n := by
    rcases Nat.eq_zero_or_pos n with rfl | hn
    · exact absurd rfl h
    · exact hn
  refine .nonzero ⟨h, fun c hc => forall_mem_decimal_digits n c (hkept.subset hc)⟩ ?_
  obtain ⟨zeros, hzeros⟩ := hkept
  rw [← List.head?_append_of_ne_nil _ h, hzeros]
  exact head?_toDigits_ne_zero (by decide) hpos

theorem normal_ofScaled (coefficient : Nat) (scale : Int) :
    (ofScaled coefficient scale).Normal := by
  unfold ofScaled
  dsimp only
  split
  · exact .zero
  · next hkept => exact normal_of_dropWhile hkept

theorem normal_shortest (units : Nat) : (shortest units).Normal := by
  unfold shortest
  split
  · exact .zero
  · generalize hfound : (List.range' 1 17).findSome? (withDigits? units) = found
    cases found with
    | none => exact .zero
    | some d =>
      obtain ⟨count, -, hd⟩ := List.exists_of_findSome?_eq_some hfound
      obtain ⟨coefficient, scale, rfl⟩ := exists_ofScaled_of_withDigits? hd
      exact normal_ofScaled coefficient scale

variable {d : Decimal}

theorem Normal.digits (h : d.Normal) : Digits d.digits := by
  cases h with
  | zero => exact ⟨by simp, by simp⟩
  | nonzero digits first => exact digits

/-- The first digits of a decimal are a whole part. -/
theorem Normal.whole_take (h : d.Normal) (count : Nat) (hcount : 0 < count) :
    Whole (d.digits.take count) := by
  obtain ⟨count, rfl⟩ := Nat.exists_eq_add_one.2 hcount
  cases h with
  | zero =>
    rw [List.take_succ_cons, List.take_nil]
    exact .zero
  | nonzero digits first =>
    refine .nonzero ⟨?_, fun c hc => digits.digit c (List.mem_of_mem_take hc)⟩ ?_
    · rw [ne_eq, List.take_eq_nil_iff]
      exact not_or.2 ⟨Nat.succ_ne_zero count, digits.ne_nil⟩
    · rw [List.head?_take, if_neg (Nat.succ_ne_zero count)]
      exact first

/-- The digits of a decimal before the point and zeros up to the point are a whole part. -/
theorem Normal.whole_append_zeros (h : d.Normal) :
    Whole (d.digits ++ List.replicate (d.point.toNat - d.digits.length) '0') := by
  cases h with
  | zero => exact .zero
  | nonzero digits first =>
    refine .nonzero ⟨by simp [digits.ne_nil], ?_⟩ ?_
    · rw [List.forall_mem_append]
      exact ⟨digits.digit, forall_mem_zeros _⟩
    · rw [List.head?_append_of_ne_nil _ digits.ne_nil]
      exact first

theorem exponent_exponentMark (exponent : Int) : Exponent (exponentMark exponent) := by
  have hsign : exponentMark exponent = 'e' :: ((if exponent < 0 then ['-'] else ['+']) ++
      (List.replicate (2 - (Nat.toDigits 10 exponent.natAbs).length) '0' ++
        Nat.toDigits 10 exponent.natAbs)) := by
    rw [exponentMark]
    split <;> rfl
  rw [hsign]
  refine .mark (by decide) (by split <;> decide) ⟨by simp [Nat.toDigits_ne_nil], ?_⟩
  rw [List.forall_mem_append]
  exact ⟨forall_mem_zeros _, forall_mem_decimal_digits _⟩

/-- A decimal is laid out as the number without a sign. -/
theorem number_layout (h : d.Normal) (style : NumberStyle) {sign : List Char}
    (hsign : sign ∈ [[], ['-']]) : Number (sign ++ d.layout style) := by
  have hmark := exponent_exponentMark (d.point - 1)
  unfold layout
  dsimp only
  split
  · split
    · -- Zeros between the point and the digits.
      have hdigits : Digits (List.replicate (-d.point).toNat '0' ++ d.digits) :=
        ⟨by simp [h.digits.ne_nil],
          List.forall_mem_append.2 ⟨forall_mem_zeros _, h.digits.digit⟩⟩
      simpa using Number.mk hsign .zero (.point hdigits) .absent
    split
    · have hwhole := h.whole_append_zeros
      split
      · have hzero : Digits ['0'] := ⟨by simp, by simp⟩
        simpa using Number.mk hsign hwhole (.point hzero) .absent
      · simpa using Number.mk hsign hwhole .absent .absent
    · next hpos hshort =>
      have hwhole := h.whole_take d.point.toNat (by omega)
      have hdigits : Digits (d.digits.drop d.point.toNat) :=
        ⟨by simpa using hshort, fun c hc => h.digits.digit c (List.mem_of_mem_drop hc)⟩
      simpa using Number.mk hsign hwhole (.point hdigits) .absent
  · have hwhole := h.whole_take 1 Nat.one_pos
    have hdigits := h.digits
    split
    · next hnone => exact absurd hnone hdigits.ne_nil
    · next digit hone =>
      rw [hone] at hwhole
      simpa using Number.mk hsign hwhole .absent hmark
    · next digit others hne hmany =>
      rw [hmany] at hwhole hdigits
      have hothers : Digits others :=
        ⟨hne, fun c hc => hdigits.digit c (by simp [hc])⟩
      simpa using Number.mk hsign hwhole (.point hothers) hmark

end Decimal

/-- A finite double is written as a number. -/
theorem Json.number_realText (negative : Bool) (units : Nat) :
    JsonGrammar.Number (realText (.finite negative units)) :=
  Decimal.number_layout (Decimal.normal_shortest units) Binary64.exactStyle
    (by cases negative <;> decide)

/-! ### Texts -/

namespace Json

open JsonGrammar (Inside Blanks Derives)

/-- The escape of a 16-bit unit stands for one character between quotes. -/
theorem inside_escapeUnit {n : Nat} (h : n < 0x10000) {rest : List Char} (hrest : Inside rest) :
    Inside (escapeUnit n ++ rest) := by
  have hpadded : Hexadecimal.padded 4 n = Hexadecimal.digits 4 n := Hexadecimal.padded_natCast h
  rw [escapeUnit, hpadded]
  exact .unit (Hexadecimal.length_digits 4 n) (Hexadecimal.forall_mem_digits (by decide) 4 n) hrest

theorem inside_escapeCode {n : Nat} (h : n < 0x110000) {rest : List Char} (hrest : Inside rest) :
    Inside (escapeCode n ++ rest) := by
  rw [escapeCode]
  split
  · next hunit => exact inside_escapeUnit hunit hrest
  · rw [List.append_assoc]
    exact inside_escapeUnit (by omega) (inside_escapeUnit (by omega) hrest)

theorem inside_escapeChar (c : Char) {rest : List Char} (hrest : Inside rest) :
    Inside (escapeChar c ++ rest) := by
  rcases escapeChar_cases c with ⟨e, he, heq⟩ | ⟨hlow, -, hquote, hbackslash, heq⟩ | heq
  · have hknown : ∀ pair ∈ shortEscapes, pair.2 ∈ ['"', '\\', '/', 'b', 'f', 'n', 'r', 't'] := by
      decide
    rw [heq]
    exact .escape (hknown _ he) hrest
  · rw [heq]
    exact .plain hlow hquote hbackslash hrest
  · rw [heq]
    exact inside_escapeCode (Text.toNat_of_char c).2 hrest

theorem inside_flatMap_escapeChar (text : List Char) : Inside (text.flatMap escapeChar) := by
  induction text with
  | nil => exact .nil
  | cons c text ih =>
    rw [List.flatMap_cons]
    exact inside_escapeChar c ih

/-! ### Values -/

theorem blanks_newLine (depth : Nat) : Blanks (newLine depth) := by
  rw [Blanks, newLine, List.forall_mem_cons]
  refine ⟨by decide, fun c hc => ?_⟩
  rw [List.eq_of_mem_replicate hc]
  decide

mutual

/-- The doubles in a value. -/
def reals : Json → List Binary64
  | .null => []
  | .int _ => []
  | .real x => [x]
  | .text _ => []
  | .list items => realsOfItems items
  | .object members => realsOfMembers members

/-- The doubles in the items of a list. -/
def realsOfItems : List Json → List Binary64
  | [] => []
  | item :: rest => item.reals ++ realsOfItems rest

/-- The doubles in the members of an object. -/
def realsOfMembers : List (String × Json) → List Binary64
  | [] => []
  | (_, value) :: rest => value.reals ++ realsOfMembers rest

end

mutual

/-- A value whose doubles are finite is written as a value of the grammar. -/
theorem derives_write (depth : Nat) (j : Json) (h : ∀ x ∈ j.reals, x.isFinite = true) :
    Derives .value (j.write depth) := by
  match j with
  | .null => exact .null
  | .int n => exact .number (JsonGrammar.number_intText n)
  | .real (.finite negative units) => exact .number (number_realText negative units)
  -- The two doubles that have no text in the grammar are excluded.
  | .real (.infinite _) => simp [reals, Binary64.isFinite] at h
  | .real .nan => simp [reals, Binary64.isFinite] at h
  | .text s => exact .string (inside_flatMap_escapeChar s.toList)
  | .list [] =>
    show Derives .value ('[' :: ([] ++ [']']))
    exact .emptyList (by simp [Blanks])
  | .list (item :: rest) =>
    rw [reals, realsOfItems, List.forall_mem_append] at h
    rw [write]
    exact .list (derives_writeItems (depth + 1) depth
      (derives_write (depth + 1) item h.1) rest h.2)
  | .object [] =>
    show Derives .value ('{' :: ([] ++ ['}']))
    exact .emptyObject (by simp [Blanks])
  | .object ((key, value) :: rest) =>
    rw [reals, realsOfMembers, List.forall_mem_append] at h
    have hmembers := derives_writeMembers (depth + 1) depth key
      (derives_write (depth + 1) value h.1) rest h.2
    simpa [write] using Derives.object hmembers

/-- A first item and further ones are written as values in a row. -/
theorem derives_writeItems (depth back : Nat) {first : List Char} (hfirst : Derives .value first)
    (items : List Json) (h : ∀ x ∈ realsOfItems items, x.isFinite = true) :
    Derives .elements (newLine depth ++ first ++ writeItems depth items ++ newLine back) := by
  match items with
  | [] =>
    have hlast := Derives.padded (blanks_newLine depth) hfirst (blanks_newLine back)
    simpa [writeItems] using Derives.lastElement hlast
  | item :: rest =>
    rw [realsOfItems, List.forall_mem_append] at h
    have hothers := derives_writeItems depth back (derives_write depth item h.1) rest h.2
    -- The blanks before the comma are none: the new line belongs to the item behind it.
    have helement : Derives .element (newLine depth ++ (first ++ [])) :=
      .padded (blanks_newLine depth) hfirst (by simp [Blanks])
    simpa [writeItems] using Derives.moreElements helement hothers

/-- A first member and further ones are written as members in a row. -/
theorem derives_writeMembers (depth back : Nat) (key : String) {first : List Char}
    (hfirst : Derives .value first) (members : List (String × Json))
    (h : ∀ x ∈ realsOfMembers members, x.isFinite = true) :
    Derives .members (newLine depth ++ quoted key ++ ':' :: ' ' :: first ++
      writeMembers depth members ++ newLine back) := by
  have hkeyed (after : List Char) (hafter : Blanks after) : Derives .member
      (newLine depth ++ '"' :: (key.toList.flatMap escapeChar ++ '"' :: ([] ++ ':' ::
        ([' '] ++ (first ++ after))))) :=
    .keyed (blanks_newLine depth) (inside_flatMap_escapeChar key.toList) (by simp [Blanks])
      (.padded (by simp [Blanks]) hfirst hafter)
  match members with
  | [] => simpa [writeMembers, quoted] using Derives.lastMember (hkeyed _ (blanks_newLine back))
  | (nextKey, value) :: rest =>
    rw [realsOfMembers, List.forall_mem_append] at h
    have hothers := derives_writeMembers depth back nextKey (derives_write depth value h.1) rest h.2
    simpa [writeMembers, quoted] using
      Derives.moreMembers (hkeyed [] (by simp [Blanks])) hothers

end

end Json

end PciCatalog
