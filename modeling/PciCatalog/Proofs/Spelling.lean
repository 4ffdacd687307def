import PciCatalog.Entry
import PciCatalog.Text.Lowercase
import PciCatalog.Proofs.Splitting

/-!
# Spellings of a code

A code of hexadecimal digits may be written in any letter case and with a mark `0x` or `0X` before
it.  All its spellings have one normal form, the digits in lower case.
-/

namespace PciCatalog

/-- The hexadecimal digits of both letter cases. -/
def hexDigits : List Char :=
  ['0', '1', '2', '3', '4', '5', '6', '7', '8', '9', 'a', 'b', 'c', 'd', 'e', 'f',
    'A', 'B', 'C', 'D', 'E', 'F']

/-- A text of `width` hexadecimal digits. -/
structure Code (width : Nat) where
  digits : List Char
  length_eq : digits.length = width
  hex : ∀ c ∈ digits, c ∈ hexDigits
  deriving DecidableEq

namespace Code

variable {width : Nat}

/-- The digits of a code in lower case; codes with one key are the same but for letter case. -/
def lowerDigits (code : Code width) : List Char :=
  code.digits.map Char.toLower

/-- The key that stands for a code in the tables. -/
def key (code : Code width) : String :=
  String.ofList code.lowerDigits

/-- Two codes in a row as one code. -/
def append {other : Nat} (front : Code width) (back : Code other) : Code (width + other) where
  digits := front.digits ++ back.digits
  length_eq := by rw [List.length_append, front.length_eq, back.length_eq]
  hex c hc := (List.mem_append.1 hc).elim (front.hex c) (back.hex c)

/-- The marks that may stand before the digits of a code. -/
def marks : List (List Char) := [[], ['0', 'x'], ['0', 'X']]

/-- A text spells a code when it consists of a mark and of the digits in any letter case. -/
def Spells (code : Code width) (text : List Char) : Prop :=
  ∃ mark ∈ marks, ∃ cased : Code width, cased.key = code.key ∧ text = mark ++ cased.digits

/-- A question asks for a code with any of its spellings, between blanks if need be. -/
def AskedBy (code : Code width) (question : String) : Prop :=
  ∃ front spelling back, (∀ c ∈ front ++ back, Text.isBlank c = true) ∧ code.Spells spelling ∧
    question.toList = front ++ spelling ++ back

theorem toList_key (code : Code width) : code.key.toList = code.lowerDigits :=
  String.toList_ofList

theorem length_key (code : Code width) : code.key.toList.length = width := by
  rw [toList_key, lowerDigits, List.length_map, code.length_eq]

theorem key_append {other : Nat} (front : Code width) (back : Code other) :
    (front.append back).key = front.key ++ back.key := by
  apply String.toList_inj.1
  rw [String.toList_append, toList_key, toList_key, toList_key]
  exact List.map_append

theorem key_ne_empty {n : Nat} (code : Code (n + 1)) : code.key ≠ "" := by
  intro h
  have hlength := code.length_key
  rw [h] at hlength
  exact Nat.zero_ne_add_one n hlength

/-- A code spells itself. -/
theorem spells_self (code : Code width) : code.Spells code.digits :=
  ⟨[], List.mem_cons_self, code, rfl, rfl⟩

/-- The characters that spellings are made of. -/
def spellingChars : List Char := 'x' :: 'X' :: hexDigits

/-- A mark and hexadecimal digits are made of these characters. -/
theorem mem_spellingChars_of_mark {mark digits : List Char} (hmark : mark ∈ marks)
    (hex : ∀ c ∈ digits, c ∈ hexDigits) : ∀ c ∈ mark ++ digits, c ∈ spellingChars := by
  have hmarks : ∀ mark ∈ marks, mark ⊆ spellingChars := by decide
  intro c hc
  rcases List.mem_append.1 hc with hc | hc
  · exact hmarks mark hmark hc
  · exact List.mem_cons_of_mem _ (List.mem_cons_of_mem _ (hex c hc))

theorem mem_spellingChars_of_spells {code : Code width} {text : List Char}
    (h : code.Spells text) : ∀ c ∈ text, c ∈ spellingChars := by
  obtain ⟨mark, hmark, cased, -, rfl⟩ := h
  exact mem_spellingChars_of_mark hmark cased.hex

theorem length_le_of_spells {code : Code width} {text : List Char} (h : code.Spells text) :
    width ≤ text.length := by
  obtain ⟨mark, -, cased, -, rfl⟩ := h
  rw [List.length_append, cased.length_eq]
  exact Nat.le_add_left width mark.length

/-- A spelling is a word. -/
theorem isWord_of_spells {n : Nat} {code : Code (n + 1)} {text : List Char}
    (h : code.Spells text) : Text.IsWord text := by
  have hblank : ∀ c ∈ spellingChars, Text.isBlank c = false := Text.forall_mem_of_all (by decide)
  constructor
  · rintro rfl
    exact Nat.not_succ_le_zero n (length_le_of_spells h)
  · intro c hc
    exact hblank c (mem_spellingChars_of_spells h c hc)

end Code

namespace Text

/-- On a text of ASCII the lower-case mapping goes character by character. -/
theorem lowerFrom_of_ascii {text : List Char} (h : ∀ c ∈ text, c.toNat < 0x80) (cased : Bool) :
    lowerFrom cased text = text.map Char.toLower := by
  induction text generalizing cased with
  | nil => rfl
  | cons c rest ih =>
    have hc := h c List.mem_cons_self
    have hsigma : c ≠ 'Σ' := by
      rintro rfl
      exact absurd hc (by decide)
    have hdot : c ≠ 'İ' := by
      rintro rfl
      exact absurd hc (by decide)
    rw [lowerFrom, if_neg hsigma, if_neg hdot, lowerChar_eq_toLower hc, List.map_cons,
      ih fun d hd => h d (List.mem_cons_of_mem c hd)]

theorem lower_of_ascii {text : List Char} (h : ∀ c ∈ text, c.toNat < 0x80) :
    lower text = text.map Char.toLower :=
  lowerFrom_of_ascii h false

end Text

namespace Code

variable {width : Nat}

/-- The digits of a code hold no mark. -/
theorem dropMark_lowerDigits (code : Code width) :
    Ident.dropMark code.lowerDigits = code.lowerDigits := by
  apply Ident.dropMark.eq_2
  intro rest hmark
  have hmem : 'x' ∈ code.lowerDigits := by
    rw [hmark]
    simp
  obtain ⟨c, hc, hlower⟩ := List.mem_map.1 hmem
  have hall : ∀ c ∈ hexDigits, c.toLower ≠ 'x' := Text.forall_mem_of_all (by decide)
  exact hall c (code.hex c hc) hlower

/-- The normal form of a spelling is the key of the code. -/
theorem normalForm_of_spells {code : Code width} {text : List Char} (h : code.Spells text) :
    Ident.dropMark (Text.lower text) = code.lowerDigits := by
  have hascii : ∀ c ∈ spellingChars, c.toNat < 0x80 := Text.forall_mem_of_all (by decide)
  rw [Text.lower_of_ascii fun c hc => hascii c (mem_spellingChars_of_spells h c hc)]
  obtain ⟨mark, hmark, cased, hkey, rfl⟩ := h
  have hdigits : cased.lowerDigits = code.lowerDigits := by
    rw [← toList_key, hkey, toList_key]
  rw [List.map_append, ← hdigits]
  simp only [marks, List.mem_cons, List.not_mem_nil, or_false] at hmark
  -- Both marks are the same in lower case.
  rcases hmark with rfl | rfl | rfl
  · exact cased.dropMark_lowerDigits
  · rfl
  · rfl

/-- Whatever question asks for a code is normalized to the key of the code. -/
theorem normalize_of_askedBy {n : Nat} {code : Code (n + 1)} {question : String}
    (h : code.AskedBy question) : Ident.normalize question = code.key := by
  obtain ⟨front, spelling, back, hblank, hspells, hquestion⟩ := h
  have htrim : Text.trim question.toList = spelling := by
    rw [hquestion]
    exact Text.trim_pad (fun c hc => hblank c (List.mem_append_left _ hc))
      (isWord_of_spells hspells).trimmed (fun c hc => hblank c (List.mem_append_right _ hc))
  rw [Ident.normalize, Ident.normalForm, htrim, normalForm_of_spells hspells, key]

theorem normalize_of_spells {n : Nat} {code : Code (n + 1)} {text : List Char}
    (h : code.Spells text) : Ident.normalize (String.ofList text) = code.key :=
  normalize_of_askedBy ⟨[], text, [], by simp, h, by simp⟩

end Code
end PciCatalog
