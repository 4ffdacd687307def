import PciCatalog.Text.CharClass
import PciCatalog.Text.LowercaseTable

/-!
# Lower case

The full Unicode lower-case mapping of a text: the simple mapping of each character, the two
characters that `İ` becomes, and the final form of a sigma that ends a word.
-/

namespace PciCatalog
namespace Text

/-- Whether a character is cased and not case-ignorable. -/
def isCased (c : Char) : Bool :=
  inRanges c.toNat casedRanges

/-- Whether a character is skipped when the neighbours of a sigma are looked at. -/
def isCaseIgnorable (c : Char) : Bool :=
  inRanges c.toNat caseIgnorableRanges

/-- Whether a row of the mapping covers a code point. -/
def rowCovers (n : Nat) (row : Nat × Nat × Nat × Int) : Bool :=
  row.1 ≤ n && n ≤ row.2.1 && (n - row.1) % row.2.2.1 == 0

/-- The simple lower-case mapping of one character. -/
def lowerChar (c : Char) : Char :=
  if c.toNat < 0x80 then
    if 'A' ≤ c && c ≤ 'Z' then Char.ofNat (c.toNat + 32) else c
  else
    match lowercaseRows.find? (rowCovers c.toNat) with
    | some row => Char.ofNat ((c.toNat : Int) + row.2.2.2).toNat
    | none => c

/-- Whether the first character that is not case-ignorable is cased. -/
def opensCased : List Char → Bool
  | [] => false
  | c :: rest => if isCaseIgnorable c then opensCased rest else isCased c

/-- The lower-case form of the rest of a text, when `afterCased` tells whether the last character
before it that is not case-ignorable is cased. -/
def lowerFrom (afterCased : Bool) : List Char → List Char
  | [] => []
  | c :: rest =>
    let next := if isCaseIgnorable c then afterCased else isCased c
    if c = 'Σ' then
      (if afterCased && !opensCased rest then 'ς' else 'σ') :: lowerFrom next rest
    else if c = 'İ' then
      'i' :: '\u0307' :: lowerFrom next rest
    else
      lowerChar c :: lowerFrom next rest

/-- The lower-case form of a text. -/
def lower (text : List Char) : List Char :=
  lowerFrom false text

@[simp] theorem lower_nil : lower [] = [] := rfl

/-- On ASCII the simple mapping is the one of the core library. -/
theorem lowerChar_eq_toLower {c : Char} (h : c.toNat < 0x80) : lowerChar c = c.toLower := by
  have hle : ∀ n : Fin 0x80, lowerChar (Char.ofNat n) = (Char.ofNat n).toLower := by decide
  simpa using hle ⟨c.toNat, h⟩

end Text
end PciCatalog
