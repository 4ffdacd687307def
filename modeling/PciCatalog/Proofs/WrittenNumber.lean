import PciCatalog.Proofs.NumberReading
import PciCatalog.Proofs.WrittenLine

/-!
# Written numbers

A number is written in hexadecimal with digits of either letter case, behind any count of zeros,
with or without a mark, and with white space around it.  However it is written, it is read as the
number.  Main statement: `hexadecimal?_text`.
-/

namespace PciCatalog

namespace Text

/-- A character of white space: a blank other than the four information separators. -/
def isWhiteSpace (c : Char) : Bool :=
  isBlank c && !(0x1C ≤ c.toNat && c.toNat ≤ 0x1F)

end Text

namespace Numeral

/-- A way to write a number: the white space around it, the mark and the digits. -/
structure Spelling (n : Nat) where
  front : List Char
  mark : List Char
  zeros : Nat
  digits : List Char
  back : List Char
  space : ∀ c ∈ front ++ back, Text.isWhiteSpace c = true
  mark_mem : mark ∈ Code.marks
  hex : ∀ c ∈ digits, c ∈ hexDigits
  lower : digits.map Char.toLower = List.replicate zeros '0' ++ Nat.toDigits 16 n

/-- The text of a written number. -/
def Spelling.text {n : Nat} (s : Spelling n) : String :=
  String.ofList (s.front ++ (s.mark ++ s.digits) ++ s.back)

/-! ### White space around a numeral -/

theorem isMargin_plainChar {c : Char} (h : Text.isWhiteSpace c = true) :
    isMargin (plainChar c) = true := by
  rw [Text.isWhiteSpace, Bool.and_eq_true] at h
  obtain ⟨hblank, hseparator⟩ := h
  unfold plainChar
  split
  · next hascii =>
    simp only [Text.isBlank, isMargin, Bool.or_eq_true, Bool.and_eq_true, Bool.not_eq_true',
      Bool.and_eq_false_iff, decide_eq_true_eq, decide_eq_false_iff_not, beq_iff_eq,
      ← Char.toNat_inj] at hblank hseparator ⊢
    have hspace : ' '.toNat = 0x20 := rfl
    omega
  · decide

/-- The white space around a numeral of ASCII is cut off. -/
theorem core_pad {front text back : List Char}
    (hspace : ∀ c ∈ front ++ back, Text.isWhiteSpace c = true)
    (htext : ∀ c ∈ text, plainChar c = c ∧ isMargin c = false) :
    core (front ++ text ++ back) = text := by
  rw [List.forall_mem_append] at hspace
  have hmargin : ∀ space : List Char, (∀ c ∈ space, Text.isWhiteSpace c = true) →
      ∀ c ∈ space.map plainChar, isMargin c = true := by
    intro space hspace c hc
    obtain ⟨d, hd, rfl⟩ := List.mem_map.1 hc
    exact isMargin_plainChar (hspace d hd)
  have hplain : text.map plainChar = text := by
    rw [List.map_congr_left fun c hc => (htext c hc).1, List.map_id']
  rw [core, List.map_append, List.map_append, hplain]
  exact Text.dropTail_dropWhile_pad (hmargin front hspace.1)
    (fun c hc => (htext c (List.mem_of_mem_head? hc)).2)
    (fun c hc => (htext c (List.mem_of_mem_getLast? hc)).2) (hmargin back hspace.2)

/-! ### The mark and the digits -/

/-- The mark in front of hexadecimal digits is cut off. -/
theorem dropHexMark_append {mark digits : List Char} (hmark : mark ∈ Code.marks)
    (hex : ∀ c ∈ digits, c ∈ hexDigits) : dropHexMark (mark ++ digits) = digits := by
  have hdigit : ∀ c ∈ hexDigits, c ≠ '_' ∧ c ≠ 'x' ∧ c ≠ 'X' := Text.forall_mem_of_all (by decide)
  -- Digits hold neither the letter of a mark nor the underscore that may follow it.
  have hunmarked : dropHexMark digits = digits := by
    unfold dropHexMark
    split
    · exact absurd rfl (hdigit '_' (hex '_' (by simp))).1
    · next x rest _ =>
      have hx := hdigit x (hex x (by simp))
      rw [if_neg (by simp [hx])]
    · rfl
  have hmarked : ∀ x, x = 'x' ∨ x = 'X' → dropHexMark ('0' :: x :: digits) = digits := by
    intro x hx
    unfold dropHexMark
    split
    · next heq =>
      obtain ⟨rfl, rfl⟩ : _ ∧ _ := by simpa using heq
      exact absurd rfl (hdigit '_' (hex '_' (by simp))).1
    · next heq =>
      obtain ⟨rfl, rfl⟩ : _ ∧ _ := by simpa using heq
      rw [if_pos (by simpa using hx)]
    · next hother => exact absurd rfl (hother x digits)
  simp only [Code.marks, List.mem_cons, List.not_mem_nil, or_false] at hmark
  rcases hmark with rfl | rfl | rfl
  · exact hunmarked
  · exact hmarked 'x' (.inl rfl)
  · exact hmarked 'X' (.inr rfl)

/-- The letter case of hexadecimal digits does not matter. -/
theorem continueNatural?_map_toLower {digits : List Char} (hex : ∀ c ∈ digits, c ∈ hexDigits)
    (value : Nat) : continueNatural? 16 value (digits.map Char.toLower) =
      continueNatural? 16 value digits := by
  have hdigit : ∀ c ∈ hexDigits, c ≠ '_' ∧ c.toLower ≠ '_' ∧
      digitValue? 16 c.toLower = digitValue? 16 c := Text.forall_mem_of_all (by decide)
  induction digits generalizing value with
  | nil => rfl
  | cons c rest ih =>
    rw [List.forall_mem_cons] at hex
    obtain ⟨hc, hlower, hvalue⟩ := hdigit c hex.1
    rw [List.map_cons, continueNatural?_cons hlower, continueNatural?_cons hc, hvalue]
    exact Option.bind_congr fun d _ => ih hex.2 (value * 16 + d)

namespace Spelling

variable {n : Nat} (s : Spelling n)

theorem digits_ne_nil : s.digits ≠ [] := by
  intro hnil
  have hlower := s.lower
  rw [hnil] at hlower
  simpa [Nat.toDigits_ne_nil] using hlower.symm

theorem natural?_digits : natural? 16 s.digits = some n := by
  have hdigit : ∀ c ∈ hexDigits, c ≠ '_' := Text.forall_mem_of_all (by decide)
  rw [natural?_eq_continueNatural? s.digits_ne_nil fun c hc => hdigit c (s.hex c hc),
    ← continueNatural?_map_toLower s.hex, s.lower, Hexadecimal.continueNatural?_zeros,
    Hexadecimal.continueNatural?_toDigits]

/-- However a number is written, it is read as the number. -/
theorem hexadecimal?_text : hexadecimal? s.text.toList = some (n : Int) := by
  have hchar : ∀ c ∈ Code.spellingChars,
      (plainChar c = c ∧ isMargin c = false) ∧ c ≠ '-' ∧ c ≠ '+' :=
    Text.forall_mem_of_all (by decide)
  have hmem := Code.mem_spellingChars_of_mark s.mark_mem s.hex
  have hcore : core s.text.toList = s.mark ++ s.digits := by
    rw [text, String.toList_ofList]
    exact core_pad s.space fun c hc => (hchar c (hmem c hc)).1
  have hsign : cutSign (s.mark ++ s.digits) = (false, s.mark ++ s.digits) :=
    cutSign_of_unsigned fun c hc => (hchar c (hmem c hc)).2
  rw [hexadecimal?, hcore, hsign]
  dsimp only
  rw [dropHexMark_append s.mark_mem s.hex, s.natural?_digits]
  rfl

end Spelling
end Numeral
end PciCatalog
