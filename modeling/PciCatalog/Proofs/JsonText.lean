import PciCatalog.Json
import PciCatalog.Proofs.NumberText
import PciCatalog.Text.ControlSequence

/-!
# The characters of JSON

A report for other programs consists of line feeds and the printable characters of ASCII, whatever
texts and numbers it holds.  So no control sequence is lost from it when it is printed.
-/

namespace PciCatalog

/-- A line feed or a printable character of ASCII. -/
def IsPrinted (c : Char) : Prop :=
  c = '\n' ∨ (' ' ≤ c ∧ c ≤ '~')

instance : DecidablePred IsPrinted := fun c =>
  inferInstanceAs (Decidable (c = '\n' ∨ (' ' ≤ c ∧ c ≤ '~')))

/-! ### Numbers -/

/-- A digit, a point, a sign or an exponent mark. -/
def IsNumeric (c : Char) : Prop :=
  c.isDigit = true ∨ c ∈ ['.', 'e', '+', '-']

instance : DecidablePred IsNumeric := fun c =>
  inferInstanceAs (Decidable (c.isDigit = true ∨ c ∈ ['.', 'e', '+', '-']))

theorem IsNumeric.isPrinted {c : Char} (h : IsNumeric c) : IsPrinted c := by
  rcases h with h | h
  · rw [Char.isDigit, Bool.and_eq_true, decide_eq_true_eq, decide_eq_true_eq] at h
    exact .inr ⟨Char.le_trans (by decide) h.1, Char.le_trans h.2 (by decide)⟩
  · have hall : ∀ c ∈ ['.', 'e', '+', '-'], IsPrinted c := Text.forall_mem_of_all (by decide)
    exact hall c h

theorem forall_mem_decimal_digits (n : Nat) : ∀ c ∈ Nat.toDigits 10 n, c.isDigit = true :=
  fun _ hc => Nat.isDigit_of_mem_toDigits (by decide) (by decide) hc

theorem forall_mem_zeros (count : Nat) : ∀ c ∈ List.replicate count '0', c.isDigit = true := by
  intro c hc
  rw [List.eq_of_mem_replicate hc]
  rfl

namespace Decimal

/-- The digits of a decimal that is made from a coefficient are digits. -/
theorem digits_ofScaled (coefficient : Nat) (scale : Int) :
    ∀ c ∈ (ofScaled coefficient scale).digits, c.isDigit = true := by
  unfold ofScaled
  dsimp only
  split
  · simp
  · next kept _ =>
    intro c hc
    apply forall_mem_decimal_digits coefficient
    rw [List.mem_reverse] at hc
    exact List.mem_reverse.1 ((List.dropWhile_sublist _).subset hc)

theorem exists_ofScaled_of_withDigits? {units count : Nat} {d : Decimal}
    (h : withDigits? units count = some d) :
    ∃ coefficient scale, d = ofScaled coefficient scale := by
  unfold withDigits? at h
  dsimp only at h
  -- The numbers are named first: their definitions would be computed otherwise.
  generalize (count : Int) - pointOf units = scale at h
  generalize scaled units scale = fraction at h
  generalize readsAs units (fraction.1 / fraction.2) scale = below at h
  generalize readsAs units (fraction.1 / fraction.2 + 1) scale = above at h
  cases below <;> cases above
  · contradiction
  · exact ⟨_, _, (Option.some.inj h).symm⟩
  · exact ⟨_, _, (Option.some.inj h).symm⟩
  · exact ⟨_, _, (Option.some.inj h).symm⟩

theorem digits_shortest (units : Nat) : ∀ c ∈ (shortest units).digits, c.isDigit = true := by
  have hzero : ∀ c ∈ (⟨['0'], 1⟩ : Decimal).digits, c.isDigit = true := by simp
  unfold shortest
  split
  · exact hzero
  · generalize hfound : (List.range' 1 17).findSome? (withDigits? units) = found
    cases found with
    | none => exact hzero
    | some d =>
      obtain ⟨count, -, hd⟩ := List.exists_of_findSome?_eq_some hfound
      obtain ⟨coefficient, scale, rfl⟩ := exists_ofScaled_of_withDigits? hd
      exact digits_ofScaled coefficient scale

theorem forall_mem_exponentMark (exponent : Int) : ∀ c ∈ exponentMark exponent, IsNumeric c := by
  have hdigits : ∀ c ∈ List.replicate (2 - (Nat.toDigits 10 exponent.natAbs).length) '0' ++
      Nat.toDigits 10 exponent.natAbs, IsNumeric c := by
    rw [List.forall_mem_append]
    exact ⟨fun c hc => .inl (forall_mem_zeros _ c hc),
      fun c hc => .inl (forall_mem_decimal_digits _ c hc)⟩
  rw [exponentMark, List.forall_mem_cons, List.forall_mem_cons]
  refine ⟨by decide, ?_, hdigits⟩
  split
  · decide
  · decide

/-- A decimal is laid out in digits, points, signs and exponent marks. -/
theorem forall_mem_layout {d : Decimal} (h : ∀ c ∈ d.digits, c.isDigit = true)
    (style : NumberStyle) : ∀ c ∈ d.layout style, IsNumeric c := by
  have hdigits : ∀ c ∈ d.digits, IsNumeric c := fun c hc => .inl (h c hc)
  have hzeros : ∀ count, ∀ c ∈ List.replicate count '0', IsNumeric c :=
    fun count c hc => .inl (forall_mem_zeros count c hc)
  have hmark := forall_mem_exponentMark (d.point - 1)
  unfold layout
  dsimp only
  -- First without an exponent: the point before, behind or among the digits; then with one.
  split
  · split
    · simp only [List.forall_mem_cons, List.forall_mem_append]
      exact ⟨by decide, by decide, hzeros _, hdigits⟩
    split
    · simp only [List.forall_mem_append]
      refine ⟨⟨hdigits, hzeros _⟩, ?_⟩
      split
      · exact Text.forall_mem_of_all (by decide)
      · simp
    · simp only [List.forall_mem_cons, List.forall_mem_append]
      exact ⟨fun c hc => hdigits c (List.mem_of_mem_take hc), by decide,
        fun c hc => hdigits c (List.mem_of_mem_drop hc)⟩
  · split
    · exact hmark
    · next digit hone =>
      rw [hone] at hdigits
      rw [List.forall_mem_cons]
      exact ⟨hdigits digit (by simp), hmark⟩
    · next digit others hmany =>
      rw [hmany, List.forall_mem_cons] at hdigits
      simp only [List.forall_mem_cons, List.forall_mem_append]
      exact ⟨hdigits.1, by decide, hdigits.2, hmark⟩

end Decimal

namespace Json

/-- An integer is written in digits, behind a minus sign if it is negative. -/
theorem forall_mem_intText (n : Int) : ∀ c ∈ intText n, c.isDigit = true ∨ c = '-' := by
  have hdigits : ∀ c ∈ Nat.toDigits 10 n.natAbs, c.isDigit = true ∨ c = '-' :=
    fun c hc => .inl (forall_mem_decimal_digits _ c hc)
  rw [intText]
  split
  · rw [List.forall_mem_cons]
    exact ⟨by decide, hdigits⟩
  · exact hdigits

theorem forall_mem_finite (negative : Bool) (units : Nat) :
    ∀ c ∈ realText (.finite negative units), IsNumeric c := by
  show ∀ c ∈ (if negative then ['-'] else []) ++
    (Decimal.shortest units).layout Binary64.exactStyle, IsNumeric c
  rw [List.forall_mem_append]
  refine ⟨?_, Decimal.forall_mem_layout (Decimal.digits_shortest units) _⟩
  cases negative <;> exact Text.forall_mem_of_all (by decide)

/-- A double is written in the characters of numbers, or as one of the words for it. -/
theorem forall_mem_realText (x : Binary64) :
    ∀ c ∈ realText x, IsNumeric c ∨ c ∈ "InfinityNaN".toList := by
  cases x with
  | finite negative units => exact fun c hc => .inl (forall_mem_finite negative units c hc)
  | infinite negative => cases negative <;> exact Text.forall_mem_of_all (by decide)
  | nan => exact Text.forall_mem_of_all (by decide)

/-! ### Texts -/

theorem forall_mem_escapeUnit (n : Nat) : ∀ c ∈ escapeUnit n, IsPrinted c := by
  rw [escapeUnit, List.forall_mem_cons, List.forall_mem_cons]
  exact ⟨by decide, by decide,
    Hexadecimal.forall_mem_padded (by decide) (by decide) 4 n⟩

/-- The characters with an escape of two characters, and the second of them. -/
def shortEscapes : List (Char × Char) :=
  [('"', '"'), ('\\', '\\'), ('\n', 'n'), ('\r', 'r'), ('\t', 't'), ('\x08', 'b'), ('\x0c', 'f')]

/-- A character between quotes stands for itself, or behind a backslash for another one, or as the
escape of its code point. -/
theorem escapeChar_cases (c : Char) :
    (∃ e, (c, e) ∈ shortEscapes ∧ escapeChar c = ['\\', e]) ∨
      (' ' ≤ c ∧ c ≤ '~' ∧ c ≠ '"' ∧ c ≠ '\\' ∧ escapeChar c = [c]) ∨
      escapeChar c = escapeCode c.toNat := by
  by_cases hmarked : c = '"' ∨ c = '\\'
  · rcases hmarked with rfl | rfl
    · exact .inl ⟨'"', by decide, rfl⟩
    · exact .inl ⟨'\\', by decide, rfl⟩
  rw [escapeChar, if_neg (by simpa using hmarked)]
  split
  · next heq => exact .inl ⟨'n', heq ▸ by decide, rfl⟩
  split
  · next heq => exact .inl ⟨'r', heq ▸ by decide, rfl⟩
  split
  · next heq => exact .inl ⟨'t', heq ▸ by decide, rfl⟩
  split
  · next heq => exact .inl ⟨'b', heq ▸ by decide, rfl⟩
  split
  · next heq => exact .inl ⟨'f', heq ▸ by decide, rfl⟩
  split
  · next hprinted =>
    simp only [Bool.and_eq_true, decide_eq_true_eq] at hprinted
    rw [not_or] at hmarked
    exact .inr (.inl ⟨hprinted.1, hprinted.2, hmarked.1, hmarked.2, rfl⟩)
  · exact .inr (.inr rfl)

theorem forall_mem_escapeChar (c : Char) : ∀ d ∈ escapeChar c, IsPrinted d := by
  rcases escapeChar_cases c with ⟨e, he, heq⟩ | ⟨hlow, hhigh, -, -, heq⟩ | heq
  · have hall : ∀ pair ∈ shortEscapes, IsPrinted pair.2 := by decide
    rw [heq, List.forall_mem_cons, List.forall_mem_singleton]
    exact ⟨by decide, hall _ he⟩
  · rw [heq, List.forall_mem_singleton]
    exact .inr ⟨hlow, hhigh⟩
  · rw [heq, escapeCode]
    split
    · exact forall_mem_escapeUnit _
    · rw [List.forall_mem_append]
      exact ⟨forall_mem_escapeUnit _, forall_mem_escapeUnit _⟩

theorem forall_mem_quoted (s : String) : ∀ c ∈ quoted s, IsPrinted c := by
  rw [quoted, List.forall_mem_cons, List.forall_mem_append]
  refine ⟨by decide, ?_, Text.forall_mem_of_all (by decide)⟩
  intro d hd
  obtain ⟨c, -, hd⟩ := List.mem_flatMap.1 hd
  exact forall_mem_escapeChar c d hd

/-! ### Values -/

theorem forall_mem_newLine (depth : Nat) : ∀ c ∈ newLine depth, IsPrinted c := by
  rw [newLine, List.forall_mem_cons]
  refine ⟨by decide, ?_⟩
  intro c hc
  rw [List.eq_of_mem_replicate hc]
  decide

mutual

theorem forall_mem_write (depth : Nat) (j : Json) : ∀ c ∈ j.write depth, IsPrinted c := by
  -- The recursion is that of the writer.
  match j with
  | .null =>
    rw [write]
    exact Text.forall_mem_of_all (by decide)
  | .int n =>
    have hnumeric : ∀ c ∈ intText n, IsNumeric c := fun c hc =>
      (forall_mem_intText n c hc).imp_right (by rintro rfl; decide)
    exact fun c hc => (hnumeric c hc).isPrinted
  | .real x =>
    have hword : ∀ c ∈ "InfinityNaN".toList, IsPrinted c := Text.forall_mem_of_all (by decide)
    exact fun c hc => (forall_mem_realText x c hc).elim IsNumeric.isPrinted (hword c)
  | .text s => exact forall_mem_quoted s
  | .list [] =>
    rw [write]
    exact Text.forall_mem_of_all (by decide)
  | .list (item :: rest) =>
    simp only [write, List.forall_mem_cons, List.forall_mem_append]
    exact ⟨by decide, ⟨⟨⟨forall_mem_newLine _, forall_mem_write (depth + 1) item⟩,
      forall_mem_writeItems (depth + 1) rest⟩, forall_mem_newLine _⟩, by decide, by simp⟩
  | .object [] =>
    rw [write]
    exact Text.forall_mem_of_all (by decide)
  | .object ((key, value) :: rest) =>
    simp only [write, List.forall_mem_cons, List.forall_mem_append]
    exact ⟨by decide, ⟨⟨⟨⟨forall_mem_newLine _, forall_mem_quoted key⟩, by decide, by decide,
      forall_mem_write (depth + 1) value⟩, forall_mem_writeMembers (depth + 1) rest⟩,
      forall_mem_newLine _⟩, by decide, by simp⟩

theorem forall_mem_writeItems (depth : Nat) (items : List Json) :
    ∀ c ∈ writeItems depth items, IsPrinted c := by
  match items with
  | [] => simp [writeItems]
  | item :: rest =>
    simp only [writeItems, List.forall_mem_cons, List.forall_mem_append]
    exact ⟨by decide, ⟨forall_mem_newLine _, forall_mem_write depth item⟩,
      forall_mem_writeItems depth rest⟩

theorem forall_mem_writeMembers (depth : Nat) (members : List (String × Json)) :
    ∀ c ∈ writeMembers depth members, IsPrinted c := by
  match members with
  | [] => simp [writeMembers]
  | (key, value) :: rest =>
    simp only [writeMembers, List.forall_mem_cons, List.forall_mem_append]
    exact ⟨by decide, ⟨⟨forall_mem_newLine _, forall_mem_quoted key⟩, by decide, by decide,
      forall_mem_write depth value⟩, forall_mem_writeMembers depth rest⟩

end

end Json

/-- The start of a text stays when it has no escape characters. -/
theorem Text.withoutControlSequences_append {front : List Char} (h : ∀ c ∈ front, c ≠ '\x1b')
    (rest : List Char) :
    withoutControlSequences (front ++ rest) = front ++ withoutControlSequences rest := by
  induction front with
  | nil => rfl
  | cons c front ih =>
    rw [List.forall_mem_cons] at h
    have hnone : afterControlSequence? (c :: front ++ rest) = none := by
      unfold afterControlSequence?
      split
      · next heq => exact absurd (List.cons.inj heq).1 h.1
      · rfl
    rw [withoutControlSequences]
    split
    · next heq =>
      rw [hnone] at heq
      contradiction
    · exact congrArg (c :: ·) (ih h.2)

/-- A text without escape characters has no control sequences to lose. -/
theorem Text.withoutControlSequences_of_forall {text : List Char} (h : ∀ c ∈ text, c ≠ '\x1b') :
    Text.withoutControlSequences text = text := by
  have hnil : withoutControlSequences [] = [] := by
    rw [withoutControlSequences]
    rfl
  have happend := withoutControlSequences_append h []
  rwa [hnil, List.append_nil] at happend

theorem Json.forall_mem_render (j : Json) : ∀ c ∈ (j.render ++ "\n").toList, IsPrinted c := by
  rw [String.toList_append, render, String.toList_ofList, List.forall_mem_append]
  exact ⟨forall_mem_write 0 j, Text.forall_mem_of_all (by decide)⟩

/-- A report for other programs loses nothing when it is printed. -/
theorem Json.withoutControlSequences_render (j : Json) :
    Text.withoutControlSequences (j.render ++ "\n").toList = (j.render ++ "\n").toList := by
  apply Text.withoutControlSequences_of_forall
  rintro c hc rfl
  exact absurd (j.forall_mem_render _ hc) (by decide)

end PciCatalog
