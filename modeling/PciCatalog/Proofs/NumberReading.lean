import PciCatalog.Number.Numeral
import PciCatalog.Proofs.NumberText

/-!
# Numbers read back from their texts

The hexadecimal digits of a number are read back as the number, however many zeros stand before
them, and the sign in front of them tells numbers of either sign apart.  So two numbers never share
a text, whether or not they fit the width.  Main statements: `natural?_zeros_append_toDigits` and
`marked_inj`.
-/

namespace PciCatalog
namespace Numeral

theorem digitValue?_digitChar {d : Nat} (h : d < 16) :
    digitValue? 16 (Nat.digitChar d) = some d := by
  have hall : ∀ d : Fin 16, digitValue? 16 (Nat.digitChar d) = some d.val := by decide
  exact hall ⟨d, h⟩

theorem digitChar_ne_underscore {d : Nat} (h : d < 16) : Nat.digitChar d ≠ '_' := by
  have hall : ∀ d : Fin 16, Nat.digitChar d ≠ '_' := by decide
  exact hall ⟨d, h⟩

/-- A character other than an underscore is read as a digit. -/
theorem continueNatural?_cons {radix value : Nat} {c : Char} (h : c ≠ '_') (rest : List Char) :
    continueNatural? radix value (c :: rest) =
      (digitValue? radix c).bind fun d => continueNatural? radix (value * radix + d) rest :=
  continueNatural?.eq_3 radix value c rest fun _ _ heq => absurd heq h

theorem continueNatural?_append {radix : Nat} {front : List Char} (h : ∀ c ∈ front, c ≠ '_')
    (value : Nat) (back : List Char) :
    continueNatural? radix value (front ++ back) =
      (continueNatural? radix value front).bind (continueNatural? radix · back) := by
  induction front generalizing value with
  | nil => rfl
  | cons c rest ih =>
    rw [List.forall_mem_cons] at h
    rw [List.cons_append, continueNatural?_cons h.1, continueNatural?_cons h.1, Option.bind_assoc]
    simp only [ih h.2]

theorem natural?_eq_continueNatural? {radix : Nat} {text : List Char} (hne : text ≠ [])
    (h : ∀ c ∈ text, c ≠ '_') : natural? radix text = continueNatural? radix 0 text := by
  cases text with
  | nil => contradiction
  | cons c rest =>
    rw [List.forall_mem_cons] at h
    rw [natural?, continueNatural?_cons h.1]
    simp

/-- A text without a sign in front is left as it is. -/
theorem cutSign_of_unsigned {text : List Char} (h : ∀ c ∈ text, c ≠ '-' ∧ c ≠ '+') :
    cutSign text = (false, text) := by
  unfold cutSign
  split
  · exact absurd rfl (h '-' List.mem_cons_self).1
  · exact absurd rfl (h '+' List.mem_cons_self).2
  · rfl

end Numeral

namespace Hexadecimal

open Numeral

theorem underscore_not_mem_toDigits (n : Nat) : ∀ c ∈ Nat.toDigits 16 n, c ≠ '_' :=
  forall_mem_toDigits (by decide) n

theorem continueNatural?_toDigits (n : Nat) :
    continueNatural? 16 0 (Nat.toDigits 16 n) = some n := by
  induction n using Nat.strongRecOn with
  | ind n ih =>
    by_cases hlt : n < 16
    · rw [Nat.toDigits_of_lt_base hlt, continueNatural?_cons (digitChar_ne_underscore hlt),
        digitValue?_digitChar hlt]
      simp [continueNatural?]
    · have hmod : n % 16 < 16 := Nat.mod_lt n (by decide)
      rw [Nat.toDigits_of_base_le (by decide) (Nat.le_of_not_lt hlt),
        continueNatural?_append (underscore_not_mem_toDigits (n / 16)), ih (n / 16) (by omega),
        Option.bind_some, continueNatural?_cons (digitChar_ne_underscore hmod),
        digitValue?_digitChar hmod]
      simp [continueNatural?, Nat.div_add_mod']

theorem continueNatural?_zeros (count : Nat) (rest : List Char) :
    continueNatural? 16 0 (List.replicate count '0' ++ rest) = continueNatural? 16 0 rest := by
  induction count with
  | zero => rfl
  | succ count ih =>
    rw [List.replicate_succ, List.cons_append, continueNatural?_cons (by decide)]
    simpa [digitValue?] using ih

/-- Digits are read back as their number, also behind zeros. -/
theorem natural?_zeros_append_toDigits (count n : Nat) :
    natural? 16 (List.replicate count '0' ++ Nat.toDigits 16 n) = some n := by
  rw [natural?_eq_continueNatural?, continueNatural?_zeros, continueNatural?_toDigits]
  · simp [Nat.toDigits_ne_nil]
  · rw [List.forall_mem_append]
    refine ⟨?_, underscore_not_mem_toDigits n⟩
    intro c hc
    rw [List.eq_of_mem_replicate hc]
    decide

/-- A minus sign tells the negative numbers apart. -/
theorem cutSign_zeros_append_toDigits (count n : Nat) :
    cutSign (List.replicate count '0' ++ Nat.toDigits 16 n) =
      (false, List.replicate count '0' ++ Nat.toDigits 16 n) := by
  apply cutSign_of_unsigned
  rw [List.forall_mem_append]
  refine ⟨?_, forall_mem_toDigits (by decide) n⟩
  intro c hc
  rw [List.eq_of_mem_replicate hc]
  decide

/-- The padded text of an integer is a sign and digits that read back as the integer. -/
theorem read_padded (width : Nat) (n : Int) :
    (natural? 16 (cutSign (padded width n)).2).map (signed (cutSign (padded width n)).1) =
      some n := by
  unfold padded
  dsimp only
  split
  · next hneg =>
    show (natural? 16 (List.replicate _ '0' ++ _)).map (signed true) = some n
    rw [natural?_zeros_append_toDigits, Option.map_some, signed, if_pos rfl, Option.some_inj]
    omega
  · next hneg =>
    rw [cutSign_zeros_append_toDigits, natural?_zeros_append_toDigits, Option.map_some, signed,
      if_neg Bool.false_ne_true, Option.some_inj]
    omega

/-- Different integers have different texts, whatever the width. -/
theorem padded_inj {width : Nat} {n m : Int} : padded width n = padded width m ↔ n = m := by
  constructor
  · intro h
    have hread := read_padded width n
    rw [h, read_padded] at hread
    exact (Option.some.inj hread).symm
  · rintro rfl
    rfl

theorem marked_inj {width : Nat} {n m : Int} : marked width n = marked width m ↔ n = m := by
  constructor
  · intro h
    have hlist : '0' :: 'x' :: padded width n = '0' :: 'x' :: padded width m :=
      String.ofList_injective h
    rw [List.cons.injEq, List.cons.injEq] at hlist
    exact padded_inj.1 hlist.2.2
  · rintro rfl
    rfl

end Hexadecimal
end PciCatalog
