import PciCatalog.Number.Numeral
import PciCatalog.Proofs.Spelling
import Mathlib.Algebra.Group.Nat.Defs

/-!
# Numbers as identifiers

The text of a number in lower-case hexadecimal, written digit by digit in a fixed width, and its
part in look-ups: the text that a device shows for one of its numbers has this text as its normal
form, whatever the number.  Main statements: `padded_natCast` and `normalize_marked`.
-/

namespace PciCatalog

/-- The numeral of a number other than zero has no zero in front. -/
theorem head?_toDigits_ne_zero {base n : Nat} (hbase : 1 < base) (h : 0 < n) :
    (Nat.toDigits base n).head? ≠ some '0' := by
  induction n using Nat.strongRecOn with
  | ind n ih =>
    by_cases hlt : n < base
    · rw [Nat.toDigits_of_lt_base hlt, List.head?_cons, ne_eq, Option.some_inj,
        Nat.digitChar_eq_zero]
      omega
    · have hle : base ≤ n := Nat.le_of_not_lt hlt
      rw [Nat.toDigits_of_base_le hbase hle, List.head?_append_of_ne_nil _ Nat.toDigits_ne_nil]
      exact ih (n / base) (Nat.div_lt_self h hbase) (Nat.div_pos hle (Nat.zero_lt_of_lt hbase))

namespace Hexadecimal

/-- The last digits of a number, as many as the width says. -/
def digits : Nat → Nat → List Char
  | 0, _ => []
  | width + 1, n => digits width (n / 16) ++ [Nat.digitChar (n % 16)]

/-- A number as an identifier of fixed width. -/
def ident (width n : Nat) : String :=
  String.ofList (digits width n)

example : ident 4 0x533 = "0533" ∧ ident 6 0x30000 = "030000" := by decide +kernel

@[simp] theorem length_digits (width n : Nat) : (digits width n).length = width := by
  induction width generalizing n with
  | zero => rfl
  | succ width ih => simp [digits, ih]

@[simp] theorem toList_ident (width n : Nat) : (ident width n).toList = digits width n :=
  String.toList_ofList

/-- What holds of the sixteen digits holds of all digits of a number. -/
theorem forall_mem_digits {p : Char → Prop} (h : ∀ d : Fin 16, p (Nat.digitChar d))
    (width n : Nat) : ∀ c ∈ digits width n, p c := by
  induction width generalizing n with
  | zero => simp [digits]
  | succ width ih =>
    rw [digits, List.forall_mem_append, List.forall_mem_singleton]
    exact ⟨ih (n / 16), h ⟨n % 16, Nat.mod_lt n (by decide)⟩⟩

theorem colon_not_mem_ident (width n : Nat) : ':' ∉ (ident width n).toList := by
  rw [toList_ident]
  intro hmem
  exact forall_mem_digits (p := fun c => c ≠ ':') (by decide) width n ':' hmem rfl

/-- The digits without leading zeros, filled up with zeros, are the digits of the width. -/
theorem replicate_append_toDigits {width n : Nat} (h : n < 16 ^ (width + 1)) :
    List.replicate (width + 1 - (Nat.toDigits 16 n).length) '0' ++ Nat.toDigits 16 n =
      digits (width + 1) n := by
  induction width generalizing n with
  | zero =>
    have hlt : n < 16 := by simpa using h
    simp [Nat.toDigits_of_lt_base hlt, digits, Nat.mod_eq_of_lt hlt]
  | succ width ih =>
    have hquotient : n / 16 < 16 ^ (width + 1) := by
      rw [Nat.div_lt_iff_lt_mul (by decide), ← Nat.pow_succ]
      exact h
    rw [digits, ← ih hquotient]
    by_cases hlt : n < 16
    · -- A single digit: the quotient is the zero in front of it.
      rw [Nat.toDigits_of_lt_base hlt, Nat.div_eq_of_lt hlt, Nat.mod_eq_of_lt hlt,
        Nat.toDigits_zero]
      simp [List.replicate_succ']
    · rw [Nat.toDigits_of_base_le (by decide) (Nat.le_of_not_lt hlt)]
      simp

/-- In a wide enough field, the padded text of a number consists of its digits. -/
theorem padded_natCast {width n : Nat} (h : n < 16 ^ (width + 1)) :
    padded (width + 1) n = digits (width + 1) n := by
  rw [padded, if_neg (by omega), Int.natAbs_natCast]
  exact replicate_append_toDigits h

/-- What holds of the sixteen digits holds of the characters of a numeral. -/
theorem forall_mem_toDigits {p : Char → Prop} (h : ∀ d : Fin 16, p (Nat.digitChar d)) (n : Nat) :
    ∀ c ∈ Nat.toDigits 16 n, p c := by
  induction n using Nat.strongRecOn with
  | ind n ih =>
    rw [Nat.toDigits_eq_if (by decide)]
    split
    · next hlt =>
      rw [List.forall_mem_singleton]
      exact h ⟨n, hlt⟩
    · next hge =>
      rw [List.forall_mem_append, List.forall_mem_singleton]
      exact ⟨ih (n / 16) (by omega), h ⟨n % 16, Nat.mod_lt n (by decide)⟩⟩

/-- What holds of the sixteen digits and of the minus sign holds of every padded text. -/
theorem forall_mem_padded {p : Char → Prop} (hminus : p '-')
    (h : ∀ d : Fin 16, p (Nat.digitChar d)) (width : Nat) (n : Int) :
    ∀ c ∈ padded width n, p c := by
  have hzeros : ∀ count, ∀ c ∈ List.replicate count '0', p c := by
    intro count c hc
    rw [List.eq_of_mem_replicate hc]
    exact h 0
  have hdigits := forall_mem_toDigits h n.natAbs
  rw [padded]
  split
  · rw [List.forall_mem_cons, List.forall_mem_append]
    exact ⟨hminus, hzeros _, hdigits⟩
  · rw [List.forall_mem_append]
    exact ⟨hzeros _, hdigits⟩

theorem forall_mem_marked {p : Char → Prop} (hmark : p 'x') (hminus : p '-')
    (h : ∀ d : Fin 16, p (Nat.digitChar d)) (width : Nat) (n : Int) :
    ∀ c ∈ '0' :: 'x' :: padded width n, p c := by
  rw [List.forall_mem_cons, List.forall_mem_cons]
  exact ⟨h 0, hmark, forall_mem_padded hminus h width n⟩

/-- The normal form of a number's text is the text without its mark, also for numbers that are
negative or too long for the width. -/
theorem normalize_marked (width : Nat) (n : Int) :
    Ident.normalize (marked width n) = String.ofList (padded width n) := by
  have hblank : ∀ c ∈ '0' :: 'x' :: padded width n, Text.isBlank c = false :=
    forall_mem_marked (by decide) (by decide) (by decide) width n
  have hascii : ∀ c ∈ '0' :: 'x' :: padded width n, c.toNat < 0x80 :=
    forall_mem_marked (by decide) (by decide) (by decide) width n
  have hlower : ∀ c ∈ '0' :: 'x' :: padded width n, c.toLower = c :=
    forall_mem_marked (by decide) (by decide) (by decide) width n
  have hword : Text.IsWord ('0' :: 'x' :: padded width n) := ⟨List.cons_ne_nil _ _, hblank⟩
  rw [Ident.normalize, Ident.normalForm, marked, String.toList_ofList, hword.trimmed.trim_eq,
    Text.lower_of_ascii hascii, List.map_congr_left hlower, List.map_id']
  rfl

/-- The text of a number that fits the width has the number's digits as its normal form. -/
theorem normalize_marked_natCast {width n : Nat} (h : n < 16 ^ (width + 1)) :
    Ident.normalize (marked (width + 1) n) = ident (width + 1) n := by
  rw [normalize_marked, padded_natCast h, ident]

/-- The first digits of a number are the digits of its quotient. -/
theorem take_digits (count rest n : Nat) :
    (digits (count + rest) n).take count = digits count (n / 16 ^ rest) := by
  induction rest generalizing n with
  | zero => simp [List.take_of_length_le]
  | succ rest ih =>
    rw [← Nat.add_assoc, digits, List.take_append_of_le_length (by simp), ih,
      Nat.div_div_eq_div_mul, ← Nat.pow_succ']

end Hexadecimal
end PciCatalog
