import PciCatalog.Proofs.Splitting
import PciCatalog.Text.Lowercase

/-!
# Lower case settles a text

The lower-case form of a text is its own lower-case form: every character that the mapping makes is
one that the mapping leaves alone, wherever it stands.  Blanks come out of the mapping as they went
in, so a text without blanks at its ends keeps that.  Both facts come from one lemma on the step
from a text to its rest, and that from checks of the rows of the table against each other and
against the code points of blanks.
-/

namespace PciCatalog
namespace Text

/-- A character that stays as it is in the lower-case form of every text. -/
def Settled (c : Char) : Prop :=
  lowerChar c = c ∧ c ≠ 'Σ' ∧ c ≠ 'İ'

instance : DecidablePred Settled := fun c =>
  inferInstanceAs (Decidable (lowerChar c = c ∧ c ≠ 'Σ' ∧ c ≠ 'İ'))

/-! ### Rows of the table -/

theorem rowCovers_iff {n : Nat} {row : Nat × Nat × Nat × Int} :
    rowCovers n row = true ↔ row.1 ≤ n ∧ n ≤ row.2.1 ∧ (n - row.1) % row.2.2.1 = 0 := by
  simp [rowCovers, and_assoc]

/-- Where a row maps a code point to. -/
def rowImage (row : Nat × Nat × Nat × Int) (n : Nat) : Nat :=
  ((n : Int) + row.2.2.2).toNat

theorem rowImage_mono (row : Nat × Nat × Nat × Int) {n m : Nat} (h : n ≤ m) :
    rowImage row n ≤ rowImage row m := by
  unfold rowImage
  omega

/-- Whether a row maps no code point to one that another row covers: the other row lies above or
below the image, or it covers every second code point and the image falls between these. -/
def rowApart (row other : Nat × Nat × Nat × Int) : Bool :=
  let low := rowImage row row.1
  Nat.blt (rowImage row row.2.1) other.1 || Nat.blt other.2.1 low ||
    (Nat.beq other.2.2.1 2 && (Nat.beq row.2.2.1 2 || Nat.beq row.1 row.2.1) && Nat.blt 0 low &&
      Nat.beq ((low + other.1) % 2) 1)

theorem rowApart_lowercaseRows :
    (lowercaseRows.all fun row => lowercaseRows.all (rowApart row)) = true := by
  decide +kernel

theorem not_rowCovers_image {row other : Nat × Nat × Nat × Int} {n : Nat}
    (hcovers : rowCovers n row = true) (h : rowApart row other = true) :
    rowCovers (rowImage row n) other = false := by
  obtain ⟨hfirst, hlast, hstep⟩ := rowCovers_iff.1 hcovers
  have hlow := rowImage_mono row hfirst
  have hhigh := rowImage_mono row hlast
  simp only [rowApart, Bool.or_eq_true, Bool.and_eq_true, Nat.blt_eq, Nat.beq_eq] at h
  rw [Bool.eq_false_iff, ne_eq, rowCovers_iff]
  rintro ⟨hfirst', hlast', hstep'⟩
  rcases h with (habove | hbelow) | ⟨⟨⟨hsecond', hsecond⟩, hpositive⟩, hodd⟩
  · exact absurd (hfirst'.trans hhigh) (Nat.not_le.2 habove)
  · exact absurd (hlow.trans hlast') (Nat.not_le.2 hbelow)
  · -- The image of `n` is as odd as the first of the row, and the other row covers the even ones.
    rw [hsecond'] at hstep'
    have heven : (n - row.1) % 2 = 0 := by
      rcases hsecond with htwo | hsingle
      · rwa [htwo] at hstep
      · omega
    unfold rowImage at hpositive hodd hfirst' hstep'
    omega

/-- The code points of blanks, as ranges. -/
def blankRanges : List (Nat × Nat) :=
  [(0x09, 0x0D), (0x1C, 0x20), (0x85, 0x85), (0xA0, 0xA0), (0x1680, 0x1680), (0x2000, 0x200A),
    (0x2028, 0x2029), (0x202F, 0x202F), (0x205F, 0x205F), (0x3000, 0x3000)]

theorem isBlank_iff {c : Char} :
    isBlank c = true ↔ ∃ range ∈ blankRanges, range.1 ≤ c.toNat ∧ c.toNat ≤ range.2 := by
  simp only [isBlank, blankRanges, Bool.or_eq_true, Bool.and_eq_true, decide_eq_true_eq, beq_iff_eq,
    List.mem_cons, List.not_mem_nil, or_false, exists_eq_or_imp, exists_eq_left]
  omega

/-- The code points that a row maps nothing to: those of blanks, of capital letters that other rules
map, and those that belong to no character. -/
def avoidedRanges : List (Nat × Nat) :=
  blankRanges ++ [(0x41, 0x5A), (0x130, 0x130), (0x3A3, 0x3A3), (0xD800, 0xDFFF)]

/-- Whether a stretch of code points meets none of some ranges. -/
def clearOf (low high : Nat) (ranges : List (Nat × Nat)) : Bool :=
  ranges.all fun range => Nat.blt high range.1 || Nat.blt range.2 low

theorem not_mem_of_clearOf {low high n : Nat} {ranges : List (Nat × Nat)}
    (h : clearOf low high ranges = true) (hlow : low ≤ n) (hhigh : n ≤ high) :
    ∀ range ∈ ranges, ¬ (range.1 ≤ n ∧ n ≤ range.2) := by
  intro range hrange
  have hclear := List.all_eq_true.1 h range hrange
  simp only [Bool.or_eq_true, Nat.blt_eq] at hclear
  omega

theorem clearOf_lowercaseRows :
    (lowercaseRows.all fun row => Nat.blt (rowImage row row.2.1) 0x110000 &&
      clearOf row.1 row.2.1 blankRanges &&
      clearOf (rowImage row row.1) (rowImage row row.2.1) avoidedRanges) = true := by
  decide

/-! ### Characters -/

theorem lowerChar_eq_self {c : Char} (hcapital : ¬ (0x41 ≤ c.toNat ∧ c.toNat ≤ 0x5A))
    (hrows : ∀ row ∈ lowercaseRows, rowCovers c.toNat row = false) : lowerChar c = c := by
  unfold lowerChar
  split
  · rw [if_neg]
    simpa [Char.le_def, UInt32.le_iff_toNat_le] using hcapital
  · have hfind : lowercaseRows.find? (rowCovers c.toNat) = none :=
      List.find?_eq_none.2 fun row hrow => by simp [hrows row hrow]
    rw [hfind]

/-- What a row maps to is a character: no surrogate, and not too large. -/
theorem toNat_rowImage {row : Nat × Nat × Nat × Int} {n : Nat}
    (hsurrogate : ¬ (0xD800 ≤ rowImage row n ∧ rowImage row n ≤ 0xDFFF))
    (hbound : rowImage row n < 0x110000) :
    (Char.ofNat (rowImage row n)).toNat = rowImage row n := by
  have hvalid : Nat.isValidChar (rowImage row n) := by
    unfold Nat.isValidChar
    omega
  rw [Char.ofNat, dif_pos hvalid]
  rfl

/-- What a row maps a character to is settled and no blank, and neither was the character. -/
theorem settled_rowImage {row : Nat × Nat × Nat × Int} (hrow : row ∈ lowercaseRows) {c : Char}
    (hcovers : rowCovers c.toNat row = true) :
    Settled (Char.ofNat (rowImage row c.toNat)) ∧
      isBlank (Char.ofNat (rowImage row c.toNat)) = false ∧ isBlank c = false := by
  obtain ⟨hfirst, hlast, -⟩ := rowCovers_iff.1 hcovers
  have hclear := List.all_eq_true.1 clearOf_lowercaseRows row hrow
  simp only [Bool.and_eq_true, Nat.blt_eq] at hclear
  obtain ⟨⟨hbound, hsource⟩, himage⟩ := hclear
  have hlow := rowImage_mono row hfirst
  have hhigh := rowImage_mono row hlast
  have havoided := not_mem_of_clearOf himage hlow hhigh
  have hvalid := toNat_rowImage (havoided (0xD800, 0xDFFF) (by decide)) (by omega)
  -- The image lies in none of the avoided ranges, and no row covers it.
  refine ⟨⟨?_, ?_, ?_⟩, ?_, ?_⟩
  · apply lowerChar_eq_self <;> rw [hvalid]
    · exact havoided (0x41, 0x5A) (by decide)
    · intro other hother
      exact not_rowCovers_image hcovers
        (List.all_eq_true.1 (List.all_eq_true.1 rowApart_lowercaseRows row hrow) other hother)
  · intro hsigma
    rw [hsigma] at hvalid
    exact havoided (0x3A3, 0x3A3) (by decide) (by rw [← hvalid]; decide)
  · intro hdot
    rw [hdot] at hvalid
    exact havoided (0x130, 0x130) (by decide) (by rw [← hvalid]; decide)
  · rw [Bool.eq_false_iff, ne_eq, isBlank_iff, hvalid]
    rintro ⟨range, hrange, hmem⟩
    exact havoided range (List.mem_append_left _ hrange) hmem
  · rw [Bool.eq_false_iff, ne_eq, isBlank_iff]
    rintro ⟨range, hrange, hmem⟩
    exact not_mem_of_clearOf hsource hfirst hlast range hrange hmem

/-- The mapping makes settled characters, and blanks of blanks only. -/
theorem settled_lowerChar {c : Char} (hdot : c ≠ 'İ') :
    Settled (lowerChar c) ∧ isBlank (lowerChar c) = isBlank c := by
  by_cases hascii : c.toNat < 0x80
  -- The rows are for other characters than those of ASCII, which are few enough to check.
  · have hall : ∀ n : Fin 0x80, Settled (lowerChar (Char.ofNat n)) ∧
        isBlank (lowerChar (Char.ofNat n)) = isBlank (Char.ofNat n) := by decide
    simpa using hall ⟨c.toNat, hascii⟩
  · cases hfind : lowercaseRows.find? (rowCovers c.toNat) with
    | none =>
      have heq : lowerChar c = c := by
        unfold lowerChar
        rw [if_neg hascii, hfind]
      refine ⟨?_, by rw [heq]⟩
      rw [heq]
      refine ⟨heq, ?_, hdot⟩
      rintro rfl
      exact absurd hfind (by decide)
    | some row =>
      have heq : lowerChar c = Char.ofNat (rowImage row c.toNat) := by
        unfold lowerChar
        rw [if_neg hascii, hfind]
        rfl
      obtain ⟨hsettled, hblank, hblank'⟩ :=
        settled_rowImage (List.mem_of_find?_eq_some hfind) (List.find?_some hfind)
      rw [heq, hblank, hblank']
      exact ⟨hsettled, rfl⟩

/-! ### Texts -/

/-- The mapping makes of the first character of a text some settled characters, blanks exactly when
it is one, and goes on with the rest. -/
theorem lowerFrom_cons (cased : Bool) (c : Char) (rest : List Char) :
    ∃ made next, lowerFrom cased (c :: rest) = made ++ lowerFrom next rest ∧ made ≠ [] ∧
      ∀ d ∈ made, Settled d ∧ isBlank d = isBlank c := by
  rw [lowerFrom]
  split
  · next hsigma =>
    subst hsigma
    refine ⟨[_], _, rfl, List.cons_ne_nil _ _, List.forall_mem_singleton.2 ?_⟩
    split <;> decide
  · split
    · next hdot =>
      subst hdot
      exact ⟨['i', '\u0307'], _, rfl, List.cons_ne_nil _ _, forall_mem_of_all (by decide)⟩
    · next hdot =>
      exact ⟨[_], _, rfl, List.cons_ne_nil _ _,
        List.forall_mem_singleton.2 (settled_lowerChar hdot)⟩

theorem settled_of_mem_lowerFrom {text : List Char} {cased : Bool} :
    ∀ c ∈ lowerFrom cased text, Settled c := by
  induction text generalizing cased with
  | nil => simp [lowerFrom]
  | cons c rest ih =>
    obtain ⟨made, next, heq, -, hmade⟩ := lowerFrom_cons cased c rest
    rw [heq, List.forall_mem_append]
    exact ⟨fun d hd => (hmade d hd).1, ih⟩

theorem lowerFrom_of_settled {text : List Char} (h : ∀ c ∈ text, Settled c) (cased : Bool) :
    lowerFrom cased text = text := by
  induction text generalizing cased with
  | nil => rfl
  | cons c rest ih =>
    obtain ⟨hc, hsigma, hdot⟩ := h c List.mem_cons_self
    rw [lowerFrom, if_neg hsigma, if_neg hdot, hc, ih fun d hd => h d (List.mem_cons_of_mem c hd)]

/-- The texts in lower case are those of settled characters. -/
theorem lower_eq_self_iff {text : List Char} : lower text = text ↔ ∀ c ∈ text, Settled c := by
  constructor
  · intro h
    rw [← h]
    exact settled_of_mem_lowerFrom
  · intro h
    exact lowerFrom_of_settled h false

theorem lowerFrom_eq_nil_iff {text : List Char} {cased : Bool} :
    lowerFrom cased text = [] ↔ text = [] := by
  cases text with
  | nil => simp [lowerFrom]
  | cons c rest =>
    obtain ⟨made, next, heq, hne, -⟩ := lowerFrom_cons cased c rest
    simp [heq, hne]

theorem isBlank_head?_lowerFrom {text : List Char} (cased : Bool)
    (h : ∀ c ∈ text.head?, isBlank c = false) :
    ∀ d ∈ (lowerFrom cased text).head?, isBlank d = false := by
  cases text with
  | nil => simp [lowerFrom]
  | cons c rest =>
    obtain ⟨made, next, heq, hne, hmade⟩ := lowerFrom_cons cased c rest
    intro d hd
    rw [heq, List.head?_append_of_ne_nil _ hne] at hd
    rw [(hmade d (List.mem_of_mem_head? hd)).2]
    exact h c rfl

theorem isBlank_getLast?_lowerFrom {text : List Char} (cased : Bool)
    (h : ∀ c ∈ text.getLast?, isBlank c = false) :
    ∀ d ∈ (lowerFrom cased text).getLast?, isBlank d = false := by
  induction text generalizing cased with
  | nil => simp [lowerFrom]
  | cons c rest ih =>
    obtain ⟨made, next, heq, -, hmade⟩ := lowerFrom_cons cased c rest
    rw [heq]
    by_cases hrest : rest = []
    · subst hrest
      intro d hd
      rw [lowerFrom, List.append_nil] at hd
      rw [(hmade d (List.mem_of_mem_getLast? hd)).2]
      exact h c rfl
    · rw [List.getLast?_cons_of_ne_nil hrest] at h
      rw [List.getLast?_append_of_ne_nil _ (mt lowerFrom_eq_nil_iff.1 hrest)]
      exact ih next h

/-- The ends of a text are no blanks in lower case either. -/
theorem Trimmed.lower {text : List Char} (h : Trimmed text) : Trimmed (lower text) :=
  ⟨isBlank_head?_lowerFrom false h.1, isBlank_getLast?_lowerFrom false h.2⟩

end Text
end PciCatalog
