import PciCatalog.Text.CharClass
import PciCatalog.Text.Split
import Mathlib.Data.List.Infix
import Mathlib.Data.List.TakeWhile

/-!
# The parts of a line

What the cutting functions find, said without them: the first double space of a text, the tabs that
a text starts with, the blanks at its ends and the words between them.
-/

namespace PciCatalog
namespace Text

/-- `before` and `after` are the two sides of the first double space of a text. -/
structure FirstDoubleSpace (text before after : List Char) : Prop where
  split : text = before ++ ' ' :: ' ' :: after
  -- An earlier double space could only end at the first of the two blanks.
  first : ¬ [' ', ' '] <:+: before ++ [' ']

/-- A double space that no other one precedes is where the text is cut. -/
theorem cutAtDoubleSpace_append {before : List Char} (after : List Char)
    (first : ¬ [' ', ' '] <:+: before ++ [' ']) :
    cutAtDoubleSpace (before ++ ' ' :: ' ' :: after) = some (before, after) := by
  induction before with
  | nil => rfl
  | cons c rest ih =>
    have hrest : ¬ [' ', ' '] <:+: rest ++ [' '] := by
      intro h
      exact first (h.trans (List.suffix_cons c (rest ++ [' '])).isInfix)
    -- A double space at the very start would end before the one at the cut.
    have hhead : ∀ tail, c = ' ' → rest ++ ' ' :: ' ' :: after = ' ' :: tail → False := by
      rintro tail rfl htail
      apply first
      cases rest with
      | nil => exact List.infix_refl [' ', ' ']
      | cons d rest =>
        obtain ⟨rfl, -⟩ := List.cons.inj htail
        exact ⟨[], rest ++ [' '], rfl⟩
    rw [List.cons_append, cutAtDoubleSpace.eq_3 _ _ hhead, ih hrest]
    rfl

theorem no_double_space_of_cutAtDoubleSpace {text before after : List Char}
    (h : cutAtDoubleSpace text = some (before, after)) : ¬ [' ', ' '] <:+: before ++ [' '] := by
  fun_induction cutAtDoubleSpace text generalizing before with
  | case1 => simp at h
  | case2 rest =>
    obtain ⟨rfl, -⟩ := Prod.mk.inj (Option.some.inj h)
    simp [List.infix_cons_iff]
  | case3 c rest hhead ih =>
    obtain ⟨⟨front, back⟩, hcut, heq⟩ := Option.map_eq_some_iff.1 h
    obtain ⟨rfl, rfl⟩ := Prod.mk.inj heq
    rw [List.cons_append, List.infix_cons_iff, not_or]
    refine ⟨?_, ih hcut⟩
    -- A double space at the very start would be the one that the text is cut at.
    intro hstart
    obtain ⟨hc, htail⟩ := List.cons_prefix_cons.1 hstart
    have hrest := eq_append_of_cutAtDoubleSpace hcut
    cases front with
    | nil => exact hhead (' ' :: back) hc.symm hrest
    | cons d front =>
      obtain ⟨rfl, -⟩ := List.cons_prefix_cons.1 htail
      exact hhead (front ++ ' ' :: ' ' :: back) hc.symm hrest

/-- A text is cut at its first double space. -/
theorem cutAtDoubleSpace_eq_some_iff {text before after : List Char} :
    cutAtDoubleSpace text = some (before, after) ↔ FirstDoubleSpace text before after := by
  constructor
  · intro h
    exact ⟨eq_append_of_cutAtDoubleSpace h, no_double_space_of_cutAtDoubleSpace h⟩
  · rintro ⟨rfl, first⟩
    exact cutAtDoubleSpace_append after first

/-! What is left of a text without the characters at its end that have a property. -/

section DropTail

variable {p : Char → Bool} {front text back : List Char}

/-- Dropping a tail of characters leaves nothing exactly when all of them are dropped. -/
theorem dropTail_eq_nil_iff : dropTail p text = [] ↔ ∀ c ∈ text, p c = true := by
  rw [dropTail, List.reverse_eq_nil_iff, List.dropWhile_eq_nil_iff]
  simp

theorem dropTail_append_of_pos (h : ∀ c ∈ back, p c = true) (text : List Char) :
    dropTail p (text ++ back) = dropTail p text := by
  rw [dropTail, List.reverse_append, List.dropWhile_append_of_pos (by simpa using h), dropTail]

theorem dropTail_eq_self (h : ∀ c ∈ text.getLast?, p c = false) : dropTail p text = text := by
  unfold dropTail
  cases hreverse : text.reverse with
  | nil => simpa using hreverse.symm
  | cons c rest =>
    have hc : p c = false := by
      apply h
      rw [← List.head?_reverse, hreverse]
      rfl
    rw [List.dropWhile_cons_of_neg (by simp [hc]), ← hreverse, List.reverse_reverse]

/-- What stands on both sides of a text is cut off as far as the text does not start and end with
it. -/
theorem dropTail_dropWhile_pad (hfront : ∀ c ∈ front, p c = true)
    (hhead : ∀ c ∈ text.head?, p c = false) (hlast : ∀ c ∈ text.getLast?, p c = false)
    (hback : ∀ c ∈ back, p c = true) :
    dropTail p ((front ++ text ++ back).dropWhile p) = text := by
  rw [List.append_assoc, List.dropWhile_append_of_pos hfront]
  cases text with
  | nil => rw [List.nil_append, List.dropWhile_eq_nil_iff.2 hback, dropTail_eq_self (by simp)]
  | cons c rest =>
    rw [List.cons_append, List.dropWhile_cons_of_neg (by simp [hhead c rfl]), ← List.cons_append,
      dropTail_append_of_pos hback, dropTail_eq_self hlast]

end DropTail

/-- Trimming leaves nothing exactly of a text of blanks. -/
theorem trim_eq_nil_iff {text : List Char} : trim text = [] ↔ ∀ c ∈ text, isBlank c = true := by
  rw [trim, dropTail_eq_nil_iff]
  constructor
  · intro h c hc
    rw [← List.takeWhile_append_dropWhile (p := isBlank) (l := text), List.mem_append] at hc
    rcases hc with hc | hc
    · exact List.mem_takeWhile_imp hc
    · exact h c hc
  · intro h c hc
    exact h c ((List.dropWhile_sublist isBlank).subset hc)

/-- The number of tabs that a text starts with. -/
def tabCount (text : List Char) : Nat :=
  (text.takeWhile (· == '\t')).length

theorem tabCount_replicate_append (depth : Nat) {body : List Char}
    (h : body.head? ≠ some '\t') : tabCount (List.replicate depth '\t' ++ body) = depth := by
  induction depth with
  | zero =>
    cases body with
    | nil => rfl
    | cons c rest =>
      have hc : c ≠ '\t' := by simpa using h
      simp [tabCount, hc]
  | succ depth ih =>
    rw [List.replicate_succ, List.cons_append]
    simpa [tabCount] using ih

/-- A text consists of its leading tabs and of a rest that starts with no tab. -/
theorem replicate_tabCount_append_drop (text : List Char) :
    text = List.replicate (tabCount text) '\t' ++ text.drop (tabCount text) ∧
      (text.drop (tabCount text)).head? ≠ some '\t' := by
  induction text with
  | nil => simp [tabCount]
  | cons c rest ih =>
    by_cases hc : c = '\t'
    · subst hc
      have hcount : tabCount ('\t' :: rest) = tabCount rest + 1 := by simp [tabCount]
      rw [hcount, List.drop_succ_cons, List.replicate_succ, List.cons_append]
      exact ⟨congrArg _ ih.1, ih.2⟩
    · simp [tabCount, hc]

/-- What holds of a character can be decided for a text, one character after another. -/
theorem forall_mem_of_all {p : Char → Prop} [DecidablePred p] {text : List Char}
    (h : text.all (fun c => decide (p c)) = true) : ∀ c ∈ text, p c := by
  intro c hc
  exact of_decide_eq_true (List.all_eq_true.1 h c hc)

/-- Whether a text has no blank at either end. -/
def Trimmed (text : List Char) : Prop :=
  (∀ c ∈ text.head?, isBlank c = false) ∧ ∀ c ∈ text.getLast?, isBlank c = false

instance : DecidablePred Trimmed := fun text =>
  decidable_of_iff ((text.head?.all fun c => !isBlank c) = true ∧
    (text.getLast?.all fun c => !isBlank c) = true) (by simp [Trimmed, Option.all_eq_true])

/-- A word is made of characters other than blanks, and of at least one. -/
def IsWord (text : List Char) : Prop :=
  text ≠ [] ∧ ∀ c ∈ text, isBlank c = false

theorem IsWord.trimmed {text : List Char} (h : IsWord text) : Trimmed text :=
  ⟨fun c hc => h.2 c (List.mem_of_mem_head? hc), fun c hc => h.2 c (List.mem_of_mem_getLast? hc)⟩

theorem trimmed_two {a b : List Char} (ha : IsWord a) (hb : IsWord b) :
    Trimmed (a ++ ' ' :: b) := by
  constructor
  · intro c hc
    rw [List.head?_append_of_ne_nil a ha.1] at hc
    exact ha.trimmed.1 c hc
  · intro c hc
    rw [List.getLast?_append_of_ne_nil a (List.cons_ne_nil ' ' b),
      List.getLast?_cons_of_ne_nil hb.1] at hc
    exact hb.trimmed.2 c hc

/-- Trimming takes away the blanks around a text. -/
theorem trim_pad {front text back : List Char} (hfront : ∀ c ∈ front, isBlank c = true)
    (h : Trimmed text) (hback : ∀ c ∈ back, isBlank c = true) :
    trim (front ++ text ++ back) = text :=
  dropTail_dropWhile_pad hfront h.1 h.2 hback

theorem Trimmed.trim_eq {text : List Char} (h : Trimmed text) : trim text = text := by
  have hpad := @trim_pad [] text [] (by simp) h (by simp)
  rwa [List.nil_append, List.append_nil] at hpad

theorem wordsFrom_append {front : List Char} (h : ∀ c ∈ front, isBlank c = false)
    (word rest : List Char) :
    wordsFrom word (front ++ rest) = wordsFrom (front.reverse ++ word) rest := by
  induction front generalizing word with
  | nil => rfl
  | cons c front ih =>
    have hc : ¬ isBlank c = true := by simp [h c List.mem_cons_self]
    rw [List.cons_append, wordsFrom, if_neg hc, ih fun d hd => h d (List.mem_cons_of_mem c hd)]
    simp

/-- Two words with a space between them are taken apart again. -/
theorem words_two {a b : List Char} (ha : IsWord a) (hb : IsWord b) :
    words (a ++ ' ' :: b) = [a, b] := by
  have hword : ∀ {text : List Char}, IsWord text → (text.reverse ++ []).isEmpty = false := by
    intro text htext
    simp [htext.1]
  have hspace : isBlank ' ' = true := by decide
  have hlast : wordsFrom [] b = [b] := by
    have hb' := wordsFrom_append hb.2 [] []
    rw [List.append_nil] at hb'
    rw [hb', wordsFrom, hword hb]
    simp
  rw [words, wordsFrom_append ha.2, wordsFrom, if_pos hspace, hword ha, hlast]
  simp

/-- A text without spaces holds no part of a double space. -/
theorem double_space_infix_of_append {front rest : List Char} (h : ' ' ∉ front)
    (hin : [' ', ' '] <:+: front ++ rest) : [' ', ' '] <:+: rest := by
  induction front with
  | nil => exact hin
  | cons c front ih =>
    rw [List.mem_cons, not_or] at h
    rw [List.cons_append, List.infix_cons_iff] at hin
    rcases hin with hstart | hin
    · exact absurd (List.cons_prefix_cons.1 hstart).1 h.1
    · exact ih h.2 hin

theorem IsWord.no_space {text : List Char} (h : IsWord text) : ' ' ∉ text := by
  intro hmem
  exact absurd (h.2 ' ' hmem) (by decide)

/-- No double space ends with the space behind a word. -/
theorem IsWord.no_double_space {text : List Char} (h : IsWord text) :
    ¬ [' ', ' '] <:+: text ++ [' '] := by
  intro hin
  have hlast := double_space_infix_of_append h.no_space hin
  exact absurd hlast.length_le (by decide)

/-- No double space starts with a space before a word. -/
theorem IsWord.no_double_space_cons {text : List Char} (h : IsWord text) :
    ¬ [' ', ' '] <:+: ' ' :: (text ++ [' ']) := by
  rw [List.infix_cons_iff, not_or]
  refine ⟨?_, h.no_double_space⟩
  intro hstart
  obtain ⟨-, htail⟩ := List.cons_prefix_cons.1 hstart
  cases text with
  | nil => exact h.1 rfl
  | cons c rest =>
    obtain ⟨rfl, -⟩ := List.cons_prefix_cons.1 htail
    exact h.no_space List.mem_cons_self

/-- A separator parts the fields before it from those behind it. -/
theorem fields_append_cons (sep : Char) (front rest : List Char) :
    fields sep (front ++ sep :: rest) = fields sep front ++ fields sep rest := by
  induction front with
  | nil => simp [fields]
  | cons c front ih =>
    rw [List.cons_append, fields, fields, ih]
    split
    · rfl
    · obtain ⟨field, others, hfields⟩ := List.exists_cons_of_ne_nil (fields_ne_nil sep front)
      rw [hfields]
      rfl

/-- A text without the separator is one field. -/
theorem fields_of_not_mem {sep : Char} {text : List Char} (h : sep ∉ text) :
    fields sep text = [text] := by
  induction text with
  | nil => rfl
  | cons c rest ih =>
    rw [List.mem_cons, not_or] at h
    rw [fields, if_neg (Ne.symm h.1), ih h.2]

/-- The separator stands between fields and not in them. -/
theorem not_mem_of_mem_fields {sep : Char} {text field : List Char}
    (h : field ∈ fields sep text) : sep ∉ field := by
  induction text generalizing field with
  | nil =>
    obtain rfl : field = [] := by simpa [fields] using h
    simp
  | cons c rest ih =>
    rw [fields] at h
    split at h
    · rcases List.mem_cons.1 h with rfl | h
      · simp
      · exact ih h
    · next hc =>
      -- Another character than the separator only makes the first field longer.
      obtain ⟨first, others, hfields⟩ := List.exists_cons_of_ne_nil (fields_ne_nil sep rest)
      rw [hfields] at h ih
      rcases List.mem_cons.1 h with rfl | h
      · rw [List.mem_cons, not_or]
        exact ⟨Ne.symm hc, ih List.mem_cons_self⟩
      · exact ih (List.mem_cons_of_mem _ h)

/-- A joined text has the characters of its parts, and separators. -/
theorem mem_intercalate_iff {sep c : Char} (h : c ≠ sep) {texts : List (List Char)} :
    c ∈ [sep].intercalate texts ↔ ∃ text ∈ texts, c ∈ text := by
  induction texts with
  | nil => simp [List.intercalate]
  | cons text others ih =>
    cases others with
    | nil => simp [List.intercalate]
    | cons second others =>
      rw [List.intercalate_cons_cons, List.mem_append, List.mem_append, ih, List.mem_singleton]
      simp [h]

/-- Texts that are joined with a separator come apart again. -/
theorem fields_intercalate {sep : Char} {texts : List (List Char)} (hne : texts ≠ [])
    (h : ∀ text ∈ texts, sep ∉ text) : fields sep ([sep].intercalate texts) = texts := by
  induction texts with
  | nil => exact absurd rfl hne
  | cons first rest ih =>
    rw [List.forall_mem_cons] at h
    cases rest with
    | nil => rw [List.intercalate_singleton, fields_of_not_mem h.1]
    | cons second others =>
      rw [List.intercalate_cons_cons, List.append_assoc, List.singleton_append, fields_append_cons,
        fields_of_not_mem h.1, ih (List.cons_ne_nil _ _) h.2, List.singleton_append]

end Text
end PciCatalog
