import PciCatalog.Entry
import PciCatalog.Proofs.LowerCase

/-!
# Normal forms

What the normal form of an identifier looks like, and when it is its own normal form.  Every normal
form is in lower case.  Main statements: the normal form of a regular identifier is plain, plain
texts are fixed points of the normal form, and plain texts in a row make plain texts.

Only one mark is removed from an identifier, and nothing is trimmed behind it.  What is left of an
irregular identifier may therefore be empty, start with a blank, or have a mark of its own.
-/

namespace PciCatalog
namespace Text

theorem isBlank_head?_dropWhile (text : List Char) :
    ∀ c ∈ (text.dropWhile isBlank).head?, isBlank c = false := by
  intro c hc
  have hhead := List.head?_dropWhile_not isBlank text
  rw [hc] at hhead
  exact hhead

theorem dropTail_prefix (p : Char → Bool) (text : List Char) : dropTail p text <+: text := by
  rw [← List.reverse_suffix, dropTail, List.reverse_reverse]
  exact List.dropWhile_suffix p

/-- Trimming leaves no blank at either end. -/
theorem trimmed_trim (text : List Char) : Trimmed (trim text) := by
  constructor
  · intro c hc
    obtain ⟨tail, htail⟩ := dropTail_prefix isBlank (text.dropWhile isBlank)
    apply isBlank_head?_dropWhile text c
    rw [← htail, List.head?_append, show (dropTail isBlank _).head? = some c from hc]
    rfl
  · intro c hc
    rw [trim, dropTail, List.getLast?_reverse] at hc
    exact isBlank_head?_dropWhile _ c hc

theorem Trimmed.append {a b : List Char} (ha : Trimmed a) (hb : Trimmed b) (hane : a ≠ [])
    (hbne : b ≠ []) : Trimmed (a ++ b) := by
  constructor
  · rw [List.head?_append_of_ne_nil a hane]
    exact ha.1
  · rw [List.getLast?_append_of_ne_nil a hbne]
    exact hb.2

end Text

namespace Ident

/-- Whether a text starts with a mark. -/
def Marked (text : List Char) : Prop :=
  ['0', 'x'] <+: text

instance : DecidablePred Marked := fun text => inferInstanceAs (Decidable (_ <+: text))

theorem dropMark_of_not_marked {text : List Char} (h : ¬ Marked text) : dropMark text = text := by
  apply dropMark.eq_2
  rintro rest rfl
  exact h ⟨rest, rfl⟩

theorem dropMark_suffix (text : List Char) : dropMark text <:+ text := by
  by_cases h : Marked text
  · obtain ⟨rest, rfl⟩ := h
    exact ⟨['0', 'x'], rfl⟩
  · rw [dropMark_of_not_marked h]

/-- Normal forms are in lower case. -/
theorem settled_of_mem_normalForm {text : List Char} : ∀ c ∈ normalForm text, Text.Settled c :=
  fun c hc => Text.settled_of_mem_lowerFrom c ((dropMark_suffix _).subset hc)

/-- A text that can be asked for as it is: in lower case, without blanks at its ends, without a mark
and not empty. -/
structure Plain (text : List Char) : Prop where
  settled : ∀ c ∈ text, Text.Settled c
  trimmed : Text.Trimmed text
  unmarked : ¬ Marked text
  nonempty : text ≠ []

/-- An identifier is regular when something follows its mark, if it has one, and neither a blank nor
a further mark follows at once. -/
def Regular (ident : List Char) : Prop :=
  ∀ rest, Text.lower (Text.trim ident) = '0' :: 'x' :: rest →
    rest ≠ [] ∧ (∀ c ∈ rest.head?, Text.isBlank c = false) ∧ ¬ Marked rest

namespace Plain

variable {text a b : List Char}

/-- Plain texts are their own normal forms. -/
theorem normalForm_eq (h : Plain text) : normalForm text = text := by
  rw [normalForm, h.trimmed.trim_eq, Text.lower_eq_self_iff.2 h.settled,
    dropMark_of_not_marked h.unmarked]

theorem normalize_eq {key : String} (h : Plain key.toList) : normalize key = key := by
  rw [normalize, h.normalForm_eq, String.ofList_toList]

/-- The normal form of a regular identifier that is not blank is plain. -/
theorem of_regular (hblank : Text.trim text ≠ []) (h : Regular text) :
    Plain (normalForm text) := by
  have htrimmed : Text.Trimmed (Text.lower (Text.trim text)) := (Text.trimmed_trim text).lower
  by_cases hmarked : Marked (Text.lower (Text.trim text))
  · obtain ⟨rest, hrest⟩ := hmarked
    obtain ⟨hne, hhead, hunmarked⟩ := h rest hrest.symm
    have hform : normalForm text = rest := by rw [normalForm, ← hrest]; rfl
    -- What is behind the mark ends where the text ends.
    have hlast : ∀ c ∈ rest.getLast?, Text.isBlank c = false := by
      intro c hc
      apply htrimmed.2
      rw [← hrest, List.getLast?_append_of_ne_nil _ hne]
      exact hc
    exact ⟨settled_of_mem_normalForm, by rw [hform]; exact ⟨hhead, hlast⟩, by rwa [hform],
      by rwa [hform]⟩
  · have hform : normalForm text = Text.lower (Text.trim text) := dropMark_of_not_marked hmarked
    have hne : Text.lower (Text.trim text) ≠ [] := mt Text.lowerFrom_eq_nil_iff.1 hblank
    exact ⟨settled_of_mem_normalForm, by rwa [hform], by rwa [hform], by rwa [hform]⟩

/-- Plain texts in a row are plain if the first has room for a mark. -/
theorem append (ha : Plain a) (hb : Plain b) (hlength : 2 ≤ a.length) : Plain (a ++ b) where
  settled := List.forall_mem_append.2 ⟨ha.settled, hb.settled⟩
  trimmed := ha.trimmed.append hb.trimmed ha.nonempty hb.nonempty
  unmarked := by
    intro hmarked
    exact ha.unmarked (List.prefix_of_prefix_length_le hmarked (List.prefix_append a b) hlength)
  nonempty := by simp [ha.nonempty]

/-- Plain texts with a colon between them are plain. -/
theorem join (ha : Plain a) (hb : Plain b) : Plain (a ++ ':' :: b) where
  settled := by
    have hcolon : Text.Settled ':' := by decide
    rw [List.forall_mem_append, List.forall_mem_cons]
    exact ⟨ha.settled, hcolon, hb.settled⟩
  trimmed := by
    constructor
    · rw [List.head?_append_of_ne_nil a ha.nonempty]
      exact ha.trimmed.1
    · rw [List.getLast?_append_of_ne_nil a (List.cons_ne_nil ':' b),
        List.getLast?_cons_of_ne_nil hb.nonempty]
      exact hb.trimmed.2
  unmarked := by
    -- A mark would have to end before the colon, for it holds no colon itself.
    intro hmarked
    cases a with
    | nil => exact ha.nonempty rfl
    | cons c a =>
      cases a with
      | nil => simp [Marked] at hmarked
      | cons d a =>
        exact ha.unmarked (List.prefix_of_prefix_length_le hmarked (List.prefix_append _ _)
          (by simp))
  nonempty := by simp

end Plain

end Ident
end PciCatalog
