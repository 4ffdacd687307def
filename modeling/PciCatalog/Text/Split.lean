/-!
# Cutting a text at a separator

Fields that one character separates, and the two parts of a text around the first double space.
-/

namespace PciCatalog
namespace Text

/-- The fields of a text that the character `sep` separates, empty fields included; there is one
field more than there are separators. -/
def fields (sep : Char) : List Char → List (List Char)
  | [] => [[]]
  | c :: rest =>
    if c = sep then
      [] :: fields sep rest
    else
      match fields sep rest with
      | [] => [[c]]
      | field :: others => (c :: field) :: others

/-- The parts before and after the first double space, if the text has one. -/
def cutAtDoubleSpace : List Char → Option (List Char × List Char)
  | [] => none
  | ' ' :: ' ' :: rest => some ([], rest)
  | c :: rest => (cutAtDoubleSpace rest).map fun cut => (c :: cut.1, cut.2)

theorem fields_ne_nil (sep : Char) (text : List Char) : fields sep text ≠ [] := by
  cases text with
  | nil => simp [fields]
  | cons c rest =>
    rw [fields]
    split
    · simp
    · split <;> simp

/-- Joining the fields with the separator gives the text back. -/
theorem intercalate_fields (sep : Char) (text : List Char) :
    [sep].intercalate (fields sep text) = text := by
  induction text with
  | nil => rfl
  | cons c rest ih =>
    rw [fields]
    split
    · next h =>
      subst h
      obtain ⟨field, others, hf⟩ := List.exists_cons_of_ne_nil (fields_ne_nil c rest)
      rw [hf] at ih ⊢
      simpa [List.intercalate] using ih
    · split
      · next hf => exact absurd hf (fields_ne_nil sep rest)
      · next field others hf =>
        rw [hf] at ih
        cases others with
        | nil => simpa [List.intercalate] using ih
        | cons f fs => simpa [List.intercalate] using ih

/-- What stands before and after the first double space makes up the text. -/
theorem eq_append_of_cutAtDoubleSpace {text before after : List Char}
    (h : cutAtDoubleSpace text = some (before, after)) :
    text = before ++ ' ' :: ' ' :: after := by
  fun_induction cutAtDoubleSpace text generalizing before with
  | case1 => simp at h
  | case2 rest =>
    simp only [Option.some.injEq, Prod.mk.injEq] at h
    simp [← h.1, ← h.2]
  | case3 c rest _ ih =>
    obtain ⟨⟨b, a⟩, hcut, heq⟩ := Option.map_eq_some_iff.1 h
    simp only [Prod.mk.injEq] at heq
    obtain ⟨rfl, rfl⟩ := heq
    simp [ih hcut]

end Text
end PciCatalog
