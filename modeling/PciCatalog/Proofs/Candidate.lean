import PciCatalog.Entry.Line
import PciCatalog.Proofs.Splitting

/-!
# Candidate lines

Which lines can make an entry, and what they say, by the grammar of a names file alone.  Main
statement: the reader of single lines accepts exactly the candidates.  Comments and blank lines need
no rule of their own for indented lines: neither of them has an identifier.
-/

namespace PciCatalog
namespace Line

/-- The identifier and the name of a body are the two sides of its first double space, without the
blanks around them; the side of the identifier is not blank. -/
def HasParts (body : List Char) (ident name : String) : Prop :=
  ∃ before after, Text.FirstDoubleSpace body before after ∧
    (∃ c ∈ before, Text.isBlank c = false) ∧
    ident = String.ofList (Text.trim before) ∧ name = String.ofList (Text.trim after)

/-- The candidates among texts without line ends. -/
inductive Candidate : List Char → Line → Prop
  | classLine {body : List Char} {ident name : String} (parts : HasParts (' ' :: body) ident name) :
      Candidate ('C' :: ' ' :: body) (.classLine ident name)
  | indented {depth : Nat} {body : List Char} {ident name : String}
      (shallow : depth ≤ 2) (exact : body.head? ≠ some '\t')
      (noComment : (List.replicate depth '\t' ++ body).head? ≠ some '#')
      (noClass : ¬ ['C', ' '] <+: List.replicate depth '\t' ++ body)
      (parts : HasParts body ident name) :
      Candidate (List.replicate depth '\t' ++ body) (.indented depth ident name)

/-- A line reads what the candidate reads that is left of it without its line end. -/
def Reads (text : List Char) (line : Line) : Prop :=
  Candidate (Text.dropTail isLineEnd text) line

/-- Whether a candidate opens a section: a class line, or a line without tabs. -/
def IsTopLevel : Line → Prop
  | .classLine _ _ => True
  | .indented depth _ _ => depth = 0

/-- Whether a candidate stands directly below the top level. -/
def IsSecondLevel : Line → Prop
  | .classLine _ _ => False
  | .indented depth _ _ => depth = 1

theorem identAndName?_eq_some_iff {body : List Char} {ident name : String} :
    identAndName? body = some (ident, name) ↔ HasParts body ident name := by
  unfold identAndName? HasParts
  rw [Option.bind_eq_some_iff]
  constructor
  · rintro ⟨⟨before, after⟩, hcut, hparts⟩
    dsimp only at hparts
    -- A cut before anything but blanks gives no identifier.
    split at hparts
    · contradiction
    · next hblank =>
      obtain ⟨rfl, rfl⟩ := Prod.mk.inj (Option.some.inj hparts)
      refine ⟨before, after, Text.cutAtDoubleSpace_eq_some_iff.1 hcut, ?_, rfl, rfl⟩
      rw [List.isEmpty_iff, Text.trim_eq_nil_iff] at hblank
      simpa using hblank
  · rintro ⟨before, after, hcut, hblank, rfl, rfl⟩
    refine ⟨(before, after), Text.cutAtDoubleSpace_eq_some_iff.2 hcut, ?_⟩
    have hident : ¬ (Text.trim before).isEmpty = true := by
      rw [List.isEmpty_iff, Text.trim_eq_nil_iff]
      simpa using hblank
    simp only [if_neg hident]

/-- A body with parts is not blank. -/
theorem HasParts.not_blank {body : List Char} {ident name : String} (h : HasParts body ident name) :
    Text.trim body ≠ [] := by
  obtain ⟨before, after, hcut, ⟨c, hc, hblank⟩, -, -⟩ := h
  intro hbody
  have hall := Text.trim_eq_nil_iff.1 hbody c (by rw [hcut.split]; simp [hc])
  rw [hblank] at hall
  contradiction

/-- A text that starts no class line is read by its tabs. -/
theorem readBody?_of_not_class {text : List Char} (h : ¬ ['C', ' '] <+: text) :
    readBody? text =
      if Text.tabCount text ≤ 2 then
        (identAndName? (text.drop (Text.tabCount text))).map fun (ident, name) =>
          .indented (Text.tabCount text) ident name
      else
        none := by
  apply readBody?.eq_2
  rintro rest rfl
  exact h ⟨rest, rfl⟩

/-- Without comments, the candidates are what the reader of bodies accepts. -/
theorem readBody?_eq_some_iff {text : List Char} {line : Line} (hcomment : text.head? ≠ some '#') :
    readBody? text = some line ↔ Candidate text line := by
  constructor
  · intro h
    -- The reader looks for the mark of a class line first and counts tabs only without it.
    by_cases hclass : ['C', ' '] <+: text
    · obtain ⟨body, rfl⟩ := hclass
      obtain ⟨⟨ident, name⟩, hparts, rfl⟩ := Option.map_eq_some_iff.1 h
      exact .classLine (identAndName?_eq_some_iff.1 hparts)
    · rw [readBody?_of_not_class hclass] at h
      split at h
      · next hshallow =>
        obtain ⟨⟨ident, name⟩, hparts, rfl⟩ := Option.map_eq_some_iff.1 h
        obtain ⟨htext, hexact⟩ := Text.replicate_tabCount_append_drop text
        have hcandidate := Candidate.indented hshallow hexact (by rwa [← htext])
          (by rwa [← htext]) (identAndName?_eq_some_iff.1 hparts)
        rwa [← htext] at hcandidate
      · contradiction
  · intro h
    cases h with
    | classLine parts =>
      show (identAndName? _).map _ = _
      rw [identAndName?_eq_some_iff.2 parts]
      rfl
    | @indented depth body ident name shallow exact noComment noClass parts =>
      rw [readBody?_of_not_class noClass, Text.tabCount_replicate_append depth exact,
        if_pos shallow, List.drop_left' List.length_replicate, identAndName?_eq_some_iff.2 parts]
      rfl

/-- A candidate is neither blank nor a comment. -/
theorem Candidate.not_skipped {text : List Char} {line : Line} (h : Candidate text line) :
    ¬ ((Text.trim text).isEmpty || text.head? = some '#') = true := by
  simp only [Bool.or_eq_true, List.isEmpty_iff, decide_eq_true_eq, not_or]
  cases h with
  | classLine parts =>
    refine ⟨?_, by simp⟩
    intro hblank
    have hC := Text.trim_eq_nil_iff.1 hblank 'C' (by simp)
    exact absurd hC (by decide)
  | indented shallow exact noComment noClass parts =>
    refine ⟨?_, noComment⟩
    intro hblank
    apply parts.not_blank
    rw [Text.trim_eq_nil_iff] at hblank ⊢
    exact fun c hc => hblank c (List.mem_append_right _ hc)

/-- The reader of lines accepts exactly the candidates, and reads what they say. -/
theorem read?_eq_some_iff {text : List Char} {line : Line} :
    read? text = some line ↔ Reads text line := by
  unfold read? Reads
  dsimp only
  constructor
  · intro h
    split at h
    · contradiction
    · next hskip =>
      apply (readBody?_eq_some_iff _).1 h
      intro hcomment
      exact hskip (by simp [hcomment])
  · -- The test for blank lines and comments never applies to a candidate.
    intro h
    have hskip := h.not_skipped
    rw [if_neg hskip]
    apply (readBody?_eq_some_iff _).2 h
    intro hcomment
    exact hskip (by simp [hcomment])

/-- A line reads one thing at most. -/
theorem Reads.unique {text : List Char} {line other : Line} (h : Reads text line)
    (h' : Reads text other) : line = other :=
  Option.some.inj ((read?_eq_some_iff.2 h).symm.trans (read?_eq_some_iff.2 h'))

theorem Reads.depth_le {text : List Char} {depth : Nat} {ident name : String}
    (h : Reads text (.indented depth ident name)) : depth ≤ 2 := by
  unfold Reads at h
  generalize Text.dropTail isLineEnd text = kept at h
  cases h with
  | indented shallow => exact shallow

end Line
end PciCatalog
