import PciCatalog.Proofs.Candidate
import PciCatalog.Proofs.Catalog

/-!
# A record's line says what the record says

The line of a record is a candidate of the right level, and its parts are the identifier as written
and the name.  Comments and blank lines are no candidates.
-/

namespace PciCatalog
namespace Text

theorem HasLines.plain {text : List Char} {lines : List (List Char)} (h : HasLines text lines) :
    ∀ line ∈ lines, Plain line := by
  induction h with
  | nil => simp
  | last plain => simpa using plain
  | cons plain _ _ ih =>
    intro line hline
    rcases List.mem_cons.1 hline with rfl | hline
    · exact plain
    · exact ih line hline

end Text

namespace Line

/-- A text on one line is read as it stands: it has no line end to drop. -/
theorem reads_of_plain {text : List Char} {line : Line} (plain : Text.Plain text) :
    Reads text line ↔ Candidate text line := by
  have hdrop : Text.dropTail isLineEnd text = text := by
    apply Text.dropTail_eq_self
    intro c hc
    simp [isLineEnd, plain c (List.mem_of_mem_getLast? hc)]
  rw [Reads, hdrop]

/-- The parts of a body are found when it holds no double space before the one that ends its
identifier. -/
theorem hasParts_of_written {before name : List Char} (first : ¬ [' ', ' '] <:+: before ++ [' '])
    (hword : ∃ c ∈ before, Text.isBlank c = false) (hname : Text.Trimmed name) (gap trail : Nat) :
    HasParts (before ++ (List.replicate (gap + 2) ' ' ++ (name ++ List.replicate trail ' ')))
      (String.ofList (Text.trim before)) (String.ofList name) := by
  refine ⟨before, List.replicate gap ' ' ++ (name ++ List.replicate trail ' '), ⟨?_, first⟩, hword,
    rfl, ?_⟩
  · rw [List.replicate_succ, List.replicate_succ, List.cons_append, List.cons_append]
  · have hspaces : ∀ (n : Nat), ∀ c ∈ List.replicate n ' ', Text.isBlank c = true := by
      intro n c hc
      rw [List.eq_of_mem_replicate hc]
      decide
    rw [← List.append_assoc, Text.trim_pad (hspaces gap) hname (hspaces trail)]

end Line

namespace Catalog

/-- An identifier starts with two characters that are neither blanks nor a comment sign. -/
def StartsIdent (ident : List Char) : Prop :=
  ∃ c d rest, ident = c :: d :: rest ∧ c ∈ Code.spellingChars ∧ d ∈ Code.spellingChars

theorem startsIdent_of_spells {n : Nat} {code : Code (n + 2)} {text : List Char}
    (h : code.Spells text) : StartsIdent text := by
  have hlength := Code.length_le_of_spells h
  have hchars := Code.mem_spellingChars_of_spells h
  match text with
  | [] | [_] => simp at hlength
  | c :: d :: rest => exact ⟨c, d, rest, rfl, hchars c (by simp), hchars d (by simp)⟩

theorem StartsIdent.append {ident : List Char} (h : StartsIdent ident) (rest : List Char) :
    StartsIdent (ident ++ rest) := by
  obtain ⟨c, d, tail, rfl, hc, hd⟩ := h
  exact ⟨c, d, tail ++ rest, rfl, hc, hd⟩

/-- A body behind up to two tabs is a candidate when it starts with an identifier. -/
theorem candidate_of_startsIdent {depth : Nat} {body : List Char} {ident name : String}
    (shallow : depth ≤ 2) (hstart : StartsIdent body) (parts : Line.HasParts body ident name) :
    Line.Candidate (List.replicate depth '\t' ++ body) (.indented depth ident name) := by
  obtain ⟨c, d, rest, rfl, hc, hd⟩ := hstart
  -- An identifier starts with two characters that no comment, tab or class line starts with.
  have hno : ∀ c ∈ Code.spellingChars, c ≠ '\t' ∧ c ≠ '#' ∧ c ≠ ' ' :=
    Text.forall_mem_of_all (by decide)
  obtain ⟨htab, hcomment, -⟩ := hno c hc
  have hspace := (hno d hd).2.2
  refine .indented shallow ?_ ?_ ?_ parts
  · simpa using htab
  · cases depth with
    | zero => simpa using hcomment
    | succ depth => simp [List.replicate_succ]
  · cases depth with
    | zero =>
      rintro ⟨tail, htail⟩
      simp only [List.replicate_zero, List.nil_append, List.cons_append, List.cons.injEq] at htail
      exact hspace htail.2.1.symm
    | succ depth =>
      rintro ⟨tail, htail⟩
      simp [List.replicate_succ] at htail

/-- The identifier of a record, with one or two words, is cut off at the spaces behind it. -/
theorem ident_of_spelledBy {p : Position} {ident : List Char} (h : p.SpelledBy ident) :
    Text.Trimmed ident ∧ StartsIdent ident ∧ ¬ [' ', ' '] <:+: ident ++ [' '] := by
  have hword {n : Nat} {code : Code (n + 2)} (h : code.Spells ident) :
      Text.Trimmed ident ∧ StartsIdent ident ∧ ¬ [' ', ' '] <:+: ident ++ [' '] :=
    have hword := Code.isWord_of_spells h
    ⟨hword.trimmed, startsIdent_of_spells h, hword.no_double_space⟩
  cases p with
  | vendor v => exact hword h
  | device v d => exact hword h
  | baseClass b => exact hword h
  | subclass b s => exact hword h
  | progIf b s p => exact hword h
  | subsystem v d sv sd =>
    obtain ⟨subvendor, subdevice, hsv, hsd, rfl⟩ := h
    have hfront := Code.isWord_of_spells hsv
    have hback := Code.isWord_of_spells hsd
    -- Between the two words of a subsystem stands a single space.
    refine ⟨Text.trimmed_two hfront hback, (startsIdent_of_spells hsv).append _, ?_⟩
    rw [List.append_assoc]
    intro hin
    exact hback.no_double_space_cons (Text.double_space_infix_of_append hfront.no_space hin)

/-- How the line of a record is read. -/
def Position.line : Position → String → String → Line
  | vendor _ => .indented 0
  | device _ _ => .indented 1
  | subsystem _ _ _ _ => .indented 2
  | baseClass _ => .classLine
  | subclass _ _ => .indented 1
  | progIf _ _ _ => .indented 2

/-- The line of a record reads its identifier and its name. -/
theorem Record.WrittenAs.reads {r : Record} {line : List Char} (h : r.WrittenAs line)
    (plain : Text.Plain line) :
    ∃ ident, r.position.SpelledBy ident ∧
      Line.Reads line (r.position.line (String.ofList ident) (String.ofList r.name.text)) := by
  obtain ⟨ident, gap, trail, hident, rfl⟩ := h
  refine ⟨ident, hident, (Line.reads_of_plain plain).2 ?_⟩
  obtain ⟨htrim, hstart, hsingle⟩ := ident_of_spelledBy hident
  have hmem : ∃ c ∈ ident, Text.isBlank c = false := by
    have hblank : ∀ c ∈ Code.spellingChars, Text.isBlank c = false :=
      Text.forall_mem_of_all (by decide)
    obtain ⟨c, d, rest, rfl, hc, -⟩ := hstart
    exact ⟨c, List.mem_cons_self, hblank c hc⟩
  have hparts := Line.hasParts_of_written hsingle hmem r.name.trimmed gap trail
  rw [htrim.trim_eq] at hparts
  have hindented {depth : Nat} (shallow : depth ≤ 2) :=
    candidate_of_startsIdent shallow (hstart.append _) hparts
  rcases r with ⟨position, name⟩
  cases position with
  | vendor v => exact hindented (Nat.zero_le 2)
  | device v d => exact hindented (Nat.le_succ 1)
  | subsystem v d sv sd => exact hindented (Nat.le_refl 2)
  | subclass b s => exact hindented (Nat.le_succ 1)
  | progIf b s p => exact hindented (Nat.le_refl 2)
  | baseClass b =>
    -- The space of the margin counts as part of the identifier until that is trimmed.
    have hword := Code.isWord_of_spells (show b.Spells ident from hident)
    obtain ⟨c, hc, hblank⟩ := hmem
    have hparts := Line.hasParts_of_written hword.no_double_space_cons
      ⟨c, List.mem_cons_of_mem _ hc, hblank⟩ name.trimmed gap trail
    have hspace : ∀ c ∈ [' '], Text.isBlank c = true := Text.forall_mem_of_all (by decide)
    have htrim' := @Text.trim_pad [' '] ident [] hspace htrim (by simp)
    rw [List.append_nil] at htrim'
    rw [show ' ' :: ident = [' '] ++ ident from rfl, htrim'] at hparts
    exact .classLine hparts

/-- Comments and blank lines read nothing. -/
theorem Noise.not_reads {text : List Char} (h : Noise text) (plain : Text.Plain text)
    (line : Line) : ¬ Line.Reads text line := by
  intro hreads
  have hskip := ((Line.reads_of_plain plain).1 hreads).not_skipped
  simp only [Bool.or_eq_true, List.isEmpty_iff, decide_eq_true_eq, not_or] at hskip
  rcases h with hcomment | hblank
  · exact hskip.2 hcomment
  · exact hskip.1 (Text.trim_eq_nil_iff.2 hblank)

end Catalog
end PciCatalog
