import PciCatalog.Proofs.Step

/-!
# Lines that make no entry

The reasons for which a line makes no entry: those that show in the line itself, and those that hang
on the lines before it.  Main statement: there are no other reasons (`no_entry_iff_refuses`).
-/

namespace PciCatalog

theorem Text.cutAtDoubleSpace_eq_none_iff {text : List Char} :
    cutAtDoubleSpace text = none ↔ ¬ [' ', ' '] <:+: text := by
  constructor
  · rintro h ⟨front, back, htext⟩
    -- A double space does not start here, so it is further on, where the search goes on.
    fun_induction cutAtDoubleSpace text generalizing front with
    | case1 => simp at htext
    | case2 rest => contradiction
    | case3 c rest hhead ih =>
      rw [Option.map_eq_none_iff] at h
      cases front with
      | nil =>
        obtain ⟨rfl, hrest⟩ := List.cons.inj htext
        exact hhead back rfl hrest.symm
      | cons d front =>
        obtain ⟨-, hrest⟩ := List.cons.inj htext
        exact ih h front hrest
  · intro h
    rw [Option.eq_none_iff_forall_ne_some]
    rintro ⟨before, after⟩ hcut
    exact h ⟨before, after, by simpa using (eq_append_of_cutAtDoubleSpace hcut).symm⟩

namespace Line

/-- What a line says before its line end. -/
def kept (text : List Char) : List Char :=
  Text.dropTail isLineEnd text

/-- What follows the mark of a class line, or else the tabs of a line. -/
def body (text : List Char) : List Char :=
  if ['C', ' '] <+: text then text.drop 1 else text.drop (Text.tabCount text)

theorem identAndName?_eq_none_iff {body : List Char} :
    identAndName? body = none ↔ ¬ [' ', ' '] <:+: body ∨
      ∃ before after, Text.FirstDoubleSpace body before after ∧
        ∀ c ∈ before, Text.isBlank c = true := by
  rw [identAndName?, ← Text.cutAtDoubleSpace_eq_none_iff]
  simp only [← Text.cutAtDoubleSpace_eq_some_iff, ← Text.trim_eq_nil_iff, ← List.isEmpty_iff]
  cases hcut : Text.cutAtDoubleSpace body with
  | none => simp
  | some cut =>
    obtain ⟨before, after⟩ := cut
    by_cases hblank : (Text.trim before).isEmpty = true <;> simp

theorem readBody?_eq_none_iff {text : List Char} :
    readBody? text = none ↔ 2 < Text.tabCount text ∨ identAndName? (body text) = none := by
  by_cases hclass : ['C', ' '] <+: text
  · obtain ⟨rest, rfl⟩ := hclass
    have hbody : body (['C', ' '] ++ rest) = ' ' :: rest := if_pos (List.prefix_append _ _)
    have htabs : Text.tabCount (['C', ' '] ++ rest) = 0 := rfl
    rw [hbody, htabs]
    show Option.map _ (identAndName? (' ' :: rest)) = none ↔ _
    simp
  · rw [readBody?_of_not_class hclass, body, if_neg hclass]
    split
    · next hshallow => simp [Nat.not_lt.2 hshallow]
    · next hdeep => simp [Nat.not_le.1 hdeep]

theorem read?_eq_none_iff {text : List Char} :
    read? text = none ↔ (∀ c ∈ kept text, Text.isBlank c = true) ∨ (kept text).head? = some '#' ∨
      2 < Text.tabCount (kept text) ∨ identAndName? (body (kept text)) = none := by
  rw [← readBody?_eq_none_iff, ← Text.trim_eq_nil_iff, ← or_assoc]
  show (if (Text.trim (kept text)).isEmpty || (kept text).head? = some '#' then none
    else readBody? (kept text)) = none ↔ _
  simp only [Bool.or_eq_true, List.isEmpty_iff, decide_eq_true_eq]
  split
  · next hskip => simp [hskip]
  · next hskip => simp [hskip]

end Line

namespace Context

/-- The reasons for which a line makes no entry. -/
inductive Refuses (c : Context) (text : List Char) : Prop
  | blank (empty : ∀ ch ∈ Line.kept text, Text.isBlank ch = true)
  | comment (mark : (Line.kept text).head? = some '#')
  | tooDeep (deep : 2 < Text.tabCount (Line.kept text))
  | noSeparator (joined : ¬ [' ', ' '] <:+: Line.body (Line.kept text))
  | noIdentifier {before after : List Char}
      (cut : Text.FirstDoubleSpace (Line.body (Line.kept text)) before after)
      (empty : ∀ ch ∈ before, Text.isBlank ch = true)
  | noSection {ident name : String} (reads : Line.Reads text (.indented 1 ident name))
      (missing : if c.inClass then c.baseClass = "" else c.vendor = "")
  | noParent {ident name : String} (reads : Line.Reads text (.indented 2 ident name))
      (missing : if c.inClass then c.subclass = "" else c.vendor = "" ∨ c.device = "")
  | notTwoWords {ident name : String} (reads : Line.Reads text (.indented 2 ident name))
      (vendorSection : c.inClass = false) (count : (Text.words ident.toList).length ≠ 2)

theorem no_entry_iff {c : Context} {text : List Char} :
    (c.readLine text).2 = none ↔ ∀ line, Line.read? text = some line → c.accept? line = none := by
  rw [readLine]
  cases Line.read? text with
  | none => simp
  | some line => cases h : c.accept? line <;> simp [h]

theorem subsystemKey?_eq_none_iff {ident : String} :
    subsystemKey? ident = none ↔ (Text.words ident.toList).length ≠ 2 := by
  rw [subsystemKey?]
  split
  · next hwords => simp [hwords]
  · next hwords =>
    simp only [true_iff]
    intro hlength
    obtain ⟨a, b, hab⟩ := List.length_eq_two.1 hlength
    exact hwords a b hab

/-- A candidate below the top level is refused for want of its section or parent, or when it has not
the two words of a subsystem. -/
theorem accept?_eq_none_iff {c : Context} {line : Line} :
    c.accept? line = none ↔ match line with
      | .classLine _ _ => False
      | .indented 0 _ _ => False
      | .indented 1 _ _ => if c.inClass then c.baseClass = "" else c.vendor = ""
      | .indented _ ident _ =>
        (if c.inClass then c.subclass = "" else c.vendor = "" ∨ c.device = "") ∨
          c.inClass = false ∧ (Text.words ident.toList).length ≠ 2 := by
  match line with
  | .classLine ident name => simp [accept?]
  | .indented 0 ident name => simp [accept?]
  | .indented 1 ident name =>
    rw [accept?_one]
    cases c.inClass <;> simp [acceptSubclass?, acceptDevice?]
  | .indented (depth + 2) ident name =>
    show (if c.inClass then c.acceptProgIf? ident name
      else c.acceptSubsystem? ident name) = none ↔ _
    cases c.inClass with
    | true => simp [acceptProgIf?]
    | false =>
      simp only [acceptSubsystem?, Bool.false_eq_true, if_false, ← subsystemKey?_eq_none_iff]
      by_cases hmissing : c.vendor = "" ∨ c.device = "" <;> simp [hmissing]

/-- A line that makes no entry is refused: it is no candidate, or the context does not accept it. -/
theorem refuses_of_no_entry {c : Context} {text : List Char} (h : (c.readLine text).2 = none) :
    c.Refuses text := by
  rw [no_entry_iff] at h
  cases hread : Line.read? text with
  | none =>
    rw [Line.read?_eq_none_iff, Line.identAndName?_eq_none_iff] at hread
    rcases hread with hblank | hcomment | hdeep | hjoined | ⟨before, after, hcut, hblank⟩
    · exact .blank hblank
    · exact .comment hcomment
    · exact .tooDeep hdeep
    · exact .noSeparator hjoined
    · exact .noIdentifier hcut hblank
  | some line =>
    have hrefused := accept?_eq_none_iff.1 (h line hread)
    have hreads := Line.read?_eq_some_iff.1 hread
    match line, hrefused, hreads with
    | .indented 1 ident name, hmissing, hreads => exact .noSection hreads hmissing
    | .indented 2 ident name, hrefused, hreads =>
      rcases hrefused with hmissing | ⟨hsection, hcount⟩
      · exact .noParent hreads hmissing
      · exact .notTwoWords hreads hsection hcount
    -- The reader passes on no line behind more than two tabs.
    | .indented (depth + 3) ident name, _, hreads => exact absurd hreads.depth_le (by omega)

theorem no_entry_of_unread {c : Context} {text : List Char} (h : Line.read? text = none) :
    (c.readLine text).2 = none :=
  no_entry_iff.2 (by simp [h])

theorem no_entry_of_refused {c : Context} {text : List Char} {line : Line}
    (reads : Line.Reads text line) (h : c.accept? line = none) : (c.readLine text).2 = none := by
  rw [no_entry_iff]
  intro other hother
  rwa [← reads.unique (Line.read?_eq_some_iff.1 hother)]

/-- A line makes no entry exactly for one of these reasons. -/
theorem no_entry_iff_refuses {c : Context} {text : List Char} :
    (c.readLine text).2 = none ↔ c.Refuses text := by
  refine ⟨refuses_of_no_entry, fun h => ?_⟩
  cases h with
  | blank empty => exact no_entry_of_unread (Line.read?_eq_none_iff.2 (.inl empty))
  | comment mark => exact no_entry_of_unread (Line.read?_eq_none_iff.2 (.inr (.inl mark)))
  | tooDeep deep => exact no_entry_of_unread (Line.read?_eq_none_iff.2 (.inr (.inr (.inl deep))))
  | noSeparator joined =>
    exact no_entry_of_unread (Line.read?_eq_none_iff.2
      (.inr (.inr (.inr (Line.identAndName?_eq_none_iff.2 (.inl joined))))))
  | noIdentifier cut empty =>
    exact no_entry_of_unread (Line.read?_eq_none_iff.2
      (.inr (.inr (.inr (Line.identAndName?_eq_none_iff.2 (.inr ⟨_, _, cut, empty⟩))))))
  | noSection reads missing => exact no_entry_of_refused reads (accept?_eq_none_iff.2 missing)
  | noParent reads missing =>
    exact no_entry_of_refused reads (accept?_eq_none_iff.2 (.inl missing))
  | notTwoWords reads vendorSection count =>
    exact no_entry_of_refused reads (accept?_eq_none_iff.2 (.inr ⟨vendorSection, count⟩))

end Context
end PciCatalog
