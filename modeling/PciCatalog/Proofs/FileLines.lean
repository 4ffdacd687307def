import PciCatalog.Proofs.DecodedLines
import PciCatalog.Proofs.Encoding

/-!
# The lines of a file

A text file is a sequence of lines with a line end behind each, in any mixture of the three kinds;
the last line may lack it.  Such a file is cut back into its lines, but for one case: a CR before an
empty line with LF is read as one line end CR LF.  The empty line that gets lost makes no entry, so
the entries are those of the lines.
-/

namespace PciCatalog
namespace Text

/-- A text consists of some lines and their line ends. -/
inductive HasLines : List Char → List (List Char) → Prop
  | nil : HasLines [] []
  | last {line : List Char} (plain : Plain line) : HasLines line [line]
  | cons {line ending text : List Char} {lines : List (List Char)} (plain : Plain line)
      (ends : ending ∈ lineEnds) (rest : HasLines text lines) :
      HasLines (line ++ ending ++ text) (line :: lines)

/-- The text that consists of some lines, each with its line end. -/
def join (lines : List (List Char × List Char)) : List Char :=
  lines.flatMap fun line => line.1 ++ line.2

theorem hasLines_join {lines : List (List Char × List Char)}
    (h : ∀ line ∈ lines, Plain line.1 ∧ line.2 ∈ lineEnds) :
    HasLines (join lines) (lines.map Prod.fst) := by
  induction lines with
  | nil => exact .nil
  | cons line lines ih =>
    obtain ⟨plain, ends⟩ := h line List.mem_cons_self
    exact .cons plain ends (ih fun other hother => h other (List.mem_cons_of_mem line hother))

end Text

namespace Context

open Text (utf8 HasLines)

/-- The entries of a text are those of its lines. -/
theorem entries_textLines {text : List Char} {lines : List (List Char)} (h : HasLines text lines)
    (c : Context) : c.entries (Text.textLines text) = c.entries lines := by
  induction h generalizing c with
  | nil => rfl
  | @last line plain =>
    by_cases hempty : line = []
    · rw [hempty]
      rfl
    · rw [Text.textLines_last plain hempty]
  | @cons line ending text lines plain ends rest ih =>
    have hcut : ∀ {ending tail : List Char}, ending ∈ Text.lineEnds →
        (ending = ['\r'] → tail.head? ≠ some '\n') →
        (∀ c : Context, c.entries (Text.textLines tail) = c.entries lines) →
          c.entries (Text.textLines (line ++ ending ++ tail)) = c.entries (line :: lines) := by
      intro ending tail ends whole htail
      rw [Text.textLines_cons plain ends whole, entries_cons, entries_cons, htail]
    by_cases hcrlf : ending = ['\r'] ∧ text.head? = some '\n'
    · -- The line end swallows the LF of an empty line.
      obtain ⟨rfl, hhead⟩ := hcrlf
      obtain ⟨tail, rfl⟩ := List.head?_eq_some_iff.1 hhead
      have hempty : Text.textLines ('\n' :: tail) = [] :: Text.textLines tail :=
        @Text.textLines_cons [] ['\n'] tail (by simp [Text.Plain]) (by simp [Text.lineEnds])
          (by simp)
      have hline := @hcut ['\r', '\n'] tail (by simp [Text.lineEnds]) (by simp)
        fun c => by rw [← ih c, hempty]; rfl
      simpa using hline
    · exact hcut ends (fun hcr hhead => hcrlf ⟨hcr, hhead⟩) ih

/-- The entries of a file are those of its lines. -/
theorem entries_linesOf {text : List Char} {lines : List (List Char)} (h : HasLines text lines)
    (c : Context) : c.entries (Database.linesOf (utf8 text)) = c.entries lines := by
  rw [Database.linesOf_eq_textLines, Text.decodeLossy_utf8, entries_textLines h]

end Context
end PciCatalog
