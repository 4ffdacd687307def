/-!
# Control sequences

A control sequence is an escape character, an opening bracket, parameters and a letter; terminals
take it as an order and do not show it.  Text that is not meant for a terminal loses them.
-/

namespace PciCatalog
namespace Text

/-- A character of the parameters of a control sequence. -/
def isParameter (c : Char) : Bool :=
  c = ';' || c = '?' || ('0' ≤ c && c ≤ '9')

/-- A character that ends a control sequence. -/
def isFinal (c : Char) : Bool :=
  ('a' ≤ c && c ≤ 'z') || ('A' ≤ c && c ≤ 'Z')

/-- What follows the control sequence at the start of a text, if one stands there. -/
def afterControlSequence? : List Char → Option (List Char)
  | '\x1b' :: '[' :: rest =>
    match rest.dropWhile isParameter with
    | c :: tail => if isFinal c then some tail else none
    | [] => none
  | _ => none

theorem length_afterControlSequence? {text tail : List Char}
    (h : afterControlSequence? text = some tail) : tail.length < text.length := by
  unfold afterControlSequence? at h
  split at h
  · next rest =>
    have hle := (List.dropWhile_sublist isParameter (l := rest)).length_le
    split at h
    · next hdrop =>
      rw [hdrop] at hle
      split at h
      · cases h
        simp only [List.length_cons] at hle ⊢
        omega
      · exact absurd h (by simp)
    · exact absurd h (by simp)
  · exact absurd h (by simp)

/-- The text without its control sequences. -/
def withoutControlSequences (text : List Char) : List Char :=
  match h : afterControlSequence? text with
  | some tail =>
    have := length_afterControlSequence? h
    withoutControlSequences tail
  | none =>
    match text with
    | [] => []
    | c :: rest => c :: withoutControlSequences rest
termination_by text.length

end Text
end PciCatalog
