import PciCatalog.Database.Loading
import Mathlib.Data.List.Basic

/-!
# Cutting bytes into lines

The bytes of a file are cut into lines at LF, CR LF and CR.  The relation `CutInto` tells where, and
facts about the lines of a file are proved by induction on it.  Main statements: bytes are cut into
one list of lines (`cutInto_iff`), the lines of two files one behind the other are the lines of both
(`byteLines_append`), and a line can be replaced without any effect on the others
(`CutInto.exists_replace`).
-/

namespace PciCatalog
namespace Text

/-- Whether bytes have no line end in them. -/
def PlainBytes (line : List UInt8) : Prop :=
  ∀ b ∈ line, b ≠ 10 ∧ b ≠ 13

instance : DecidablePred PlainBytes :=
  fun line => List.decidableBAll (fun b => b ≠ 10 ∧ b ≠ 13) line

section Cutting

variable {line : List UInt8} (plain : PlainBytes line)

include plain

/-- Bytes other than line ends are collected in reverse. -/
theorem byteLinesFrom_append (begun rest : List UInt8) :
    byteLinesFrom begun (line ++ rest) = byteLinesFrom (line.reverse ++ begun) rest := by
  induction line generalizing begun with
  | nil => rfl
  | cons b line ih =>
    obtain ⟨hlf, hcr⟩ := plain b List.mem_cons_self
    have hcr' : ∀ tail, b = 13 → line ++ rest = 10 :: tail → False := fun _ hb _ => hcr hb
    rw [List.cons_append, byteLinesFrom.eq_3 _ _ _ hcr', if_neg (by simp [hlf, hcr]),
      ih fun x hx => plain x (List.mem_cons_of_mem b hx)]
    simp

theorem byteLines_lf (rest : List UInt8) :
    byteLines (line ++ 10 :: rest) = line :: byteLines rest := by
  rw [byteLines, byteLinesFrom_append plain, byteLinesFrom.eq_3 _ _ _ (by simp),
    if_pos (by decide)]
  simp [byteLines]

theorem byteLines_crlf (rest : List UInt8) :
    byteLines (line ++ 13 :: 10 :: rest) = line :: byteLines rest := by
  rw [byteLines, byteLinesFrom_append plain, byteLinesFrom]
  simp [byteLines]

theorem byteLines_cr {rest : List UInt8} (hrest : rest.head? ≠ some 10) :
    byteLines (line ++ 13 :: rest) = line :: byteLines rest := by
  have hcrlf : ∀ tail, (13 : UInt8) = 13 → rest = 10 :: tail → False := by
    rintro tail - rfl
    exact hrest rfl
  rw [byteLines, byteLinesFrom_append plain, byteLinesFrom.eq_3 _ _ _ hcrlf, if_pos (by decide)]
  simp [byteLines]

theorem byteLines_last : byteLines line = if line = [] then [] else [line] := by
  have hbytes := byteLinesFrom_append plain [] []
  rw [List.append_nil, List.append_nil] at hbytes
  rw [byteLines, hbytes, byteLinesFrom]
  simp

end Cutting

/-- The bytes of the line ends LF, CR LF and CR. -/
def byteLineEnds : List (List UInt8) := [[10], [13, 10], [13]]

/-- Bytes are cut into lines at their line ends, where CR LF is one line end; a last line without a
line end is not empty. -/
inductive CutInto : List UInt8 → List (List UInt8) → Prop
  | nil : CutInto [] []
  | last {line : List UInt8} (plain : PlainBytes line) (nonempty : line ≠ []) :
      CutInto line [line]
  | cons {line ending rest : List UInt8} {lines : List (List UInt8)} (plain : PlainBytes line)
      (ends : ending ∈ byteLineEnds) (whole : ending = [13] → rest.head? ≠ some 10)
      (others : CutInto rest lines) : CutInto (line ++ ending ++ rest) (line :: lines)

theorem cutInto_byteLinesFrom {line : List UInt8} (plain : PlainBytes line) (bytes : List UInt8) :
    CutInto (line.reverse ++ bytes) (byteLinesFrom line bytes) := by
  have hreverse : ∀ {line : List UInt8}, PlainBytes line → PlainBytes line.reverse :=
    fun h b hb => h b (List.mem_reverse.1 hb)
  have hempty : PlainBytes [] := by simp [PlainBytes]
  -- The bytes collected for the line so far are in reverse, and none of them is a line end.
  fun_induction byteLinesFrom line bytes with
  | case1 line hline =>
    obtain rfl := List.isEmpty_iff.1 hline
    exact .nil
  | case2 line hline =>
    rw [List.append_nil]
    exact .last (hreverse plain) (by simpa using hline)
  | case3 line rest ih =>
    have hends : [13, 10] ∈ byteLineEnds := by simp [byteLineEnds]
    have hcut := CutInto.cons (hreverse plain) hends (by simp) (ih hempty)
    simpa using hcut
  | case4 line b rest hcrlf hend ih =>
    have hends : [b] ∈ byteLineEnds := by
      simp only [Bool.or_eq_true, decide_eq_true_eq] at hend
      rcases hend with rfl | rfl <;> simp [byteLineEnds]
    have hwhole : [b] = [13] → rest.head? ≠ some 10 := by
      intro hb hhead
      obtain ⟨tail, htail⟩ := List.head?_eq_some_iff.1 hhead
      exact hcrlf tail (by simpa using hb) htail
    have hcut := CutInto.cons (hreverse plain) hends hwhole (ih hempty)
    simpa using hcut
  | case5 line b rest hcrlf hend ih =>
    have hb : b ≠ 10 ∧ b ≠ 13 := by simpa using hend
    have hcut := ih (List.forall_mem_cons.2 ⟨hb, plain⟩)
    simpa using hcut

variable {bytes : List UInt8}

theorem CutInto.byteLines_eq {lines : List (List UInt8)} (h : CutInto bytes lines) :
    byteLines bytes = lines := by
  induction h with
  | nil => rfl
  | last plain nonempty => rw [byteLines_last plain, if_neg nonempty]
  | @cons line ending rest lines plain ends whole others ih =>
    simp only [byteLineEnds, List.mem_cons, List.not_mem_nil, or_false] at ends
    rw [List.append_assoc, ← ih]
    rcases ends with rfl | rfl | rfl
    · exact byteLines_lf plain rest
    · exact byteLines_crlf plain rest
    · exact byteLines_cr plain (whole rfl)

/-- Bytes are cut into one list of lines. -/
theorem cutInto_iff {lines : List (List UInt8)} :
    CutInto bytes lines ↔ byteLines bytes = lines := by
  constructor
  · exact CutInto.byteLines_eq
  · rintro rfl
    exact @cutInto_byteLinesFrom [] (by simp [PlainBytes]) bytes

/-- Behind a line that is not empty, or behind anything that does not start with LF, no LF comes
first. -/
theorem head?_append_line_ne {front line : List UInt8} (rest : List UInt8) (plain : PlainBytes line)
    (hline : line ≠ []) (hne : front.head? ≠ some 10) :
    (front ++ line ++ rest).head? ≠ some 10 := by
  cases front with
  | cons b front => simpa using hne
  | nil =>
    obtain ⟨b, line, rfl⟩ := List.exists_cons_of_ne_nil hline
    simpa using (plain b List.mem_cons_self).1

/-- A line of a file can be replaced by another one that is not empty; the other lines stay. -/
theorem CutInto.exists_replace {bytes line : List UInt8} {earlier later : List (List UInt8)}
    (h : CutInto bytes (earlier ++ line :: later)) :
    ∃ front rest, bytes = front ++ line ++ rest ∧ CutInto front earlier ∧ PlainBytes line ∧
      ∀ other, PlainBytes other → other ≠ [] →
        CutInto (front ++ other ++ rest) (earlier ++ other :: later) := by
  induction earlier generalizing bytes with
  | nil =>
    rw [List.nil_append] at h
    cases h with
    | last plain _ =>
      refine ⟨[], [], by simp, .nil, plain, fun other hplain hother => ?_⟩
      simpa using CutInto.last hplain hother
    | @cons _ ending rest _ plain ends whole others =>
      refine ⟨[], ending ++ rest, by simp, .nil, plain, fun other hplain _ => ?_⟩
      simpa using CutInto.cons hplain ends whole others
  | cons first earlier ih =>
    rw [List.cons_append] at h
    generalize hlines : earlier ++ line :: later = lines at h
    cases h with
    | last _ _ => simp at hlines
    | @cons _ ending rest _ plain ends whole others =>
      subst hlines
      obtain ⟨front, behind, rfl, hfront, hline, hreplace⟩ := ih others
      -- A line end CR stays one by itself: no line starts with LF.
      have hfrontHead : ending = [13] → front.head? ≠ some 10 := by
        intro hcr hlf
        apply whole hcr
        cases front with
        | nil => simp at hlf
        | cons b front => simpa using hlf
      refine ⟨first ++ ending ++ front, behind, by simp, .cons plain ends hfrontHead hfront, hline,
        fun other hplain hother => ?_⟩
      have hcut := CutInto.cons plain ends
        (fun hcr => head?_append_line_ne behind hplain hother (hfrontHead hcr))
        (hreplace other hplain hother)
      simpa using hcut

/-- Whether bytes end with a line end. -/
def Closed (bytes : List UInt8) : Prop :=
  bytes.getLast? = some 10 ∨ bytes.getLast? = some 13

instance : DecidablePred Closed := fun bytes =>
  inferInstanceAs (Decidable (bytes.getLast? = some 10 ∨ bytes.getLast? = some 13))

/-- Behind a line end a new line starts, unless the line end is a CR and a LF follows it. -/
theorem CutInto.append {front back : List UInt8} {lines others : List (List UInt8)}
    (h : CutInto front lines) (closed : front = [] ∨ Closed front) (hback : back.head? ≠ some 10)
    (h' : CutInto back others) : CutInto (front ++ back) (lines ++ others) := by
  induction h with
  | nil => exact h'
  | @last line plain nonempty =>
    -- The last byte of an open line is no line end.
    rcases closed.resolve_left nonempty with hlf | hcr
    · exact absurd rfl (plain 10 (List.mem_of_getLast? hlf)).1
    · exact absurd rfl (plain 13 (List.mem_of_getLast? hcr)).2
  | @cons line ending rest lines plain ends whole _ ih =>
    have hrest : rest = [] ∨ Closed rest := by
      by_cases hnil : rest = []
      · exact .inl hnil
      · have hclosed := closed.resolve_left (by simp [hnil])
        rw [Closed, List.getLast?_append_of_ne_nil _ hnil] at hclosed
        exact .inr hclosed
    have hwhole : ending = [13] → (rest ++ back).head? ≠ some 10 := by
      intro hcr
      cases rest with
      | nil => exact hback
      | cons b rest => exact whole hcr
    rw [List.append_assoc, List.cons_append]
    exact .cons plain ends hwhole (ih hrest)

theorem byteLines_append {front back : List UInt8} (h : Closed front)
    (hback : back.head? ≠ some 10) :
    byteLines (front ++ back) = byteLines front ++ byteLines back :=
  ((cutInto_iff.2 rfl).append (.inr h) hback (cutInto_iff.2 rfl)).byteLines_eq

end Text
end PciCatalog
