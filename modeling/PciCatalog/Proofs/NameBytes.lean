import PciCatalog.Proofs.DecodedLines
import PciCatalog.Proofs.Step
import PciCatalog.Proofs.WrittenLine

/-!
# The bytes of a name

What stands behind the first double space of a line is the line's name and nothing else.  Neither
the kind of a line nor what it leaves in the context depends on it, and damage in its bytes ends at
the line end.  Main statement: whatever bytes are put behind the first double space of a line that
makes an entry, the file has the same entries but for the name of this one
(`name_bytes_stay_in_their_name`).
-/

namespace PciCatalog

namespace Text

variable {text body before after front : List Char}

/-! ### Texts behind the first double space -/

/-- Characters other than spaces in front do not move the first double space. -/
theorem FirstDoubleSpace.append_front (hfront : ' ' ∉ front)
    (h : FirstDoubleSpace body before after) :
    FirstDoubleSpace (front ++ body) (front ++ before) after where
  split := by rw [h.split, List.append_assoc]
  first hin := by
    rw [List.append_assoc] at hin
    exact h.first (double_space_infix_of_append hfront hin)

/-- The text starts alike whatever stands behind its first double space. -/
theorem prefix_of_same_front {mark after' : List Char} (hmark : mark.length ≤ 2)
    (h : mark <+: front ++ ' ' :: ' ' :: after') : mark <+: front ++ ' ' :: ' ' :: after := by
  have hsame : ∀ tail, front ++ ' ' :: ' ' :: tail = (front ++ [' ', ' ']) ++ tail := by simp
  have hlength : mark.length ≤ (front ++ [' ', ' ']).length := by
    rw [List.length_append]
    exact Nat.le_trans hmark (Nat.le_add_left 2 _)
  rw [hsame] at h ⊢
  exact (List.prefix_of_prefix_length_le h (List.prefix_append _ _) hlength).trans
    (List.prefix_append _ _)

end Text

namespace Line

open Text (FirstDoubleSpace)

variable {text before after : List Char} {line : Line}

/-- The line with another name. -/
def withName (name : String) : Line → Line
  | .classLine ident _ => .classLine ident name
  | .indented depth ident _ => .indented depth ident name

/-- A body keeps its identifier whatever its name is. -/
theorem HasParts.exists_replace {body : List Char} {ident name : String}
    (h : HasParts body ident name) :
    ∃ before after, FirstDoubleSpace body before after ∧ before ≠ [] ∧ ∀ after',
      HasParts (before ++ ' ' :: ' ' :: after') ident (String.ofList (Text.trim after')) := by
  obtain ⟨before, after, hcut, hident, rfl, -⟩ := h
  refine ⟨before, after, hcut, ?_, ?_⟩
  · rintro rfl
    simp at hident
  · exact fun after' => ⟨before, after', ⟨rfl, hcut.first⟩, hident, rfl, rfl⟩

/-- A candidate has a double space, and it stays a candidate of its kind with its identifier,
whatever stands behind the first. -/
theorem Candidate.exists_replace (h : Candidate text line) :
    ∃ before after, FirstDoubleSpace text before after ∧ ∀ after',
      Candidate (before ++ ' ' :: ' ' :: after')
        (line.withName (String.ofList (Text.trim after'))) := by
  cases h with
  | @classLine body ident name parts =>
    obtain ⟨front, after, hbody, hne, hparts⟩ := parts.exists_replace
    have hfirst := @FirstDoubleSpace.append_front (' ' :: body) front after ['C'] (by decide) hbody
    refine ⟨'C' :: front, after, hfirst, fun after' => ?_⟩
    obtain ⟨c, front, rfl⟩ := List.exists_cons_of_ne_nil hne
    obtain ⟨rfl, -⟩ := List.cons.inj hbody.split
    exact .classLine (hparts after')
  | @indented depth body ident name shallow exact noComment noClass parts =>
    obtain ⟨front, after, hbody, hne, hparts⟩ := parts.exists_replace
    have htabs : ' ' ∉ List.replicate depth '\t' := by simp
    refine ⟨_, after, hbody.append_front htabs, fun after' => ?_⟩
    -- The tests for comments, class lines and further tabs do not look past the double space.
    have hhead : ∀ tail, (List.replicate depth '\t' ++ front ++ tail).head? =
        (List.replicate depth '\t' ++ front).head? := fun tail =>
      List.head?_append_of_ne_nil _ (by simp [hne])
    rw [hbody.split, List.head?_append_of_ne_nil _ hne] at exact
    rw [hbody.split, ← List.append_assoc] at noComment noClass
    rw [hhead] at noComment
    rw [List.append_assoc]
    refine .indented shallow ?_ ?_ ?_ (hparts after')
    · rwa [List.head?_append_of_ne_nil _ hne]
    · rwa [← List.append_assoc, hhead]
    · rw [← List.append_assoc]
      exact mt (Text.prefix_of_same_front (Nat.le_refl 2)) noClass

end Line

/-- A line that makes an entry makes the same entry with another name when it reads the same with
this name, and the context behind it is the same. -/
theorem Context.Step.withName {c next : Context} {text text' : List Char} {e : Entry}
    {name : String} (h : c.Step text next e)
    (hreads : ∀ line, Line.Reads text line → Line.Reads text' (line.withName name)) :
    c.Step text' next { e with name } := by
  cases h with
  | baseClass reads => exact .baseClass (hreads _ reads)
  | vendor reads => exact .vendor (hreads _ reads)
  | subclass reads classSection known => exact .subclass (hreads _ reads) classSection known
  | device reads vendorSection known => exact .device (hreads _ reads) vendorSection known
  | progIf reads classSection known => exact .progIf (hreads _ reads) classSection known
  | subsystem reads vendorSection known knownDevice words =>
    exact .subsystem (hreads _ reads) vendorSection known knownDevice words

/-- A line that makes an entry has a double space, and whatever stands behind the first is the name
of the entry. -/
theorem Context.Step.exists_replace {c next : Context} {text : List Char} {e : Entry}
    (plain : Text.Plain text) (h : c.Step text next e) :
    ∃ before after, Text.FirstDoubleSpace text before after ∧
      ∀ after', Text.Plain (before ++ ' ' :: ' ' :: after') →
        c.Step (before ++ ' ' :: ' ' :: after') next
          { e with name := String.ofList (Text.trim after') } := by
  obtain ⟨line, reads, -⟩ := readLine_eq_some_iff_accept?.1 (readLine_eq_some_iff.2 h)
  obtain ⟨before, after, hcut, hreplace⟩ := ((Line.reads_of_plain plain).1 reads).exists_replace
  refine ⟨before, after, hcut, fun after' plain' => h.withName ?_⟩
  intro other hother
  obtain rfl := reads.unique hother
  exact (Line.reads_of_plain plain').2 (hreplace after')

namespace Text

/-! ### Bytes behind the first double space -/

/-- A double space of bytes is one of their text. -/
theorem decodeLossy_double_space (front rest : List UInt8) :
    decodeLossy (front ++ 32 :: 32 :: rest) =
      decodeLossy front ++ ' ' :: ' ' :: decodeLossy rest := by
  have hspace : ∀ front rest, decodeLossy (front ++ 32 :: rest) =
      decodeLossy front ++ ' ' :: decodeLossy rest :=
    fun front rest => decodeLossy_append_ascii front (by decide) rest
  rw [hspace]
  exact congrArg (fun text => decodeLossy front ++ ' ' :: text) (hspace [] rest)

/-- The first double space of a decoded line is that of its bytes. -/
theorem exists_separator {line : List UInt8} {before after : List Char}
    (h : FirstDoubleSpace (decodeLossy line) before after) :
    ∃ front name, line = front ++ 32 :: 32 :: name ∧ decodeLossy front = before ∧
      ¬ [32, 32] <:+: front ++ [32] := by
  obtain ⟨front, rest, rfl, rfl, hrest⟩ := exists_append_of_decodeLossy (by decide) h.split
  obtain ⟨nothing, name, rfl, hnothing, -⟩ :=
    @exists_append_of_decodeLossy rest [] after ' ' (by decide) hrest
  obtain rfl := decodeLossy_eq_nil_iff.1 hnothing
  refine ⟨front, name, rfl, rfl, ?_⟩
  rintro ⟨x, y, hxy⟩
  apply h.first
  have hspace : decodeLossy (front ++ [32]) = decodeLossy front ++ [' '] :=
    decodeLossy_append_ascii front (by decide) []
  refine ⟨decodeLossy x, decodeLossy y, ?_⟩
  rw [← hspace, ← hxy, List.append_assoc, List.append_assoc]
  exact (decodeLossy_double_space x y).symm

end Text

/-- The bytes of a name stay in their name.  It makes no difference whether a file is cut into lines
before it is decoded or afterwards.  A line of any file that makes an entry has a first double
space.  Any bytes without a line end can be put behind that double space, well-formed or not: the
file then has the same entries, of the same kinds and with the same keys, parents and names, in the
same order, but for the name of this one, which is what the new bytes are decoded to. -/
theorem name_bytes_stay_in_their_name :
    (∀ content, Database.linesOf content = Text.textLines (Text.decodeLossy content)) ∧
    ∀ (content : List UInt8) (earlier : List (List UInt8)) (line : List UInt8)
      (later : List (List UInt8)) (e : Entry),
      Text.byteLines content = earlier ++ line :: later →
      ((({} : Context).after (earlier.map Text.decodeLossy)).readLine
        (Text.decodeLossy line)).2 = some e →
        ∃ (front before name rest : List UInt8) (others : List Entry),
          content = front ++ (before ++ 32 :: 32 :: name) ++ rest ∧
          Text.byteLines front = earlier ∧ line = before ++ 32 :: 32 :: name ∧
          ¬ [32, 32] <:+: before ++ [32] ∧
          ({} : Context).entries (Database.linesOf content) =
            ({} : Context).entries (Database.linesOf front) ++ e :: others ∧
          ∀ name', Text.PlainBytes name' →
            ({} : Context).entries
                (Database.linesOf (front ++ (before ++ 32 :: 32 :: name') ++ rest)) =
              ({} : Context).entries (Database.linesOf front) ++
                { e with name := String.ofList (Text.trim (Text.decodeLossy name')) } ::
                  others := by
  refine ⟨Database.linesOf_eq_textLines, ?_⟩
  intro content earlier line later e hlines hentry
  obtain ⟨next, hstep⟩ := Context.readLine_snd_eq_some_iff.1 hentry
  obtain ⟨front, rest, rfl, hfront, hplain, hcut⟩ := (Text.cutInto_iff.2 hlines).exists_replace
  obtain ⟨_, _, hfirst, hreplace⟩ := hstep.exists_replace (Text.plain_decodeLossy hplain)
  obtain ⟨before, name, rfl, rfl, hseparator⟩ := Text.exists_separator hfirst
  have hentries : ∀ {content line : List UInt8} {e : Entry},
      Text.byteLines content = earlier ++ line :: later →
      (({} : Context).after (earlier.map Text.decodeLossy)).Step (Text.decodeLossy line) next e →
        ({} : Context).entries (Database.linesOf content) =
          ({} : Context).entries (Database.linesOf front) ++
            e :: next.entries (later.map Text.decodeLossy) := by
    intro content line e hlines hstep
    rw [Database.linesOf, hlines, List.map_append, List.map_cons, Context.entries_append,
      Context.entries_cons, Context.readLine_eq_some_iff.2 hstep, Database.linesOf,
      hfront.byteLines_eq]
    rfl
  refine ⟨front, before, name, rest, _, rfl, hfront.byteLines_eq, rfl, hseparator,
    hentries hlines hstep, ?_⟩
  intro name' hname'
  have hplain' : Text.PlainBytes (before ++ 32 :: 32 :: name') := by
    rw [Text.PlainBytes, List.forall_mem_append, List.forall_mem_cons, List.forall_mem_cons]
      at hplain ⊢
    exact ⟨hplain.1, hplain.2.1, hplain.2.2.1, hname'⟩
  have htext := Text.plain_decodeLossy hplain'
  apply hentries (hcut _ hplain' (by simp)).byteLines_eq
  rw [Text.decodeLossy_double_space] at htext ⊢
  exact hreplace _ htext

/-- A line with a name that breaks off in a sequence, and a file with it. -/
def brokenLine : List UInt8 :=
  "8086  Intel".toUTF8.data.toList ++ [0xE2, 0x82]

def brokenNames : List UInt8 :=
  brokenLine ++ 10 :: "\t1533  I210\n".toUTF8.data.toList

theorem entries_of_brokenNames :
    Text.byteLines brokenNames = [] ++ brokenLine :: ["\t1533  I210".toUTF8.data.toList] ∧
      ((({} : Context).after []).readLine (Text.decodeLossy brokenLine)).2 =
        some { kind := .vendor, key := "8086", name := "Intel\uFFFD" } ∧
      ∃ front before name rest others, brokenNames = front ++ (before ++ 32 :: 32 :: name) ++ rest ∧
        ({} : Context).entries
            (Database.linesOf (front ++ (before ++ 32 :: 32 :: [0xF0, 0x9F]) ++ rest)) =
          ({} : Context).entries (Database.linesOf front) ++
            { kind := .vendor, key := "8086", name := "\uFFFD" } :: others := by
  have hlines : Text.byteLines brokenNames =
      [] ++ brokenLine :: ["\t1533  I210".toUTF8.data.toList] := by decide +kernel
  have hentry : ((({} : Context).after ([].map Text.decodeLossy)).readLine
      (Text.decodeLossy brokenLine)).2 =
        some { kind := .vendor, key := "8086", name := "Intel\uFFFD" } := by decide +kernel
  have hname : String.ofList (Text.trim (Text.decodeLossy [0xF0, 0x9F])) = "\uFFFD" := by
    decide +kernel
  obtain ⟨front, before, name, rest, others, hcontent, -, -, -, -, hreplace⟩ :=
    name_bytes_stay_in_their_name.2 brokenNames [] brokenLine _ _ hlines hentry
  refine ⟨hlines, hentry, front, before, name, rest, others, hcontent, ?_⟩
  rw [hreplace [0xF0, 0x9F] (by decide), hname]

end PciCatalog
