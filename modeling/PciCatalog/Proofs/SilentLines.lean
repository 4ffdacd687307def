import PciCatalog.Proofs.CutLines
import PciCatalog.Proofs.NamesFile
import PciCatalog.Proofs.RefusedLines

/-!
# Taking out and putting in lines that make no entry

A line that makes no entry leaves the context as it is, so it matters to no line behind it.  Whether
a line makes an entry hangs on the lines before it, and a line is taken out by what it does in the
unchanged file (`Thinned`); comments and blank lines can be put in anywhere (`Padded`).  Main
statement: neither of this shows in the entries, in the context at the end, or in the database that
is loaded from the file (`lines_without_entry_have_no_effect`).
-/

namespace PciCatalog

namespace Line

/-- A comment, or a line of nothing but blanks. -/
def IsRemark (text : List Char) : Prop :=
  (kept text).head? = some '#' ∨ ∀ ch ∈ kept text, Text.isBlank ch = true

end Line

namespace Context

/-- Some of the lines that make no entry where they stand are taken out. -/
inductive Thinned : Context → List (List Char) → List (List Char) → Prop
  | nil {c : Context} : Thinned c [] []
  | keep {c : Context} {lines others : List (List Char)} (text : List Char)
      (rest : Thinned (c.readLine text).1 lines others) : Thinned c (text :: lines) (text :: others)
  | drop {c : Context} {lines others : List (List Char)} {text : List Char}
      (silent : (c.readLine text).2 = none) (rest : Thinned (c.readLine text).1 lines others) :
      Thinned c (text :: lines) others

/-- Comments and blank lines are put between lines. -/
inductive Padded : List (List Char) → List (List Char) → Prop
  | nil : Padded [] []
  | keep {lines others : List (List Char)} (text : List Char) (rest : Padded lines others) :
      Padded (text :: lines) (text :: others)
  | insert {lines others : List (List Char)} {text : List Char} (remark : Line.IsRemark text)
      (rest : Padded lines others) : Padded lines (text :: others)

theorem after_cons (c : Context) (text : List Char) (rest : List (List Char)) :
    c.after (text :: rest) = (c.readLine text).1.after rest := rfl

theorem no_entry_of_isRemark (c : Context) {text : List Char} (h : Line.IsRemark text) :
    (c.readLine text).2 = none :=
  no_entry_iff_refuses.2 (h.elim .comment .blank)

variable {c : Context} {lines others : List (List Char)}

theorem Thinned.entries_eq (h : Thinned c lines others) : c.entries others = c.entries lines := by
  induction h with
  | nil => rfl
  | keep text rest ih => rw [entries_cons, entries_cons, ih]
  | drop silent rest ih =>
    -- The lines behind the one that is taken out meet the context that they met before.
    rw [readLine_fst_of_none silent] at ih
    rw [entries_cons, silent, readLine_fst_of_none silent, ih]
    rfl

theorem Thinned.after_eq (h : Thinned c lines others) : c.after others = c.after lines := by
  induction h with
  | nil => rfl
  | keep text rest ih => rw [after_cons, after_cons, ih]
  | drop silent rest ih =>
    rw [readLine_fst_of_none silent] at ih
    rw [after_cons, readLine_fst_of_none silent, ih]

/-- What is put in could be taken out again, whatever the context is. -/
theorem Padded.thinned (h : Padded lines others) (c : Context) : Thinned c others lines := by
  induction h generalizing c with
  | nil => exact .nil
  | keep text rest ih => exact .keep text (ih _)
  | insert remark rest ih => exact .drop (no_entry_of_isRemark c remark) (ih _)

end Context

/-- A node hands out some lines when it is read: those of a file, or those before reading fails. -/
inductive Node.HandsOut : Node → List (List Char) → Prop
  | file {content : List UInt8} {lines : List (List UInt8)} (cut : Text.CutInto content lines) :
      HandsOut (.file content) (lines.map Text.decodeLossy)
  | unreadable (front : List (List UInt8)) :
      HandsOut (.unreadable front) (front.map Text.decodeLossy)

theorem Node.HandsOut.outline_eq {node : Node} {lines : List (List Char)}
    (h : node.HandsOut lines) : node.outline = .unreadable := by
  cases h <;> rfl

/-- What is opened at a path where a node hands out lines gives these lines. -/
theorem Node.HandsOut.openFile_eq {fs : FileSystem} {path : String} {node : Node}
    {lines : List (List Char)} (h : node.HandsOut lines) (hreadable : fs.readable path = .ok node) :
    ∃ reading, fs.openFile path = .ok reading ∧ Database.linesRead reading = lines := by
  rw [FileSystem.openFile, hreadable]
  cases h with
  | file cut => exact ⟨_, rfl, by rw [Database.linesRead, Database.linesOf, cut.byteLines_eq]⟩
  | unreadable front => exact ⟨_, rfl, rfl⟩

namespace Database

variable {fs : FileSystem} {place : Place} {old new : Node} {lines others : List (List Char)}

/-- What can be read at a path stays when the path does not lead to the file that changes, or when
this file may not be read. -/
theorem readable_set (hnode : fs.node? place = some old) (hold : old.HandsOut lines)
    (hnew : new.HandsOut others) {path : String}
    (hchanged : ¬ (fs.locate path = .ok place ∧ fs.mayRead path = true)) :
    (fs.set place new).readable path = fs.readable path := by
  have htree := FileSystem.sameTree_set hnode hold.outline_eq hnew.outline_eq
  cases hlocate : fs.locate path with
  | error e =>
    have hlocate' := (htree.locate_eq path).symm.trans hlocate
    simp only [FileSystem.readable, FileSystem.status, hlocate, hlocate', bind, Except.bind]
  | ok p =>
    rw [FileSystem.readable_of_locate hlocate,
      FileSystem.readable_of_locate ((htree.locate_eq path).symm.trans hlocate),
      FileSystem.readableAt, FileSystem.readableAt, ← htree.isLocked,
      FileSystem.node?_set (FileSystem.ne_root_of_outline hnode hold.outline_eq) new]
    by_cases hp : p = place
    · -- The file that changes may not be read, before or after.
      obtain rfl := hp
      have hlocked : fs.isLocked p = true := by
        by_contra hlocked
        exact hchanged ⟨hlocate, FileSystem.mayRead_eq_true_iff.2
          ⟨p, hlocate, Bool.eq_false_iff.2 hlocked⟩⟩
      simp only [hnode, hlocked, if_true]
    · rw [if_neg hp]

/-- A path names the file that changes, and gives the same entries then, or it names nothing that
changes. -/
theorem openFile_set (hnode : fs.node? place = some old) (hold : old.HandsOut lines)
    (hnew : new.HandsOut others)
    (hsame : ({} : Context).entries others = ({} : Context).entries lines) (path : String) :
    (fs.set place new).openFile path = fs.openFile path ∨
      ∃ reading reading', fs.openFile path = .ok reading ∧
        (fs.set place new).openFile path = .ok reading' ∧
          ofReading reading' = ofReading reading := by
  have htree := FileSystem.sameTree_set hnode hold.outline_eq hnew.outline_eq
  -- Either the path leads to the place that changes, and the file there may be read, or what is
  -- there is not looked at.
  by_cases hchanged : fs.locate path = .ok place ∧ fs.mayRead path = true
  · right
    obtain ⟨hlocate, hallowed⟩ := hchanged
    obtain ⟨reading, hopen, hlines⟩ := hold.openFile_eq (FileSystem.readable_eq_ok_iff.2
      ⟨FileSystem.status_eq_ok_iff.2 ⟨place, hlocate, hnode⟩, hallowed⟩)
    have hlocate' := (htree.locate_eq path).symm.trans hlocate
    have hnode' : (fs.set place new).node? place = some new := by
      rw [FileSystem.node?_set (FileSystem.ne_root_of_outline hnode hold.outline_eq), if_pos rfl]
    obtain ⟨reading', hopen', hlines'⟩ := hnew.openFile_eq (FileSystem.readable_eq_ok_iff.2
      ⟨FileSystem.status_eq_ok_iff.2 ⟨place, hlocate', hnode'⟩,
        (htree.mayRead_eq path).symm.trans hallowed⟩)
    refine ⟨reading, reading', hopen, hopen', ?_⟩
    rw [ofReading, ofReading, hlines, hlines', hsame]
  · left
    rw [FileSystem.openFile, FileSystem.openFile, readable_set hnode hold hnew hchanged]

/-- The search stops at the same path, or fails alike. -/
theorem openFirst_set (hnode : fs.node? place = some old) (hold : old.HandsOut lines)
    (hnew : new.HandsOut others)
    (hsame : ({} : Context).entries others = ({} : Context).entries lines) (paths : List String) :
    (openFirst (fs.set place new) paths).map ofFound = (openFirst fs paths).map ofFound := by
  induction paths with
  | nil => rfl
  | cons candidate rest ih =>
    rw [openFirst_cons, openFirst_cons]
    rcases openFile_set hnode hold hnew hsame (Path.ofString candidate).toString with
      hopen | ⟨reading, reading', hopen, hopen', hdatabase⟩
    · rw [hopen]
      cases fs.openFile (Path.ofString candidate).toString with
      | ok reading => rfl
      | error e =>
        dsimp only
        split
        · exact ih
        · rfl
    · rw [hopen, hopen']
      simp [Except.map, ofFound, hdatabase]

theorem load_eq_map (fs : FileSystem) (paths : List String) (given : Option String) :
    load fs paths given = (openFirst fs (candidates paths given)).map ofFound := by
  rw [load]
  cases openFirst fs (candidates paths given) with
  | error e => rfl
  | ok found => cases found <;> rfl

/-- A file with other lines and the same entries loads to the same database. -/
theorem load_set (hnode : fs.node? place = some old) (hold : old.HandsOut lines)
    (hnew : new.HandsOut others)
    (hsame : ({} : Context).entries others = ({} : Context).entries lines) (paths : List String)
    (given : Option String) : load (fs.set place new) paths given = load fs paths given := by
  rw [load_eq_map, load_eq_map, openFirst_set hnode hold hnew hsame]

/-- Lines that make no entry have no effect.  A line makes none for one of eight reasons, and it
leaves the context as it is then.  So any of the lines that make none can be taken out, and comments
and blank lines can be put in anywhere: the entries and the context at the end stay the same, in
every context.  When the lines of a file are changed like this, every database that is loaded is the
one that was loaded before. -/
theorem lines_without_entry_have_no_effect :
    (∀ (c : Context) (text : List Char),
      ((c.readLine text).2 = none ↔ c.Refuses text) ∧
        (c.Refuses text → (c.readLine text).1 = c)) ∧
    (∀ (c : Context) (lines others : List (List Char)),
      c.Thinned lines others ∨ Context.Padded lines others →
        c.entries others = c.entries lines ∧ c.after others = c.after lines) ∧
    (∀ (fs : FileSystem) (place : Place) (old new : Node) (lines others : List (List Char)),
      fs.node? place = some old → old.HandsOut lines → new.HandsOut others →
        ({} : Context).Thinned lines others ∨ Context.Padded lines others →
          ∀ paths given, load (fs.set place new) paths given = load fs paths given) := by
  have hruns : ∀ (c : Context) (lines others : List (List Char)),
      c.Thinned lines others ∨ Context.Padded lines others →
        c.entries others = c.entries lines ∧ c.after others = c.after lines := by
    rintro c lines others (hthinned | hpadded)
    · exact ⟨hthinned.entries_eq, hthinned.after_eq⟩
    · have hthinned := hpadded.thinned c
      exact ⟨hthinned.entries_eq.symm, hthinned.after_eq.symm⟩
  refine ⟨fun c text => ⟨Context.no_entry_iff_refuses, ?_⟩, hruns, ?_⟩
  · exact fun hrefuses => Context.readLine_fst_of_none (Context.no_entry_iff_refuses.2 hrefuses)
  · intro fs place old new lines others hnode hold hnew hchange paths given
    exact load_set hnode hold hnew (hruns {} lines others hchange).1 paths given

/-- A device line that stands before its vendor, a vendor, and a device with a comment before it. -/
def orphanedLines : List (List UInt8) :=
  ["\t1533  I210", "8086  Intel", "# wired", "\t1533  I211"].map (·.toUTF8.data.toList)

/-- The lines that are left without the device line at the front. -/
def adoptedLines : List (List UInt8) :=
  orphanedLines.tail

/-- A names file with its lines closed by CR, which stands behind a link. -/
def linkedFile : FileSystem where
  nodes := [(["ids"], .link "/share/names"), (["share"], .directory),
    (["share", "names"], .file (orphanedLines.flatMap (· ++ [13])))]
  workingDir := []
  distinct := by decide

theorem load_linkedFile_without_orphan :
    load (linkedFile.set ["share", "names"] (.file (adoptedLines.flatMap (· ++ [10]))))
        ["ids"] none = load linkedFile ["ids"] none ∧
    ({} : Context).Refuses "\t1533  I210".toList := by
  obtain ⟨hreasons, -, hloads⟩ := lines_without_entry_have_no_effect
  have hrefuses := (hreasons {} "\t1533  I210".toList).1.1 (by decide +kernel)
  have hold : Text.CutInto (orphanedLines.flatMap (· ++ [13])) orphanedLines :=
    Text.cutInto_iff.2 (by decide +kernel)
  have hnew : Text.CutInto (adoptedLines.flatMap (· ++ [10])) adoptedLines :=
    Text.cutInto_iff.2 (by decide +kernel)
  refine ⟨hloads _ _ _ _ _ _ rfl (.file hold) (.file hnew) (.inl ?_) _ _, hrefuses⟩
  exact .drop (by decide +kernel) (.keep _ (.keep _ (.keep _ .nil)))

end Database
end PciCatalog
