import PciCatalog.Proofs.Opening

/-!
# The file that a database is read from

A database holds the names of one file and of no other.  Which file this is depends only on which
paths open: a given path stands alone, and otherwise the first candidate that opens is read
(`FromFirst`).  A file that fails while it is read is not passed over any more; what it handed out
before is all that the database gets.
-/

namespace PciCatalog
namespace Database

variable {fs : FileSystem} {paths : List String} {loaded : LoadedDatabase}

/-- Whether a candidate does not open. -/
def Closed (fs : FileSystem) (candidate : String) : Prop :=
  ∀ reading, fs.openFile (Path.ofString candidate).toString ≠ .ok reading

/-- A database is read from the first of some paths that opens, from the lines that are handed out
there; when none opens, it is empty and has no source. -/
inductive FromFirst (fs : FileSystem) : List String → LoadedDatabase → Prop
  | file {front back : List String} {candidate : String} {reading : Reading}
    (closed : ∀ earlier ∈ front, Closed fs earlier)
    (opened : fs.openFile (Path.ofString candidate).toString = .ok reading) :
    FromFirst fs (front ++ candidate :: back)
      ⟨empty.addAll (({} : Context).entries (linesRead reading)), some (Path.ofString candidate)⟩
  | nothing {paths : List String} (closed : ∀ candidate ∈ paths, Closed fs candidate) :
    FromFirst fs paths ⟨empty, none⟩

/-- A path that does not open may stand in front. -/
theorem FromFirst.cons {candidate : String} (hclosed : Closed fs candidate)
    (h : FromFirst fs paths loaded) : FromFirst fs (candidate :: paths) loaded := by
  cases h with
  | file closed opened =>
    have hfront := List.forall_mem_cons.2 ⟨hclosed, closed⟩
    exact (FromFirst.file hfront opened :)
  | nothing closed => exact .nothing (List.forall_mem_cons.2 ⟨hclosed, closed⟩)

/-- What is loaded when the search for a file comes to an end. -/
def ofFound : Option (Path × Reading) → LoadedDatabase
  | some (path, reading) => ⟨ofReading reading, some path⟩
  | none => ⟨empty, none⟩

theorem load_eq_ok_iff {given : Option String} : load fs paths given = .ok loaded ↔
    ∃ found, openFirst fs (candidates paths given) = .ok found ∧ loaded = ofFound found := by
  rw [load, Result.bind_eq_ok_iff]
  refine exists_congr fun found => and_congr_right fun _ => ?_
  cases found <;> exact Result.pure_eq_ok_iff.trans eq_comm

/-- The search stops at the first path that opens. -/
theorem fromFirst_of_openFirst {found : Option (Path × Reading)}
    (h : openFirst fs paths = .ok found) : FromFirst fs paths (ofFound found) := by
  induction paths with
  | nil =>
    obtain rfl : none = found := Except.ok.inj h
    exact .nothing (by simp)
  | cons candidate others ih =>
    rw [openFirst_cons] at h
    cases hopen : fs.openFile (Path.ofString candidate).toString with
    | ok reading =>
      rw [hopen] at h
      obtain rfl := Except.ok.inj h
      exact (FromFirst.file (List.forall_mem_nil _) hopen :)
    | error e =>
      rw [hopen] at h
      dsimp only at h
      split at h
      · exact (ih h).cons (by simp [Closed, hopen])
      · cases h

/-- A database comes from one file.  If a path that is not empty is given, the database is read from
this path, or it is empty when the path does not open; the candidates do not matter then.  Otherwise
it is read from the first candidate that opens, and it is empty when there is none.  Its tables are
made of the lines that were handed out by this file: of all its lines, or, when reading fails, of
those before. -/
theorem loaded_from_one_file {given : Option String} (h : load fs paths given = .ok loaded) :
    (∀ path, given = some path → path ≠ "" →
      FromFirst fs [path] loaded ∧ ∀ others, load fs others given = .ok loaded) ∧
    (given = none ∨ given = some "" → FromFirst fs paths loaded) := by
  obtain ⟨found, hfound, rfl⟩ := load_eq_ok_iff.1 h
  constructor
  · rintro path rfl hpath
    have hcandidates : ∀ others, candidates others (some path) = [path] := by
      intro others
      rw [candidates, if_neg hpath]
    rw [hcandidates] at hfound
    refine ⟨fromFirst_of_openFirst hfound, fun others => ?_⟩
    exact load_eq_ok_iff.2 ⟨found, by rw [hcandidates]; exact hfound, rfl⟩
  · intro hgiven
    have hcandidates : candidates paths given = paths := by
      rcases hgiven with rfl | rfl <;> rfl
    rw [hcandidates] at hfound
    exact fromFirst_of_openFirst hfound

/-- A directory, a link that leads nowhere, a file that fails behind its first line, and a file in
order. -/
def mixedFiles : FileSystem where
  nodes := [(["ids"], .directory), (["away"], .link "nowhere"),
    (["torn"], .unreadable ["8086  Intel".toUTF8.data.toList]),
    (["good"], .file "10de  NVIDIA\n".toUTF8.data.toList)]
  workingDir := []
  distinct := by decide

/-- The database of the file that fails behind its first line. -/
def tornDatabase : LoadedDatabase :=
  ⟨empty.addAll [⟨.vendor, "8086", "Intel", none⟩], some (Path.ofString "torn")⟩

theorem load_mixedFiles :
    load mixedFiles ["missing", "ids", "away", "torn", "good"] (some "") = .ok tornDatabase ∧
      FromFirst mixedFiles ["missing", "ids", "away", "torn", "good"] tornDatabase ∧
      load mixedFiles ["good"] (some "away") = .ok ⟨empty, none⟩ ∧
      load mixedFiles [] (some "away") = .ok ⟨empty, none⟩ := by
  have hfirst : load mixedFiles ["missing", "ids", "away", "torn", "good"] (some "") =
      .ok tornDatabase := by rfl
  have haway : load mixedFiles ["good"] (some "away") = .ok ⟨empty, none⟩ := by rfl
  exact ⟨hfirst, (loaded_from_one_file hfirst).2 (.inr rfl), haway,
    ((loaded_from_one_file haway).1 "away" rfl (by decide)).2 []⟩

end Database
end PciCatalog
