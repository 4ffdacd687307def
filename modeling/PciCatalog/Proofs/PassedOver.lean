import PciCatalog.Database.Default
import PciCatalog.Proofs.NamesFile

/-!
# Paths that are passed over

A path that does not open has no say in what is loaded: the search for a names file goes on as if it
were not there.  So a database comes out for all files, candidates and given paths, with the one
exception of a character that no name can have (`load_unless_refused`): the null character, or one
that the encoding of names leaves out, such as a lone surrogate.
-/

namespace PciCatalog
namespace Database

open FileSystem (Encodes encodes_of_plain refuses)

variable {fs : FileSystem} {paths front back : List String} {candidate : String}

/-- Whether a path is passed over: names can have its characters, and it does not open, for whatever
reason. -/
structure PassedOver (fs : FileSystem) (candidate : String) : Prop where
  encoded : fs.Encodes candidate
  closed : Closed fs candidate

theorem PassedOver.of_error {e : FileError} (hencoded : fs.Encodes candidate)
    (h : fs.openFile (Path.ofString candidate).toString = .error e) : PassedOver fs candidate :=
  ⟨hencoded, by simp [Closed, h]⟩

/-- The search goes on behind a path that is passed over. -/
theorem PassedOver.openFirst_cons (h : PassedOver fs candidate) (others : List String) :
    openFirst fs (candidate :: others) = openFirst fs others := by
  rw [Database.openFirst_cons]
  cases hopen : fs.openFile (Path.ofString candidate).toString with
  | ok reading => exact absurd hopen (h.closed reading)
  | error e =>
    have hencoded := FileSystem.encodes_ofString_iff.2 h.encoded
    have hsystem := FileSystem.isSystem_of_openFile hencoded hopen
    simp only [hsystem, if_true]

/-- A path that is passed over may be left out of the candidates, wherever it stands. -/
theorem PassedOver.openFirst_append (h : PassedOver fs candidate) (front back : List String) :
    openFirst fs (front ++ candidate :: back) = openFirst fs (front ++ back) := by
  induction front with
  | nil => exact h.openFirst_cons back
  | cons first rest ih =>
    rw [List.cons_append, List.cons_append, Database.openFirst_cons, Database.openFirst_cons, ih]

/-- Paths that are passed over do not keep the search from what stands behind them. -/
theorem openFirst_append_of_passedOver (h : ∀ earlier ∈ front, PassedOver fs earlier)
    (back : List String) : openFirst fs (front ++ back) = openFirst fs back := by
  induction front with
  | nil => rfl
  | cons first rest ih =>
    rw [List.forall_mem_cons] at h
    rw [List.cons_append, h.1.openFirst_cons, ih h.2]

/-- Candidates with characters that names can have do not stop the search. -/
theorem not_refusedAhead (h : ∀ candidate ∈ paths, fs.Encodes candidate) :
    ¬ RefusedAhead fs paths := by
  intro hahead
  induction hahead with
  | here refused => exact refused (h _ List.mem_cons_self)
  | later _ _ ih => exact ih (List.forall_mem_cons.1 h).2

theorem exists_load_iff {given : Option String} :
    (∃ loaded, load fs paths given = .ok loaded) ↔ ¬ RefusedAhead fs (candidates paths given) := by
  constructor
  · rintro ⟨loaded, hload⟩ hahead
    rw [load_eq_error_iff.2 ⟨hahead, rfl⟩] at hload
    contradiction
  · intro hahead
    cases hload : load fs paths given with
    | ok loaded => exact ⟨loaded, rfl⟩
    | error e => exact absurd (load_eq_error_iff.1 hload).1 hahead

/-- What is loaded is told by the search through the candidates. -/
theorem load_eq_of_openFirst {given : Option String} {found : Option (Path × Reading)}
    (h : openFirst fs (candidates paths given) = .ok found) :
    load fs paths given = .ok (ofFound found) :=
  load_eq_ok_iff.2 ⟨found, h, rfl⟩

/-- The default database comes out when the usual paths are searched, and also once it is loaded. -/
theorem exists_get_of_encodes (d : DefaultDatabase) (h : ∀ path ∈ d.paths, fs.Encodes path) :
    ∃ loaded, (d.get fs).1 = .ok loaded := by
  cases hkept : d.loaded with
  | some loaded => exact ⟨loaded, by rw [DefaultDatabase.get_of_loaded hkept]⟩
  | none =>
    have hahead : ¬ RefusedAhead fs (candidates d.paths none) := not_refusedAhead h
    obtain ⟨loaded, hload⟩ := exists_load_iff.2 hahead
    exact ⟨loaded, by rw [DefaultDatabase.get, hkept, hload]⟩

/-- A given path that is empty is none. -/
theorem candidates_of_none {given : Option String} (h : given = none ∨ given = some "")
    (paths : List String) : candidates paths given = paths := by
  rcases h with rfl | rfl <;> rfl

/-- Loading comes to a database unless a path with a character that no name can have is met before
one that opens; then it fails for this character.  It is the null character, or one that the
encoding of names leaves out, whichever these are.  A path that cannot be opened for another reason
is passed over: it makes no difference among the candidates, so the first of them that opens is read
however many stand before it, and given in their place it leaves an empty database.  The default
database always comes out. -/
theorem load_unless_refused (fs : FileSystem) :
    (∀ paths given, ((∃ loaded, load fs paths given = .ok loaded) ↔
        ¬ RefusedAhead fs (candidates paths given)) ∧
      (RefusedAhead fs (candidates paths given) → load fs paths given = .error .invalidPath)) ∧
    (∀ given, given = none ∨ given = some "" → ∀ front candidate back,
      (PassedOver fs candidate →
        load fs (front ++ candidate :: back) given = load fs (front ++ back) given) ∧
      ∀ reading, (∀ earlier ∈ front, PassedOver fs earlier) →
        fs.openFile (Path.ofString candidate).toString = .ok reading →
          load fs (front ++ candidate :: back) given =
            .ok ⟨ofReading reading, some (Path.ofString candidate)⟩) ∧
    (∀ paths path, path ≠ "" → PassedOver fs path →
      load fs paths (some path) = .ok ⟨empty, none⟩) ∧
    ∀ d : DefaultDatabase, d.paths = standardPaths → ∃ loaded, (d.get fs).1 = .ok loaded := by
  refine ⟨fun paths given => ?_, ?_, ?_, ?_⟩
  · exact ⟨exists_load_iff, fun h => load_eq_error_iff.2 ⟨h, rfl⟩⟩
  · intro given hgiven front candidate back
    constructor
    · intro hpassed
      rw [load, load, candidates_of_none hgiven, candidates_of_none hgiven,
        hpassed.openFirst_append]
    · intro reading hfront hopen
      have hfound : openFirst fs (candidates (front ++ candidate :: back) given) =
          .ok (some (Path.ofString candidate, reading)) := by
        rw [candidates_of_none hgiven, openFirst_append_of_passedOver hfront, openFirst_cons, hopen]
      exact load_eq_of_openFirst hfound
  · intro paths path hpath hpassed
    have hfound : openFirst fs (candidates paths (some path)) = .ok none := by
      rw [candidates, if_neg hpath, hpassed.openFirst_cons, openFirst_nil]
    exact load_eq_of_openFirst hfound
  · intro d hpaths
    have hplain : ∀ path ∈ standardPaths,
        path.toList.all (fun c => c.toNat < 0x80 && c ≠ '\x00') = true := by decide +kernel
    exact exists_get_of_encodes d fun path hpath =>
      encodes_of_plain fs (hplain path (hpaths ▸ hpath))

/-- A null character in one candidate keeps the next one from being read, although it opens. -/
theorem no_database_behind_null :
    mixedFiles.openFile (Path.ofString "good").toString =
        .ok (.whole "10de  NVIDIA\n".toUTF8.data.toList) ∧
      ¬ ∀ (fs : FileSystem) (paths : List String) (given : Option String),
        ∃ loaded, load fs paths given = .ok loaded := by
  refine ⟨by rfl, fun hloads => ?_⟩
  obtain ⟨loaded, hload⟩ := hloads mixedFiles ["\x00", "good"] none
  have hfails : load mixedFiles ["\x00", "good"] none = .error .invalidPath := by rfl
  rw [hfails] at hload
  contradiction

/-- The database of the file in order. -/
def goodDatabase : LoadedDatabase :=
  ⟨empty.addAll [⟨.vendor, "10de", "NVIDIA", none⟩], some (Path.ofString "good")⟩

/-- The same files where a character has no encoding and the file in order may not be read. -/
def restrictedFiles : FileSystem :=
  { mixedFiles with locked := [["good"]], unencoded := ['é'], wide := by simp }

theorem passed_over_of_mixedFiles :
    load mixedFiles ["missing", "ids", "away", "good", "\x00"] none = .ok goodDatabase ∧
      load mixedFiles ["good", "away", "\x00"] (some "") = .ok goodDatabase ∧
      load mixedFiles ["good"] (some "away") = .ok ⟨empty, none⟩ ∧
      load mixedFiles ["missing", "\x00", "good"] none = .error .invalidPath ∧
      load restrictedFiles ["é", "good"] none = .error .invalidPath ∧
      load restrictedFiles ["good"] none = .ok ⟨empty, none⟩ ∧
      ∃ loaded, (DefaultDatabase.get {} mixedFiles).1 = .ok loaded := by
  obtain ⟨hloads, hcandidates, hgiven, hdefault⟩ := load_unless_refused mixedFiles
  have hmissing : PassedOver mixedFiles "missing" :=
    .of_error (e := .notFound) (encodes_of_plain _ (by decide)) (by rfl)
  have hids : PassedOver mixedFiles "ids" :=
    .of_error (e := .isDirectory) (encodes_of_plain _ (by decide)) (by rfl)
  have haway : PassedOver mixedFiles "away" :=
    .of_error (e := .notFound) (encodes_of_plain _ (by decide)) (by rfl)
  have hfront : ∀ earlier ∈ ["missing", "ids", "away"], PassedOver mixedFiles earlier := by
    simp [hmissing, hids, haway]
  refine ⟨?_, ?_, hgiven ["good"] "away" (by decide) haway, ?_, ?_, ?_, hdefault {} rfl⟩
  · exact (hcandidates none (.inl rfl) ["missing", "ids", "away"] "good" ["\x00"]).2
      (.whole "10de  NVIDIA\n".toUTF8.data.toList) hfront (by rfl)
  · have hskip : load mixedFiles ["good", "away", "\x00"] (some "") =
        load mixedFiles ["good", "\x00"] (some "") :=
      (hcandidates (some "") (.inr rfl) ["good"] "away" ["\x00"]).1 haway
    rw [hskip]
    exact (hcandidates (some "") (.inr rfl) [] "good" ["\x00"]).2
      (.whole "10de  NVIDIA\n".toUTF8.data.toList) (by simp) (by rfl)
  · exact (hloads ["missing", "\x00", "good"] none).2
      (.later hmissing.closed (.here (by simp [Encodes, refuses])))
  · have hrefused : ¬ Encodes restrictedFiles "é" := by
      simp [Encodes, refuses, restrictedFiles]
    exact ((load_unless_refused restrictedFiles).1 ["é", "good"] none).2 (.here hrefused)
  · have hlocked : PassedOver restrictedFiles "good" :=
      .of_error (e := .accessDenied) (encodes_of_plain _ (by decide)) (by rfl)
    exact ((load_unless_refused restrictedFiles).2.1 none (.inl rfl) [] "good" []).1 hlocked

end Database
end PciCatalog
