import PciCatalog.Database.Loading
import PciCatalog.Proofs.FileAccess

/-!
# Failures to open a names file

A candidate that does not open is passed over, so the search for a names file comes to an end for
every file system; the one thing that stops it is a candidate with a character that no name can
have: the null character, or one that the encoding of names leaves out.
-/

namespace PciCatalog
namespace Database

variable {fs : FileSystem}

theorem openFirst_nil : openFirst fs [] = .ok none :=
  rfl

theorem openFirst_cons (candidate : String) (others : List String) :
    openFirst fs (candidate :: others) =
      match fs.openFile (Path.ofString candidate).toString with
      | .ok reading => .ok (some (Path.ofString candidate, reading))
      | .error e => if e.isSystem then openFirst fs others else .error e := by
  rfl

/-- Whether a candidate with a character that no name can have is met before one that opens. -/
inductive RefusedAhead (fs : FileSystem) : List String → Prop
  | here {candidate : String} {others : List String} (refused : ¬ fs.Encodes candidate) :
    RefusedAhead fs (candidate :: others)
  | later {candidate : String} {others : List String}
    (closed : ∀ content, fs.openFile (Path.ofString candidate).toString ≠ .ok content)
    (ahead : RefusedAhead fs others) : RefusedAhead fs (candidate :: others)

/-- The search for a file that opens fails only at a character that no name can have. -/
theorem openFirst_eq_error_iff {paths : List String} {e : FileError} :
    openFirst fs paths = .error e ↔ RefusedAhead fs paths ∧ e = .invalidPath := by
  -- A refused character in the path is the only failure of opening that ends the search.
  induction paths with
  | nil =>
    rw [openFirst_nil]
    refine ⟨nofun, ?_⟩
    rintro ⟨hahead, -⟩
    cases hahead
  | cons candidate others ih =>
    have htext : fs.Encodes (Path.ofString candidate).toString ↔ fs.Encodes candidate :=
      FileSystem.encodes_ofString_iff
    rw [openFirst_cons]
    by_cases hencoded : fs.Encodes candidate
    · cases hopen : fs.openFile (Path.ofString candidate).toString with
      | ok content =>
        refine ⟨nofun, ?_⟩
        rintro ⟨hahead, -⟩
        cases hahead with
        | here refused => exact absurd hencoded refused
        | later closed _ => exact absurd hopen (closed content)
      | error reason =>
        have hsystem := FileSystem.isSystem_of_openFile (htext.2 hencoded) hopen
        simp only [hsystem, if_true, ih]
        refine and_congr_left fun _ => ⟨RefusedAhead.later (by simp [hopen]), ?_⟩
        intro hahead
        cases hahead with
        | here refused => exact absurd hencoded refused
        | later _ ahead => exact ahead
    · rw [FileSystem.openFile_of_not_encodes (mt htext.1 hencoded)]
      simp [RefusedAhead.here hencoded, FileError.isSystem, eq_comm]

/-- A database is loaded unless a candidate with a character that no name can have is met. -/
theorem load_eq_error_iff {paths : List String} {given : Option String} {e : FileError} :
    load fs paths given = .error e ↔
      RefusedAhead fs (candidates paths given) ∧ e = .invalidPath := by
  rw [load, Result.bind_eq_error_iff, openFirst_eq_error_iff, or_iff_left]
  rintro ⟨found, -, h⟩
  cases found <;> contradiction

end Database
end PciCatalog
