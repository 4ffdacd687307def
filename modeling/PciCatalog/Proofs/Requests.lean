import PciCatalog.Command.Run
import PciCatalog.Proofs.JsonText
import PciCatalog.Proofs.PathText
import PciCatalog.Proofs.Result

/-!
# From a command line to its output

What a command line that makes a request prints: nothing but the text of the request under the
settings that its options name.  Failures on the way have an exit code of their own, so a run that
succeeds has carried out its request (`run_eq_printed_iff`).
-/

namespace PciCatalog
namespace Command

variable {α β ε : Type} {rt : Runtime} {fs : FileSystem} {words : List String} {options : Options}
  {request : Request} {settings : Settings}

deriving instance DecidableEq for CommandLine

/-- Whether a command line makes a request under some options, which name files that they may
name. -/
structure Asks (rt : Runtime) (fs : FileSystem) (words : List String) (options : Options)
    (request : Request) : Prop where
  parsed : rt.parser words = .request options (.ok request)
  checked : options.files.forM (rt.checkFile fs) = .ok ()

/-- Whether an option may name the file that it names. -/
def Allowed (rt : Runtime) (fs : FileSystem) (file : FileOption × String) : Prop :=
  ∃ state, fs.pathState file.2 = .ok state ∧ rt.allows file.1 state = true

theorem checkFile_eq_ok_iff {file : FileOption × String} :
    rt.checkFile fs file = .ok () ↔ Allowed rt fs file := by
  unfold Runtime.checkFile Allowed
  cases fs.pathState file.2 with
  | error e => simp
  | ok state => simp

/-- The output of a command line that puts a request: its files are checked, and then it is
answered. -/
theorem output_of_parsed (h : rt.parser words = .request options (.ok request)) :
    output rt fs words = options.files.forM (rt.checkFile fs) >>= fun _ =>
      loadSettings rt fs options >>= fun settings => carryOut fs settings options.json request := by
  rw [output, h]
  rfl

/-- The output of a command line that makes a request is that of the request. -/
theorem output_of_asks (h : Asks rt fs words options request) :
    output rt fs words =
      loadSettings rt fs options >>= fun settings => carryOut fs settings options.json request := by
  rw [output_of_parsed h.parsed, h.checked]
  rfl

/-- A report for other programs is printed as it is, whatever the terminal cannot show. -/
theorem print_render (rt : Runtime) (j : Json) :
    rt.print (j.render ++ "\n") = .printed (j.render ++ "\n") := by
  have hshown : (j.render ++ "\n").toList.any rt.unprintable.contains = false := by
    rw [List.any_eq_false]
    intro c hc
    rw [List.contains_iff_mem]
    intro hmem
    rcases j.forall_mem_render c hc with rfl | ⟨-, hle⟩
    · exact absurd (rt.wide _ hmem) (by decide)
    · exact absurd (Nat.le_trans (rt.wide c hmem) hle) (by decide)
  rw [Runtime.print, Json.withoutControlSequences_render, hshown, String.ofList_toList]
  rfl

/-! ### Failures -/

/-- Whether a computation that fails ends the run with an exit code of failure. -/
def Fails (x : Except Outcome α) : Prop :=
  ∀ outcome, x = .error outcome → outcome.exitCode ≠ 0

theorem Fails.ok (a : α) : Fails (.ok a) := by
  intro outcome h
  contradiction

theorem Fails.error {outcome : Outcome} (h : outcome.exitCode ≠ 0) :
    Fails (.error outcome : Except Outcome α) := by
  intro other hother
  obtain rfl := Except.error.inj hother
  exact h

theorem Fails.bind {x : Except Outcome α} {f : α → Except Outcome β} (hx : Fails x)
    (hf : ∀ a, Fails (f a)) : Fails (x >>= f) := by
  intro outcome h
  rcases Result.bind_eq_error_iff.1 h with h | ⟨a, -, h⟩
  · exact hx outcome h
  · exact hf a outcome h

theorem Fails.mapError {x : Except ε α} {report : ε → Outcome}
    (h : ∀ e, (report e).exitCode = 1) : Fails (x.mapError report) := by
  intro outcome hx
  obtain ⟨e, -, rfl⟩ := Result.mapError_eq_error_iff.1 hx
  rw [h e]
  exact Nat.one_ne_zero

theorem Fails.map {x : Except Outcome α} (hx : Fails x) (f : α → β) : Fails (x.map f) :=
  fun outcome h => hx outcome (Result.map_eq_error_iff.1 h)

theorem exitCode_ofSettingsError (path : String) (e : SettingsFileError) :
    (Outcome.ofSettingsError path e).exitCode = 1 := by
  unfold Outcome.ofSettingsError
  split <;> rfl

theorem exitCode_ofDirectoryError (e : FileError) : (Outcome.ofDirectoryError e).exitCode = 1 := by
  unfold Outcome.ofDirectoryError
  split <;> rfl

theorem exitCode_ofReadError (address : String) (e : Sysfs.ReadError) :
    (Outcome.ofReadError address e).exitCode = 1 := by
  unfold Outcome.ofReadError
  split
  · rfl
  · rfl
  · rfl
  · rfl
  · split <;> rfl

theorem fails_loadSettings (rt : Runtime) (fs : FileSystem) (options : Options) :
    Fails (loadSettings rt fs options) := by
  have hfile : Fails (fileSettings rt fs options) := by
    unfold fileSettings
    split
    · exact Fails.ok _
    · exact Fails.mapError (exitCode_ofSettingsError _)
  apply hfile.bind
  intro settings
  split
  · exact Fails.ok _
  · exact Fails.ok _

theorem fails_loadDatabase (fs : FileSystem) (settings : Settings) :
    Fails (loadDatabase fs settings) :=
  Fails.mapError fun _ => rfl

theorem fails_databaseFor (fs : FileSystem) (settings : Settings) (names : Bool) :
    Fails (databaseFor fs settings names) := by
  unfold databaseFor
  split
  · exact (fails_loadDatabase fs settings).map _
  · exact Fails.ok _

theorem fails_labelled (db : Option Database) (d : Device) : Fails (labelled db d) :=
  (Fails.mapError fun _ => rfl).map _

theorem fails_mapM {f : α → Except Outcome β} (h : ∀ a, Fails (f a)) (items : List α) :
    Fails (items.mapM f) := by
  induction items with
  | nil => exact Fails.ok _
  | cons item rest ih =>
    rw [List.mapM_cons]
    exact (h item).bind fun _ => ih.bind fun _ => Fails.ok _

/-- A request that fails ends the run with an exit code of failure. -/
theorem fails_carryOut (fs : FileSystem) (settings : Settings) (json : Bool) (request : Request) :
    Fails (carryOut fs settings json request) := by
  -- Every step either succeeds or ends with an exit code other than 0.
  cases request with
  | list gpusOnly names =>
    apply (fails_databaseFor fs settings names).bind
    intro db
    apply (Fails.mapError exitCode_ofDirectoryError).bind
    intro devices
    split
    · exact Fails.ok _
    · exact (fails_mapM (fails_labelled db) devices).bind fun _ => Fails.ok _
  | info address names =>
    apply (Fails.mapError (exitCode_ofReadError address)).bind
    intro d
    apply (fails_databaseFor fs settings names).bind
    intro db
    apply (fails_labelled db d).bind
    rintro ⟨_, labels⟩
    dsimp only
    split
    · split
      · exact Fails.ok _
      · exact Fails.error Nat.one_ne_zero
    · exact Fails.ok _
  | lookup question => exact (fails_loadDatabase fs settings).bind fun _ => Fails.ok _
  | stats => exact (fails_loadDatabase fs settings).bind fun _ => Fails.ok _

/-- A run that succeeds has carried out what the command line asks for. -/
theorem run_eq_printed_iff (h : Asks rt fs words options request) {shown : String} :
    run rt fs words = .printed shown ↔
      ∃ settings text, loadSettings rt fs options = .ok settings ∧
        carryOut fs settings options.json request = .ok text ∧ rt.print text = .printed shown := by
  rw [run, output_of_asks h]
  constructor
  · intro hrun
    split at hrun
    · next text htext =>
      obtain ⟨settings, hsettings, htext⟩ := Result.bind_eq_ok_iff.1 htext
      exact ⟨settings, text, hsettings, htext, hrun⟩
    · next outcome houtcome =>
      have hfails := (fails_loadSettings rt fs options).bind
        fun settings => fails_carryOut fs settings options.json request
      rw [hrun] at houtcome
      exact absurd rfl (hfails _ houtcome)
  · rintro ⟨settings, text, hsettings, htext, hprint⟩
    rw [Result.bind_eq_ok_iff.2 ⟨settings, hsettings, htext⟩]
    exact hprint

/-- What is printed of a report for other programs is the report. -/
theorem print_render_eq_printed_iff {j : Json} {shown : String} :
    rt.print (j.render ++ "\n") = .printed shown ↔ shown = j.render ++ "\n" := by
  rw [print_render, Outcome.printed.injEq, eq_comm]

/-! ### Settings -/

theorem proper_readSysfsPath {given : Option Value} {path : Path}
    (h : Settings.readSysfsPath given = .ok path) : path.Proper := by
  unfold Settings.readSysfsPath at h
  split at h
  · obtain rfl := Except.ok.inj h
    exact Path.proper_ofString _
  · obtain rfl := Except.ok.inj h
    exact Path.proper_ofString _
  · contradiction

/-- The device directory of a settings file is a path that a text names. -/
theorem proper_of_load {path : Path}
    (h : Settings.load rt.reader rt.levels fs path = .ok settings) :
    settings.sysfsPath.Proper := by
  obtain ⟨reading, -, h⟩ := Result.bind_eq_ok_iff.1 h
  obtain ⟨document, -, h⟩ := Result.bind_eq_ok_iff.1 h
  split at h
  · next entries _ =>
    rw [Result.mapError_eq_ok_iff] at h
    obtain ⟨idsFile, -, h⟩ := Result.bind_eq_ok_iff.1 h
    obtain ⟨idsPaths, -, h⟩ := Result.bind_eq_ok_iff.1 h
    obtain ⟨sysfsPath, hsysfsPath, h⟩ := Result.bind_eq_ok_iff.1 h
    obtain ⟨gpuFilter, -, h⟩ := Result.bind_eq_ok_iff.1 h
    obtain rfl := Result.pure_eq_ok_iff.1 h
    exact proper_readSysfsPath hsysfsPath
  · contradiction

/-- The device directory of a run is a path that a text names. -/
theorem proper_sysfsPath (h : loadSettings rt fs options = .ok settings) :
    settings.sysfsPath.Proper := by
  obtain ⟨loaded, hloaded, h⟩ := Result.bind_eq_ok_iff.1 h
  have hproper : loaded.sysfsPath.Proper := by
    unfold fileSettings at hloaded
    -- The command line can change the names file only.
    split at hloaded
    · obtain rfl := Except.ok.inj hloaded
      exact Path.proper_ofString _
    · rw [Result.mapError_eq_ok_iff] at hloaded
      exact proper_of_load hloaded
  split at h
  · obtain rfl := Result.pure_eq_ok_iff.1 h
    exact hproper
  · obtain rfl := Result.pure_eq_ok_iff.1 h
    split
    · exact hproper
    · exact hproper

end Command
end PciCatalog
