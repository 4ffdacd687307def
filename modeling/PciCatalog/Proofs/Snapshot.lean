import PciCatalog.Command.Run
import PciCatalog.Database.Default

/-!
# The default database over time

While a program runs, the default database is asked for and asked questions, and in between the
files change in any way.  All answers come from one database: the one that was loaded from the files
as they were at the first call that could load one.  The state of the run is told by the files at
the calls so far (`database_after`), whatever they were at other times.
-/

namespace PciCatalog
namespace DefaultDatabase

/-- A call for the default database, or for its answer to a question. -/
inductive Call where
  | get
  | ask (question : Command.Question)
  deriving DecidableEq

/-- What happens in a run: files are created, changed or removed, after which they are as given, or
there is a call. -/
inductive Event where
  | files (now : FileSystem)
  | call (call : Call)
  deriving DecidableEq

/-- What a call is answered. -/
inductive Answer where
  | database (loaded : LoadedDatabase)
  | name (name : String)
  deriving DecidableEq

/-- The files and the default database at a moment of a run. -/
structure Moment where
  files : FileSystem
  database : DefaultDatabase
  deriving DecidableEq

/-- The answer that a database has for a call. -/
def Call.answer (loaded : LoadedDatabase) : Call → Answer
  | get => .database loaded
  | ask question => .name (question.name loaded.database)

namespace Moment

/-- The answer to a call, and the default database behind it. -/
def reply (m : Moment) : Call → Except FileError Answer × DefaultDatabase
  | .get =>
    let (found, kept) := m.database.get m.files
    (found.map .database, kept)
  | .ask question =>
    let (found, kept) := m.database.ask m.files fun db => question.name db
    (found.map .name, kept)

/-- The next moment. -/
def step (m : Moment) : Event → Moment
  | .files now => { m with files := now }
  | .call call => { m with database := (m.reply call).2 }

/-- The moment behind some events. -/
def after (m : Moment) (events : List Event) : Moment :=
  events.foldl step m

/-- The moment before anything was called. -/
def start (files : FileSystem) (paths : List String) : Moment :=
  ⟨files, { paths, loaded := none }⟩

end Moment

/-- The files at each call of a run. -/
def filesAtCalls (files : FileSystem) : List Event → List FileSystem
  | [] => []
  | .files now :: rest => filesAtCalls now rest
  | .call _ :: rest => files :: filesAtCalls files rest

/-- The database that is loaded from some files, if that is possible. -/
def loaded? (paths : List String) (files : FileSystem) : Option LoadedDatabase :=
  (Database.load files paths none).toOption

/-- The default database that is left when calls have met some files: the first that could be
loaded. -/
def snapshot (paths : List String) (met : List FileSystem) : DefaultDatabase :=
  { paths, loaded := met.findSome? (loaded? paths) }

variable {m : Moment} {paths : List String} {met : List FileSystem}

/-- A call of any kind is answered by the database that the default database gives. -/
theorem Moment.reply_eq (m : Moment) (call : Call) : m.reply call =
    ((m.database.get m.files).1.map call.answer, (m.database.get m.files).2) := by
  cases call with
  | get => rfl
  | ask question =>
    rw [reply, ask]
    cases m.database.get m.files with
    | mk found kept => cases found <;> rfl

/-- A call leaves the first database that could be loaded, this call included. -/
theorem get_snapshot (files : FileSystem) :
    ((snapshot paths met).get files).2 = snapshot paths (met ++ [files]) := by
  unfold get snapshot
  -- A load that fails leaves nothing, so the search goes on with the files of the next call.
  rw [List.findSome?_append, List.findSome?_singleton, loaded?]
  cases met.findSome? (loaded? paths) with
  | some loaded => rfl
  | none => cases Database.load files paths none <;> rfl

theorem database_step (h : m.database = snapshot paths met) (event : Event) :
    (m.step event).database = snapshot paths (met ++ filesAtCalls m.files [event]) := by
  cases event with
  | files now => rw [filesAtCalls, filesAtCalls, List.append_nil, Moment.step, h]
  | call call =>
    rw [filesAtCalls, filesAtCalls, Moment.step, Moment.reply_eq, h]
    exact get_snapshot m.files

/-- What a run leaves is told by the files at its calls. -/
theorem database_after (h : m.database = snapshot paths met) (events : List Event) :
    (m.after events).database = snapshot paths (met ++ filesAtCalls m.files events) := by
  induction events generalizing m met with
  | nil => rw [filesAtCalls, List.append_nil, Moment.after, List.foldl_nil, h]
  | cons event rest ih =>
    have hrest := ih (database_step h event)
    rw [List.append_assoc] at hrest
    rw [Moment.after, List.foldl_cons, ← Moment.after, hrest]
    cases event <;> rfl

/-- The default database is a single snapshot.  Once a call has loaded it, it is kept, and every
later call is answered by the database that was loaded from the files as they were at this call,
however they have changed since; so it is also when no file could be opened then and the database
has no names.  As long as no call could load it, nothing is kept, and a call loads it from the files
of its own moment or fails as this load does. -/
theorem default_database_is_snapshot (files : FileSystem) (paths : List String)
    (events : List Event) :
    (∀ front now back loaded, filesAtCalls files events = front ++ now :: back →
      (∀ earlier ∈ front, ∀ other, Database.load earlier paths none ≠ .ok other) →
      Database.load now paths none = .ok loaded →
        ((Moment.start files paths).after events).database.loaded = some loaded ∧
          ∀ call, (((Moment.start files paths).after events).reply call).1 =
            .ok (call.answer loaded)) ∧
    ((∀ earlier ∈ filesAtCalls files events,
        ∀ other, Database.load earlier paths none ≠ .ok other) →
      ((Moment.start files paths).after events).database.loaded = none ∧
        ∀ call, (((Moment.start files paths).after events).reply call).1 =
          (Database.load ((Moment.start files paths).after events).files paths none).map
            call.answer) := by
  have hstart : (Moment.start files paths).database = snapshot paths [] := rfl
  have hkept : ((Moment.start files paths).after events).database =
      snapshot paths (filesAtCalls files events) := database_after hstart events
  have hfails : ∀ met : List FileSystem,
      (∀ earlier ∈ met, ∀ other, Database.load earlier paths none ≠ .ok other) →
        met.findSome? (loaded? paths) = none := by
    intro met hmet
    rw [List.findSome?_eq_none_iff]
    intro earlier hearlier
    rw [loaded?]
    cases hload : Database.load earlier paths none with
    | ok other => exact absurd hload (hmet earlier hearlier other)
    | error e => rfl
  constructor
  · intro front now back loaded hcalls hfront hload
    have hloaded : ((Moment.start files paths).after events).database.loaded = some loaded := by
      rw [hkept, hcalls, snapshot, List.findSome?_append, hfails front hfront, Option.none_or,
        List.findSome?_cons, loaded?, hload]
      rfl
    refine ⟨hloaded, fun call => ?_⟩
    rw [Moment.reply_eq, get_of_loaded hloaded]
    rfl
  · intro hcalls
    have hloaded : snapshot paths (filesAtCalls files events) = { paths, loaded := none } := by
      rw [snapshot, hfails _ hcalls]
    rw [hkept, hloaded]
    refine ⟨rfl, fun call => ?_⟩
    rw [Moment.reply_eq, hkept, hloaded, get]
    cases Database.load ((Moment.start files paths).after events).files paths none <;> rfl

/-- A place without files. -/
def noFiles : FileSystem := FileSystem.empty []

/-- A names file with one vendor. -/
def intelFiles : FileSystem where
  nodes := [(["ids"], .file "8086  Intel\n".toUTF8.data.toList)]
  workingDir := []
  distinct := List.pairwise_singleton _ _

/-- The database of `intelFiles`. -/
def intelDatabase : LoadedDatabase :=
  ⟨Database.empty.addAll [⟨.vendor, "8086", "Intel", none⟩], some (Path.ofString "ids")⟩

theorem snapshot_of_changing_files :
    ((Moment.start noFiles ["ids", "\x00"]).after [.call .get]).database.loaded = none ∧
      (((Moment.start noFiles ["ids", "\x00"]).after [.call .get, .files intelFiles, .call .get,
        .files noFiles]).reply (.ask (.vendor "0x8086"))).1 = .ok (.name "Intel") ∧
      (((Moment.start noFiles ["ids"]).after [.call .get, .files intelFiles]).reply
        (.ask (.vendor "0x8086"))).1 = .ok (.name "8086") := by
  have hfails : ∀ earlier ∈ [noFiles], ∀ other,
      Database.load earlier ["ids", "\x00"] none ≠ .ok other := by
    have hload : Database.load noFiles ["ids", "\x00"] none = .error .invalidPath := by rfl
    simp [hload]
  have hintel : Database.load intelFiles ["ids", "\x00"] none = .ok intelDatabase := by rfl
  have hempty : Database.load noFiles ["ids"] none = .ok ⟨Database.empty, none⟩ := by rfl
  refine ⟨((default_database_is_snapshot noFiles ["ids", "\x00"] [.call .get]).2 hfails).1, ?_, ?_⟩
  · exact ((default_database_is_snapshot noFiles ["ids", "\x00"] [.call .get, .files intelFiles,
      .call .get, .files noFiles]).1 [noFiles] intelFiles [] intelDatabase rfl hfails hintel).2
        (.ask (.vendor "0x8086"))
  · exact ((default_database_is_snapshot noFiles ["ids"] [.call .get, .files intelFiles]).1 []
      noFiles [] ⟨Database.empty, none⟩ rfl (by simp) hempty).2 (.ask (.vendor "0x8086"))

end DefaultDatabase
end PciCatalog
