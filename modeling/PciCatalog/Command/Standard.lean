import PciCatalog.Command.Run
import PciCatalog.Command.Words
import PciCatalog.Yaml.Document

/-!
# The standard runtime

The program as it runs from a shell: which words of a command line are options and which arguments,
which files an option may name, and YAML for the settings file.
-/

namespace PciCatalog
namespace Command

/-- The line that tells the version. -/
def versionLine : String := "pcinames, version 0.1.0\n"

/-- The line that tells how the program is used. -/
def usageLine : String := "Usage: pcinames [OPTIONS] COMMAND [ARGS]...\n"

/-- The options in front of the command; `notice` is what an option among them asks to be told
instead. -/
structure LeadingOptions extends Options where
  notice : Option String := none
  deriving DecidableEq, Repr

namespace LeadingOptions

/-- Files with the value of an option set. -/
def setFile (option : FileOption) (path : String) :
    List (FileOption × String) → List (FileOption × String)
  | [] => [(option, path)]
  | (o, p) :: rest =>
    if o = option then (o, path) :: rest else (o, p) :: setFile option path rest

/-- The options with a file given. -/
def withFile (option : FileOption) (path : String) (o : LeadingOptions) : LeadingOptions :=
  { o with files := setFile option path o.files }

/-- The options with a notice asked for; the first one counts. -/
def withNotice (notice : String) (o : LeadingOptions) : LeadingOptions :=
  { o with notice := o.notice <|> some notice }

/-- The options that may stand in front of a command. -/
def table : OptionTable LeadingOptions where
  long := [("--json", .flag fun o => { o with json := true }),
    ("--ids-file", .valued (withFile .idsFile)),
    ("--config", .valued (withFile .settings)),
    ("--verbose", .flag id),
    ("--version", .flag (withNotice versionLine)),
    ("--help", .flag (withNotice usageLine))]
  short := [('v', id)]
  interspersed := false

example : table.apply {} ["-v", "--", "list"] = some ({}, ["list"]) := by decide +kernel

/-- Reads the options in front of a command, and leaves the other words. -/
def read (words : List String) : Except Refusal (Options × List String) :=
  match table.apply {} words with
  | none => .error .misused
  | some (options, rest) =>
    match options.notice with
    | some notice => .error (.notice notice)
    | none => .ok (options.toOptions, rest)

end LeadingOptions

/-- The options of a single command. -/
structure Flags where
  gpusOnly : Bool := false
  names : Bool := true
  usage : Bool := false
  deriving DecidableEq, Repr

namespace Flags

/-- The option that asks how a command is used. -/
def usageOption : String × Effect Flags :=
  ("--help", .flag fun f => { f with usage := true })

/-- The options that say whether numbers get their names. -/
def nameOptions : List (String × Effect Flags) :=
  [("--names", .flag fun f => { f with names := true }),
    ("--no-names", .flag fun f => { f with names := false })]

/-- The option that leaves out everything but GPUs. -/
def gpuOption : String × Effect Flags :=
  ("--gpu", .flag fun f => { f with gpusOnly := true })

end Flags

namespace Request

/-- Reads the words of a command with the given options; `make` says what its arguments ask for. -/
def readLeaf (options : List (String × Effect Flags)) (make : Flags → List String → Option Request)
    (words : List String) : Except Refusal Request :=
  let table : OptionTable Flags := { long := Flags.usageOption :: options, interspersed := true }
  match table.apply {} words with
  | none => .error .misused
  | some (flags, args) =>
    if flags.usage then .error (.notice usageLine)
    else
      match make flags args with
      | some request => .ok request
      | none => .error .misused

/-- Reads a question whose arguments `make` takes. -/
def readQuestion (make : List String → Option Question) : List String → Except Refusal Request :=
  readLeaf [] fun _ args => (make args).map Request.lookup

/-- The words in front of the command of a group are options of the group. -/
def groupTable : OptionTable Flags where
  long := [Flags.usageOption]
  interspersed := false

/-- Reads the options of a group, and leaves the other words. -/
def readGroupOptions (words : List String) : Except Refusal (List String) :=
  match groupTable.apply {} words with
  | none => .error .misused
  | some (flags, rest) => if flags.usage then .error (.notice usageLine) else .ok rest

/-- Reads the words of a group of commands. Words behind two dashes that name no command are read as
options once more. -/
def readGroup (command? : String → Option (List String → Except Refusal Request))
    (words : List String) : Except Refusal Request := do
  match ← readGroupOptions words with
  | [] => .error .misused
  | name :: rest =>
    match command? name with
    | some read => read rest
    | none =>
      -- Behind two dashes an option stands where the command should be.
      let _ ← readGroupOptions (name :: rest)
      .error .misused

/-- The commands that ask for names. -/
def lookupCommand? : String → Option (List String → Except Refusal Request)
  | "vendor" => some (readQuestion fun
    | [vendor] => some (.vendor vendor)
    | _ => none)
  | "device" => some (readQuestion fun
    | [vendor, device] => some (.device vendor device)
    | _ => none)
  | "subsystem" => some (readQuestion fun
    | [vendor, device, subvendor, subdevice] =>
      some (.subsystem vendor device subvendor subdevice)
    | _ => none)
  | "class" => some (readQuestion fun
    | [code] => some (.deviceClass code)
    | _ => none)
  | _ => none

/-- The commands about the database. -/
def databaseCommand? : String → Option (List String → Except Refusal Request)
  | "stats" => some (readLeaf [] fun
    | _, [] => some .stats
    | _, _ => none)
  | _ => none

/-- The commands. -/
def command? : String → Option (List String → Except Refusal Request)
  | "list" => some (readLeaf (Flags.gpuOption :: Flags.nameOptions) fun
    | flags, [] => some (.list flags.gpusOnly flags.names)
    | _, _ => none)
  | "info" => some (readLeaf Flags.nameOptions fun
    | flags, [address] => some (.info address flags.names)
    | _, _ => none)
  | "lookup" => some (readGroup lookupCommand?)
  | "db" => some (readGroup databaseCommand?)
  | _ => none

end Request

/-- Reads a command line. Without words there is nothing to do; words behind two dashes that name no
command are read as options once more. -/
def parse (words : List String) : CommandLine :=
  match LeadingOptions.read words with
  | .error refusal => .refused [] refusal
  | .ok (options, []) => .refused options.files .misused
  | .ok (options, name :: others) =>
    match Request.command? name with
    | some read => .request options (read others)
    | none =>
      -- Behind two dashes an option stands where the command should be.
      match LeadingOptions.read (name :: others) with
      | .error refusal => .refused options.files refusal
      | .ok (more, _) => .refused (options.files ++ more.files) .misused

/-- Whether an option may name what stands at a path: a file that may be read, or for a names file
nothing at all. -/
def mayName : FileOption → PathState → Bool
  | .idsFile, .missing => true
  | .settings, .missing => false
  | _, .directory _ => false
  | _, .file readable => readable

/-- The levels of nesting that the interpreter has left where the program asks for a form. -/
def standardLevels : Levels := ⟨990, 989, 988, 987⟩

/-- The runtime of the program behind a shell with a terminal for UTF-8. -/
def Runtime.standard : Runtime where
  parser := parse
  allows := mayName
  reader := Yaml.reader
  levels := standardLevels

theorem Runtime.lawfulCheck_standard : Runtime.standard.LawfulCheck :=
  ⟨rfl, rfl, rfl⟩

end Command
end PciCatalog
