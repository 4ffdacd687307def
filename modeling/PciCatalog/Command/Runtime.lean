import PciCatalog.Command.Outcome
import PciCatalog.Command.Request

/-!
# What a command runs on

The libraries and the terminal that a command relies on: what reads the words of a command line,
what says which files an option may name, what reads a settings file, how deeply values may be
nested, and which characters the terminal cannot show.  None of it belongs to the program, which is
taken to run on any of them; `LawfulCheck` is what the check of files is documented to do.
-/

namespace PciCatalog
namespace Command

/-- Why a command line makes no request: it is not well-formed, or it asks to be told something. -/
inductive Refusal where
  | misused
  | notice (text : String)
  deriving DecidableEq, Repr

/-- The outcome of a command line that makes no request. -/
def Outcome.ofRefusal : Refusal → Outcome
  | .misused => .misused
  | .notice text => .printed text

/-- What the words of a command line come to. Once the options in front of a command are read, the
words of the command may still make no request; a command line without a command is refused when the
files that its options name have been looked at. -/
inductive CommandLine where
  | request (options : Options) (request : Except Refusal Request)
  | refused (files : List (FileOption × String)) (refusal : Refusal)

/-- What a command runs on. -/
structure Runtime where
  parser : List String → CommandLine
  allows : FileOption → PathState → Bool
  reader : DocumentReader
  levels : Levels
  unprintable : List Char := []
  wide : ∀ c ∈ unprintable, 0x80 ≤ c.toNat := by exact wide_nil

namespace Runtime

/-- What the check of the files that options name is documented to do: a names file need not be
there, but a settings file must, and a names file that is there and may be read is taken. -/
structure LawfulCheck (rt : Runtime) : Prop where
  idsFile_missing : rt.allows .idsFile .missing = true
  idsFile_readable : rt.allows .idsFile (.file true) = true
  settings_missing : rt.allows .settings .missing = false

/-- Checks the file that an option names. -/
def checkFile (rt : Runtime) (fs : FileSystem) (file : FileOption × String) :
    Except Outcome Unit :=
  match fs.pathState file.2 with
  | .error e => .error (.broken (.file e))
  | .ok state => if rt.allows file.1 state then .ok () else .error .misused

/-- The outcome of printing a text. Control sequences are for terminals and are not printed. -/
def print (rt : Runtime) (text : String) : Outcome :=
  let shown := Text.withoutControlSequences text.toList
  if shown.any rt.unprintable.contains then .broken .unprintable
  else .printed (String.ofList shown)

end Runtime
end Command
end PciCatalog
