/-!
# The words of a command line

A word is an option, the value of the option before it, or an argument.  What a word is depends on
the word alone and on the options that the command has; `OptionTable.apply` walks along the words,
changes the settings of the command as the options say, and leaves the arguments.
-/

namespace PciCatalog
namespace Command

/-- What an option does to the settings of a command: a flag changes them by itself, another option
by its value. -/
inductive Effect (σ : Type) where
  | flag (change : σ → σ)
  | valued (change : String → σ → σ)

/-- What a word on a command line is. -/
inductive Word (σ : Type) where
  | argument
  | change (change : σ → σ)
  | awaiting (change : String → σ → σ)
  | unknown

/-- The options of a command: the long ones with their two dashes, the flags that one dash and a
character set, and whether options may follow arguments. -/
structure OptionTable (σ : Type) where
  long : List (String × Effect σ)
  short : List (Char × (σ → σ)) := []
  interspersed : Bool

namespace OptionTable

variable {σ : Type}

/-- The name of a long option, and the value after an equals sign. -/
def splitValue (word : List Char) : String × Option String :=
  match word.dropWhile (· ≠ '=') with
  | [] => (String.ofList word, none)
  | _ :: value => (String.ofList (word.takeWhile (· ≠ '=')), some (String.ofList value))

/-- What a word with two dashes is; a flag takes no value. -/
def longWord (table : OptionTable σ) (word : List Char) : Word σ :=
  let (name, value) := splitValue word
  match table.long.lookup name, value with
  | some (.flag change), none => .change change
  | some (.valued change), none => .awaiting change
  | some (.valued change), some v => .change (change v)
  | some (.flag _), some _ => .unknown
  | none, _ => .unknown

/-- The change that the flags behind one dash make together. -/
def shortFlags (table : OptionTable σ) : List Char → Option (σ → σ)
  | [] => some id
  | c :: rest => do
    let first ← table.short.lookup c
    let others ← table.shortFlags rest
    pure fun s => others (first s)

/-- What a word is; a lone dash is an argument. -/
def read (table : OptionTable σ) (word : String) : Word σ :=
  match word.toList with
  | '-' :: '-' :: rest => table.longWord ('-' :: '-' :: rest)
  | '-' :: c :: rest =>
    match table.shortFlags (c :: rest) with
    | some change => .change change
    | none => .unknown
  | _ => .argument

/-- The settings after the options among some words, and the arguments; two dashes alone end the
options. There is no result when an option is unknown, lacks its value or has one that it does not
take. -/
def apply (table : OptionTable σ) (s : σ) : List String → Option (σ × List String)
  | [] => some (s, [])
  | word :: rest =>
    if word = "--" then some (s, rest)
    else
      match table.read word with
      | .argument =>
        if table.interspersed then (table.apply s rest).map fun (s, args) => (s, word :: args)
        else some (s, word :: rest)
      | .change change => table.apply (change s) rest
      | .awaiting change =>
        match rest with
        | [] => none
        | value :: others => table.apply (change value s) others
      | .unknown => none

end OptionTable
end Command
end PciCatalog
