import PciCatalog.Number.Decimal
import PciCatalog.Number.Numeral

/-!
# JSON

Reports for other programs are written as JSON, one item or member to a line and each level indented
by two blanks.  The members of an object keep their order.  Only ASCII characters are written as
they are; the numbers that JSON cannot express are written as the words `NaN` and `Infinity`.
-/

namespace PciCatalog

/-- A report for other programs. -/
inductive Json where
  | null
  | int (n : Int)
  | real (x : Binary64)
  | text (s : String)
  | list (items : List Json)
  | object (members : List (String × Json))
  deriving Repr, Inhabited

namespace Json

/-- The escape of one 16-bit unit. -/
def escapeUnit (n : Nat) : List Char :=
  '\\' :: 'u' :: Hexadecimal.padded 4 n

/-- The escape of a code point: one unit, or the two units of a surrogate pair. -/
def escapeCode (n : Nat) : List Char :=
  if n < 0x10000 then escapeUnit n
  else
    escapeUnit (0xD800 + (n - 0x10000) / 0x400) ++ escapeUnit (0xDC00 + (n - 0x10000) % 0x400)

/-- One character between quotes. -/
def escapeChar (c : Char) : List Char :=
  if c = '"' || c = '\\' then ['\\', c]
  else if c = '\n' then ['\\', 'n']
  else if c = '\r' then ['\\', 'r']
  else if c = '\t' then ['\\', 't']
  else if c = '\x08' then ['\\', 'b']
  else if c = '\x0c' then ['\\', 'f']
  else if ' ' ≤ c && c ≤ '~' then [c]
  else escapeCode c.toNat

/-- A text between quotes. -/
def quoted (s : String) : List Char :=
  '"' :: (s.toList.flatMap escapeChar ++ ['"'])

/-- The decimal digits of an integer with its sign. -/
def intText (n : Int) : List Char :=
  if n < 0 then '-' :: Nat.toDigits 10 n.natAbs else Nat.toDigits 10 n.natAbs

/-- The shortest text of a double, or the word for it. -/
def realText : Binary64 → List Char
  | .finite negative units => (Binary64.finite negative units).shortestText
  | .infinite false => "Infinity".toList
  | .infinite true => "-Infinity".toList
  | .nan => "NaN".toList

/-- The start of a line on the given level. -/
def newLine (depth : Nat) : List Char :=
  '\n' :: List.replicate (2 * depth) ' '

mutual

/-- A value whose last line stands on the given level. -/
def write (depth : Nat) : Json → List Char
  | .null => "null".toList
  | .int n => intText n
  | .real x => realText x
  | .text s => quoted s
  | .list [] => ['[', ']']
  | .list (item :: rest) =>
    '[' :: (newLine (depth + 1) ++ write (depth + 1) item ++ writeItems (depth + 1) rest ++
      newLine depth ++ [']'])
  | .object [] => ['{', '}']
  | .object ((key, value) :: rest) =>
    '{' :: (newLine (depth + 1) ++ quoted key ++ ':' :: ' ' :: write (depth + 1) value ++
      writeMembers (depth + 1) rest ++ newLine depth ++ ['}'])

/-- Further items of a list, each behind a comma. -/
def writeItems (depth : Nat) : List Json → List Char
  | [] => []
  | item :: rest => ',' :: (newLine depth ++ write depth item ++ writeItems depth rest)

/-- Further members of an object, each behind a comma. -/
def writeMembers (depth : Nat) : List (String × Json) → List Char
  | [] => []
  | (key, value) :: rest =>
    ',' :: (newLine depth ++ quoted key ++ ':' :: ' ' :: write depth value ++
      writeMembers depth rest)

end

/-- The text of a report. -/
def render (j : Json) : String :=
  String.ofList (j.write 0)

example : (list [.int (-1), .text "é"]).render = "[\n  -1,\n  \"\\u00e9\"\n]" := by decide +kernel

end Json
end PciCatalog
