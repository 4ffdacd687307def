/-!
# Cursors

A cursor is a place in a YAML text: the characters that are left, with the number of characters,
lines and columns before them.
-/

namespace PciCatalog
namespace Yaml

/-- Why a YAML text has no value: it is not well-formed, or a scalar in it has the form of a number
or date but none of its values. -/
inductive Fault where
  | malformed
  | impossibleScalar
  | hugeNumber
  deriving DecidableEq, Repr

/-- A place in a text. -/
structure Cursor where
  rest : List Char
  index : Nat := 0
  line : Nat := 0
  column : Nat := 0
  deriving DecidableEq, Repr

/-- A character that ends a line. -/
def isBreak (c : Char) : Bool :=
  c = '\n' || c = '\r' || c = '\x85' || c = '\u2028' || c = '\u2029'

/-- A character that separates words: a space, a tab or a line's end. -/
def isGap (c : Char) : Bool :=
  c = ' ' || c = '\t' || isBreak c

namespace Cursor

/-- The next character. -/
def peek? (c : Cursor) : Option Char := c.rest.head?

/-- Whether the text ends here or goes on with a gap, after `n` more characters. -/
def gapAfter (c : Cursor) (n : Nat) : Bool :=
  match c.rest[n]? with
  | some x => isGap x
  | none => true

/-- The cursor behind the next character. -/
def next (c : Cursor) : Cursor :=
  match c.rest with
  | [] => c
  | x :: rest =>
    let index := c.index + 1
    if (isBreak x && x != '\r') || (x = '\r' && rest.head? ≠ some '\n') then
      { rest, index, line := c.line + 1, column := 0 }
    else if x = '\uFEFF' then { rest, index, line := c.line, column := c.column }
    else { rest, index, line := c.line, column := c.column + 1 }

/-- The cursor behind some characters. -/
def skip : Nat → Cursor → Cursor
  | 0, c => c
  | n + 1, c => skip n c.next

/-- The characters in front that satisfy a condition, and the cursor behind them. -/
def takeWhile (p : Char → Bool) (c : Cursor) : List Char × Cursor :=
  let front := c.rest.takeWhile p
  (front, c.skip front.length)

/-- A line's end at the cursor as one character, and the cursor behind it. -/
def lineBreak? (c : Cursor) : Option (Char × Cursor) :=
  match c.rest with
  | '\r' :: '\n' :: _ => some ('\n', c.skip 2)
  | x :: _ =>
    if x = '\u2028' || x = '\u2029' then some (x, c.next)
    else if isBreak x then some ('\n', c.next)
    else none
  | [] => none

/-- Whether a line with a document mark begins here. -/
def atDocumentMark (c : Cursor) : Bool :=
  (c.rest.take 3 = ['-', '-', '-'] || c.rest.take 3 = ['.', '.', '.']) && c.gapAfter 3

end Cursor
end Yaml
end PciCatalog
