import PciCatalog.Yaml.Cursor

/-!
# Scalars in the text

The two spellings of a scalar: plain, and between single or double quotes.  In both, a single line
break inside the scalar counts as a space, and of several the first is dropped.
-/

namespace PciCatalog
namespace Yaml

/-- The text that a line break between two parts of a scalar stands for, from the first break and
the breaks that follow it. -/
def foldBreaks (first : Char) (others : List Char) : List Char :=
  (if first ≠ '\n' then [first] else if others.isEmpty then [' '] else []) ++ others

namespace Plain

/-- Characters of a flow collection's punctuation. -/
def isFlowMark (c : Char) : Bool :=
  c = ',' || c = '[' || c = ']' || c = '\x7b' || c = '\x7d'

/-- Whether a colon before this text ends a plain scalar. -/
def endsKey (flow : Bool) : List Char → Bool
  | [] => true
  | c :: _ => isGap c || (flow && isFlowMark c)

/-- The number of characters up to the next gap or mark that ends a part of a plain scalar. -/
def partLength (flow : Bool) : List Char → Nat
  | [] => 0
  | c :: rest =>
    if isGap c || (c = ':' && endsKey flow rest) || (flow && (isFlowMark c || c = '?')) then 0
    else partLength flow rest + 1

/-- The line breaks after the first one between two parts, and the cursor behind them and their
indentation; none when a document mark follows. -/
def breaks? : Nat → Cursor → Option (List Char) × Cursor
  | 0, c => (some [], c)
  | fuel + 1, c =>
    if c.peek? = some ' ' then breaks? fuel c.next
    else
      match c.lineBreak? with
      | none => (some [], c)
      | some (found, next) =>
        if next.atDocumentMark then (none, next)
        else
          let (others, last) := breaks? fuel next
          (others.map (found :: ·), last)

/-- What stands between two parts of a plain scalar: the text that it counts for, the cursor behind
it, and whether it holds a line break. The text is empty when the scalar ends. -/
def between (c : Cursor) : List Char × Cursor × Bool :=
  let (spaces, behind) := c.takeWhile (· == ' ')
  match behind.lineBreak? with
  | none => (spaces, behind, false)
  | some (first, next) =>
    if next.atDocumentMark then ([], next, true)
    else
      match breaks? next.rest.length next with
      | (none, last) => ([], last, true)
      | (some others, last) => (foldBreaks first others, last, true)

/-- Reads the further parts of a plain scalar: `found` holds the text so far in reverse, `joint` the
text before the next part, and `broken` tells whether a line break stood right before. -/
def readFrom (flow : Bool) (indent : Int) :
    Nat → List Char → List Char → Bool → Cursor → List Char × Cursor × Bool
  | 0, found, _, broken, c => (found, c, broken)
  | fuel + 1, found, joint, broken, c =>
    if c.peek? = some '#' then (found, c, broken)
    else
      match partLength flow c.rest with
      | 0 => (found, c, broken)
      | n + 1 =>
        let found := (c.rest.take (n + 1)).reverse ++ (joint.reverse ++ found)
        let (joint, next, broken) := between (c.skip (n + 1))
        if joint.isEmpty || next.peek? = some '#' || (!flow && (next.column : Int) < indent) then
          (found, next, broken)
        else
          readFrom flow indent fuel found joint broken next

/-- Reads a plain scalar: its text, the cursor behind it, and whether a line break stands right
before the cursor. -/
def read (flow : Bool) (indent : Int) (c : Cursor) : List Char × Cursor × Bool :=
  let (found, next, broken) := readFrom flow indent (c.rest.length + 1) [] [] false c
  (found.reverse, next, broken)

end Plain

namespace Quote

/-- The character that a letter after a backslash stands for. -/
def escape? : Char → Option Char
  | '0' => some '\x00'
  | 'a' => some '\x07'
  | 'b' => some '\x08'
  | 't' => some '\t'
  | '\t' => some '\t'
  | 'n' => some '\n'
  | 'v' => some '\x0b'
  | 'f' => some '\x0c'
  | 'r' => some '\r'
  | 'e' => some '\x1b'
  | ' ' => some ' '
  | '"' => some '"'
  | '\\' => some '\\'
  | '/' => some '/'
  | 'N' => some '\x85'
  | '_' => some '\xa0'
  | 'L' => some '\u2028'
  | 'P' => some '\u2029'
  | _ => none

/-- The number of hexadecimal digits that a letter after a backslash announces. -/
def codeLength? : Char → Option Nat
  | 'x' => some 2
  | 'u' => some 4
  | 'U' => some 8
  | _ => none

/-- The value of a hexadecimal digit. -/
def hexValue? (c : Char) : Option Nat :=
  if '0' ≤ c && c ≤ '9' then some (c.toNat - 0x30)
  else if 'a' ≤ c && c ≤ 'f' then some (c.toNat - 0x61 + 10)
  else if 'A' ≤ c && c ≤ 'F' then some (c.toNat - 0x41 + 10)
  else none

/-- The character with the code in the next characters; a code past the last one is the fault of a
scalar, and one that does not fit into 31 bits is too large a number. -/
def codeChar (length : Nat) (c : Cursor) : Except Fault Char :=
  match (c.rest.take length).mapM hexValue? with
  | none => .error .malformed
  | some digits =>
    if digits.length < length then .error .malformed
    else
      let code := digits.foldl (fun value digit => value * 16 + digit) 0
      if h : code.isValidChar then .ok (Char.ofNatAux code h)
      else if 0x7FFFFFFF < code then .error .hugeNumber
      else if 0x10FFFF < code then .error .impossibleScalar
      else .error .malformed

/-- The line breaks after the first one, and the cursor behind them and their indentation; a
document mark must not follow. -/
def breaks : Nat → Cursor → Except Fault (List Char × Cursor)
  | 0, c => .ok ([], c)
  | fuel + 1, c =>
    if c.atDocumentMark then .error .malformed
    else
      let (_, behind) := c.takeWhile fun x => x = ' ' || x = '\t'
      match behind.lineBreak? with
      | none => .ok ([], behind)
      | some (found, next) => do
        let (others, last) ← breaks fuel next
        pure (found :: others, last)

/-- Blanks or a line break inside quotes: the text that it counts for, and the cursor behind it. -/
def gap (c : Cursor) : Except Fault (List Char × Cursor) :=
  let (blanks, behind) := c.takeWhile fun x => x = ' ' || x = '\t'
  match behind.lineBreak? with
  | none => if behind.rest.isEmpty then .error .malformed else .ok (blanks, behind)
  | some (first, next) => do
    let (others, last) ← breaks (next.rest.length + 1) next
    pure (foldBreaks first others, last)

/-- What a backslash in double quotes stands for, from the cursor behind the backslash. -/
def escaped (c : Cursor) : Except Fault (List Char × Cursor) :=
  match c.peek? with
  | none => .error .malformed
  | some letter =>
    match escape? letter, codeLength? letter with
    | some x, _ => .ok ([x], c.next)
    | none, some length => do
      let x ← codeChar length c.next
      pure ([x], c.next.skip length)
    | none, none =>
      match c.lineBreak? with
      | some (_, next) => breaks (next.rest.length + 1) next
      | none => .error .malformed

/-- Reads on inside quotes up to the closing one; `found` holds the text so far in reverse. -/
def readFrom (double : Bool) : Nat → List Char → Cursor → Except Fault (List Char × Cursor)
  | 0, _, _ => .error .malformed
  | fuel + 1, found, c =>
    match c.rest with
    | [] => .error .malformed
    | x :: rest =>
      if isGap x then do
        let (text, next) ← gap c
        readFrom double fuel (text.reverse ++ found) next
      else if !double && x = '\x27' && rest.head? = some '\x27' then
        readFrom double fuel ('\x27' :: found) (c.skip 2)
      else if x = (if double then '"' else '\x27') then .ok (found.reverse, c.next)
      else if double && x = '\\' then do
        let (text, next) ← escaped c.next
        readFrom double fuel (text.reverse ++ found) next
      else readFrom double fuel (x :: found) c.next

/-- Reads a quoted scalar from the cursor at its opening quote. -/
def read (double : Bool) (c : Cursor) : Except Fault (List Char × Cursor) :=
  readFrom double c.rest.length [] c.next

end Quote
end Yaml
end PciCatalog
