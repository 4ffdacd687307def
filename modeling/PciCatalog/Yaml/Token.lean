import PciCatalog.Yaml.Scalar

/-!
# Tokens

A YAML text as a list of tokens.  Indentation shows as tokens that open and close block collections.
A colon may turn out to follow a key that has been read already, so a token may be put in front of
earlier ones: `KeyPlace` remembers where a key may have begun.
-/

namespace PciCatalog
namespace Yaml

/-- A mark or a scalar of a YAML text. -/
inductive Token where
  | documentStart
  | documentEnd
  | blockSequenceStart
  | blockMappingStart
  | blockEnd
  | flowSequenceStart
  | flowSequenceEnd
  | flowMappingStart
  | flowMappingEnd
  | blockEntry
  | flowEntry
  | key
  | value
  | scalar (plain : Bool) (text : List Char)
  deriving DecidableEq, Repr

/-- A place where a key without a mark of its own may have begun: the number of tokens before it,
and whether the text is malformed unless it is a key. -/
structure KeyPlace where
  tokens : Nat
  required : Bool
  index : Nat
  line : Nat
  column : Nat
  deriving DecidableEq, Repr

/-- The state of reading tokens. The head of `keys` belongs to the innermost flow collection, its
last element to the block around them; `found` holds the tokens in reverse. -/
structure Scan where
  cursor : Cursor
  keys : List (Option KeyPlace) := [none]
  indent : Int := -1
  indents : List Int := []
  keyAllowed : Bool := true
  found : List Token := []
  deriving DecidableEq, Repr

namespace Scan

/-- Whether the cursor is inside a flow collection. -/
def inFlow (s : Scan) : Bool := 1 < s.keys.length

/-- The column of the cursor. -/
def column (s : Scan) : Int := s.cursor.column

/-- One more token. -/
def push (s : Scan) (t : Token) : Scan := { s with found := t :: s.found }

/-- A token put behind the first `place` tokens. -/
def insert (s : Scan) (place : Nat) (t : Token) : Scan :=
  let later := s.found.length - place
  { s with found := s.found.take later ++ t :: s.found.drop later }

/-- Skips spaces, comments and line breaks up to the next token. -/
def skipGaps (s : Scan) : Scan :=
  go s.cursor.rest.length false (if s.cursor.index = 0 && s.cursor.peek? = some '\uFEFF' then
    { s with cursor := s.cursor.next } else s)
where
  /-- Skips at most `fuel` characters; `comment` tells whether the cursor is in a comment. -/
  go : Nat → Bool → Scan → Scan
  | 0, _, s => s
  | fuel + 1, comment, s =>
    match s.cursor.peek? with
    | none => s
    | some c =>
      let next := { s with cursor := s.cursor.next }
      if isBreak c then go fuel false { next with keyAllowed := s.keyAllowed || !s.inFlow }
      else if comment || c = '#' then go fuel true next
      else if c = ' ' then go fuel false next
      else s

/-- The longest distance of a key from its colon. -/
def keyReach : Nat := 1024

/-- A key place that may still turn out to be a key; one on an earlier line or too far back is
dropped. -/
def refreshKey (c : Cursor) : Option KeyPlace → Except Fault (Option KeyPlace)
  | none => .ok none
  | some k =>
    if k.line ≠ c.line || keyReach < c.index - k.index then
      if k.required then .error .malformed else .ok none
    else .ok (some k)

/-- Drops the key places that cannot turn out to be keys any more. -/
def refreshKeys (s : Scan) : Except Fault Scan := do
  pure { s with keys := ← s.keys.mapM (refreshKey s.cursor) }

/-- Closes the block collections that are indented deeper than a column; `indents` holds the
indentations around the current one. -/
def unwind (column : Int) (s : Scan) : Scan :=
  -- Inside a flow collection indentation has no meaning.
  if s.inFlow then s else go column s.indents s
where
  /-- Closes one collection for each remaining indentation at most. -/
  go (column : Int) : List Int → Scan → Scan
  | [], s => if column < s.indent then (({ s with indent := -1 } : Scan).push .blockEnd) else s
  | outer :: rest, s =>
    if column < s.indent then
      go column rest (({ s with indent := outer, indents := rest } : Scan).push .blockEnd)
    else s

/-- Opens a block collection at a column, if it is deeper than the current one; tells whether it
did. -/
def deepen (s : Scan) (column : Int) : Bool × Scan :=
  if s.indent < column then (true, { s with indent := column, indents := s.indent :: s.indents })
  else (false, s)

/-- Forgets the key place of the innermost collection. -/
def dropKey (s : Scan) : Except Fault Scan :=
  match s.keys with
  | some k :: others =>
    if k.required then .error .malformed else .ok { s with keys := none :: others }
  | _ => .ok s

/-- Remembers the cursor as a place where a key may begin, if keys are allowed here. -/
def markKey (s : Scan) : Except Fault Scan :=
  if s.keyAllowed then do
    let s ← s.dropKey
    let place : KeyPlace := {
      tokens := s.found.length
      -- At the indentation of a block mapping nothing but its next key can stand.
      required := !s.inFlow && s.indent = s.column
      index := s.cursor.index
      line := s.cursor.line
      column := s.cursor.column }
    pure { s with keys := some place :: s.keys.tail }
  else .ok s

/-- The token at the cursor, and the cursor moved behind its one character. -/
def take (s : Scan) (t : Token) : Scan :=
  { s.push t with cursor := s.cursor.next }

/-- A block collection opened at the cursor, where a mark of it is allowed. -/
def openBlock (s : Scan) (start : Token) : Except Fault Scan :=
  if s.inFlow then .ok s
  else if s.keyAllowed then
    match s.deepen s.column with
    | (true, deeper) => .ok (deeper.push start)
    | (false, same) => .ok same
  else .error .malformed

/-- A line of three points or hyphens. -/
def readDocumentMark (s : Scan) (t : Token) : Except Fault Scan := do
  let s ← (s.unwind (-1)).dropKey
  pure { s.push t with keyAllowed := false, cursor := s.cursor.skip 3 }

/-- The mark that opens a flow collection. -/
def readFlowStart (s : Scan) (t : Token) : Except Fault Scan := do
  let s ← s.markKey
  pure { s.take t with keys := none :: s.keys, keyAllowed := true }

/-- The mark that closes a flow collection. -/
def readFlowEnd (s : Scan) (t : Token) : Except Fault Scan := do
  let s ← s.dropKey
  if s.inFlow then pure { s.take t with keys := s.keys.tail, keyAllowed := false }
  else .error .malformed

/-- The comma between the entries of a flow collection. -/
def readFlowEntry (s : Scan) : Except Fault Scan := do
  let s ← s.dropKey
  pure { s.take .flowEntry with keyAllowed := true }

/-- The hyphen before an entry of a block sequence. -/
def readBlockEntry (s : Scan) : Except Fault Scan := do
  let s ← (← s.openBlock .blockSequenceStart).dropKey
  pure { s.take .blockEntry with keyAllowed := true }

/-- The question mark before a key. -/
def readKey (s : Scan) : Except Fault Scan := do
  let s ← (← s.openBlock .blockMappingStart).dropKey
  pure { s.take .key with keyAllowed := !s.inFlow }

/-- The colon before a value; if a key may have begun before it, that place becomes a key, and where
it is deeper than the block around it, the start of a block mapping. -/
def readValue (s : Scan) : Except Fault Scan := do
  match s.keys with
  | some k :: others =>
    let s := ({ s with keys := none :: others } : Scan).insert k.tokens .key
    let s :=
      if s.inFlow then s
      else
        match s.deepen k.column with
        | (true, deeper) => deeper.insert k.tokens .blockMappingStart
        | (false, same) => same
    pure { s.take .value with keyAllowed := false }
  | _ =>
    let s ← s.openBlock .blockMappingStart
    pure { s.take .value with keyAllowed := !s.inFlow }

/-- A plain scalar. -/
def readPlain (s : Scan) : Except Fault Scan := do
  let s ← s.markKey
  let (text, next, broken) := Plain.read s.inFlow (s.indent + 1) s.cursor
  pure { s.push (.scalar true text) with cursor := next, keyAllowed := broken }

/-- A quoted scalar. -/
def readQuoted (s : Scan) (double : Bool) : Except Fault Scan := do
  let s ← s.markKey
  let (text, next) ← Quote.read double s.cursor
  pure { s.push (.scalar false text) with cursor := next, keyAllowed := false }

/-- Whether a plain scalar can begin with a character, before a gap or not. -/
def opensPlain (flow gapNext : Bool) (c : Char) : Bool :=
  if isGap c then false
  else if c = '-' then !gapNext
  else if c = '?' || c = ':' then !flow && !gapNext
  else !(",[]#&*!|>\x27\"%@\x60\x7b\x7d".toList.contains c)

/-- Reads the token at the cursor, which stands before a character `c`. -/
def readToken (s : Scan) (c : Char) : Except Fault Scan :=
  let gapNext := s.cursor.gapAfter 1
  if s.cursor.column = 0 && s.cursor.atDocumentMark then
    s.readDocumentMark (if c = '-' then .documentStart else .documentEnd)
  else if c = '[' then s.readFlowStart .flowSequenceStart
  else if c = '\x7b' then s.readFlowStart .flowMappingStart
  else if c = ']' then s.readFlowEnd .flowSequenceEnd
  else if c = '\x7d' then s.readFlowEnd .flowMappingEnd
  else if c = ',' then s.readFlowEntry
  else if c = '-' && gapNext then s.readBlockEntry
  else if c = '?' && (s.inFlow || gapNext) then s.readKey
  else if c = ':' && (s.inFlow || gapNext) then s.readValue
  else if c = '\x27' then s.readQuoted false
  else if c = '"' then s.readQuoted true
  else if opensPlain s.inFlow gapNext c then s.readPlain
  else .error .malformed

/-- Reads the remaining tokens. -/
def run : Nat → Scan → Except Fault Scan
  | 0, _ => .error .malformed
  | fuel + 1, s => do
    let s ← s.skipGaps.refreshKeys
    let s := s.unwind s.column
    match s.cursor.peek? with
    | none => (s.unwind (-1)).dropKey
    | some c => run fuel (← s.readToken c)

end Scan

/-- The characters that a YAML text may hold. -/
def isAllowed (c : Char) : Bool :=
  let n := c.toNat
  c = '\t' || c = '\n' || c = '\r' || (0x20 ≤ n && n ≤ 0x7E) || n = 0x85 ||
    (0xA0 ≤ n && n ≤ 0xD7FF) || (0xE000 ≤ n && n ≤ 0xFFFD) || 0x10000 ≤ n

/-- The tokens of a YAML text. -/
def tokens (text : List Char) : Except Fault (List Token) :=
  if text.all isAllowed then do
    let s ← Scan.run (text.length + 1) { cursor := { rest := text } }
    pure s.found.reverse
  else .error .malformed

end Yaml
end PciCatalog
