import PciCatalog.Yaml.Token

/-!
# Nodes

The tree that the tokens of a YAML text describe.  Of a key only its text matters, so a key that is
a collection is kept as such a mark and not as a tree.  A missing node counts as an empty plain
scalar.
-/

namespace PciCatalog
namespace Yaml

/-- The key of a mapping entry: a scalar, or some collection. -/
inductive NodeKey where
  | scalar (plain : Bool) (text : List Char)
  | collection
  deriving DecidableEq, Repr

/-- A tree of scalars, sequences and mappings. -/
inductive Node where
  | scalar (plain : Bool) (text : List Char)
  | sequence (items : List Node)
  | mapping (entries : List (NodeKey × Node))
  deriving Repr, Inhabited

namespace Node

/-- The node that stands where none is written. -/
def absent : Node := .scalar true []

/-- The key that a node makes. -/
def asKey : Node → NodeKey
  | .scalar plain text => .scalar plain text
  | _ => .collection

/-- Where a node is missing: the tokens after which none is written. -/
def endsHere (marks : List Token) : List Token → Bool
  | [] => true
  | t :: _ => marks.contains t

mutual

/-- Reads a node; `block` allows block collections, and `loose` allows a block sequence that is not
indented. -/
def read? : Nat → Bool → Bool → List Token → Option (Node × List Token)
  | 0, _, _, _ => none
  | fuel + 1, block, loose, tokens =>
    match tokens with
    | .scalar plain text :: rest => some (.scalar plain text, rest)
    | .flowSequenceStart :: rest =>
      (flowItems? fuel true rest).map fun (items, rest) => (.sequence items, rest)
    | .flowMappingStart :: rest =>
      (flowEntries? fuel true rest).map fun (entries, rest) => (.mapping entries, rest)
    | .blockSequenceStart :: rest =>
      if block then
        (blockItems? fuel rest).map fun (items, rest) => (.sequence items, rest)
      else none
    | .blockMappingStart :: rest =>
      if block then
        (blockEntries? fuel rest).map fun (entries, rest) => (.mapping entries, rest)
      else none
    | .blockEntry :: _ =>
      if loose then
        (looseItems? fuel tokens).map fun (items, rest) => (.sequence items, rest)
      else none
    | _ => none

/-- Reads a node unless one of some marks shows that it is missing. -/
def readUnless? : Nat → Bool → Bool → List Token → List Token → Option (Node × List Token)
  | 0, _, _, _, _ => none
  | fuel + 1, block, loose, marks, tokens =>
    if endsHere marks tokens then some (absent, tokens) else read? fuel block loose tokens

/-- Reads the items of a block sequence and its end. -/
def blockItems? : Nat → List Token → Option (List Node × List Token)
  | 0, _ => none
  | fuel + 1, tokens =>
    match tokens with
    | .blockEntry :: rest => do
      let (item, rest) ← readUnless? fuel true false [.blockEntry, .blockEnd] rest
      let (items, rest) ← blockItems? fuel rest
      pure (item :: items, rest)
    | .blockEnd :: rest => some ([], rest)
    | _ => none

/-- Reads the items of a block sequence that is not indented and so has no end of its own. -/
def looseItems? : Nat → List Token → Option (List Node × List Token)
  | 0, _ => none
  | fuel + 1, tokens =>
    match tokens with
    | .blockEntry :: rest => do
      let (item, rest) ← readUnless? fuel true false [.blockEntry, .key, .value, .blockEnd] rest
      let (items, rest) ← looseItems? fuel rest
      pure (item :: items, rest)
    | _ => some ([], tokens)

/-- Reads the entries of a block mapping and its end. -/
def blockEntries? : Nat → List Token → Option (List (NodeKey × Node) × List Token)
  | 0, _ => none
  | fuel + 1, tokens =>
    match tokens with
    | .key :: rest => do
      let (key, rest) ← readUnless? fuel true true [.key, .value, .blockEnd] rest
      let (value, rest) ← blockValue? fuel rest
      let (entries, rest) ← blockEntries? fuel rest
      pure ((key.asKey, value) :: entries, rest)
    | .blockEnd :: rest => some ([], rest)
    | _ => none

/-- Reads the value of a block mapping's entry. -/
def blockValue? : Nat → List Token → Option (Node × List Token)
  | 0, _ => none
  | fuel + 1, tokens =>
    match tokens with
    | .value :: rest => readUnless? fuel true true [.key, .value, .blockEnd] rest
    | _ => some (absent, tokens)

/-- Reads the items of a flow sequence and its end; `first` tells whether no item came before. -/
def flowItems? : Nat → Bool → List Token → Option (List Node × List Token)
  | 0, _, _ => none
  | fuel + 1, first, tokens =>
    match tokens, first with
    | .flowSequenceEnd :: rest, _ => some ([], rest)
    | .flowEntry :: rest, false =>
      match rest with
      | .flowSequenceEnd :: rest => some ([], rest)
      | _ => flowItem? fuel rest
    | _, true => flowItem? fuel tokens
    | _, false => none

/-- Reads an item of a flow sequence, which may be a single entry of a mapping, and the items after
it. -/
def flowItem? : Nat → List Token → Option (List Node × List Token)
  | 0, _ => none
  | fuel + 1, tokens => do
    let (item, rest) ←
      match tokens with
      | .key :: rest => do
        let (key, rest) ← readUnless? fuel false false [.value, .flowEntry, .flowSequenceEnd] rest
        let (value, rest) ← flowValue? fuel [.flowEntry, .flowSequenceEnd] rest
        pure (.mapping [(key.asKey, value)], rest)
      | _ => read? fuel false false tokens
    let (items, rest) ← flowItems? fuel false rest
    pure (item :: items, rest)

/-- Reads the value of a flow mapping's entry, unless it is missing. -/
def flowValue? : Nat → List Token → List Token → Option (Node × List Token)
  | 0, _, _ => none
  | fuel + 1, marks, tokens =>
    match tokens with
    | .value :: rest => readUnless? fuel false false marks rest
    | _ => some (absent, tokens)

/-- Reads the entries of a flow mapping and its end; `first` tells whether no entry came before. -/
def flowEntries? : Nat → Bool → List Token → Option (List (NodeKey × Node) × List Token)
  | 0, _, _ => none
  | fuel + 1, first, tokens =>
    match tokens, first with
    | .flowMappingEnd :: rest, _ => some ([], rest)
    | .flowEntry :: rest, false =>
      match rest with
      | .flowMappingEnd :: rest => some ([], rest)
      | _ => flowEntry? fuel rest
    | _, true => flowEntry? fuel tokens
    | _, false => none

/-- Reads an entry of a flow mapping, which may lack its value, and the entries after it. -/
def flowEntry? : Nat → List Token → Option (List (NodeKey × Node) × List Token)
  | 0, _ => none
  | fuel + 1, tokens => do
    let ((key, value), rest) ←
      match tokens with
      | .key :: rest => do
        let (key, rest) ← readUnless? fuel false false [.value, .flowEntry, .flowMappingEnd] rest
        let (value, rest) ← flowValue? fuel [.flowEntry, .flowMappingEnd] rest
        pure ((key.asKey, value), rest)
      | _ => do
        let (key, rest) ← read? fuel false false tokens
        pure ((key.asKey, absent), rest)
    let (entries, rest) ← flowEntries? fuel false rest
    pure ((key, value) :: entries, rest)

end

/-- The tokens behind the marks that end documents. -/
def dropDocumentEnds (tokens : List Token) : List Token :=
  tokens.dropWhile (· == .documentEnd)

/-- A number of steps that is enough to read a node from some tokens: a step is taken for a token,
and at most three more before the next one. -/
def enough (tokens : List Token) : Nat := 4 * tokens.length + 4

/-- The node of a text with at most one document; a text without any has no node. -/
def ofTokens? (tokens : List Token) : Except Fault (Option Node) :=
  let found :=
    match tokens with
    | [] => some (none, [])
    | .documentStart :: rest =>
      if endsHere [.documentStart, .documentEnd] rest then some (some absent, rest)
      else (read? (enough rest) true false rest).map fun (node, rest) => (some node, rest)
    | _ => (read? (enough tokens) true false tokens).map fun (node, rest) => (some node, rest)
  match found with
  | some (node, rest) => if (dropDocumentEnds rest).isEmpty then .ok node else .error .malformed
  | none => .error .malformed

end Node
end Yaml
end PciCatalog
