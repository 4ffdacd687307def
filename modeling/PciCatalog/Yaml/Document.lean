import PciCatalog.Settings.Loading
import PciCatalog.Yaml.Node
import PciCatalog.Yaml.Plain

/-!
# Documents

The value of a YAML text without tags, anchors, merge keys, block scalars and directives.  A tree is
turned into a value level by level, the root first, so of several faults the one nearest to the root
is reported, and on one level the first.
-/

namespace PciCatalog
namespace Yaml

/-- A result, or a fault and the level on which it was found. -/
abbrev Levelled (α : Type) := Except (Nat × Fault) α

namespace Levelled

/-- Both results, or the fault on the lower level; of two on one level the first. -/
def both {α β : Type} : Levelled α → Levelled β → Levelled (α × β)
  | .ok a, .ok b => .ok (a, b)
  | .error e, .ok _ => .error e
  | .ok _, .error f => .error f
  | .error e, .error f => .error (if f.1 < e.1 then f else e)

end Levelled

namespace NodeKey

/-- The scalar of a key. A collection is no key; a lone equals sign is a text here. -/
def scalar? : NodeKey → Except Fault Scalar
  | .scalar false text => .ok (.text (String.ofList text))
  | .scalar true ['='] => .ok (.text "=")
  | .scalar true text => Plain.scalar text
  | .collection => .error .malformed

end NodeKey

namespace Node

/-- The level of a node inside a collection on the given level: a scalar belongs to the collection,
a collection to the next level. -/
def innerLevel (level : Nat) : Node → Nat
  | .scalar _ _ => level
  | _ => level + 1

mutual

/-- The value of a node. -/
def value (level : Nat) : Node → Levelled Value
  | .scalar true text =>
    ((Plain.scalar text).mapError fun fault => (level, fault)).map Value.scalar
  | .scalar false text => .ok (.scalar (.text (String.ofList text)))
  | .sequence items => (itemValues level items).map Value.list
  | .mapping entries => (entryValues level entries).map Value.ofEntries

/-- The values of the items of a sequence. -/
def itemValues (level : Nat) : List Node → Levelled (List Value)
  | [] => .ok []
  | item :: rest =>
    (Levelled.both (value (innerLevel level item) item) (itemValues level rest)).map fun (v, vs) =>
      v :: vs

/-- The keys and values of the entries of a mapping. -/
def entryValues (level : Nat) : List (NodeKey × Node) → Levelled (List (Scalar × Value))
  | [] => .ok []
  | (key, node) :: rest =>
    let key := key.scalar?.mapError fun fault => (level, fault)
    let entry := Levelled.both key (value (innerLevel level node) node)
    (Levelled.both entry (entryValues level rest)).map fun (e, es) => e :: es

end
end Node

/-- The value of a YAML text with at most one document; an empty text is null. -/
def read (text : List Char) : Except Fault Value := do
  match ← Node.ofTokens? (← tokens text) with
  | none => pure (.scalar .null)
  | some node => (node.value 0).mapError Prod.snd

namespace Fault

/-- The fault of a document that a reader of documents reports. -/
def toDocument : Fault → DocumentFault
  | malformed => .malformed "the file is not well-formed"
  | impossibleScalar => .invalid "a number or date has no value"
  | hugeNumber => .other "a number is too large"

end Fault

/-- The reader of documents for YAML in UTF-8. -/
def reader : DocumentReader
  | .whole content => do
    let text ← (FileSystem.textOf content).mapError DocumentFault.file
    (read text).mapError Fault.toDocument
  | .broken _ => .error (.file .readFailed)

end Yaml
end PciCatalog
