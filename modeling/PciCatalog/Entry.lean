import PciCatalog.Text.CharClass
import PciCatalog.Text.Lowercase

/-!
# Identifiers and entries

The numbers of vendors, devices and classes are compared as texts in a normal form: without blanks
around them, in lower case, and without the mark `0x`.  An entry gives a name to a vendor, a device,
a subsystem, a device class, a subclass or a programming interface.  The slot of an entry is the
place that its name is kept in; two entries with one slot speak of the same thing.
-/

namespace PciCatalog
namespace Ident

/-- A text without one mark `0x` at its start. -/
def dropMark : List Char → List Char
  | '0' :: 'x' :: rest => rest
  | rest => rest

/-- The normal form of an identifier, as a list of characters. -/
def normalForm (text : List Char) : List Char :=
  dropMark (Text.lower (Text.trim text))

/-- The normal form of an identifier: no blanks at its ends, lower case, one mark `0x` removed. -/
def normalize (text : String) : String :=
  String.ofList (normalForm text.toList)

example : normalize " 0X8086 " = "8086" := by decide +kernel

@[simp] theorem normalize_empty : normalize "" = "" := rfl

@[simp] theorem toList_normalize (text : String) :
    (normalize text).toList = normalForm text.toList :=
  String.toList_ofList

end Ident

/-- What an entry names. -/
inductive Kind where
  | vendor
  | device
  | subsystem
  | baseClass
  | subclass
  | progIf
  deriving DecidableEq, Repr

/-- A named record. Devices and subsystems carry a parent: the vendor's identifier, and
`vendor:device`. -/
structure Entry where
  kind : Kind
  key : String
  name : String
  parent : Option String := none
  deriving DecidableEq, Repr

/-- The place of a name: devices and subsystems are kept apart by their parents, all else by the key
alone. -/
inductive Slot where
  | vendor (key : String)
  | device (parent key : String)
  | subsystem (parent key : String)
  | baseClass (key : String)
  | subclass (key : String)
  | progIf (key : String)
  deriving DecidableEq, Repr

namespace Entry

/-- The slot of an entry; a device or subsystem without a parent has none. -/
def slot? (e : Entry) : Option Slot :=
  match e.kind with
  | .vendor => some (.vendor e.key)
  | .device => e.parent.map (.device · e.key)
  | .subsystem => e.parent.map (.subsystem · e.key)
  | .baseClass => some (.baseClass e.key)
  | .subclass => some (.subclass e.key)
  | .progIf => some (.progIf e.key)

end Entry
end PciCatalog
