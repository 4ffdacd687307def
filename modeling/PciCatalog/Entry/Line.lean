import PciCatalog.Entry
import PciCatalog.Text.Split

/-!
# Lines of a names file

A names file is hierarchical, its levels told apart by leading tabs:

```text
# comment
8086  Intel Corporation                        vendor
<tab>1533  I210 Gigabit Network Connection     device
<tab><tab>8086 0001  Ethernet Adapter          subsystem (subvendor and subdevice)
C 02  Network controller                       class
<tab>00  Ethernet controller                   subclass
<tab><tab>00  ...                              programming interface
```

Reading a line takes two steps.  `Line.read?` looks at the line alone: its level, and its identifier
and name on the two sides of the first double space.  `Context.accept?` then gives it its meaning
from the lines before it.  A line that either step refuses changes nothing.
-/

namespace PciCatalog

/-- A line that has an identifier and a name: a class line, or a line behind `depth` tabs. -/
inductive Line where
  | classLine (ident name : String)
  | indented (depth : Nat) (ident name : String)
  deriving DecidableEq, Repr

namespace Line

/-- Whether a character belongs to a line end. -/
def isLineEnd (c : Char) : Bool :=
  c = '\r' || c = '\n'

/-- The identifier and the name of a line's body, without the blanks around them; the identifier
must not be blank. -/
def identAndName? (body : List Char) : Option (String × String) :=
  (Text.cutAtDoubleSpace body).bind fun (before, after) =>
    let ident := Text.trim before
    if ident.isEmpty then none else some (String.ofList ident, String.ofList (Text.trim after))

/-- The most tabs that a line may start with. -/
def maxDepth : Nat := 2

/-- Reads a line that is not blank and is no comment. -/
def readBody? : List Char → Option Line
  | 'C' :: ' ' :: rest =>
    -- The blank stays with the body, so it may be the first half of the double space.
    (identAndName? (' ' :: rest)).map fun (ident, name) => .classLine ident name
  | text =>
    let depth := (text.takeWhile (· == '\t')).length
    if depth ≤ maxDepth then
      (identAndName? (text.drop depth)).map fun (ident, name) => .indented depth ident name
    else
      none

/-- Reads a line by itself; blank lines, comments, and lines without a double space or with a blank
identifier have no reading. -/
def read? (text : List Char) : Option Line :=
  let text := Text.dropTail isLineEnd text
  if (Text.trim text).isEmpty || text.head? = some '#' then none else readBody? text

end Line

/-- What the lines before a line leave behind: the last vendor and device, the last class and
subclass, and whether the last top-level line was a class line. -/
structure Context where
  vendor : String := ""
  device : String := ""
  baseClass : String := ""
  subclass : String := ""
  inClass : Bool := false
  deriving DecidableEq, Repr, Inhabited

namespace Context

/-- The parent of the subsystems of a device. -/
def subsystemParent (vendor device : String) : String :=
  vendor ++ ":" ++ device

/-- The key of a subsystem, from the two words of its identifier. -/
def subsystemKey? (ident : String) : Option String :=
  match Text.words ident.toList with
  | [subvendor, subdevice] =>
    some (subsystemParent (String.ofList (Ident.normalForm subvendor))
      (String.ofList (Ident.normalForm subdevice)))
  | _ => none

/-- A class line opens a class and closes the subclass before it. -/
def acceptClass (c : Context) (ident name : String) : Context × Entry :=
  let key := Ident.normalize ident
  ({ c with baseClass := key, subclass := "", inClass := true }, { kind := .baseClass, key, name })

/-- A line without tabs opens a vendor and ends the class section. -/
def acceptVendor (c : Context) (ident name : String) : Context × Entry :=
  let key := Ident.normalize ident
  ({ c with vendor := key, device := "", inClass := false }, { kind := .vendor, key, name })

/-- Below a class, one tab makes a subclass: its key extends the key of the class. -/
def acceptSubclass? (c : Context) (ident name : String) : Option (Context × Entry) :=
  if c.baseClass = "" then none
  else
    let key := c.baseClass ++ Ident.normalize ident
    some ({ c with subclass := key }, { kind := .subclass, key, name })

/-- Below a subclass, two tabs make a programming interface: its key extends that of the
subclass. -/
def acceptProgIf? (c : Context) (ident name : String) : Option (Context × Entry) :=
  if c.subclass = "" then none
  else some (c, { kind := .progIf, key := c.subclass ++ Ident.normalize ident, name })

/-- Below a vendor, one tab makes a device. -/
def acceptDevice? (c : Context) (ident name : String) : Option (Context × Entry) :=
  if c.vendor = "" then none
  else
    let key := Ident.normalize ident
    some ({ c with device := key }, { kind := .device, key, name, parent := some c.vendor })

/-- Below a device, two tabs make a subsystem. -/
def acceptSubsystem? (c : Context) (ident name : String) : Option (Context × Entry) :=
  if c.vendor = "" || c.device = "" then none
  else
    (subsystemKey? ident).map fun key =>
      (c, { kind := .subsystem, key, name, parent := some (subsystemParent c.vendor c.device) })

/-- The entry that a line makes in its context and the context that it leaves; none when the line
lacks the context that it depends on. -/
def accept? (c : Context) : Line → Option (Context × Entry)
  | .classLine ident name => some (c.acceptClass ident name)
  | .indented 0 ident name => some (c.acceptVendor ident name)
  | .indented 1 ident name =>
    if c.inClass then c.acceptSubclass? ident name else c.acceptDevice? ident name
  | .indented _ ident name =>
    if c.inClass then c.acceptProgIf? ident name else c.acceptSubsystem? ident name

/-- Reads one line: the context after it, and its entry if it makes one. -/
def readLine (c : Context) (text : List Char) : Context × Option Entry :=
  match (Line.read? text).bind c.accept? with
  | some (next, entry) => (next, some entry)
  | none => (c, none)

/-- The entries of some lines, in order. -/
def entries (c : Context) : List (List Char) → List Entry
  | [] => []
  | text :: rest =>
    let (next, entry?) := c.readLine text
    match entry? with
    | some entry => entry :: next.entries rest
    | none => next.entries rest

example : ({} : Context).entries ["8086  Intel".toList, "\t1533  I210".toList] =
    [{ kind := .vendor, key := "8086", name := "Intel" },
      { kind := .device, key := "1533", name := "I210", parent := some "8086" }] := by
  decide +kernel

/-- The context that some lines leave. -/
def after (c : Context) (lines : List (List Char)) : Context :=
  lines.foldl (fun c text => (c.readLine text).1) c

/-- A line without an entry changes nothing. -/
theorem readLine_fst_of_none {c : Context} {text : List Char}
    (h : (c.readLine text).2 = none) : (c.readLine text).1 = c := by
  unfold readLine at h ⊢
  split at h <;> simp_all

@[simp] theorem entries_nil (c : Context) : c.entries [] = [] := rfl

theorem entries_cons (c : Context) (text : List Char) (rest : List (List Char)) :
    c.entries (text :: rest) =
      (c.readLine text).2.toList ++ (c.readLine text).1.entries rest := by
  rcases h : c.readLine text with ⟨next, entry?⟩
  cases entry? <;> simp [entries, h]

/-- The entries of two runs of lines are those of the first and then those of the second, read in
the context that the first leaves. -/
theorem entries_append (c : Context) (front back : List (List Char)) :
    c.entries (front ++ back) = c.entries front ++ (c.after front).entries back := by
  induction front generalizing c with
  | nil => rfl
  | cons text rest ih =>
    rw [List.cons_append, entries_cons, entries_cons, ih, List.append_assoc]
    rfl

end Context
end PciCatalog
