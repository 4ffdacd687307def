import PciCatalog.Text.Split

/-!
# Paths

A path is kept without empty parts and without parts `.`, which do not matter for the file that it
names; parts `..` stay.  Two slashes at the start are different from one, and from three or more,
which count as one.
-/

namespace PciCatalog

/-- A path: its slashes at the start, at most two, and its parts. -/
structure Path where
  slashes : Nat
  parts : List String
  deriving DecidableEq, Repr, Inhabited

namespace Path

/-- The path that a text names. -/
def ofString (text : String) : Path where
  slashes :=
    match (text.toList.takeWhile (· == '/')).length with
    | 2 => 2
    | n => min n 1
  parts := ((Text.fields '/' text.toList).filter fun part => part ≠ [] && part ≠ ['.']).map
    String.ofList

example : ofString "./a//b/../c/" = ⟨0, ["a", "b", "..", "c"]⟩ := by decide +kernel

/-- The text of a path; the path without any part is written as a point. -/
def toString (p : Path) : String :=
  if p.slashes = 0 && p.parts.isEmpty then "."
  else String.ofList (List.replicate p.slashes '/') ++ "/".intercalate p.parts

/-- The path of a file with the given name below a directory. -/
def child (p : Path) (name : String) : Path :=
  { p with parts := p.parts ++ [name] }

end Path
end PciCatalog
