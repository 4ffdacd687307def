import PciCatalog.Files.Walk
import PciCatalog.Text.Utf8

/-!
# Reading text files

A text file is read with any of the three line ends LF, CR LF and CR.  A file of names is cut into
lines while it is still bytes, so that damage in one line cannot reach another; a settings file and
a device attribute are decoded whole, after which their line ends are unified.
-/

namespace PciCatalog
namespace Text

/-- The lines of the rest of a file, when `line` holds the bytes of an unfinished line in
reverse. -/
def byteLinesFrom (line : List UInt8) : List UInt8 → List (List UInt8)
  | [] => if line.isEmpty then [] else [line.reverse]
  | 13 :: 10 :: rest => line.reverse :: byteLinesFrom [] rest
  | b :: rest =>
    if b = 10 || b = 13 then line.reverse :: byteLinesFrom [] rest
    else byteLinesFrom (b :: line) rest

/-- The lines of a file without their line ends; a line end at the end of the file opens no further
line. -/
def byteLines (bytes : List UInt8) : List (List UInt8) :=
  byteLinesFrom [] bytes

/-- The text with every CR LF and every other CR replaced by a line feed. -/
def unifyLineEnds : List Char → List Char
  | [] => []
  | '\r' :: '\n' :: rest => '\n' :: unifyLineEnds rest
  | c :: rest => (if c = '\r' then '\n' else c) :: unifyLineEnds rest

@[simp] theorem byteLines_nil : byteLines [] = [] := rfl

end Text

namespace FileSystem

/-- The text of some bytes, which have to be in UTF-8. -/
def textOf (content : List UInt8) : Except FileError (List Char) :=
  match Text.decodeStrict? content with
  | some text => .ok (Text.unifyLineEnds text)
  | none => .error .undecodable

/-- The text of the file at a path. -/
def readText (fs : FileSystem) (path : String) : Except FileError (List Char) := do
  textOf (← fs.readBytes path)

end FileSystem
end PciCatalog
