import PciCatalog.Text.CharClass
import PciCatalog.Text.PrintableTable

/-!
# Quoted text

The form in which a message shows a text: between single quotes, or between double quotes when the
text has a single quote and no double quote, with everything unprintable escaped.
-/

namespace PciCatalog
namespace Text

/-- Whether a quoted text shows the character as it is. -/
def isPrintable (c : Char) : Bool :=
  !inRanges c.toNat unprintableRanges

/-- The digits of a number in lower-case hexadecimal, with zeros in front up to the width. -/
def hexPadded (width n : Nat) : List Char :=
  let digits := Nat.toDigits 16 n
  List.replicate (width - digits.length) '0' ++ digits

/-- The escape of a code point: two, four or eight hexadecimal digits, the fewest that fit. -/
def escapeCode (n : Nat) : List Char :=
  if n ≤ 0xFF then '\\' :: 'x' :: hexPadded 2 n
  else if n ≤ 0xFFFF then '\\' :: 'u' :: hexPadded 4 n
  else '\\' :: 'U' :: hexPadded 8 n

/-- One character between quotes: the quote in use and the backslash are escaped by a backslash,
the three usual control characters by a letter, other unprintable characters by their code. -/
def escapeChar (quote c : Char) : List Char :=
  if c = quote || c = '\\' then ['\\', c]
  else if c = '\n' then ['\\', 'n']
  else if c = '\r' then ['\\', 'r']
  else if c = '\t' then ['\\', 't']
  else if isPrintable c then [c]
  else escapeCode c.toNat

/-- The quote that a text is shown in. -/
def quoteFor (text : List Char) : Char :=
  if text.contains '\x27' && !text.contains '"' then '"' else '\x27'

/-- A text between quotes. -/
def quoted (text : List Char) : List Char :=
  let quote := quoteFor text
  quote :: (text.flatMap (escapeChar quote) ++ [quote])

example : quoted "a\n\x07".toList = "\x27a\\n\\x07\x27".toList := by decide +kernel

end Text
end PciCatalog
