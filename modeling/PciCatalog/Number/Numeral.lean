import PciCatalog.Number.Binary64
import PciCatalog.Text.CharClass

/-!
# Numerals

Reading whole numbers in decimal and hexadecimal, and decimal fractions with an exponent.  Digits of
all scripts count, blanks around a numeral are skipped, and a single underscore may stand between
two digits.  Writing integers in lower-case hexadecimal behind the mark `0x`, filled with zeros to a
least width, where a minus sign counts as part of the width.
-/

namespace PciCatalog
namespace Numeral

/-- The character that a numeral shows in place of `c`: a plain space for a blank beyond ASCII and
the ASCII digit of the same value for a digit of another script. -/
def plainChar (c : Char) : Char :=
  if c.toNat < 0x80 then c
  else if Text.isBlank c then ' '
  else match Text.decimalValue? c with
    | some d => Char.ofNat (0x30 + d)
    | none => c

/-- The blanks of ASCII that may stand around a numeral. -/
def isMargin (c : Char) : Bool :=
  c = ' ' || (0x09 ≤ c.toNat && c.toNat ≤ 0x0D)

/-- The numeral of a text, in plain characters and without the blanks around it. -/
def core (text : List Char) : List Char :=
  Text.dropTail isMargin ((text.map plainChar).dropWhile isMargin)

/-- The sign of a numeral, and what follows it. -/
def cutSign : List Char → Bool × List Char
  | '-' :: rest => (true, rest)
  | '+' :: rest => (false, rest)
  | rest => (false, rest)

/-- The value of a digit or a letter of either case in some radix. -/
def digitValue? (radix : Nat) (c : Char) : Option Nat :=
  let value :=
    if '0' ≤ c && c ≤ '9' then c.toNat - 0x30
    else if 'a' ≤ c && c ≤ 'z' then c.toNat - 0x61 + 10
    else if 'A' ≤ c && c ≤ 'Z' then c.toNat - 0x41 + 10
    else radix
  if value < radix then some value else none

/-- The value of the digits read so far continued by further digits, each of which may follow one
underscore. -/
def continueNatural? (radix value : Nat) : List Char → Option Nat
  | [] => some value
  | '_' :: c :: rest =>
    (digitValue? radix c).bind fun d => continueNatural? radix (value * radix + d) rest
  | c :: rest =>
    (digitValue? radix c).bind fun d => continueNatural? radix (value * radix + d) rest

/-- The value of one or more digits. -/
def natural? (radix : Nat) : List Char → Option Nat
  | [] => none
  | c :: rest => (digitValue? radix c).bind fun d => continueNatural? radix d rest

/-- The integer of a magnitude and a sign. -/
def signed (negative : Bool) (magnitude : Nat) : Int :=
  if negative then -(magnitude : Int) else magnitude

/-- A numeral without the mark `0x` or `0X` and the one underscore that may follow the mark. -/
def dropHexMark : List Char → List Char
  | '0' :: x :: '_' :: rest => if x = 'x' || x = 'X' then rest else '0' :: x :: '_' :: rest
  | '0' :: x :: rest => if x = 'x' || x = 'X' then rest else '0' :: x :: rest
  | rest => rest

/-- Reads a hexadecimal integer, with or without the mark `0x`. -/
def hexadecimal? (text : List Char) : Option Int :=
  let (negative, digits) := cutSign (core text)
  (natural? 16 (dropHexMark digits)).map (signed negative)

/-- The largest number of digits in a decimal integer. -/
def digitLimit : Nat := 4300

/-- Reads a decimal integer. -/
def decimal? (text : List Char) : Option Int :=
  let (negative, digits) := cutSign (core text)
  if (digits.filter (· != '_')).length ≤ digitLimit then
    (natural? 10 digits).map (signed negative)
  else
    none

/-- A text without its underscores, if each stands between two digits; `afterDigit` tells whether a
digit stands before the text. -/
def dropMarks? (afterDigit : Bool) : List Char → Option (List Char)
  | [] => some []
  | '_' :: rest =>
    match rest with
    | c :: _ => if afterDigit && c.isDigit then dropMarks? false rest else none
    | [] => none
  | c :: rest => (dropMarks? c.isDigit rest).map (c :: ·)

/-- The exponent of a fraction: an optional sign and one or more digits. -/
def exponent? (text : List Char) : Option Int :=
  let (negative, digits) := cutSign text
  if !digits.isEmpty && digits.all Char.isDigit then
    (natural? 10 digits).map (signed negative)
  else
    none

/-- Reads an unsigned decimal fraction: digits with at most one point among or around them, and an
optional exponent. -/
def fraction? (negative : Bool) (text : List Char) : Option Binary64 :=
  let (whole, rest) := text.span Char.isDigit
  let (part, rest) := match rest with
    | '.' :: tail => tail.span Char.isDigit
    | _ => ([], rest)
  let read (exponent : Int) : Option Binary64 :=
    (natural? 10 (whole ++ part)).map fun coefficient =>
      Binary64.ofDecimal negative coefficient (exponent - part.length)
  match rest with
  | [] => read 0
  | e :: tail => if e = 'e' || e = 'E' then (exponent? tail).bind read else none

/-- Reads a decimal fraction, an infinity or `nan`. -/
def real? (text : List Char) : Option Binary64 :=
  (dropMarks? false (core text)).bind fun plain =>
    let (negative, magnitude) := cutSign plain
    let word := magnitude.map Char.toLower
    if word = ['i', 'n', 'f'] || word = ['i', 'n', 'f', 'i', 'n', 'i', 't', 'y'] then
      some (.infinite negative)
    else if word = ['n', 'a', 'n'] then some .nan
    else fraction? negative magnitude

example : hexadecimal? " 0x1_F ".toList = some 31 := by decide +kernel

end Numeral

namespace Hexadecimal

/-- The integer in hexadecimal without the mark, with zeros between the sign and the digits up to
the width. -/
def padded (width : Nat) (n : Int) : List Char :=
  let digits := Nat.toDigits 16 n.natAbs
  if n < 0 then '-' :: (List.replicate (width - 1 - digits.length) '0' ++ digits)
  else List.replicate (width - digits.length) '0' ++ digits

/-- The integer in hexadecimal behind the mark `0x`. -/
def marked (width : Nat) (n : Int) : String :=
  String.ofList ('0' :: 'x' :: padded width n)

example : marked 4 0x533 = "0x0533" ∧ marked 4 (-1) = "0x-001" := by decide +kernel

end Hexadecimal
end PciCatalog
