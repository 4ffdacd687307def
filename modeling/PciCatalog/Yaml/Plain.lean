import PciCatalog.Text.Split
import PciCatalog.Value
import PciCatalog.Yaml.Cursor

/-!
# Types of plain scalars

What a plain scalar means by its spelling: null, a truth value, an integer in one of five notations,
a floating-point number in one of five notations, a date, or else a text.
-/

namespace PciCatalog
namespace Yaml
namespace Plain

/-- The spellings of null. -/
def nullWords : List String := ["", "~", "null", "Null", "NULL"]

/-- The spellings of true. -/
def trueWords : List String :=
  ["yes", "Yes", "YES", "true", "True", "TRUE", "on", "On", "ON"]

/-- The spellings of false. -/
def falseWords : List String :=
  ["no", "No", "NO", "false", "False", "FALSE", "off", "Off", "OFF"]

/-- The spellings that stand for a merge of mappings and for a default value, which no settings
have. -/
def reservedWords : List String := ["<<", "="]

/-- Whether all characters are digits of a radix or underscores. -/
def digitsOrMarks (radix : Nat) (text : List Char) : Bool :=
  text.all fun c => c = '_' || (Numeral.digitValue? radix c).isSome

/-- A text without its underscores. -/
def withoutMarks (text : List Char) : List Char :=
  text.filter (· != '_')

/-- The digits and underscores in front of a text that starts with a digit, and what follows. -/
def cutDigits? (text : List Char) : Option (List Char × List Char) :=
  match text with
  | c :: _ => if c.isDigit then some (text.span fun x => x.isDigit || x = '_') else none
  | [] => none

/-- Whether a text is a number of minutes or seconds: one or two digits, below sixty. -/
def isSixtieth : List Char → Bool
  | [c] => c.isDigit
  | [c, d] => '0' ≤ c && c ≤ '5' && d.isDigit
  | _ => false

/-- Splits a number in base sixty at its colons, if it has one at least and the parts after the
first are below sixty. -/
def sixtieths? (text : List Char) : Option (List (List Char)) :=
  match Text.fields ':' text with
  | first :: second :: others =>
    if (second :: others).all isSixtieth then some (first :: second :: others) else none
  | _ => none

/-- The value of a digit sequence in a radix that is a power of two. -/
def binaryValue (radix : Nat) (digits : List Char) : Except Fault Nat :=
  match Numeral.natural? radix digits with
  | some n => .ok n
  | none => .error .impossibleScalar

/-- The value of decimal digits, within the limit on their number. -/
def decimalValue (digits : List Char) : Except Fault Nat :=
  if digits.length ≤ Numeral.digitLimit then binaryValue 10 digits else .error .impossibleScalar

/-- The value of some parts in base sixty. -/
def sixtiethsValue (parts : List (List Char)) : Except Fault Nat := do
  let values ← parts.mapM decimalValue
  pure (values.foldl (fun total value => total * 60 + value) 0)

/-- The magnitude of an integer without its sign; none when the text is no integer. -/
def magnitude? (text : List Char) : Option (Except Fault Nat) :=
  match text with
  | '0' :: 'b' :: c :: rest =>
    if digitsOrMarks 2 (c :: rest) then some (binaryValue 2 (withoutMarks (c :: rest))) else none
  | '0' :: 'x' :: c :: rest =>
    if digitsOrMarks 16 (c :: rest) then some (binaryValue 16 (withoutMarks (c :: rest))) else none
  | '0' :: rest =>
    if digitsOrMarks 8 rest then some (binaryValue 8 ('0' :: withoutMarks rest)) else none
  | c :: _ =>
    if c.isDigit then
      if digitsOrMarks 10 text then some (decimalValue (withoutMarks text))
      else
        match sixtieths? text with
        | some (first :: others) =>
          if digitsOrMarks 10 first then
            some (sixtiethsValue (withoutMarks first :: others))
          else none
        | _ => none
    else none
  | [] => none

/-- Reads an integer. -/
def integer? (text : List Char) : Option (Except Fault Scalar) :=
  let (negative, digits) := Numeral.cutSign text
  (magnitude? digits).map fun found => found.map fun n => .int (Numeral.signed negative n)

/-- Whether a text is an exponent: a letter, a sign, and digits. -/
def isExponent : List Char → Bool
  | e :: sign :: c :: rest =>
    (e = 'e' || e = 'E') && (sign = '+' || sign = '-') && (c :: rest).all Char.isDigit
  | _ => false

/-- Whether a text is a fraction: digits, a point, digits, and perhaps an exponent; without digits
before the point there must be one right after it. -/
def isFraction (text : List Char) : Bool :=
  let tailFits (rest : List Char) : Bool :=
    let tail := rest.dropWhile fun c => c.isDigit || c = '_'
    tail.isEmpty || isExponent tail
  match text with
  | '.' :: c :: rest => c.isDigit && tailFits rest
  | _ =>
    match cutDigits? text with
    | some (_, '.' :: rest) => tailFits rest
    | _ => false

/-- The parts of a fraction in base sixty, if a text is one: the last part has a point. -/
def sixtiethsFraction? (text : List Char) : Option (List (List Char)) :=
  match cutDigits? text, text.span (· != '.') with
  | some _, (whole, '.' :: part) =>
    match sixtieths? whole with
    | some (first :: others) =>
      if digitsOrMarks 10 first && digitsOrMarks 10 part then
        some (((first :: others).dropLast ++ [(first :: others).getLastD [] ++ '.' :: part]).map
          withoutMarks)
      else none
    | _ => none
  | _, _ => none

/-- The value of some parts in base sixty, the last of which may be a fraction: each part is turned
into a double, scaled, and added, from the last part to the first. -/
def sixtiethsReal (parts : List (List Char)) : Except Fault Binary64 := do
  let terms ← parts.reverse.zipIdx.mapM fun (part, power) => do
    match Numeral.real? part, Binary64.ofInt? (Nat.pow 60 power) with
    | some x, some scale => pure (x * scale)
    | none, _ => .error .impossibleScalar
    | _, none => .error .hugeNumber
  pure (terms.foldl (· + ·) (.finite false 0))

/-- A double with the sign that was read before it. -/
def withSign (negative : Bool) (x : Binary64) : Binary64 :=
  if negative then -x else x

/-- The spellings of infinity behind its sign. -/
def infinityWords : List String := [".inf", ".Inf", ".INF"]

/-- The spellings of the number that is none. -/
def nanWords : List String := [".nan", ".NaN", ".NAN"]

/-- Reads a floating-point number; one that starts with its point has no sign. -/
def real? (text : List Char) : Option (Except Fault Scalar) :=
  let (negative, digits) := Numeral.cutSign text
  if infinityWords.contains (String.ofList digits) then
    some (.ok (.real (withSign negative (.infinite false))))
  else if nanWords.contains (String.ofList text) then some (.ok (.real .nan))
  else if isFraction digits && (digits.head? ≠ some '.' || text.head? = some '.') then
    some (match Numeral.real? (withoutMarks digits) with
      | some x => .ok (.real (withSign negative x))
      | none => .error .impossibleScalar)
  else
    (sixtiethsFraction? digits).map fun parts =>
      (sixtiethsReal parts).map fun x => .real (withSign negative x)

/-- Whether a year has a 29th of February. -/
def isLeapYear (year : Nat) : Bool :=
  year % 4 = 0 && (year % 100 ≠ 0 || year % 400 = 0)

/-- The number of days in a month. -/
def daysIn (year month : Nat) : Nat :=
  if month = 2 then if isLeapYear year then 29 else 28
  else if month = 4 || month = 6 || month = 9 || month = 11 then 30
  else 31

/-- Reads a date written with four, two and two digits; the day has to exist. -/
def date? (text : List Char) : Option (Except Fault Scalar) :=
  match text with
  | [a, b, c, d, '-', e, f, '-', g, h] =>
    if [a, b, c, d, e, f, g, h].all Char.isDigit then
      let number (digits : List Char) : Nat := (Numeral.natural? 10 digits).getD 0
      let year := number [a, b, c, d]
      let month := number [e, f]
      let day := number [g, h]
      if 1 ≤ year && 1 ≤ month && month ≤ 12 && 1 ≤ day && day ≤ daysIn year month then
        some (.ok (.date ⟨year, month, day⟩))
      else some (.error .impossibleScalar)
    else none
  | _ => none

/-- The scalar that a plain spelling means. -/
def scalar (text : List Char) : Except Fault Scalar :=
  let word := String.ofList text
  if nullWords.contains word then .ok .null
  else if trueWords.contains word then .ok (.bool true)
  else if falseWords.contains word then .ok (.bool false)
  else if reservedWords.contains word then .error .malformed
  else
    match real? text with
    | some found => found
    | none =>
      match integer? text with
      | some found => found
      | none => (date? text).getD (.ok (.text word))

end Plain
end Yaml
end PciCatalog
