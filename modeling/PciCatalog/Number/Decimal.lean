import PciCatalog.Number.Binary64

/-!
# Decimal text of doubles

Two ways to choose decimal digits for a double, the fewest that read back as the same double and a
fixed number of significant digits, and the layout of chosen digits as a text.
-/

namespace PciCatalog

/-- Decimal digits, and the place of the decimal point counted from before the first digit. -/
structure Decimal where
  digits : List Char
  point : Int
  deriving DecidableEq, Repr

/-- The choices in writing a number: the decimal exponents that are written positionally, and
whether a whole number is followed by `.0`. -/
structure NumberStyle where
  lowest : Int
  highest : Int
  wholeMark : Bool
  deriving DecidableEq, Repr

namespace Decimal

/-- The decimal with value `coefficient / 10 ^ scale`, without zeros at its end. -/
def ofScaled (coefficient : Nat) (scale : Int) : Decimal :=
  let digits := Nat.toDigits 10 coefficient
  match (digits.reverse.dropWhile (· == '0')).reverse with
  | [] => ⟨['0'], 1⟩
  | kept => ⟨kept, digits.length - scale⟩

/-- The least `k` for which a positive number of units is less than `10 ^ k`. -/
def pointOf (units : Nat) : Int :=
  if Binary64.unitsPerOne ≤ units then
    (Nat.toDigits 10 (units / Binary64.unitsPerOne)).length
  else
    let width := (Nat.toDigits 10 (Binary64.unitsPerOne / units)).length
    if Binary64.unitsPerOne ≤ units * Nat.pow 10 (width - 1) then 2 - width else 1 - width

/-- Numerator and denominator of a number of units times `10 ^ scale`. -/
def scaled (units : Nat) (scale : Int) : Nat × Nat :=
  if 0 ≤ scale then (units * Nat.pow 10 scale.toNat, Binary64.unitsPerOne)
  else (units, Binary64.unitsPerOne * Nat.pow 10 (-scale).toNat)

/-- Whether `coefficient / 10 ^ scale` is read as the given number of units. -/
def readsAs (units coefficient : Nat) (scale : Int) : Bool :=
  if 0 ≤ scale then
    Binary64.roundUnits (coefficient * Binary64.unitsPerOne) (Nat.pow 10 scale.toNat) ==
      units
  else
    Binary64.roundUnits (coefficient * Nat.pow 10 (-scale).toNat * Binary64.unitsPerOne) 1 ==
      units

/-- The nearest decimal with `count` digits that reads back, if one does. -/
def withDigits? (units count : Nat) : Option Decimal :=
  let scale := (count : Int) - pointOf units
  let (num, den) := scaled units scale
  let below := num / den
  match readsAs units below scale, readsAs units (below + 1) scale with
  | true, true => some (ofScaled (roundHalfEven num den) scale)
  | true, false => some (ofScaled below scale)
  | false, true => some (ofScaled (below + 1) scale)
  | false, false => none

/-- The decimal with the fewest digits that reads back as the given number of units; seventeen
digits always do. -/
def shortest (units : Nat) : Decimal :=
  if units = 0 then ⟨['0'], 1⟩
  else ((List.range' 1 17).findSome? (withDigits? units)).getD ⟨['0'], 1⟩

/-- A number of units rounded to `count` significant digits, a tie to the even digit. -/
def significant (count units : Nat) : Decimal :=
  if units = 0 then ⟨['0'], 1⟩
  else
    let scale := (count : Int) - pointOf units
    let (num, den) := scaled units scale
    ofScaled (roundHalfEven num den) scale

/-- The exponent mark: a sign and at least two digits. -/
def exponentMark (exponent : Int) : List Char :=
  let digits := Nat.toDigits 10 exponent.natAbs
  'e' :: (if exponent < 0 then '-' else '+') ::
    (List.replicate (2 - digits.length) '0' ++ digits)

/-- The text of a decimal in some style. -/
def layout (style : NumberStyle) (d : Decimal) : List Char :=
  let exponent := d.point - 1
  if style.lowest ≤ exponent && exponent ≤ style.highest then
    if d.point ≤ 0 then
      '0' :: '.' :: (List.replicate (-d.point).toNat '0' ++ d.digits)
    else if d.digits.length ≤ d.point.toNat then
      d.digits ++ List.replicate (d.point.toNat - d.digits.length) '0' ++
        (if style.wholeMark then ['.', '0'] else [])
    else
      d.digits.take d.point.toNat ++ '.' :: d.digits.drop d.point.toNat
  else
    match d.digits with
    | [] => exponentMark exponent
    | [digit] => digit :: exponentMark exponent
    | digit :: others => digit :: '.' :: (others ++ exponentMark exponent)

end Decimal

namespace Binary64

/-- The text of a double whose digits `choose` picks: a sign, then the laid out digits, `inf`, or
`nan` without a sign. -/
def textWith (choose : Nat → Decimal) (style : NumberStyle) : Binary64 → List Char
  | .finite negative units =>
    (if negative then ['-'] else []) ++ (choose units).layout style
  | .infinite negative => (if negative then ['-'] else []) ++ ['i', 'n', 'f']
  | .nan => ['n', 'a', 'n']

/-- The exact style: positional from 0.0001 up to below 10^16, whole numbers marked by `.0`. -/
def exactStyle : NumberStyle := ⟨-4, 15, true⟩

/-- The shortest text that reads back as the same double. -/
def shortestText (x : Binary64) : List Char :=
  x.textWith Decimal.shortest exactStyle

example : (ofDecimal false 1 22).shortestText = "1e+22".toList := by decide +kernel

example : (ofDecimal true 8 0).shortestText = "-8.0".toList := by decide +kernel

example : (ofDecimal false 1 (-1)).shortestText = "0.1".toList := by decide +kernel

end Binary64
end PciCatalog
