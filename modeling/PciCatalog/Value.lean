import PciCatalog.Number.Decimal
import PciCatalog.Number.Numeral
import PciCatalog.Text.Quoted

/-!
# Values

The data of a settings file: scalars, lists, pairs and sets, and mappings from scalars to values.  A
mapping holds each key once, in the order in which the keys first came; numbers that are equal are
one key.  A value has a shown form, which messages quote, and a text form, which differs from the
shown one for texts and dates.  Both are made within so many levels of nesting, since the
interpreter counts the calls that it is in: a value that is nested more deeply has neither form, nor
has anything with an integer in it that has more digits than the limit.
-/

namespace PciCatalog

/-- A day of the calendar. -/
structure Date where
  year : Nat
  month : Nat
  day : Nat
  deriving DecidableEq, Repr

/-- A value without parts. A scalar of another kind, such as bytes or a time of day, is what can be
told of it: whether it is empty, and its two forms. -/
inductive Scalar where
  | null
  | bool (b : Bool)
  | int (n : Int)
  | real (x : Binary64)
  | text (s : String)
  | date (d : Date)
  | other (empty : Bool) (text shown : String)
  deriving DecidableEq, Repr, Inhabited

/-- The data of a settings file. A set has its members in the order in which they are shown; where a
value is inside itself, a scalar of another kind stands for it. -/
inductive Value where
  | scalar (s : Scalar)
  | list (items : List Value)
  | pair (first second : Value)
  | set (members : List Scalar)
  | mapping (entries : List (Scalar × Value))
  deriving Repr, Inhabited

/-- Why a value has no form: it has an integer with too many digits, or it is nested too deeply. -/
inductive Unshown where
  | tooLong
  | tooDeep
  deriving DecidableEq, Repr

namespace Date

/-- The number in decimal with zeros in front up to the width. -/
def padded (width n : Nat) : List Char :=
  let digits := Nat.toDigits 10 n
  List.replicate (width - digits.length) '0' ++ digits

/-- The date as year, month and day with four, two and two digits. -/
def text (d : Date) : List Char :=
  padded 4 d.year ++ '-' :: padded 2 d.month ++ '-' :: padded 2 d.day

/-- The date as messages show it. -/
def shown (d : Date) : List Char :=
  "datetime.date(".toList ++ Nat.toDigits 10 d.year ++ [',', ' '] ++ Nat.toDigits 10 d.month ++
    [',', ' '] ++ Nat.toDigits 10 d.day ++ [')']

end Date

namespace Scalar

/-- The decimal digits of an integer with its sign, if they are within the limit. -/
def integerText (n : Int) : Except Unshown (List Char) :=
  let digits := Nat.toDigits 10 n.natAbs
  if digits.length ≤ Numeral.digitLimit then .ok (if n < 0 then '-' :: digits else digits)
  else .error .tooLong

/-- The shown form of a scalar. -/
def shown : Scalar → Except Unshown (List Char)
  | null => .ok "None".toList
  | bool true => .ok "True".toList
  | bool false => .ok "False".toList
  | int n => integerText n
  | real x => .ok x.shortestText
  | text s => .ok (Text.quoted s.toList)
  | date d => .ok d.shown
  | other _ _ form => .ok form.toList

/-- The text form of a scalar. -/
def textForm : Scalar → Except Unshown (List Char)
  | text s => .ok s.toList
  | date d => .ok d.text
  | other _ form _ => .ok form.toList
  | s => s.shown

/-- The exact size of a finite number in units of doubles; a truth value counts as 0 or 1. -/
def units? : Scalar → Option Int
  | bool b => some (if b then Binary64.unitsPerOne else 0)
  | int n => some (n * Binary64.unitsPerOne)
  | real (.finite negative units) => some (Binary64.signedUnits negative units)
  | _ => none

/-- Whether two scalars are one key: equal finite numbers of any kind are, other scalars only when
they are the same. -/
def sameKey (a b : Scalar) : Bool :=
  match a.units?, b.units? with
  | some m, some n => m == n
  | none, none => a == b
  | _, _ => false

end Scalar

namespace Value

/-- Entries with one more: an equal key keeps its place and gets the new value, a new key comes
last. -/
def insertEntry (entries : List (Scalar × Value)) (key : Scalar) (value : Value) :
    List (Scalar × Value) :=
  match entries with
  | [] => [(key, value)]
  | (k, v) :: rest =>
    if k.sameKey key then (k, value) :: rest else (k, v) :: insertEntry rest key value

/-- The mapping of some keys and values, where a later equal key replaces the value. -/
def ofEntries (entries : List (Scalar × Value)) : Value :=
  .mapping (entries.foldl (fun found entry => insertEntry found entry.1 entry.2) [])

/-- The value of a key that is a text. -/
def lookupText (entries : List (Scalar × Value)) (key : String) : Option Value :=
  entries.lookup (.text key)

/-- The form of a part of a value, which is one level further in. -/
def inner (levels : Nat) (form : Nat → Except Unshown (List Char)) : Except Unshown (List Char) :=
  match levels with
  | 0 => .error .tooDeep
  | n + 1 => form n

/-- Texts with commas between them and brackets around them. -/
def bracketed (opening : Char) (parts : List (List Char)) (closing : Char) : List Char :=
  opening :: (List.intercalate [',', ' '] parts ++ [closing])

/-- The shown form of a set, which is made by way of a list of its members. -/
def shownSet (levels : Nat) (members : List Scalar) : Except Unshown (List Char) := do
  let parts ← members.mapM fun s => inner levels fun n => inner n fun _ => s.shown
  pure (if parts.isEmpty then "set()".toList else bracketed '{' parts '}')

mutual

/-- The shown form of a value. -/
def shown (levels : Nat) : Value → Except Unshown (List Char)
  | .scalar s => s.shown
  | .list items => do
    let parts ← shownItems levels items
    pure (bracketed '[' parts ']')
  | .pair first second => do
    let a ← inner levels fun n => shown n first
    let b ← inner levels fun n => shown n second
    pure (bracketed '(' [a, b] ')')
  | .set members => shownSet levels members
  | .mapping entries => do
    let parts ← shownEntries levels entries
    pure (bracketed '{' parts '}')

/-- The shown forms of the items of a list. -/
def shownItems (levels : Nat) : List Value → Except Unshown (List (List Char))
  | [] => .ok []
  | item :: rest => do
    let first ← inner levels fun n => shown n item
    let others ← shownItems levels rest
    pure (first :: others)

/-- The shown forms of the entries of a mapping. -/
def shownEntries (levels : Nat) : List (Scalar × Value) → Except Unshown (List (List Char))
  | [] => .ok []
  | (key, value) :: rest => do
    let key ← inner levels fun _ => key.shown
    let value ← inner levels fun n => shown n value
    let others ← shownEntries levels rest
    pure ((key ++ ':' :: ' ' :: value) :: others)

end

/-- Whether a value says nothing: null, false, zero, or something empty. -/
def isVoid : Value → Bool
  | .scalar .null => true
  | .scalar (.bool b) => !b
  | .scalar (.int n) => n = 0
  | .scalar (.real x) => x.isZero
  | .scalar (.text s) => s = ""
  | .scalar (.date _) => false
  | .scalar (.other empty _ _) => empty
  | .list items => items.isEmpty
  | .pair _ _ => false
  | .set members => members.isEmpty
  | .mapping entries => entries.isEmpty

/-- The text form of a value. -/
def textForm (levels : Nat) : Value → Except Unshown String
  | .scalar s => s.textForm.map String.ofList
  | value => (value.shown levels).map String.ofList

end Value
end PciCatalog
