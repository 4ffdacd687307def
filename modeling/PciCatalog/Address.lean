import PciCatalog.Number.Numeral
import PciCatalog.Text.Lowercase
import PciCatalog.Text.Quoted
import PciCatalog.Text.Split

/-!
# Addresses

A PCI address is written `segment:bus:device.function` in hexadecimal, for instance `0000:03:00.0`.
`accepts` decides whether a text has this form; a single line feed after it is tolerated.  The other
functions take any text apart at its colons and its point and read the parts as numbers, so they may
fail on a text that is not an address.
-/

namespace PciCatalog

/-- What can be wrong with an address. -/
inductive AddressError where
  | malformed (address : String)
  | missingPart
  | unreadablePart
  deriving DecidableEq, Repr

namespace AddressError

/-- The text that reports the error. -/
def message : AddressError → String
  | malformed address =>
    "Invalid BDF format: " ++ String.ofList (Text.quoted address.toList) ++
      " (expected e.g. 0000:03:00.0)"
  | missingPart => "address has too few parts"
  | unreadablePart => "address has an unreadable part"

end AddressError

namespace Address

/-- A hexadecimal digit of ASCII, in either case. -/
def isHexDigit (c : Char) : Bool :=
  ('0' ≤ c && c ≤ '9') || ('a' ≤ c && c ≤ 'f') || ('A' ≤ c && c ≤ 'F')

/-- A digit of a function number. -/
def isFunctionDigit (c : Char) : Bool :=
  '0' ≤ c && c ≤ '7'

/-- What the twelve characters of an address have to satisfy, one after the other. -/
def pattern : List (Char → Bool) :=
  [isHexDigit, isHexDigit, isHexDigit, isHexDigit, (· == ':'), isHexDigit, isHexDigit, (· == ':'),
    isHexDigit, isHexDigit, (· == '.'), isFunctionDigit]

/-- What is left of a text after characters that satisfy the conditions in turn. -/
def strip? : List (Char → Bool) → List Char → Option (List Char)
  | [], text => some text
  | _ :: _, [] => none
  | condition :: others, c :: rest => if condition c then strip? others rest else none

/-- Whether a text is an address, with or without one line feed after it. -/
def accepts (address : String) : Bool :=
  match strip? pattern address.toList with
  | some [] => true
  | some ['\n'] => true
  | _ => false

example : accepts "0000:03:00.0" = true ∧ accepts "0000:03:00.8" = false := by decide +kernel

/-- Checks that a text is an address. -/
def validate (address : String) : Except AddressError Unit :=
  if accepts address then .ok () else .error (.malformed address)

/-- The four parts of an address as texts. -/
structure Parts where
  segment : String
  bus : String
  device : String
  function : String
  deriving DecidableEq, Repr

/-- What stands for the parts of an address that does not exist. -/
def noParts : Parts := ⟨"*", "*", "*", "*"⟩

/-- The four parts of a text with exactly two colons and one point after them. -/
def split? (text : List Char) : Option Parts :=
  match Text.fields ':' text with
  | [segment, bus, last] =>
    match Text.fields '.' last with
    | [device, function] =>
      some ⟨String.ofList segment, String.ofList bus, String.ofList device, String.ofList function⟩
    | _ => none
  | _ => none

/-- The parts of an address in lower case. -/
def parts (address : String) : Except AddressError Parts :=
  match split? (Text.lower address.toList) with
  | some found => .ok found
  | none => .error .unreadablePart

/-- One part of an address read as a hexadecimal number. -/
def readPart (part : List Char) : Except AddressError Int :=
  match Numeral.hexadecimal? part with
  | some n => .ok n
  | none => .error .unreadablePart

/-- One of the parts between colons. -/
def colonPart (address : String) (index : Nat) : Except AddressError (List Char) :=
  match (Text.fields ':' address.toList)[index]? with
  | some part => .ok part
  | none => .error .missingPart

/-- The segment number, also called the domain. -/
def domain (address : String) : Except AddressError Int := do
  readPart (← colonPart address 0)

/-- The bus number. -/
def bus (address : String) : Except AddressError Int := do
  readPart (← colonPart address 1)

/-- The device number and the function number. -/
def deviceAndFunction (address : String) : Except AddressError (Int × Int) := do
  match Text.fields '.' (← colonPart address 2) with
  | [device, function] =>
    let device ← readPart device
    let function ← readPart function
    pure (device, function)
  | _ => .error .unreadablePart

end Address
end PciCatalog
