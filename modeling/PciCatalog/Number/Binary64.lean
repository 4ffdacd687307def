/-!
# Double-precision numbers

Every finite double is a whole number of units of 2^-1074, so a double is a sign and a natural
number of units, an infinity, or not a number.  The grid of doubles is coarser for larger numbers:
an exact quotient is rounded to the grid point nearest to it, a tie to the even one, and becomes
infinite from 2^1024 on.
-/

namespace PciCatalog

/-- A double; a finite one is counted in units of 2^-1074. -/
inductive Binary64 where
  | finite (negative : Bool) (units : Nat)
  | infinite (negative : Bool)
  | nan
  deriving DecidableEq, Repr, Inhabited

/-- The integer nearest to a quotient; of two equally near ones the even one. -/
def roundHalfEven (num den : Nat) : Nat :=
  let quotient := num / den
  let rest := num % den
  if 2 * rest < den then quotient
  else if den < 2 * rest then quotient + 1
  else quotient + quotient % 2

namespace Binary64

/-- The number of units in one. -/
def unitsPerOne : Nat := Nat.pow 2 1074

/-- The number of units in 2^1024, where the infinite numbers begin. -/
def unitLimit : Nat := Nat.pow 2 2098

/-- The distance of the grid points around a number of units: 53 binary digits are kept. -/
def spacing (units : Nat) : Nat :=
  Nat.pow 2 (units.log2 - 52)

/-- The grid point nearest to `num / den` units, as if the grid had no end. -/
def roundUnits (num den : Nat) : Nat :=
  let step := spacing (num / den)
  roundHalfEven num (den * step) * step

/-- The double nearest to `num / den` units with the given sign. -/
def ofUnits (negative : Bool) (num den : Nat) : Binary64 :=
  let units := roundUnits num den
  if unitLimit ≤ units then .infinite negative else .finite negative units

/-- The number itself, if it is finite. -/
def finite? : Binary64 → Option Binary64
  | .finite negative units => some (.finite negative units)
  | .infinite _ => none
  | .nan => none

/-- The double nearest to an integer, unless the integer is too large. -/
def ofInt? (n : Int) : Option Binary64 :=
  (ofUnits (n < 0) (n.natAbs * unitsPerOne) 1).finite?

/-- The double nearest to `coefficient * 10 ^ exponent` with the given sign; numbers far outside the
range are answered without forming the power. -/
def ofDecimal (negative : Bool) (coefficient : Nat) (exponent : Int) : Binary64 :=
  -- The number lies between 10 ^ (point - 1) and 10 ^ point.
  let point := (Nat.toDigits 10 coefficient).length + exponent
  if coefficient = 0 || point < -330 then .finite negative 0
  else if 310 < point then .infinite negative
  else if 0 ≤ exponent then
    ofUnits negative (coefficient * Nat.pow 10 exponent.toNat * unitsPerOne) 1
  else
    ofUnits negative (coefficient * unitsPerOne) (Nat.pow 10 (-exponent).toNat)

/-- The product, rounded once. -/
def mul : Binary64 → Binary64 → Binary64
  | .finite s a, .finite t b => ofUnits (s != t) (a * b) unitsPerOne
  | .infinite s, .infinite t => .infinite (s != t)
  | .finite s a, .infinite t => if a = 0 then .nan else .infinite (s != t)
  | .infinite s, .finite t b => if b = 0 then .nan else .infinite (s != t)
  | .nan, _ => .nan
  | _, .nan => .nan

/-- The signed number of units of a finite double. -/
def signedUnits (negative : Bool) (units : Nat) : Int :=
  if negative then -(units : Int) else units

/-- The sum, rounded once; a zero sum is negative only when both terms are. -/
def add : Binary64 → Binary64 → Binary64
  | .finite s a, .finite t b =>
    let sum := signedUnits s a + signedUnits t b
    ofUnits (if sum = 0 then s && t else sum < 0) sum.natAbs 1
  | .infinite s, .infinite t => if s = t then .infinite s else .nan
  | .finite _ _, .infinite t => .infinite t
  | .infinite s, .finite _ _ => .infinite s
  | .nan, _ => .nan
  | _, .nan => .nan

/-- The number with its sign turned. -/
def neg : Binary64 → Binary64
  | .finite s a => .finite (!s) a
  | .infinite s => .infinite (!s)
  | .nan => .nan

instance : Mul Binary64 := ⟨mul⟩
instance : Add Binary64 := ⟨add⟩
instance : Neg Binary64 := ⟨neg⟩

/-- Whether the number is zero, of either sign. -/
def isZero : Binary64 → Bool
  | .finite _ units => units == 0
  | _ => false

theorem ofInt?_zero : ofInt? 0 = some (.finite false 0) := by decide +kernel

end Binary64

/-- A quotient is rounded down below one half and up above it; one half goes to the even integer. -/
theorem roundHalfEven_cases (num den : Nat) :
    roundHalfEven num den = num / den ∧ 2 * (num % den) < den ∨
      roundHalfEven num den = num / den + 1 ∧ den < 2 * (num % den) ∨
      roundHalfEven num den = num / den + num / den % 2 ∧ 2 * (num % den) = den := by
  unfold roundHalfEven
  dsimp only
  split
  · next hlow => exact .inl ⟨rfl, hlow⟩
  split
  · next hhigh => exact .inr (.inl ⟨rfl, hhigh⟩)
  · next hlow hhigh => exact .inr (.inr ⟨rfl, by omega⟩)

/-- A quotient differs from the rounded integer by at most one half. -/
theorem roundHalfEven_bounds {num den : Nat} (h : 0 < den) :
    2 * num ≤ 2 * den * roundHalfEven num den + den ∧
      2 * den * roundHalfEven num den ≤ 2 * num + den := by
  have hdiv := Nat.div_add_mod num den
  have hmod := Nat.mod_lt num h
  rcases roundHalfEven_cases num den with ⟨heq, hrest⟩ | ⟨heq, hrest⟩ | ⟨heq, hrest⟩
  · rw [heq, Nat.mul_assoc]
    omega
  · rw [heq, Nat.mul_assoc, Nat.mul_add]
    omega
  · rw [heq, Nat.mul_assoc, Nat.mul_add]
    rcases Nat.mod_two_eq_zero_or_one (num / den) with heven | hodd
    · rw [heven]
      omega
    · rw [hodd]
      omega

end PciCatalog
