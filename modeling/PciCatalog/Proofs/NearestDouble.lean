import PciCatalog.Number.Binary64
import Mathlib.Algebra.Group.Nat.Defs

/-!
# The double nearest to an integer

The doubles are the numbers of units with at most 53 binary digits before their zeros, up to a limit
(`IsDouble`).  Rounding an integer comes to a double that no other one is nearer to, with an even
significand when another one is as near, as long as the integer stays below the middle between the
largest double and the limit.  Main statements: `isNearest_of_ofInt?` and `ofInt?_eq_none_iff`.
-/

namespace PciCatalog

/-! ### Quotients -/

section Quotient

variable {num den : Nat}

/-- The multiple of a number that a quotient is rounded to is as near as any. -/
theorem roundHalfEven_nearest (num : Nat) (h : 0 < den) (k : Nat) :
    ((num : Int) - (roundHalfEven num den * den : Nat)).natAbs ≤
      ((num : Int) - (k * den : Nat)).natAbs := by
  obtain ⟨hlow, hhigh⟩ := @roundHalfEven_bounds num den h
  rw [Nat.mul_assoc, Nat.mul_comm den] at hlow hhigh
  rcases Nat.lt_trichotomy k (roundHalfEven num den) with hk | rfl | hk
  · have hnext : (k + 1) * den ≤ roundHalfEven num den * den := Nat.mul_le_mul_right den hk
    rw [Nat.succ_mul] at hnext
    omega
  · exact Nat.le_refl _
  · have hnext : (roundHalfEven num den + 1) * den ≤ k * den := Nat.mul_le_mul_right den hk
    rw [Nat.succ_mul] at hnext
    omega

/-- When another multiple is as near, the quotient is rounded to an even integer. -/
theorem roundHalfEven_even_of_tie (h : 0 < den) {k : Nat} (hk : k ≠ roundHalfEven num den)
    (htie : ((num : Int) - (k * den : Nat)).natAbs =
      ((num : Int) - (roundHalfEven num den * den : Nat)).natAbs) :
    roundHalfEven num den % 2 = 0 := by
  have hnum := Nat.div_add_mod' num den
  have hrest := Nat.mod_lt num h
  -- Next to the quotient lie the multiples of its two neighbours.
  have hapart : (k + 1) * den ≤ roundHalfEven num den * den ∨
      (roundHalfEven num den + 1) * den ≤ k * den := by
    rcases Nat.lt_or_gt_of_ne hk with hk | hk
    · exact .inl (Nat.mul_le_mul_right den hk)
    · exact .inr (Nat.mul_le_mul_right den hk)
  rw [Nat.succ_mul, Nat.succ_mul] at hapart
  rcases roundHalfEven_cases num den with ⟨heq, hlow⟩ | ⟨heq, hhigh⟩ | ⟨heq, -⟩
  · rw [heq] at htie hapart
    omega
  · rw [heq, Nat.succ_mul] at htie hapart
    omega
  · omega

/-- From one half behind an odd integer on, a quotient is rounded beyond it. -/
theorem lt_roundHalfEven_iff (num : Nat) (h : 0 < den) {k : Nat} (hodd : k % 2 = 1) :
    k < roundHalfEven num den ↔ (2 * k + 1) * den ≤ 2 * num := by
  have hnum := Nat.div_add_mod' num den
  have hrest := Nat.mod_lt num h
  rw [Nat.add_mul, Nat.one_mul, Nat.mul_assoc]
  -- Only when the whole part is the odd integer itself does the rest matter, and then a tie goes
  -- up.
  rcases Nat.lt_trichotomy k (num / den) with hk | hk | hk
  · have hnext : (k + 1) * den ≤ num / den * den := Nat.mul_le_mul_right den hk
    rw [Nat.succ_mul] at hnext
    have hround : k < roundHalfEven num den := by
      rcases roundHalfEven_cases num den with h | h | h <;> omega
    exact iff_of_true hround (by omega)
  · rw [← hk] at hnum
    rcases roundHalfEven_cases num den with ⟨heq, h⟩ | ⟨heq, h⟩ | ⟨heq, h⟩ <;>
      rw [heq, ← hk] <;> omega
  · have hnext : (num / den + 1) * den ≤ k * den := Nat.mul_le_mul_right den hk
    rw [Nat.succ_mul] at hnext
    have hround : ¬ k < roundHalfEven num den := by
      rcases roundHalfEven_cases num den with h | h | h <;> omega
    exact iff_of_false hround (by omega)

theorem div_le_roundHalfEven (num den : Nat) : num / den ≤ roundHalfEven num den := by
  rcases roundHalfEven_cases num den with h | h | h <;> omega

/-- An integer bound of a quotient bounds its rounding. -/
theorem roundHalfEven_le {bound : Nat} (h : num < bound * den) : roundHalfEven num den ≤ bound := by
  have hquotient : num / den < bound := Nat.div_lt_of_lt_mul (by rwa [Nat.mul_comm] at h)
  rcases roundHalfEven_cases num den with h | h | h <;> omega

end Quotient

/-! ### The grid -/

namespace Binary64

theorem unitLimit_eq : unitLimit = 2 ^ (2044 + 54) := by
  have hexponent : 2098 = 2044 + 54 := rfl
  unfold unitLimit
  rw [← hexponent]
  generalize 2098 = k
  rfl

theorem unitsPerOne_eq : unitsPerOne = 2 ^ 1074 := by
  unfold unitsPerOne
  generalize 1074 = k
  rfl

theorem unitsPerOne_pos : 0 < unitsPerOne := by
  rw [unitsPerOne_eq]
  generalize 1074 = k
  exact Nat.two_pow_pos k

/-- The numbers of units that finite doubles have: at most 53 binary digits and then zeros, below
the limit. -/
def IsDouble (units : Nat) : Prop :=
  units < unitLimit ∧
    ∃ significand exponent, significand < 2 ^ 53 ∧ units = significand * 2 ^ exponent

/-- Whether the last of the 53 binary digits is 0. -/
def HasEvenSignificand (units : Nat) : Prop :=
  ∃ significand exponent, significand < 2 ^ 53 ∧ significand % 2 = 0 ∧
    units = significand * 2 ^ exponent

theorem roundUnits_one (num : Nat) :
    roundUnits num 1 = roundHalfEven num (spacing num) * spacing num := by
  simp only [roundUnits, Nat.div_one, Nat.one_mul]

theorem spacing_eq (units : Nat) : spacing units = 2 ^ (units.log2 - 52) := rfl

theorem spacing_pos (units : Nat) : 0 < spacing units :=
  Nat.two_pow_pos _

/-- A number of units has 53 binary digits at most before its grid point. -/
theorem lt_mul_spacing (units : Nat) : units < 2 ^ 53 * spacing units := by
  rw [spacing_eq, ← Nat.pow_add]
  exact Nat.lt_of_lt_of_le Nat.lt_log2_self (Nat.pow_le_pow_right (by decide) (by omega))

/-- Where the grid is coarse, a number of units has no less than 53 binary digits before its grid
point. -/
theorem mul_spacing_le (units : Nat) (h : 52 ≤ units.log2) : 2 ^ 52 * spacing units ≤ units := by
  have hne : units ≠ 0 := by
    rintro rfl
    simp at h
  rw [spacing_eq, ← Nat.pow_add, Nat.add_sub_cancel' h]
  exact Nat.log2_self_le hne

theorem roundHalfEven_spacing_le (num : Nat) : roundHalfEven num (spacing num) ≤ 2 ^ 53 :=
  roundHalfEven_le (lt_mul_spacing num)

/-- Rounding comes to a point of the grid. -/
theorem exists_significand_roundUnits (num : Nat) : ∃ significand exponent,
    significand < 2 ^ 53 ∧ roundUnits num 1 = significand * 2 ^ exponent := by
  rw [roundUnits_one, spacing_eq]
  rcases Nat.lt_or_eq_of_le (roundHalfEven_spacing_le num) with hlt | heq
  · exact ⟨_, _, hlt, rfl⟩
  · rw [spacing_eq] at heq
    exact ⟨1, 53 + (num.log2 - 52), by decide, by rw [heq, Nat.pow_add, Nat.one_mul]⟩

/-- A point of the grid is a multiple of the spacing, or it lies below a multiple that is nearer. -/
theorem multiple_or_below (num : Nat) {significand : Nat} (h : significand < 2 ^ 53)
    (exponent : Nat) :
    (∃ k, significand * 2 ^ exponent = k * spacing num) ∨
      significand * 2 ^ exponent < 2 ^ 52 * spacing num ∧ 2 ^ 52 * spacing num ≤ num := by
  by_cases hexponent : num.log2 - 52 ≤ exponent
  · refine .inl ⟨significand * 2 ^ (exponent - (num.log2 - 52)), ?_⟩
    rw [spacing_eq, Nat.mul_assoc, ← Nat.pow_add, Nat.sub_add_cancel hexponent]
  · refine .inr ⟨?_, mul_spacing_le num (by omega)⟩
    calc significand * 2 ^ exponent
        < 2 ^ 53 * 2 ^ exponent := Nat.mul_lt_mul_of_pos_right h (Nat.two_pow_pos _)
      _ = 2 ^ (52 + (exponent + 1)) := by rw [← Nat.pow_add]; congr 1; omega
      _ ≤ 2 ^ (52 + (num.log2 - 52)) := Nat.pow_le_pow_right (by decide) (by omega)
      _ = 2 ^ 52 * spacing num := by rw [Nat.pow_add, spacing_eq]

/-- No point of the grid is nearer than the one that rounding comes to. -/
theorem roundUnits_nearest (num : Nat) {units : Nat} (h : IsDouble units) :
    ((num : Int) - roundUnits num 1).natAbs ≤ ((num : Int) - units).natAbs := by
  obtain ⟨-, significand, exponent, hsignificand, rfl⟩ := h
  have hnearest := roundHalfEven_nearest num (spacing_pos num)
  rw [roundUnits_one]
  rcases multiple_or_below num hsignificand exponent with ⟨k, hk⟩ | ⟨hbelow, hle⟩
  · rw [hk]
    exact hnearest k
  · have hbetween := hnearest (2 ^ 52)
    omega

/-- When another point of the grid is as near, rounding comes to an even significand. -/
theorem roundUnits_even_of_tie (num : Nat) {units : Nat} (h : IsDouble units)
    (hne : units ≠ roundUnits num 1)
    (htie : ((num : Int) - units).natAbs = ((num : Int) - roundUnits num 1).natAbs) :
    HasEvenSignificand (roundUnits num 1) := by
  obtain ⟨-, significand, exponent, hsignificand, rfl⟩ := h
  rw [roundUnits_one] at hne htie ⊢
  rcases multiple_or_below num hsignificand exponent with ⟨k, hk⟩ | ⟨hbelow, hle⟩
  · rw [hk] at hne htie
    have heven := roundHalfEven_even_of_tie (spacing_pos num) (fun heq => hne (by rw [heq])) htie
    rcases Nat.lt_or_eq_of_le (roundHalfEven_spacing_le num) with hlt | heq
    · exact ⟨_, _, hlt, heven, rfl⟩
    · refine ⟨2 ^ 52, 1 + (num.log2 - 52), by decide, by decide, ?_⟩
      rw [heq, spacing_eq, Nat.pow_add, ← Nat.mul_assoc]
      congr 1
  · have hbetween := roundHalfEven_nearest num (spacing_pos num) (2 ^ 52)
    omega

/-- Rounding reaches a power of two from the middle between it and the grid point below it on. -/
theorem pow_le_roundUnits_iff (num e : Nat) :
    2 ^ (e + 54) ≤ roundUnits num 1 ↔ (2 ^ 54 - 1) * 2 ^ e ≤ num := by
  have hpow : ∀ k, 2 ^ (e + k) = 2 ^ k * 2 ^ e := fun k => by rw [Nat.add_comm, Nat.pow_add]
  rw [roundUnits_one, hpow]
  -- Numbers with fewer digits stay below the power and those with more reach it; in between, where
  -- the spacing is constant, one half decides.
  rcases Nat.lt_trichotomy num.log2 (e + 53) with hlog | hlog | hlog
  · have hstep : spacing num ≤ 2 ^ e := Nat.pow_le_pow_right (by decide) (by omega)
    have hround : roundHalfEven num (spacing num) * spacing num ≤ 2 ^ 53 * 2 ^ e :=
      Nat.mul_le_mul (roundHalfEven_spacing_le num) hstep
    have hnum : num < 2 ^ 53 * 2 ^ e :=
      Nat.lt_of_lt_of_le (lt_mul_spacing num) (Nat.mul_le_mul_left _ hstep)
    exact iff_of_false (by omega) (by omega)
  · have hstep : spacing num = 2 * 2 ^ e := by
      rw [spacing_eq, hlog, Nat.add_sub_assoc (by decide), hpow]
      rfl
    have hodd : (2 ^ 53 - 1) % 2 = 1 := by decide
    have hhalf := lt_roundHalfEven_iff num (spacing_pos num) hodd
    have hreach : 2 ^ 54 * 2 ^ e ≤ roundHalfEven num (spacing num) * spacing num ↔
        2 ^ 53 - 1 < roundHalfEven num (spacing num) := by
      have hlimit : 2 ^ 54 * 2 ^ e = 2 ^ 53 * spacing num := by
        rw [hstep]
        omega
      rw [hlimit, Nat.mul_le_mul_right_iff (spacing_pos num)]
      omega
    rw [hreach, hhalf, hstep]
    omega
  · have hstep : 2 ^ 2 * 2 ^ e ≤ spacing num := by
      rw [← hpow]
      exact Nat.pow_le_pow_right (by decide) (by omega)
    have hnum := mul_spacing_le num (by omega)
    have hround : 2 ^ 52 * spacing num ≤ roundHalfEven num (spacing num) * spacing num := by
      refine Nat.mul_le_mul_right _ (Nat.le_trans ?_ (div_le_roundHalfEven _ _))
      exact (Nat.le_div_iff_mul_le (spacing_pos num)).2 hnum
    exact iff_of_true (by omega) (by omega)

/-! ### Integers -/

/-- A double that no other one is nearer to an integer than, with an even significand when another
one is as near. -/
inductive IsNearest (n : Int) : Binary64 → Prop
  | finite {negative : Bool} {units : Nat} (double : IsDouble units)
    (nearest : ∀ sign other, IsDouble other →
      (n * unitsPerOne - signedUnits negative units).natAbs ≤
        (n * unitsPerOne - signedUnits sign other).natAbs)
    (even : ∀ sign other, IsDouble other →
      signedUnits sign other ≠ signedUnits negative units →
        (n * unitsPerOne - signedUnits sign other).natAbs =
          (n * unitsPerOne - signedUnits negative units).natAbs → HasEvenSignificand units) :
    IsNearest n (.finite negative units)

theorem ofInt?_eq (n : Int) : ofInt? n =
    if unitLimit ≤ roundUnits (n.natAbs * unitsPerOne) 1 then none
    else some (.finite (n < 0) (roundUnits (n.natAbs * unitsPerOne) 1)) := by
  rw [ofInt?, ofUnits]
  split <;> rfl

/-- An integer has a double unless it is too large: from the middle between the largest double and
the limit on. -/
theorem ofInt?_eq_none_iff {n : Int} : ofInt? n = none ↔ 2 ^ 1024 - 2 ^ 970 ≤ n.natAbs := by
  have hbound : 2 ^ 1024 - 2 ^ 970 = (2 ^ 54 - 1) * 2 ^ 970 := by
    rw [Nat.sub_mul, Nat.one_mul, ← Nat.pow_add]
  have hmiddle : (2 ^ 54 - 1) * 2 ^ 2044 = (2 ^ 54 - 1) * 2 ^ 970 * 2 ^ 1074 := by
    rw [Nat.mul_assoc, ← Nat.pow_add]
  have hnone : ofInt? n = none ↔ unitLimit ≤ roundUnits (n.natAbs * unitsPerOne) 1 := by
    rw [ofInt?_eq]
    split
    · next hle => exact iff_of_true rfl hle
    · next hlt => exact iff_of_false nofun hlt
  rw [hnone, unitLimit_eq, pow_le_roundUnits_iff, unitsPerOne_eq, hbound, hmiddle,
    Nat.mul_le_mul_right_iff (Nat.two_pow_pos 1074)]

/-- An integer with its sign apart. -/
theorem mul_unitsPerOne_eq (n : Int) :
    n * unitsPerOne = signedUnits (n < 0) (n.natAbs * unitsPerOne) := by
  rw [signedUnits, Int.natCast_mul]
  split
  · next hneg =>
    rw [← Int.neg_mul]
    congr 1
    have := of_decide_eq_true hneg
    omega
  · next hpos =>
    congr 1
    have := of_decide_eq_false (Bool.eq_false_iff.2 hpos)
    omega

/-- Numbers of the same sign are as far apart as their units; across zero the units add up. -/
theorem natAbs_signedUnits_sub (s t : Bool) (a b : Nat) :
    (signedUnits s a - signedUnits t b).natAbs =
      if t = s then ((a : Int) - b).natAbs else a + b := by
  cases s <;> cases t <;> simp [signedUnits] <;> omega

/-- The double of an integer is the nearest one. -/
theorem isNearest_of_ofInt? {n : Int} {x : Binary64} (h : ofInt? n = some x) : IsNearest n x := by
  rw [ofInt?_eq, Option.ite_none_left_eq_some] at h
  obtain ⟨hlimit, h⟩ := h
  obtain rfl := Option.some.inj h
  have hlimit := Nat.not_le.1 hlimit
  have hzero : IsDouble 0 := ⟨Nat.zero_lt_of_lt hlimit, 0, 0, by decide, rfl⟩
  have hfromZero := roundUnits_nearest (n.natAbs * unitsPerOne) hzero
  refine .finite ⟨hlimit, exists_significand_roundUnits _⟩ ?_ ?_
  · intro sign other hother
    have hnearest := roundUnits_nearest (n.natAbs * unitsPerOne) hother
    rw [mul_unitsPerOne_eq, natAbs_signedUnits_sub, natAbs_signedUnits_sub, if_pos rfl]
    split
    · exact hnearest
    · omega
  · intro sign other hother hne htie
    rw [mul_unitsPerOne_eq, natAbs_signedUnits_sub, natAbs_signedUnits_sub, if_pos rfl] at htie
    split at htie
    · next hsign =>
      refine roundUnits_even_of_tie _ hother (fun heq => hne ?_) htie
      rw [hsign, heq]
    · -- A number on the other side of zero is as near only when it is zero.
      obtain rfl : other = 0 := by omega
      refine roundUnits_even_of_tie _ hzero (fun heq => hne ?_) (by omega)
      rw [← heq]
      cases sign <;> cases decide (n < 0) <;> rfl

end Binary64
end PciCatalog
