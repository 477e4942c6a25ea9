/-!
# Finite doubles

A finite double is a sign and a magnitude. The magnitude is a whole significand
of at most 53 binary places, counted in units of `2 ^ exponent / 2 ^ 1074`, and
the fields admit exactly one form of each value. Arithmetic is exact up to one
rounding to the nearest double, a half going to the even significand. Infinities
and undefined results are not values here: an operation that leaves the finite
range has no result.
-/

namespace SearchQuery

/-- The least significand of 54 binary places. -/
def significandLimit : Nat := 9007199254740992

/-- The least significand of 53 binary places. -/
def normalSignificand : Nat := 4503599627370496

/-- The number of units of `2 ^ exponent / 2 ^ 1074`, in its only form. -/
structure Magnitude where
  significand : Nat
  exponent : Nat
  fits : significand < significandLimit
  bounded : exponent ≤ 2045
  normal : normalSignificand ≤ significand ∨ exponent = 0
deriving DecidableEq

/-- The nearest integer to `num / den`, a half going to the even neighbour. -/
def roundHalfEven (num den : Nat) : Nat :=
  let quotient := num / den
  let remainder := num % den
  if den < 2 * remainder ∨ (2 * remainder = den ∧ quotient % 2 = 1) then
    quotient + 1
  else
    quotient

theorem quotient_le_roundHalfEven (num den : Nat) : num / den ≤ roundHalfEven num den := by
  unfold roundHalfEven
  dsimp only
  split <;> omega

namespace Magnitude

/-- The binary places by which a quotient outgrows a significand. -/
def excess (quotient : Nat) : Nat := quotient.log2 - 52

theorem normal_of_excess {quotient : Nat} (h : excess quotient ≠ 0) :
    normalSignificand ≤ quotient >>> excess quotient := by
  have nonzero : quotient ≠ 0 := by
    intro zero
    subst zero
    exact h (by decide)
  have low := Nat.log2_self_le nonzero
  have split : quotient.log2 = 52 + excess quotient := by
    unfold excess at h ⊢
    omega
  rw [split, Nat.pow_add] at low
  rw [Nat.shiftRight_eq_div_pow]
  exact (Nat.le_div_iff_mul_le (Nat.two_pow_pos _)).mpr low

/-- The double nearest to `num / den`; nothing when that exceeds the finite range. -/
def ofRatio? (num den : Nat) : Option Magnitude :=
  let units := num <<< 1074
  let shift := excess (units / den)
  let rounded := roundHalfEven units (den <<< shift)
  if small : rounded < significandLimit then
    if bounded : shift ≤ 2045 then
      some ⟨rounded, shift, small, bounded, by
        by_cases h : shift = 0
        · exact Or.inr h
        · have low := normal_of_excess h
          rw [Nat.shiftRight_eq_div_pow, Nat.div_div_eq_div_mul, ← Nat.shiftLeft_eq] at low
          exact Or.inl (Nat.le_trans low (quotient_le_roundHalfEven _ _))⟩
    else
      none
  else if bounded : shift + 1 ≤ 2045 then
    some ⟨normalSignificand, shift + 1, by decide, bounded, Or.inl (Nat.le_refl _)⟩
  else
    none

def ofNat? (n : Nat) : Option Magnitude := ofRatio? n 1

def isZero (m : Magnitude) : Bool := m.significand == 0

/-- The value as a whole number of units of `2 ^ -1074`. -/
def units (m : Magnitude) : Nat := m.significand <<< m.exponent

def times? (m n : Magnitude) : Option Magnitude :=
  ofRatio? (m.units * n.units) (1 <<< 2148)

/-- The divisor must not be zero. -/
def over? (m n : Magnitude) : Option Magnitude := ofRatio? m.units n.units

end Magnitude

/-- A finite double. Zero has two signs. -/
structure Binary64 where
  negative : Bool
  magnitude : Magnitude
deriving DecidableEq

namespace Binary64

def isZero (x : Binary64) : Bool := x.magnitude.isZero

/-- Equality of values: the two zeros are one value. -/
def same (x y : Binary64) : Bool := x == y || (x.isZero && y.isZero)

def ofInt? (n : Int) : Option Binary64 :=
  (Magnitude.ofNat? n.natAbs).map (⟨decide (n < 0), ·⟩)

end Binary64

end SearchQuery
