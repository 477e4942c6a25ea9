import SearchQuery.Number.Binary64

/-!
# Scaling by a power of ten

A decimal literal is a whole significand and a power of ten. Its value is the
significand rounded to a double and then multiplied or divided by the rounded
power of ten, and every step rounds. One step covers powers up to `10 ^ 308`; a
smaller divisor than one step allows is reached by dividing repeatedly. The
result is not claimed to be the double nearest to the literal.
-/

namespace SearchQuery.Magnitude

/-- The largest power of ten that is a finite double. -/
def largestPower : Nat := 308

/-- Nothing when the product leaves the finite range; zero never does. -/
def timesPowerOfTen? (m : Magnitude) (power : Nat) : Option Magnitude :=
  if m.isZero then some m
  else if power ≤ largestPower then do
    let ten ← ofNat? (Nat.pow 10 power)
    m.times? ten
  else none

def overPowerOfTen? (m : Magnitude) (power : Nat) : Option Magnitude :=
  if m.isZero then some m
  else if power ≤ largestPower then do
    let ten ← ofNat? (Nat.pow 10 power)
    m.over? ten
  else do
    let ten ← ofNat? (Nat.pow 10 largestPower)
    let quotient ← m.over? ten
    quotient.overPowerOfTen? (power - largestPower)
termination_by power
decreasing_by
  unfold largestPower at *
  omega

/-- The value of `significand · 10 ^ power`, one rounding a step. -/
def ofScaled? (significand : Nat) (power : Int) : Option Magnitude := do
  let start ← ofNat? significand
  if 0 ≤ power then
    start.timesPowerOfTen? power.toNat
  else
    start.overPowerOfTen? power.natAbs

end SearchQuery.Magnitude
