import SearchQuery.Number.Binary64

/-!
# The shortest decimal of a double

Every double stands for an interval of reals that round to it. The written form
is a point of the coarsest power-of-ten grid that meets this interval, and on
that grid the point nearest to the value, an exact tie going to the even
coefficient. No shorter decimal reads back to the same double, because a point
of a grid inside the interval has one of the value's two neighbours on that grid
at least as near.
-/

namespace SearchQuery

/-- The decimal `coefficient · 10 ^ power`. -/
structure Decimal where
  coefficient : Nat
  power : Int
deriving DecidableEq

namespace Magnitude

/-- The value in units of `2 ^ -1076`, where the interval's ends are whole. -/
def quarterUnits (m : Magnitude) : Nat := 4 * m.units

/-- Half the gap to the next double above, in units of `2 ^ -1076`. -/
def halfGapAbove (m : Magnitude) : Nat := 2 <<< m.exponent

/-- Half the gap to the next double below; a power of two has a narrower one. -/
def halfGapBelow (m : Magnitude) : Nat :=
  if m.significand = normalSignificand ∧ m.exponent ≠ 0 then 1 <<< m.exponent
  else 2 <<< m.exponent

/-- Does `coefficient · step / scale` round to this double? The ends of the
interval do exactly when the significand is even. -/
def roundsFrom (m : Magnitude) (step scale coefficient : Nat) : Bool :=
  let point := coefficient * step
  let low := (m.quarterUnits - m.halfGapBelow) * scale
  let high := (m.quarterUnits + m.halfGapAbove) * scale
  if m.significand % 2 = 0 then low ≤ point && point ≤ high
  else low < point && point < high

/-- The point of the grid of `10 ^ power` that stands for this double, if the
grid meets its interval. -/
def onGrid? (m : Magnitude) (power : Int) : Option Nat :=
  let step := Nat.pow 10 power.toNat <<< 1076
  let scale := Nat.pow 10 (-power).toNat
  let value := m.quarterUnits * scale
  let below := value / step
  let above := below + 1
  match m.roundsFrom step scale below, m.roundsFrom step scale above with
  | false, false => none
  | true, false => some below
  | false, true => some above
  | true, true =>
    let down := value - below * step
    let up := above * step - value
    if down < up then some below
    else if up < down then some above
    else if below % 2 = 0 then some below
    else some above

/-- Grids from `10 ^ 308` down to `10 ^ -324`; the last one meets every interval. -/
def grids : List Int := (List.range 633).map fun (i : Nat) => 308 - (i : Int)

def shortest (m : Magnitude) : Decimal :=
  (grids.findSome? fun power => (m.onGrid? power).map (⟨·, power⟩)).getD ⟨0, 0⟩

end Magnitude

namespace Decimal

def digits (d : Decimal) : List Char := Nat.toDigits 10 d.coefficient

/-- The power of ten of the leading digit. -/
def leadingPower (d : Decimal) : Int := d.power + d.digits.length - 1

/-- Values from `10 ^ -5` up to but not including `10 ^ 16` are written in full. -/
def isPositional (d : Decimal) : Bool := -5 ≤ d.leadingPower && d.leadingPower ≤ 15

/-- In full, with `.0` after a whole number. -/
def positional (d : Decimal) : List Char :=
  if 0 ≤ d.power then
    d.digits ++ List.replicate d.power.toNat '0' ++ ['.', '0']
  else if 0 ≤ d.leadingPower then
    let whole := d.leadingPower.toNat + 1
    d.digits.take whole ++ '.' :: d.digits.drop whole
  else
    '0' :: '.' :: List.replicate (d.leadingPower.natAbs - 1) '0' ++ d.digits

/-- One digit, the others after a point if there are any, and a signed exponent. -/
def scientific (d : Decimal) : List Char :=
  let fraction := match d.digits.drop 1 with
    | [] => []
    | rest => '.' :: rest
  let sign := if d.leadingPower < 0 then '-' else '+'
  d.digits.take 1 ++ fraction ++ 'e' :: sign :: Nat.toDigits 10 d.leadingPower.natAbs

def chars (d : Decimal) : List Char :=
  if d.isPositional then d.positional else d.scientific

end Decimal

def Magnitude.chars (m : Magnitude) : List Char :=
  if m.isZero then ['0', '.', '0'] else m.shortest.chars

def Binary64.chars (x : Binary64) : List Char :=
  if x.negative then '-' :: x.magnitude.chars else x.magnitude.chars

end SearchQuery
