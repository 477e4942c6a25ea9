import SearchQuery.Number.Shortest

/-!
# Numbers

A number is an integer of the two 64-bit ranges taken together or a finite
double. The two kinds never meet: `1` and `1.0` are different numbers and are
written differently.
-/

namespace SearchQuery

/-- The integers from `-2 ^ 63` up to but not including `2 ^ 64`. -/
def IntFits (value : Int) : Prop :=
  -9223372036854775808 ≤ value ∧ value < 18446744073709551616

instance (value : Int) : Decidable (IntFits value) :=
  inferInstanceAs (Decidable (_ ∧ _))

inductive Number where
  | int (value : Int) (fits : IntFits value)
  | real (value : Binary64)
deriving DecidableEq

namespace Number

/-- The integer itself if it fits. -/
def ofInt? (value : Int) : Option Number :=
  if fits : IntFits value then some (.int value fits) else none

def ofUInt64 (n : UInt64) : Number :=
  .int n.toNat (by
    have := n.toNat_lt
    unfold IntFits
    omega)

def isZero : Number → Bool
  | int value _ => value == 0
  | real value => value.isZero

/-- Equality of values within one kind; the two zeros of doubles are equal. -/
def same : Number → Number → Bool
  | int a _, int b _ => a == b
  | real a, real b => a.same b
  | _, _ => false

/-- The nearest double. -/
def toBinary64? : Number → Option Binary64
  | int value _ => Binary64.ofInt? value
  | real value => some value

def intChars (value : Int) : List Char :=
  if value < 0 then '-' :: Nat.toDigits 10 value.natAbs else Nat.toDigits 10 value.natAbs

def chars : Number → List Char
  | int value _ => intChars value
  | real value => value.chars

end Number

end SearchQuery
