import SearchQuery.Number.Basic
import SearchQuery.Number.Scaling

/-!
# Number literals

A literal is a sign, whole digits, and optionally a fraction and an exponent. It
stands for an integer if it has neither fraction nor exponent and fits the
integer ranges, and for a double otherwise; minus zero is a double. The
significand of a double keeps the leading digits while they fit in 64 bits:
later whole digits only raise the power of ten, later fraction digits are
dropped. A literal beyond the finite range stands for nothing.
-/

namespace SearchQuery

structure NumberLiteral where
  negative : Bool
  whole : List Char
  fraction : Option (List Char)
  exponent : Option Int
deriving DecidableEq

namespace NumberLiteral

/-- Digits are appended while the significand stays below `2 ^ 64`; the second
component counts those that were. -/
def absorb (significand : Nat) : List Char → Nat × Nat
  | [] => (significand, 0)
  | digit :: rest =>
    let next := significand * 10 + (digit.toNat - '0'.toNat)
    if next < UInt64.size then
      let (final, count) := absorb next rest
      (final, count + 1)
    else
      (significand, 0)

/-- The significand and the power of ten that it is scaled by. -/
def scaled (l : NumberLiteral) : Nat × Int :=
  let (leading, wholeKept) := absorb 0 l.whole
  let (significand, fractionKept) := absorb leading (l.fraction.getD [])
  (significand, l.exponent.getD 0 + (l.whole.length - wholeKept : Nat) - fractionKept)

def real? (l : NumberLiteral) : Option Number :=
  (Magnitude.ofScaled? l.scaled.1 l.scaled.2).map fun m => .real ⟨l.negative, m⟩

def int? (l : NumberLiteral) : Option Number :=
  let value := Nat.ofDigitChars 10 l.whole 0
  if l.negative then
    if value = 0 then none else Number.ofInt? (-value)
  else
    Number.ofInt? value

def value? (l : NumberLiteral) : Option Number :=
  if l.fraction.isNone && l.exponent.isNone then
    l.int?.or l.real?
  else
    l.real?

/-! ## Reading a literal off the front of a text -/

def takeDigits (cs : List Char) : List Char × List Char :=
  (cs.takeWhile Char.isDigit, cs.dropWhile Char.isDigit)

/-- One digit zero or digits that do not start with zero. -/
def readWhole? (cs : List Char) : Option (List Char × List Char) :=
  match takeDigits cs with
  | ([], _) => none
  | (['0'], rest) => some (['0'], rest)
  | ('0' :: _, _) => none
  | (digits, rest) => some (digits, rest)

/-- After a point there is at least one digit. -/
def readFraction? : List Char → Option (Option (List Char) × List Char)
  | '.' :: cs =>
    match takeDigits cs with
    | ([], _) => none
    | (digits, rest) => some (some digits, rest)
  | cs => some (none, cs)

def readSign : List Char → Bool × List Char
  | '-' :: cs => (true, cs)
  | '+' :: cs => (false, cs)
  | cs => (false, cs)

/-- After the exponent mark there is a sign or none and at least one digit. -/
def readExponent? : List Char → Option (Option Int × List Char)
  | [] => some (none, [])
  | c :: cs =>
    if c = 'e' ∨ c = 'E' then
      let (negative, digitsOn) := readSign cs
      match takeDigits digitsOn with
      | ([], _) => none
      | (digits, rest) =>
        let size := (Nat.ofDigitChars 10 digits 0 : Int)
        some (some (if negative then -size else size), rest)
    else
      some (none, c :: cs)

def readMinus : List Char → Bool × List Char
  | '-' :: cs => (true, cs)
  | cs => (false, cs)

def read? (cs : List Char) : Option (NumberLiteral × List Char) := do
  let (negative, cs) := readMinus cs
  let (whole, cs) ← readWhole? cs
  let (fraction, cs) ← readFraction? cs
  let (exponent, cs) ← readExponent? cs
  some (⟨negative, whole, fraction, exponent⟩, cs)

/-! ## Reading uses up the text -/

theorem length_takeDigits (cs : List Char) :
    (takeDigits cs).1.length + (takeDigits cs).2.length = cs.length := by
  simp only [takeDigits]
  rw [← List.length_append, List.takeWhile_append_dropWhile]

theorem length_of_readWhole? {cs digits rest : List Char}
    (h : readWhole? cs = some (digits, rest)) : rest.length < cs.length := by
  have total := length_takeDigits cs
  unfold readWhole? at h
  split at h
  · cases h
  · rename_i found
    cases h
    simp only [found, List.length_cons, List.length_nil] at total
    omega
  · cases h
  · rename_i nonempty _ _ found
    cases h
    rw [found] at total
    have positive : 0 < digits.length := List.length_pos_iff.mpr (by
      intro empty
      subst empty
      exact nonempty rfl)
    simp only at total
    omega

theorem length_of_readFraction? {cs : List Char} {fraction : Option (List Char)}
    {rest : List Char} (h : readFraction? cs = some (fraction, rest)) :
    rest.length ≤ cs.length := by
  unfold readFraction? at h
  split at h
  · rename_i tail
    have total := length_takeDigits tail
    split at h
    · cases h
    · rename_i found
      cases h
      rw [found] at total
      simp only [List.length_cons] at total ⊢
      omega
  · cases h
    exact Nat.le_refl _

theorem length_readSign (cs : List Char) : (readSign cs).2.length ≤ cs.length := by
  unfold readSign
  split <;> simp

theorem length_of_readExponent? {cs : List Char} {exponent : Option Int}
    {rest : List Char} (h : readExponent? cs = some (exponent, rest)) :
    rest.length ≤ cs.length := by
  unfold readExponent? at h
  split at h
  · cases h
    exact Nat.le_refl _
  · rename_i c tail
    split at h
    · have signed := length_readSign tail
      have total := length_takeDigits (readSign tail).2
      dsimp only at h
      split at h
      · cases h
      · rename_i found
        cases h
        rw [found] at total
        simp only [List.length_cons] at total ⊢
        omega
    · cases h
      exact Nat.le_refl _

theorem length_readMinus (cs : List Char) : (readMinus cs).2.length ≤ cs.length := by
  unfold readMinus
  split <;> simp

theorem length_of_read? {cs : List Char} {l : NumberLiteral} {rest : List Char}
    (h : read? cs = some (l, rest)) : rest.length < cs.length := by
  simp only [read?, Option.bind_eq_bind, Option.bind_eq_some_iff] at h
  obtain ⟨⟨whole, afterWhole⟩, wholeRead, ⟨fraction, afterFraction⟩, fractionRead,
    ⟨exponent, afterExponent⟩, exponentRead, h⟩ := h
  cases h
  have minus := length_readMinus cs
  have first := length_of_readWhole? wholeRead
  have second := length_of_readFraction? fractionRead
  have third := length_of_readExponent? exponentRead
  dsimp only at first second third ⊢
  omega

end NumberLiteral

end SearchQuery
