import SearchQuery.Number.Literal

/-!
# Integers read back

The written form of an integer is a literal without fraction and exponent, and
this literal stands for the integer again. A literal is read as far as the text
allows, so what follows it must not go on with it: no digit, no point and no
exponent mark. Doubles are not covered.
-/

namespace SearchQuery

namespace NumberLiteral

/-- This text cannot go on with an integer that stands before it. -/
def EndsInteger : List Char → Prop
  | [] => True
  | c :: _ => c.isDigit = false ∧ c ≠ '.' ∧ c ≠ 'e' ∧ c ≠ 'E'

/-! ## Digits -/

theorem isDigit_of_mem_toDigits {n : Nat} {c : Char} (member : c ∈ Nat.toDigits 10 n) :
    c.isDigit = true :=
  Nat.isDigit_of_mem_toDigits (by decide) (by decide) member

/-- The digits of a number begin with a digit, which is zero for zero only. -/
theorem toDigits_eq_cons (n : Nat) :
    ∃ first later, Nat.toDigits 10 n = first :: later ∧ first.isDigit = true ∧
      (n ≠ 0 → first ≠ '0') := by
  induction n using Nat.strongRecOn with
  | ind n ih =>
    by_cases small : n < 10
    · refine ⟨n.digitChar, [], Nat.toDigits_of_lt_base small, ?_, ?_⟩
      · exact isDigit_of_mem_toDigits (by rw [Nat.toDigits_of_lt_base small]; simp)
      · intro nonzero zero
        have digit : ∀ m < 10, m ≠ 0 → Nat.digitChar m ≠ '0' := by decide
        exact digit n small nonzero zero
    · obtain ⟨first, later, digits, isDigit, leading⟩ := ih (n / 10) (by omega)
      refine ⟨first, later ++ [(n % 10).digitChar], ?_, isDigit, ?_⟩
      · rw [Nat.toDigits_of_base_le (by decide) (by omega), digits]
        rfl
      · intro _
        exact leading (by omega)

theorem takeDigits_append {digits rest : List Char} (all : ∀ c ∈ digits, c.isDigit = true)
    (ends : EndsInteger rest) : takeDigits (digits ++ rest) = (digits, rest) := by
  have stops : rest.takeWhile Char.isDigit = [] ∧ rest.dropWhile Char.isDigit = rest := by
    cases rest with
    | nil => exact ⟨rfl, rfl⟩
    | cons c tail => simp [ends.1]
  rw [takeDigits, List.takeWhile_append_of_pos all, List.dropWhile_append_of_pos all, stops.1, stops.2,
    List.append_nil]

theorem readWhole?_toDigits (n : Nat) {rest : List Char} (ends : EndsInteger rest) :
    readWhole? (Nat.toDigits 10 n ++ rest) = some (Nat.toDigits 10 n, rest) := by
  have taken : takeDigits (Nat.toDigits 10 n ++ rest) = (Nat.toDigits 10 n, rest) :=
    takeDigits_append (fun _ member => isDigit_of_mem_toDigits member) ends
  rw [readWhole?, taken]
  by_cases zero : n = 0
  · rw [zero]
    rfl
  · obtain ⟨first, later, digits, -, leading⟩ := toDigits_eq_cons n
    rw [digits]
    split
    · rename_i found
      cases found
    · rename_i found
      cases found
      exact absurd rfl (leading zero)
    · rename_i found
      cases found
      exact absurd rfl (leading zero)
    · rename_i found
      cases found
      rfl

/-! ## The parts of a literal that an integer does not have -/

theorem readMinus_digits {first : Char} (digit : first.isDigit = true) (rest : List Char) :
    readMinus (first :: rest) = (false, first :: rest) := by
  unfold readMinus
  split
  · rename_i found
    cases found
    contradiction
  · rfl

theorem readFraction?_none {rest : List Char} (ends : EndsInteger rest) :
    readFraction? rest = some (none, rest) := by
  unfold readFraction?
  split
  · exact absurd rfl ends.2.1
  · rfl

theorem readExponent?_none {rest : List Char} (ends : EndsInteger rest) :
    readExponent? rest = some (none, rest) := by
  cases rest with
  | nil => rfl
  | cons c tail =>
    have unmarked : ¬ (c = 'e' ∨ c = 'E') := by
      rintro (rfl | rfl)
      · exact ends.2.2.1 rfl
      · exact ends.2.2.2 rfl
    simp only [readExponent?, if_neg unmarked]

/-! ## The whole literal -/

/-- The literal that an integer is written as. -/
def ofInt (value : Int) : NumberLiteral where
  negative := decide (value < 0)
  whole := Nat.toDigits 10 value.natAbs
  fraction := none
  exponent := none

theorem readMinus_intChars (value : Int) (rest : List Char) :
    readMinus (Number.intChars value ++ rest) =
      (decide (value < 0), Nat.toDigits 10 value.natAbs ++ rest) := by
  rw [Number.intChars]
  by_cases negative : value < 0
  · simp [negative, readMinus]
  · obtain ⟨first, later, digits, digit, -⟩ := toDigits_eq_cons value.natAbs
    rw [if_neg negative, digits, List.cons_append, readMinus_digits digit]
    simp [negative]

theorem read?_intChars (value : Int) {rest : List Char} (ends : EndsInteger rest) :
    read? (Number.intChars value ++ rest) = some (ofInt value, rest) := by
  simp only [read?, readMinus_intChars, readWhole?_toDigits _ ends, readFraction?_none ends,
    readExponent?_none ends, Option.bind_eq_bind, Option.bind_some]
  rfl

theorem int?_ofInt (value : Int) (fits : IntFits value) :
    (ofInt value).int? = some (.int value fits) := by
  have digits : Nat.ofDigitChars 10 (ofInt value).whole 0 = value.natAbs :=
    Nat.ofDigitChars_ten_toDigits
  have held : Number.ofInt? value = some (.int value fits) := dif_pos fits
  rw [int?, digits]
  by_cases negative : value < 0
  · have branch : (ofInt value).negative = true := decide_eq_true negative
    have nonzero : ¬ value.natAbs = 0 := by omega
    have restored : -(value.natAbs : Int) = value := by omega
    rw [if_pos branch, if_neg nonzero, restored, held]
  · have branch : ¬ (ofInt value).negative = true := by simpa [ofInt] using negative
    have restored : (value.natAbs : Int) = value := by omega
    rw [if_neg branch, restored, held]

theorem value?_ofInt (value : Int) (fits : IntFits value) :
    (ofInt value).value? = some (.int value fits) := by
  rw [value?, int?_ofInt value fits]
  rfl

end NumberLiteral

end SearchQuery
