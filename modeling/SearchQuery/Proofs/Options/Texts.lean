import SearchQuery.Options.Environment
import SearchQuery.Proofs.Text.Blank

/-!
# Texts of page lengths and switches

A page length is written as a numeral: an optional plus sign and digits, as many zeros in
front as one likes. Digits are read one by one, so a number that has become too large is
noticed where it does and a wrong character where it stands, and of the two the earlier one
counts. A switch is one of six words. Only ASCII digits are digits here, and only ASCII
letters have two cases.
-/

namespace SearchQuery.Options

open Text (isBlank trim)

/-! ## Digits -/

variable {digits : List Char} {value : Nat}

theorem le_ofDigitChars (digits : List Char) (value : Nat) :
    value ≤ Nat.ofDigitChars 10 digits value := by
  induction digits generalizing value with
  | nil => exact Nat.le_refl value
  | cons c rest ih =>
    rw [Nat.ofDigitChars_cons]
    have := ih (10 * value + (c.toNat - '0'.toNat))
    omega

/-- A digit is taken over if the number stays in range. -/
theorem readDigits_cons (value : Nat) (c : Char) (rest : List Char) :
    readDigits value (c :: rest) =
      if c.isDigit then
        if 10 * value + (c.toNat - '0'.toNat) < UInt64.size then
          readDigits (10 * value + (c.toNat - '0'.toNat)) rest
        else .error .tooLarge
      else .error .invalidDigit := by
  rw [readDigits, Nat.mul_comm]

/-- What is read in full are digits that write a number in range. -/
theorem readDigits_eq_ok {result : Nat} (fits : value < UInt64.size) :
    readDigits value digits = .ok result ↔
      (∀ c ∈ digits, c.isDigit = true) ∧ Nat.ofDigitChars 10 digits value = result ∧
        result < UInt64.size := by
  induction digits generalizing value with
  | nil =>
    constructor
    · rintro ⟨⟩
      exact ⟨List.forall_mem_nil _, rfl, fits⟩
    · rintro ⟨-, rfl, -⟩
      rfl
  | cons c rest ih =>
    rw [readDigits_cons, Nat.ofDigitChars_cons, List.forall_mem_cons]
    by_cases digit : c.isDigit = true
    · rw [if_pos digit]
      by_cases within : 10 * value + (c.toNat - '0'.toNat) < UInt64.size
      · rw [if_pos within, ih within, and_assoc, and_iff_right digit]
      · rw [if_neg within]
        constructor
        · rintro ⟨⟩
        · rintro ⟨-, rfl, small⟩
          have := le_ofDigitChars rest (10 * value + (c.toNat - '0'.toNat))
          omega
    · simp [digit]

/-- Going on from a value, some first digits of the text write a number out of range. -/
def DigitsOverflow (value : Nat) (cs : List Char) : Prop :=
  ∃ start, start <+: cs ∧ (∀ c ∈ start, c.isDigit = true) ∧
    UInt64.size ≤ Nat.ofDigitChars 10 start value

theorem not_digitsOverflow_nil (fits : value < UInt64.size) : ¬ DigitsOverflow value [] := by
  rintro ⟨start, before, -, large⟩
  rw [List.prefix_nil.mp before] at large
  exact absurd fits (Nat.not_lt.mpr large)

theorem digitsOverflow_cons {c : Char} {rest : List Char} (fits : value < UInt64.size) :
    DigitsOverflow value (c :: rest) ↔
      c.isDigit = true ∧ DigitsOverflow (10 * value + (c.toNat - '0'.toNat)) rest := by
  constructor
  · rintro ⟨start, before, all, large⟩
    cases start with
    | nil => exact absurd fits (Nat.not_lt.mpr large)
    | cons first later =>
      obtain ⟨rfl, after⟩ := List.cons_prefix_cons.mp before
      obtain ⟨digit, others⟩ := List.forall_mem_cons.mp all
      rw [Nat.ofDigitChars_cons] at large
      exact ⟨digit, later, after, others, large⟩
  · rintro ⟨digit, later, after, others, large⟩
    refine ⟨c :: later, List.cons_prefix_cons.mpr ⟨rfl, after⟩,
      List.forall_mem_cons.mpr ⟨digit, others⟩, ?_⟩
    rwa [Nat.ofDigitChars_cons]

/-- A number is found too large as soon as its first digits are. -/
theorem readDigits_eq_tooLarge (fits : value < UInt64.size) :
    readDigits value digits = .error .tooLarge ↔ DigitsOverflow value digits := by
  induction digits generalizing value with
  | nil => exact iff_of_false (fun failed => nomatch failed) (not_digitsOverflow_nil fits)
  | cons c rest ih =>
    rw [readDigits_cons, digitsOverflow_cons fits]
    by_cases digit : c.isDigit = true
    · rw [if_pos digit, and_iff_right digit]
      by_cases within : 10 * value + (c.toNat - '0'.toNat) < UInt64.size
      · rw [if_pos within, ih within]
      · rw [if_neg within]
        refine iff_of_true rfl ⟨[], List.nil_prefix, List.forall_mem_nil _, ?_⟩
        exact Nat.not_lt.mp within
    · simp [digit]

theorem readDigits_fault {fault : SettingFault} (refused : readDigits value digits = .error fault) :
    fault = .tooLarge ∨ fault = .invalidDigit := by
  induction digits generalizing value with
  | nil => cases refused
  | cons c rest ih =>
    rw [readDigits] at refused
    dsimp only at refused
    split at refused
    · split at refused
      · exact ih refused
      · exact .inl (Except.error.inj refused).symm
    · exact .inr (Except.error.inj refused).symm

/-! ## Page lengths -/

variable {cs : List Char} {text : String}

theorem map_eq_error {ε α β : Type} {first : Except ε α} {f : α → β} {e : ε} :
    first.map f = .error e ↔ first = .error e := by
  cases first <;> simp [Except.map]

/-- An optional plus sign and one or more digits, which write this number. -/
def Numeral (cs : List Char) (value : Nat) : Prop :=
  ∃ digits, (cs = digits ∨ cs = '+' :: digits) ∧ digits ≠ [] ∧
    (∀ c ∈ digits, c.isDigit = true) ∧ Nat.ofDigitChars 10 digits 0 = value

/-- The text begins with a numeral that is out of range already. -/
def Overflows (cs : List Char) : Prop :=
  ∃ start value, start <+: cs ∧ Numeral start value ∧ UInt64.size ≤ value

theorem eq_dropPlus_or (cs : List Char) : cs = dropPlus cs ∨ cs = '+' :: dropPlus cs := by
  rw [dropPlus.eq_def]
  split
  · exact .inr rfl
  · exact .inl rfl

/-- No plus sign is dropped off a text that begins with a digit. -/
theorem dropPlus_of_digits {start : List Char} (before : start <+: cs) (nonempty : start ≠ [])
    (all : ∀ c ∈ start, c.isDigit = true) : dropPlus cs = cs := by
  obtain ⟨first, later, rfl⟩ := List.exists_cons_of_ne_nil nonempty
  obtain ⟨tail, rfl⟩ := before
  have digit := all first List.mem_cons_self
  rcases eq_dropPlus_or (first :: later ++ tail) with same | plus
  · exact same.symm
  · have sign : first = '+' := (List.cons.inj plus).1
    rw [sign] at digit
    exact absurd digit (by decide)

theorem numeral_iff :
    Numeral cs value ↔ dropPlus cs ≠ [] ∧ (∀ c ∈ dropPlus cs, c.isDigit = true) ∧
      Nat.ofDigitChars 10 (dropPlus cs) 0 = value := by
  constructor
  · rintro ⟨digits, rfl | rfl, nonempty, all, written⟩
    · rw [dropPlus_of_digits List.prefix_rfl nonempty all]
      exact ⟨nonempty, all, written⟩
    · exact ⟨nonempty, all, written⟩
  · rintro ⟨nonempty, all, written⟩
    exact ⟨dropPlus cs, eq_dropPlus_or cs, nonempty, all, written⟩

theorem overflows_iff : Overflows cs ↔ DigitsOverflow 0 (dropPlus cs) := by
  constructor
  · rintro ⟨start, value, before, ⟨digits, rfl | rfl, nonempty, all, rfl⟩, large⟩
    · rw [dropPlus_of_digits before nonempty all]
      exact ⟨_, before, all, large⟩
    · obtain ⟨tail, rfl⟩ := before
      exact ⟨digits, List.prefix_append digits tail, all, large⟩
  · rintro ⟨digits, before, all, large⟩
    have nonempty : digits ≠ [] := by
      rintro rfl
      exact absurd large (by decide)
    rcases eq_dropPlus_or cs with same | plus
    · rw [← same] at before
      exact ⟨digits, _, before, ⟨digits, .inl rfl, nonempty, all, rfl⟩, large⟩
    · refine ⟨'+' :: digits, _, ?_, ⟨digits, .inr rfl, nonempty, all, rfl⟩, large⟩
      rw [plus]
      exact List.cons_prefix_cons.mpr ⟨rfl, before⟩

theorem readPageLength_eq (text : String) :
    readPageLength text =
      if trim text.toList = [] then .error .empty
      else if dropPlus (trim text.toList) = [] then .error .invalidDigit
      else (readDigits 0 (dropPlus (trim text.toList))).map UInt64.ofNat := by
  rw [readPageLength]
  cases dropPlus (trim text.toList) <;> rfl

theorem readPageLength_eq_ok {n : UInt64} :
    readPageLength text = .ok n ↔ Numeral (trim text.toList) n.toNat := by
  have start : 0 < UInt64.size := by decide
  rw [readPageLength_eq, numeral_iff]
  by_cases blank : trim text.toList = []
  · simp [blank, dropPlus]
  · rw [if_neg blank]
    by_cases signOnly : dropPlus (trim text.toList) = []
    · simp [signOnly]
    · rw [if_neg signOnly]
      constructor
      · intro read
        cases parsed : readDigits 0 (dropPlus (trim text.toList)) with
        | error fault =>
          rw [parsed] at read
          cases read
        | ok value =>
          obtain ⟨all, written, small⟩ := (readDigits_eq_ok start).mp parsed
          rw [parsed] at read
          cases read
          exact ⟨signOnly, all, written.trans (UInt64.toNat_ofNat_of_lt' small).symm⟩
      · rintro ⟨-, all, written⟩
        rw [(readDigits_eq_ok start).mpr ⟨all, written, n.toNat_lt⟩]
        simp [Except.map]

theorem readPageLength_eq_empty : readPageLength text = .error .empty ↔ trim text.toList = [] := by
  rw [readPageLength_eq]
  by_cases blank : trim text.toList = []
  · simp [blank]
  · rw [if_neg blank]
    refine iff_of_false ?_ blank
    split
    · rintro ⟨⟩
    · intro refused
      rcases readDigits_fault (map_eq_error.mp refused) with fault | fault <;> cases fault

theorem readPageLength_eq_tooLarge :
    readPageLength text = .error .tooLarge ↔ Overflows (trim text.toList) := by
  have start : 0 < UInt64.size := by decide
  rw [readPageLength_eq, overflows_iff]
  by_cases blank : trim text.toList = []
  · rw [if_pos blank, blank]
    exact iff_of_false (fun failed => nomatch failed) (not_digitsOverflow_nil start)
  · rw [if_neg blank]
    by_cases signOnly : dropPlus (trim text.toList) = []
    · rw [if_pos signOnly, signOnly]
      exact iff_of_false (fun failed => nomatch failed) (not_digitsOverflow_nil start)
    · rw [if_neg signOnly, map_eq_error, readDigits_eq_tooLarge start]

theorem readPageLength_fault {fault : SettingFault} (refused : readPageLength text = .error fault) :
    fault = .empty ∨ fault = .tooLarge ∨ fault = .invalidDigit := by
  rw [readPageLength_eq] at refused
  split at refused
  · exact .inl (Except.error.inj refused).symm
  · split at refused
    · exact .inr (.inr (Except.error.inj refused).symm)
    · exact .inr (readDigits_fault (map_eq_error.mp refused))

/-- The message tells an empty text, a numeral that is too large, and all other texts that
are refused apart. -/
theorem readPageLength_message {fault : SettingFault} (refused : readPageLength text = .error fault) :
    (fault.message = "cannot parse integer from empty string" ↔ trim text.toList = []) ∧
      (fault.message = "number too large to fit in target type" ↔ Overflows (trim text.toList)) ∧
      (fault.message = "invalid digit found in string" ↔
        trim text.toList ≠ [] ∧ ¬ Overflows (trim text.toList)) := by
  have empty : SettingFault.empty.message = "cannot parse integer from empty string" := rfl
  have tooLarge : SettingFault.tooLarge.message = "number too large to fit in target type" := rfl
  have invalidDigit : SettingFault.invalidDigit.message = "invalid digit found in string" := rfl
  rw [Ne, ← readPageLength_eq_empty, ← readPageLength_eq_tooLarge, refused]
  rcases readPageLength_fault refused with rfl | rfl | rfl
  · simp [empty]
  · simp [tooLarge]
  · simp [invalidDigit]

/-! ## Switches -/

/-- The words for on and for off. -/
def switchWords : Bool → List String
  | true => ["true", "1", "yes"]
  | false => ["false", "0", "no"]

theorem readSwitch_eq_ok {value : Bool} :
    readSwitch text = .ok value ↔
      String.ofList (lowerCase (trim text.toList)) ∈ switchWords value := by
  have apart : ∀ word ∈ switchWords true, word ∉ switchWords false := by decide
  rw [readSwitch]
  generalize String.ofList (lowerCase (trim text.toList)) = word
  have on : ["true", "1", "yes"].contains word = true ↔ word ∈ switchWords true :=
    List.contains_iff_mem
  have off : ["false", "0", "no"].contains word = true ↔ word ∈ switchWords false :=
    List.contains_iff_mem
  simp only [on, off]
  by_cases isOn : word ∈ switchWords true
  · cases value <;> simp [isOn, apart]
  · by_cases isOff : word ∈ switchWords false
    · cases value <;> simp [isOn, isOff]
    · cases value <;> simp [isOn, isOff]

/-- The letters that change their case are no blanks in either. -/
theorem isBlank_toLower (c : Char) : isBlank c.toLower = isBlank c := by
  have letters : ∀ code < 91, 65 ≤ code → Text.inRanges code Text.blankRanges = false ∧
      Text.inRanges (code + 32) Text.blankRanges = false := by decide
  by_cases upper : c.val ≥ 'A'.val ∧ c.val ≤ 'Z'.val
  · have low : 65 ≤ c.toNat := upper.1
    have high : c.toNat ≤ 90 := upper.2
    have changed : c.toLower.val = c.val + ('a'.val - 'A'.val) := congrArg Char.val (dif_pos upper)
    have lower : c.toLower.toNat = c.toNat + 32 := by
      rw [Char.toNat, changed, UInt32.toNat_add]
      exact Nat.mod_eq_of_lt (show c.toNat + 32 < 4294967296 by omega)
    obtain ⟨own, moved⟩ := letters c.toNat (by omega) low
    exact (congrArg (Text.inRanges · Text.blankRanges) lower).trans (moved.trans own.symm)
  · have same : c.toLower = c := dif_neg upper
    rw [same]

theorem lowerCase_dropWhile (cs : List Char) :
    lowerCase (cs.dropWhile isBlank) = (lowerCase cs).dropWhile isBlank := by
  have same : isBlank ∘ Char.toLower = isBlank := funext isBlank_toLower
  rw [lowerCase, lowerCase, List.dropWhile_map, same]

theorem lowerCase_trim (cs : List Char) : lowerCase (trim cs) = trim (lowerCase cs) := by
  have reversed : ∀ cs : List Char, lowerCase cs.reverse = (lowerCase cs).reverse :=
    fun cs => List.map_reverse
  rw [trim, trim, Text.trimEnd, Text.trimEnd, Text.trimStart, Text.trimStart, reversed,
    lowerCase_dropWhile, reversed, lowerCase_dropWhile]

/-- Blanks around a switch and the case of its letters make no difference, also where it is
refused. -/
theorem readSwitch_congr {other : String} {before after : List Char}
    (blankBefore : ∀ c ∈ before, isBlank c = true) (blankAfter : ∀ c ∈ after, isBlank c = true)
    (same : lowerCase other.toList = lowerCase (before ++ text.toList ++ after)) :
    readSwitch other = readSwitch text := by
  have words : lowerCase (trim other.toList) = lowerCase (trim text.toList) := by
    rw [lowerCase_trim, same, ← lowerCase_trim, Text.trim_padded blankBefore blankAfter]
  rw [readSwitch, readSwitch, words]

end SearchQuery.Options
