import SearchQuery.Json.Reading
import SearchQuery.Proofs.Number.Integer

/-!
# Tokens read back

A token is read back off its own text whatever stands behind it, except that an
integer must not be followed by a text that goes on with it. A row of tokens in
which every token is set off in this way is therefore cut into the same tokens
again. Tokens of doubles are left out.
-/

namespace SearchQuery

namespace Token

/-! ## Strings -/

/-- The three forms of a character in a string: a mark after a backslash, a unit
by number, or the character itself. -/
theorem escape_cases (c : Char) :
    (∃ mark, mark ≠ 'u' ∧ unescape? mark = some c ∧ escape c = ['\\', mark]) ∨
      (c.toNat < 0x20 ∧ escape c = '\\' :: 'u' :: '0' :: '0' :: hexPair c.toNat) ∨
      (c ≠ '"' ∧ c ≠ '\\' ∧ ¬ c.toNat < 0x20 ∧ escape c = [c]) := by
  unfold escape
  split
  · rename_i quote
    subst quote
    exact Or.inl ⟨'"', by decide, rfl, rfl⟩
  split
  · rename_i backslash
    subst backslash
    exact Or.inl ⟨'\\', by decide, rfl, rfl⟩
  split
  · rename_i backspace
    subst backspace
    exact Or.inl ⟨'b', by decide, rfl, rfl⟩
  split
  · rename_i formFeed
    subst formFeed
    exact Or.inl ⟨'f', by decide, rfl, rfl⟩
  split
  · rename_i lineFeed
    subst lineFeed
    exact Or.inl ⟨'n', by decide, rfl, rfl⟩
  split
  · rename_i carriageReturn
    subst carriageReturn
    exact Or.inl ⟨'r', by decide, rfl, rfl⟩
  split
  · rename_i tab
    subst tab
    exact Or.inl ⟨'t', by decide, rfl, rfl⟩
  split
  · rename_i control
    exact Or.inr (Or.inl ⟨control, rfl⟩)
  · rename_i quote backslash _ _ _ _ _ printable
    exact Or.inr (Or.inr ⟨quote, backslash, printable, rfl⟩)

theorem unit?_hexPair {code : Nat} (small : code < 0x20) :
    unit? '0' '0' (Nat.digitChar (code / 16 % 16)) (Nat.digitChar (code % 16)) = some code := by
  have all : ∀ n < 0x20,
      unit? '0' '0' (Nat.digitChar (n / 16 % 16)) (Nat.digitChar (n % 16)) = some n := by decide
  exact all code small

/-- One more piece in front of what is read behind it. -/
def withPiece (piece : Piece) (read : Option (List Piece × List Char)) :
    Option (List Piece × List Char) :=
  read.map fun found => (piece :: found.1, found.2)

theorem readPieces?_mark {mark c : Char} (other : mark ≠ 'u') (meaning : unescape? mark = some c)
    (rest : List Char) :
    readPieces? ('\\' :: mark :: rest) = withPiece (.char c) (readPieces? rest) := by
  rw [readPieces?, meaning]
  · cases readPieces? rest <;> rfl
  · exact fun _ _ _ _ _ same _ => other same

theorem readPieces?_unit {a b c d : Char} {code : Nat} (meaning : unit? a b c d = some code)
    (rest : List Char) :
    readPieces? ('\\' :: 'u' :: a :: b :: c :: d :: rest) =
      withPiece (.unit code) (readPieces? rest) := by
  rw [readPieces?, meaning]
  cases readPieces? rest <;> rfl

theorem readPieces?_plain {c : Char} (quote : c ≠ '"') (backslash : c ≠ '\\')
    (printable : ¬ c.toNat < 0x20) (rest : List Char) :
    readPieces? (c :: rest) = withPiece (.char c) (readPieces? rest) := by
  have accepted : ¬ (c = '\\' ∨ c.toNat < 0x20) := by
    rintro (h | h)
    · exact backslash h
    · exact printable h
  rw [readPieces?, if_neg accepted]
  · cases readPieces? rest <;> rfl
  · exact quote
  · exact fun _ _ _ _ _ same _ => backslash same
  · exact fun _ _ same _ => backslash same

/-- An escape is one piece of a literal, and this piece stands for the character. -/
theorem exists_piece_of_escape (c : Char) :
    ∃ piece, (∀ rest, readPieces? (escape c ++ rest) = withPiece piece (readPieces? rest)) ∧
      ∀ pieces, joinPieces? (piece :: pieces) = (joinPieces? pieces).map (c :: ·) := by
  rcases escape_cases c with ⟨mark, other, meaning, form⟩ | ⟨control, form⟩ |
    ⟨quote, backslash, printable, form⟩
  · refine ⟨.char c, fun rest => ?_, fun _ => rfl⟩
    rw [form]
    exact readPieces?_mark other meaning rest
  · refine ⟨.unit c.toNat, fun rest => ?_, fun pieces => ?_⟩
    · rw [form]
      exact readPieces?_unit (unit?_hexPair control) rest
    · have noHigh : isHighSurrogate c.toNat = false := by
        simp only [isHighSurrogate, Bool.and_eq_false_iff, decide_eq_false_iff_not]
        omega
      have noLow : isLowSurrogate c.toNat = false := by
        simp only [isLowSurrogate, Bool.and_eq_false_iff, decide_eq_false_iff_not]
        omega
      rw [joinPieces?.eq_def]
      simp only [noHigh, noLow, Char.ofNat_toNat, Bool.false_eq_true, if_false]
  · refine ⟨.char c, fun rest => ?_, fun _ => rfl⟩
    rw [form]
    exact readPieces?_plain quote backslash printable rest

/-- The text between the quotes is read up to the closing quote and no further. -/
theorem exists_pieces_of_escapes (cs rest : List Char) :
    ∃ pieces, readPieces? (cs.flatMap escape ++ '"' :: rest) = some (pieces, rest) ∧
      joinPieces? pieces = some cs := by
  induction cs with
  | nil => exact ⟨[], rfl, rfl⟩
  | cons c later ih =>
    obtain ⟨piece, first, joined⟩ := exists_piece_of_escape c
    obtain ⟨pieces, read, others⟩ := ih
    refine ⟨piece :: pieces, ?_, ?_⟩
    · rw [List.flatMap_cons, List.append_assoc, first, read]
      rfl
    · rw [joined, others]
      rfl

/-! ## Single tokens -/

/-- The text of the token ends where the rest begins. -/
def EndsBefore : Token → List Char → Prop
  | num (.int _ _), rest => NumberLiteral.EndsInteger rest
  | num (.real _), _ => False
  | _, _ => True

theorem read?_number {c : Char} (numeric : c = '-' ∨ c.isDigit = true) (rest : List Char) :
    read? (c :: rest) = (NumberLiteral.read? (c :: rest)).bind fun found =>
      found.1.value?.map fun value => (num value, found.2) := by
  unfold read?
  split
  case h_11 =>
    cases NumberLiteral.read? (c :: rest) with
    | none => rfl
    | some found =>
      simp only [Option.bind_eq_bind, Option.bind_some]
      cases found.1.value? <;> rfl
  all_goals
    rename_i found
    cases found
    exact absurd numeric (by decide)

/-- The text of an integer begins as a number does, and with no blank. -/
theorem intChars_eq_cons (value : Int) :
    ∃ c later, Number.intChars value = c :: later ∧ (c = '-' ∨ c.isDigit = true) := by
  obtain ⟨first, later, digits, digit, -⟩ := NumberLiteral.toDigits_eq_cons value.natAbs
  rw [Number.intChars]
  by_cases negative : value < 0
  · exact ⟨'-', _, if_pos negative, Or.inl rfl⟩
  · exact ⟨first, later, (if_neg negative).trans digits, Or.inr digit⟩

theorem read?_int (value : Int) (fits : IntFits value) {rest : List Char}
    (ends : NumberLiteral.EndsInteger rest) :
    read? (Number.intChars value ++ rest) = some (num (.int value fits), rest) := by
  obtain ⟨c, later, form, numeric⟩ := intChars_eq_cons value
  have literal := NumberLiteral.read?_intChars value ends
  rw [form, List.cons_append] at literal ⊢
  rw [read?_number numeric, literal, Option.bind_some, NumberLiteral.value?_ofInt value fits]
  rfl

theorem read?_str (value : String) (rest : List Char) :
    read? ((str value).chars ++ rest) = some (str value, rest) := by
  obtain ⟨pieces, read, joined⟩ := exists_pieces_of_escapes value.toList rest
  have form : (str value).chars ++ rest = '"' :: (value.toList.flatMap escape ++ '"' :: rest) := by
    simp [chars]
  rw [form, read?, read]
  simp only [Option.bind_eq_bind, Option.bind_some, joined, String.ofList_toList]

theorem read?_chars {token : Token} {rest : List Char} (ends : token.EndsBefore rest) :
    read? (token.chars ++ rest) = some (token, rest) := by
  cases token with
  | bool value => cases value <;> rfl
  | str value => exact read?_str value rest
  | num value =>
    cases value with
    | int value fits => exact read?_int value fits ends
    | real value => exact ends.elim
  | _ => rfl

theorem chars_eq_cons {token : Token} {rest : List Char} (ends : token.EndsBefore rest) :
    ∃ c later, token.chars = c :: later ∧ isBlank c = false := by
  cases token with
  | bool value => cases value <;> exact ⟨_, _, rfl, by decide⟩
  | num value =>
    cases value with
    | int value fits =>
      obtain ⟨c, later, form, numeric⟩ := intChars_eq_cons value
      refine ⟨c, later, form, ?_⟩
      rcases numeric with rfl | digit
      · decide
      · cases blank : isBlank c with
        | false => rfl
        | true =>
          simp only [isBlank, Bool.or_eq_true, beq_iff_eq] at blank
          rcases blank with ((rfl | rfl) | rfl) | rfl <;> exact absurd digit (by decide)
    | real value => exact ends.elim
  | _ => exact ⟨_, _, rfl, by decide⟩

/-! ## Rows of tokens -/

/-- Every token ends where the text of the later ones begins. -/
def Separated : List Token → Prop
  | [] => True
  | token :: later => token.EndsBefore (later.flatMap chars) ∧ Separated later

theorem scan?_append {token : Token} {rest : List Char} (ends : token.EndsBefore rest) :
    scan? (token.chars ++ rest) = (scan? rest).map (token :: ·) := by
  obtain ⟨c, later, form, visible⟩ := chars_eq_cons ends
  have read := read?_chars ends
  rw [form, List.cons_append] at read ⊢
  have kept : (c :: (later ++ rest)).dropWhile isBlank = c :: (later ++ rest) := by
    rw [List.dropWhile_cons_of_neg (by simp [visible])]
  rw [scan?]
  split
  · rename_i empty
    rw [kept] at empty
    cases empty
  · rename_i start
    rw [kept] at start
    cases start
    split
    · rename_i found
      rw [read] at found
      cases found
    · rename_i found
      rw [read] at found
      cases found
      rfl

/-- A text of separated tokens is cut into these tokens. -/
theorem scan?_flatMap_chars {tokens : List Token} (separated : Separated tokens) :
    scan? (tokens.flatMap chars) = some tokens := by
  induction tokens with
  | nil =>
    rw [List.flatMap_nil, scan?]
    rfl
  | cons token later ih =>
    rw [List.flatMap_cons, scan?_append separated.1, ih separated.2]
    rfl

end Token

end SearchQuery
