import Mathlib.Logic.Basic
import SearchQuery.Json.Reading
import SearchQuery.Proofs.Json.Equality
import SearchQuery.Proofs.Json.Token
import SearchQuery.Query.Basic

/-!
# Values read back

The text of a value without doubles is read back as the same value, exactly when
the value nests no deeper than the limit of the reader. The tokens of such a value
are separated, so its text is cut into these tokens again; the reader then takes
them in and delivers the value to whatever is open around it, unless a container
opens beyond the limit. With the limit out of the way the text determines the
value. No claim is made about doubles.
-/

namespace SearchQuery

namespace Json

open NumberLiteral (EndsInteger)

/-! ## The tokens of a value are separated -/

theorem tokens_arr_cons (item : Json) (more : List Json) (rest : List Token) :
    (arr (item :: more)).tokens ++ rest =
      .openArray :: (item.tokens ++ (itemTokens more ++ .closeArray :: rest)) := by
  simp [tokens, itemTokens]

theorem tokens_obj_cons (key : String) (above : Exceeds none key) (value : Json)
    (more : Fields Json (some key)) (rest : List Token) :
    (obj (.cons key above value more)).tokens ++ rest =
      .openObject :: .str key :: .colon ::
        (value.tokens ++ (fieldTokens more ++ .closeObject :: rest)) := by
  simp [tokens, fieldTokens]

theorem endsInteger_of_mark {token : Token}
    (mark : token = .comma ∨ token = .closeArray ∨ token = .closeObject) (rest : List Token) :
    EndsInteger ((token :: rest).flatMap Token.chars) := by
  rcases mark with rfl | rfl | rfl <;> exact ⟨by decide, by decide, by decide, by decide⟩

theorem endsInteger_itemTokens (items : List Json) {rest : List Token}
    (ends : EndsInteger (rest.flatMap Token.chars)) :
    EndsInteger ((itemTokens items ++ rest).flatMap Token.chars) := by
  cases items with
  | nil => exact ends
  | cons item more => exact endsInteger_of_mark (Or.inl rfl) _

theorem endsInteger_fieldTokens {low : Option String} (fields : Fields Json low)
    {rest : List Token} (ends : EndsInteger (rest.flatMap Token.chars)) :
    EndsInteger ((fieldTokens fields ++ rest).flatMap Token.chars) := by
  cases fields with
  | nil => exact ends
  | cons key above value more => exact endsInteger_of_mark (Or.inl rfl) _

mutual

theorem separated_tokens : ∀ {value : Json}, value.Integral → ∀ {rest : List Token},
    Token.Separated rest → EndsInteger (rest.flatMap Token.chars) →
      Token.Separated (value.tokens ++ rest)
  | null, _, _, separated, _ => ⟨trivial, separated⟩
  | bool _, _, _, separated, _ => ⟨trivial, separated⟩
  | num (.int _ _), _, _, separated, ends => ⟨ends, separated⟩
  | num (.real _), integral, _, _, _ => (show False from integral).elim
  | str _, _, _, separated, _ => ⟨trivial, separated⟩
  | arr [], _, _, separated, _ => ⟨trivial, trivial, separated⟩
  | arr (item :: more), integral, rest, separated, ends => by
    have closes : EndsInteger ((Token.closeArray :: rest).flatMap Token.chars) :=
      endsInteger_of_mark (Or.inr (Or.inl rfl)) rest
    have others : Token.Separated (itemTokens more ++ .closeArray :: rest) :=
      separated_itemTokens integral.2 ⟨trivial, separated⟩ closes
    rw [tokens_arr_cons]
    exact ⟨trivial, separated_tokens integral.1 others (endsInteger_itemTokens more closes)⟩
  | obj .nil, _, _, separated, _ => ⟨trivial, trivial, separated⟩
  | obj (.cons key above value more), integral, rest, separated, ends => by
    have closes : EndsInteger ((Token.closeObject :: rest).flatMap Token.chars) :=
      endsInteger_of_mark (Or.inr (Or.inr rfl)) rest
    have others : Token.Separated (fieldTokens more ++ .closeObject :: rest) :=
      separated_fieldTokens integral.2 ⟨trivial, separated⟩ closes
    rw [tokens_obj_cons]
    exact ⟨trivial, trivial, trivial,
      separated_tokens integral.1 others (endsInteger_fieldTokens more closes)⟩

theorem separated_itemTokens : ∀ {items : List Json}, ItemsIntegral items →
    ∀ {rest : List Token}, Token.Separated rest → EndsInteger (rest.flatMap Token.chars) →
      Token.Separated (itemTokens items ++ rest)
  | [], _, _, separated, _ => separated
  | item :: more, integral, rest, separated, ends => by
    have others : Token.Separated (itemTokens more ++ rest) :=
      separated_itemTokens integral.2 separated ends
    have first : Token.Separated (item.tokens ++ (itemTokens more ++ rest)) :=
      separated_tokens integral.1 others (endsInteger_itemTokens more ends)
    rw [itemTokens, List.cons_append, List.append_assoc]
    exact ⟨trivial, first⟩

theorem separated_fieldTokens : ∀ {low : Option String} {fields : Fields Json low},
    FieldsIntegral fields → ∀ {rest : List Token}, Token.Separated rest →
      EndsInteger (rest.flatMap Token.chars) → Token.Separated (fieldTokens fields ++ rest)
  | _, .nil, _, _, separated, _ => separated
  | _, .cons key above value more, integral, rest, separated, ends => by
    have others : Token.Separated (fieldTokens more ++ rest) :=
      separated_fieldTokens integral.2 separated ends
    have first : Token.Separated (value.tokens ++ (fieldTokens more ++ rest)) :=
      separated_tokens integral.1 others (endsInteger_fieldTokens more ends)
    rw [fieldTokens]
    simp only [List.cons_append, List.append_assoc]
    exact ⟨trivial, trivial, trivial, first⟩

end

theorem scan?_chars {value : Json} (integral : value.Integral) :
    Token.scan? value.chars = some value.tokens := by
  have separated : Token.Separated (value.tokens ++ []) :=
    separated_tokens integral trivial trivial
  rw [List.append_nil] at separated
  exact Token.scan?_flatMap_chars separated

/-! ## Reading the tokens of a value -/

section

open Reader

variable {limit : Nat}

/-- The first token of an item is no closing bracket. -/
theorem run?_itemOrClose (item : Json) (around : List Frame) (rest : List Token) :
    run? limit (itemOrClose around) (item.tokens ++ rest) =
      run? limit (.value (.items [] :: around)) (item.tokens ++ rest) := by
  cases item <;> rfl

theorem run?_openArray (around : List Frame) (rest : List Token) :
    run? limit (.value around) (.openArray :: rest) =
      if around.length < limit then run? limit (itemOrClose around) rest else none := by
  by_cases room : around.length < limit
  · simp [run?, step?, begin?, room]
  · simp [run?, step?, begin?, room]

theorem run?_openObject (around : List Frame) (rest : List Token) :
    run? limit (.value around) (.openObject :: rest) =
      if around.length < limit then run? limit (keyOrClose around) rest else none := by
  by_cases room : around.length < limit
  · simp [run?, step?, begin?, room]
  · simp [run?, step?, begin?, room]

theorem run?_key (key : String) (around : List Frame) (rest : List Token) :
    run? limit (keyOrClose around) (.str key :: .colon :: rest) =
      run? limit (.value (.member .nil key :: around)) rest :=
  rfl

mutual

/-- A value is taken in whole and delivered, unless one of its containers opens
beyond the limit. -/
theorem run?_tokens : ∀ (value : Json) (around : List Frame) (rest : List Token),
    around.length ≤ limit →
      run? limit (.value around) (value.tokens ++ rest) =
        if value.depth + around.length ≤ limit then
          run? limit (deliver value around) rest
        else none
  | null, around, rest, opened => by
    rw [if_pos (by simpa [depth] using opened)]
    rfl
  | bool _, around, rest, opened => by
    rw [if_pos (by simpa [depth] using opened)]
    rfl
  | num _, around, rest, opened => by
    rw [if_pos (by simpa [depth] using opened)]
    rfl
  | str _, around, rest, opened => by
    rw [if_pos (by simpa [depth] using opened)]
    rfl
  | arr [], around, rest, opened => by
    have fits : (arr []).depth + around.length ≤ limit ↔ around.length < limit := by
      simp only [depth, itemsDepth]
      omega
    simp only [fits]
    exact run?_openArray around (.closeArray :: rest)
  | arr (item :: more), around, rest, opened => by
    rw [tokens_arr_cons, run?_openArray]
    by_cases room : around.length < limit
    · have fits : (arr (item :: more)).depth + around.length ≤ limit ↔
          item.depth + (around.length + 1) ≤ limit ∧
            itemsDepth more + (around.length + 1) ≤ limit := by
        simp only [depth, itemsDepth]
        omega
      have closed : run? limit (afterItem (more.reverse ++ [item]) around) (.closeArray :: rest) =
          run? limit (deliver (arr (item :: more)) around) rest := by
        simp [run?, step?]
      rw [if_pos room, run?_itemOrClose, run?_tokens item (.items [] :: around) _ room, deliver,
        run?_itemTokens more [item] around _ room, closed]
      simp only [fits, ite_and, List.length_cons]
    · rw [if_neg room, if_neg (by simp only [depth]; omega)]
  | obj .nil, around, rest, opened => by
    have fits : (obj .nil).depth + around.length ≤ limit ↔ around.length < limit := by
      simp only [depth, fieldsDepth]
      omega
    simp only [fits]
    exact run?_openObject around (.closeObject :: rest)
  | obj (.cons key above content more), around, rest, opened => by
    rw [tokens_obj_cons, run?_openObject]
    by_cases room : around.length < limit
    · have fits : (obj (.cons key above content more)).depth + around.length ≤ limit ↔
          content.depth + (around.length + 1) ≤ limit ∧
            fieldsDepth more + (around.length + 1) ≤ limit := by
        simp only [depth, fieldsDepth]
        omega
      have whole : (Fields.nil.insert key content).extend more.toList =
          .cons key above content more :=
        Fields.ofList_toList (.cons key above content more)
      rw [if_pos room, run?_key, run?_tokens content (.member .nil key :: around) _ room, deliver,
        run?_fieldTokens more _ around _ room, whole]
      simp only [fits, ite_and, List.length_cons]
      rfl
    · rw [if_neg room, if_neg (by simp only [depth]; omega)]

theorem run?_itemTokens : ∀ (items reversed : List Json) (around : List Frame)
    (rest : List Token), around.length + 1 ≤ limit →
      run? limit (afterItem reversed around) (itemTokens items ++ rest) =
        if itemsDepth items + (around.length + 1) ≤ limit then
          run? limit (afterItem (items.reverse ++ reversed) around) rest
        else none
  | [], reversed, around, rest, opened => by
    rw [if_pos (by simpa [itemsDepth] using opened)]
    rfl
  | item :: more, reversed, around, rest, opened => by
    have fits : itemsDepth (item :: more) + (around.length + 1) ≤ limit ↔
        item.depth + (around.length + 1) ≤ limit ∧
          itemsDepth more + (around.length + 1) ≤ limit := by
      simp only [itemsDepth]
      omega
    have taken : run? limit (afterItem reversed around) (itemTokens (item :: more) ++ rest) =
        run? limit (.value (.items reversed :: around))
          (item.tokens ++ (itemTokens more ++ rest)) := by
      rw [itemTokens, List.cons_append, List.append_assoc]
      rfl
    rw [taken, run?_tokens item (.items reversed :: around) _ opened, deliver,
      run?_itemTokens more (item :: reversed) around _ opened]
    simp only [fits, ite_and, List.length_cons, List.reverse_cons, List.append_assoc,
      List.singleton_append]

theorem run?_fieldTokens : ∀ {low : Option String} (fields : Fields Json low)
    (before : Fields Json none) (around : List Frame) (rest : List Token),
    around.length + 1 ≤ limit →
      run? limit (afterMember before around) (fieldTokens fields ++ rest) =
        if fieldsDepth fields + (around.length + 1) ≤ limit then
          run? limit (afterMember (before.extend fields.toList) around) rest
        else none
  | _, .nil, before, around, rest, opened => by
    rw [if_pos (by simpa [fieldsDepth] using opened)]
    rfl
  | _, .cons key above content more, before, around, rest, opened => by
    have fits : fieldsDepth (.cons key above content more) + (around.length + 1) ≤ limit ↔
        content.depth + (around.length + 1) ≤ limit ∧
          fieldsDepth more + (around.length + 1) ≤ limit := by
      simp only [fieldsDepth]
      omega
    have taken : run? limit (afterMember before around)
        (fieldTokens (.cons key above content more) ++ rest) =
          run? limit (.value (.member before key :: around))
            (content.tokens ++ (fieldTokens more ++ rest)) := by
      rw [fieldTokens]
      simp only [List.cons_append, List.append_assoc]
      rfl
    rw [taken, run?_tokens content (.member before key :: around) _ opened, deliver,
      run?_fieldTokens more (before.insert key content) around _ opened]
    simp only [fits, ite_and, List.length_cons]
    rfl

end

theorem run?_tokens_alone (value : Json) :
    run? limit (.value []) value.tokens =
      if value.depth ≤ limit then some (.finished value) else none := by
  have taken := run?_tokens value [] [] (Nat.zero_le limit)
  rw [List.append_nil] at taken
  exact taken

end

/-! ## The text of a value -/

/-- The text is read back within a limit exactly when the value does not nest deeper. -/
theorem readWithin?_text {value : Json} (integral : value.Integral) (limit : Nat) :
    readWithin? limit value.text = if value.depth ≤ limit then some value else none := by
  have cut : Token.scan? value.text.toList = some value.tokens := by
    rw [text, String.toList_ofList, scan?_chars integral]
  rw [readWithin?, cut, Option.bind_some, ofTokens?, run?_tokens_alone]
  by_cases fits : value.depth ≤ limit
  · rw [if_pos fits, if_pos fits]
  · rw [if_neg fits, if_neg fits]

/-- Whatever their depth, two values without doubles have one text only if they are one value. -/
theorem eq_of_text_eq {a b : Json} (first : a.Integral) (second : b.Integral)
    (equal : a.text = b.text) : a = b := by
  have back : readWithin? (max a.depth b.depth) a.text = some a := by
    rw [readWithin?_text first, if_pos (Nat.le_max_left _ _)]
  rw [equal, readWithin?_text second, if_pos (Nat.le_max_right _ _)] at back
  exact (Option.some.inj back).symm

end Json

namespace Query

/-- The text of a query without doubles is read back exactly when the query nests at
most 127 containers, and then as the same query; queries with one text are equal. -/
theorem text_read_back (query : Query) (integral : query.json.Integral) :
    ((Json.read? query.text).isSome ↔ query.json.depth ≤ 127) ∧
      (query.json.depth ≤ 127 → (Json.read? query.text).map Query.mk = some query) ∧
      ∀ other : Query, other.json.Integral → (query.text = other.text ↔ query = other) := by
  have read : Json.read? query.text =
      if query.json.depth ≤ 127 then some query.json else none :=
    Json.readWithin?_text integral 127
  refine ⟨?_, ?_, ?_⟩
  · rw [read]
    by_cases fits : query.json.depth ≤ 127
    · simp [fits]
    · simp [fits]
  · intro fits
    rw [read, if_pos fits]
    rfl
  · intro other otherIntegral
    constructor
    · intro equal
      have sameValue : query.json = other.json := Json.eq_of_text_eq integral otherIntegral equal
      cases query
      cases other
      exact congrArg Query.mk sameValue
    · intro equal
      rw [equal]

/-- Both ends of the integer range and three kinds of escapes come back from the text. -/
theorem text_read_back_integer_ends :
    let query : Query := ⟨.object [
      ("b", .arr [.num (.int 18446744073709551615 (by decide)),
        .num (.int (-9223372036854775808) (by decide))]),
      ("a", .str "\x01\"\n")]⟩
    let text :=
      "\x7b\"a\":\"\\u0001\\\"\\n\",\"b\":[18446744073709551615,-9223372036854775808]\x7d"
    query.json.Integral ∧ query.text = text ∧ query.json.depth = 2 ∧
      (Json.read? text).map Query.mk = some query ∧ (⟨.null⟩ : Query).text ≠ text := by
  intro query text
  have integral : query.json.Integral := ⟨trivial, ⟨trivial, trivial, trivial⟩, trivial⟩
  have written : query.text = text := by decide +kernel
  have depth : query.json.depth = 2 := by decide
  obtain ⟨-, restored, distinct⟩ := text_read_back query integral
  refine ⟨integral, written, depth, ?_, ?_⟩
  · rw [← written]
    exact restored (by omega)
  · rw [← written]
    intro equal
    have sameJson : query.json = .null :=
      congrArg Query.json ((distinct ⟨.null⟩ trivial).mp equal.symm)
    cases sameJson

end Query

end SearchQuery
