import SearchQuery.Proofs.Query.Equality
import SearchQuery.Search

/-!
# Searches made from a search, and options in the place of the text

The content of a search has a `query` and perhaps `options`, so it is an envelope of
both and can be searched with again. What is taken out of an envelope is its field if the
field is truthy and the whole envelope if it is not; that is all the difference there can
be between a search and the search made from it.
Options in the place of the text are told from a text by being truthy and no string. A
value in that place that is not truthy and no string either is neither a text nor options,
and nothing of it is left in the search, even where it is not null.
-/

namespace SearchQuery

namespace Json

variable {value field : Json} {key : String}

theorem isTruthy_of_isMapping (mapping : value.isMapping = true) : value.isTruthy = true := by
  cases value with
  | obj fields => rfl
  | _ => cases mapping

theorem outOf_of_truthy (found : value.field? key = some field) (truthy : field.isTruthy = true) :
    value.outOf key = field := by
  rw [outOf, truthyField?, found, Option.filter_some, if_pos truthy, Option.getD_some]

theorem outOf_of_not_truthy (found : value.field? key = some field)
    (falsy : ¬ field.isTruthy = true) : value.outOf key = value := by
  rw [outOf, truthyField?, found, Option.filter_some, if_neg falsy, Option.getD_none]

/-- A field that is not truthy is no mapping, and the envelope that is taken in its place
is one. -/
theorem isTruthy_of_outOf_same (mapping : value.isMapping = true)
    (found : value.field? key = some field) (same : (value.outOf key).same field = true) :
    field.isTruthy = true := by
  by_cases truthy : field.isTruthy = true
  · exact truthy
  · rw [outOf_of_not_truthy found truthy] at same
    exact isTruthy_of_isMapping ((isMapping_of_same same).symm.trans mapping)

/-- The text of a search: what is not truthy counts as empty. -/
def orEmptyText (text : Json) : Json := if text.isTruthy then text else .str ""

theorem orEmptyText_orEmptyText (text : Json) :
    text.orEmptyText.orEmptyText = text.orEmptyText := by
  by_cases truthy : text.isTruthy = true
  · have kept : text.orEmptyText = text := if_pos truthy
    rw [kept, kept]
  · have empty : text.orEmptyText = .str "" := if_neg truthy
    rw [empty]
    rfl

theorem isMisplacedOptions_orEmptyText {text : Json} (placed : text.isMisplacedOptions = false) :
    text.orEmptyText.isMisplacedOptions = false := by
  by_cases truthy : text.isTruthy = true
  · rwa [orEmptyText, if_pos truthy]
  · rw [orEmptyText, if_neg truthy]
    rfl

end Json

namespace Query

/-! ## What a search holds -/

def searchContent (query text : Json) (options : Option Json) : Json :=
  .obj (Fields.nil
    |>.insert "query" query
    |>.insert "qtext" text
    |>.insertSome "options" options)

/-- The search that holds these three. -/
def ofContent (query text : Json) (options : Option Json) : Query :=
  ofKind "search" (searchContent query text options)

section Content

variable (query text : Json) (options : Option Json)

theorem field?_searchContent_query :
    (searchContent query text options).field? "query" = some query := by
  simp [searchContent, Json.field?]

theorem field?_searchContent_qtext :
    (searchContent query text options).field? "qtext" = some text := by
  simp [searchContent, Json.field?]

theorem field?_searchContent_options :
    (searchContent query text options).field? "options" = options := by
  simp [searchContent, Json.field?]

theorem index_ofContent :
    (ofContent query text options).index "search" = searchContent query text options := by
  have found := Json.field?_object_single "search" (searchContent query text options)
  exact congrArg (Option.getD · Json.null) found

end Content

/-! ## The three ways to call a search -/

theorem search_of_options (query text : Json) {options : Json} (given : options.isNull = false) :
    search query text (some options) =
      ofContent (query.outOf "query") text.orEmptyText (some (options.outOf "options")) := by
  simp only [search, Option.filter_some, given]
  rfl

theorem search_of_text (query : Json) {text : Json} (placed : text.isMisplacedOptions = false) :
    search query text none = ofContent (query.outOf "query") text.orEmptyText none := by
  simp only [search, placed, Bool.and_false]
  rfl

theorem search_of_misplaced (query : Json) {text : Json}
    (misplaced : text.isMisplacedOptions = true) :
    search query text none =
      ofContent (query.outOf "query") (.str "") (some (text.outOf "options")) := by
  simp only [search, misplaced, Bool.and_true]
  rfl

/-- A search without options has a text that is not taken for options. -/
theorem exists_content (query text : Json) (options : Option Json) :
    ∃ text' held, search query text options =
        ofContent (query.outOf "query") (Json.orEmptyText text') held ∧
      (held = none → text'.isMisplacedOptions = false) := by
  have withoutOptions : ∃ text' held, search query text none =
        ofContent (query.outOf "query") (Json.orEmptyText text') held ∧
      (held = none → text'.isMisplacedOptions = false) := by
    cases misplaced : text.isMisplacedOptions with
    | false => exact ⟨text, none, search_of_text query misplaced, fun _ => misplaced⟩
    | true => exact ⟨.str "", _, search_of_misplaced query misplaced, fun _ => rfl⟩
  cases options with
  | none => exact withoutOptions
  | some given =>
    cases absent : given.isNull with
    | true =>
      cases given with
      | null => exact withoutOptions
      | _ => cases absent
    | false => exact ⟨text, _, search_of_options query text absent, by rintro ⟨⟩⟩

/-! ## A search made from a search -/

/-- Searches with the content of a search for the query, with its own text, and with its
content for the options if it holds any. -/
def searchAgain (found : Query) : Query :=
  let content := found.index "search"
  search content ((content.field? "qtext").getD .null)
    ((content.field? "options").map fun _ => content)

theorem searchAgain_ofContent (query : Json) {text : Json} {options : Option Json}
    (placed : options = none → text.isMisplacedOptions = false) :
    let content := searchContent query text.orEmptyText options
    searchAgain (ofContent query text.orEmptyText options) =
      ofContent (content.outOf "query") text.orEmptyText
        (options.map fun _ => content.outOf "options") := by
  intro content
  rw [searchAgain, index_ofContent, field?_searchContent_qtext, field?_searchContent_options,
    Option.getD_some]
  cases options with
  | none =>
    rw [Option.map_none, search_of_text _ (Json.isMisplacedOptions_orEmptyText (placed rfl)),
      Json.orEmptyText_orEmptyText]
    rfl
  | some held =>
    rw [Option.map_some, search_of_options _ _ rfl, Json.orEmptyText_orEmptyText]
    rfl

/-- A content with a truthy query and truthy options, if any, is made of what it is an
envelope of. -/
theorem ofContent_outOf {content query text : Json} {options : Option Json}
    (own : content = searchContent query text options) (truthyQuery : query.isTruthy = true)
    (truthyOptions : ∀ o, options = some o → o.isTruthy = true) :
    ofContent (content.outOf "query") text (options.map fun _ => content.outOf "options") =
      ofContent query text options := by
  subst own
  have ownQuery : (searchContent query text options).outOf "query" = query :=
    Json.outOf_of_truthy (field?_searchContent_query query text options) truthyQuery
  have ownOptions :
      (options.map fun _ => (searchContent query text options).outOf "options") = options := by
    have field := field?_searchContent_options query text options
    cases options with
    | none => rfl
    | some o => rw [Option.map_some, Json.outOf_of_truthy field (truthyOptions o rfl)]
  rw [ownQuery, ownOptions]

theorem isTruthy_of_ofContent_outOf_same {content query text : Json} {options : Option Json}
    (own : content = searchContent query text options)
    (h : (ofContent (content.outOf "query") text
      (options.map fun _ => content.outOf "options")).json.same
        (ofContent query text options).json = true) :
    query.isTruthy = true ∧ ∀ o, options = some o → o.isTruthy = true := by
  subst own
  have contents := body_same_of_ofKind_same h
  constructor
  · have field := field?_searchContent_query query text options
    exact Json.isTruthy_of_outOf_same rfl field
      (Json.same_of_field? contents (field?_searchContent_query _ _ _) field)
  · rintro o rfl
    have field := field?_searchContent_options query text (some o)
    exact Json.isTruthy_of_outOf_same rfl field
      (Json.same_of_field? contents (field?_searchContent_options _ _ _) field)

/-- A search made from a search is that search, by identity or by equality of values,
exactly when the first one holds a truthy query and no options that are not truthy. -/
theorem searchAgain_eq_iff (query text : Json) (options : Option Json) :
    let found := search query text options
    let content := found.index "search"
    let truthy := (∃ q, content.field? "query" = some q ∧ q.isTruthy = true) ∧
      ∀ o, content.field? "options" = some o → o.isTruthy = true
    (searchAgain found = found ↔ truthy) ∧
      ((searchAgain found).json.same found.json = true ↔ truthy) := by
  intro found content truthy
  obtain ⟨text', held, written, placed⟩ := exists_content query text options
  have again := searchAgain_ofContent (query.outOf "query") placed
  rw [← written] at again
  have held_truthy : truthy ↔ (query.outOf "query").isTruthy = true ∧
      ∀ o, held = some o → o.isTruthy = true := by
    simp only [truthy, content, found, written, index_ofContent, field?_searchContent_query,
      field?_searchContent_options, Option.some.injEq, exists_eq_left']
  have equal : truthy → searchAgain found = found := by
    intro h
    obtain ⟨truthyQuery, truthyOptions⟩ := held_truthy.mp h
    rw [again, ofContent_outOf rfl truthyQuery truthyOptions, ← written]
  have same : (searchAgain found).json.same found.json = true → truthy := by
    intro h
    rw [again, show found = _ from written] at h
    exact held_truthy.mpr (isTruthy_of_ofContent_outOf_same rfl h)
  exact eq_and_same_iff equal same

/-- Options that are `false` come back as the whole content. -/
example : let found := search (.str "query") .null (some (.bool false))
    (searchAgain found).field? "options" = some (found.index "search") := rfl

/-! ## Options in the place of the text -/

/-- A value that is neither null nor a string is the options of a search from the place of
the text exactly when it is truthy, and then the search is the one with these options in
their own place and an empty text. Otherwise the search has no options at all. -/
theorem search_misplaced_eq_iff (query : Json) {value : Json} (present : value.isNull = false)
    (wordless : value.string? = none) :
    let early := search query value none
    let late := search query (.str "") (some value)
    (early = late ↔ value.isTruthy = true) ∧
      (early.json.same late.json = true ↔ value.isTruthy = true) ∧
      early.field? "qtext" = some (.str "") ∧
      early.field? "options" = if value.isTruthy then some (value.outOf "options") else none := by
  intro early late
  have late_eq : late =
      ofContent (query.outOf "query") (.str "") (some (value.outOf "options")) :=
    search_of_options query (.str "") present
  have misplaced : value.isMisplacedOptions = value.isTruthy := by
    rw [Json.isMisplacedOptions, wordless, Option.isNone_none, Bool.and_true]
  have early_eq : early = ofContent (query.outOf "query") (.str "")
      (if value.isTruthy then some (value.outOf "options") else none) := by
    cases truthy : value.isTruthy with
    | true => exact search_of_misplaced query (misplaced.trans truthy)
    | false =>
      have empty : value.orEmptyText = .str "" := if_neg (Bool.eq_false_iff.mp truthy)
      rw [← empty]
      exact search_of_text query (misplaced.trans truthy)
  have equal : value.isTruthy = true → early = late := by
    intro truthy
    rw [early_eq, late_eq, if_pos truthy]
  have same : early.json.same late.json = true → value.isTruthy = true := by
    intro h
    rw [early_eq, late_eq] at h
    rcases Json.field?_of_same (body_same_of_ofKind_same h) "options" with
      ⟨-, missing⟩ | ⟨held, -, found, -, -⟩
    · rw [field?_searchContent_options] at missing
      cases missing
    · rw [field?_searchContent_options] at found
      by_cases truthy : value.isTruthy = true
      · exact truthy
      · rw [if_neg truthy] at found
        cases found
  obtain ⟨identical, same⟩ := eq_and_same_iff equal same
  refine ⟨identical, same, ?_, ?_⟩
  · rw [early_eq]
    exact field?_searchContent_qtext _ _ _
  · rw [early_eq]
    exact field?_searchContent_options _ _ _

/-- Options in an envelope of their own are taken out of it in either place. -/
theorem search_misplaced_envelope :
    let query := Json.object [("and-query", .object [("queries", .arr [])])]
    let value := Json.object [("options", .object [("debug", .bool true)])]
    value.isNull = false ∧ value.string? = none ∧
      search query value none = search query (.str "") (some value) ∧
      (search query value none).field? "options" = some (.object [("debug", .bool true)]) := by
  intro query value
  obtain ⟨equal, -, -, options⟩ :=
    search_misplaced_eq_iff query (show value.isNull = false from rfl) rfl
  exact ⟨rfl, rfl, equal.mpr rfl, options⟩

/-- In the place of the text `false` is lost; in the place of the options it is written. -/
theorem search_loses_false :
    let query := Json.object [("and-query", .object [("queries", .arr [])])]
    let early := search query (.bool false) none
    let late := search query (.str "") (some (.bool false))
    early.field? "options" = none ∧ late.field? "options" = some (.bool false) ∧
      early.json.same late.json = false :=
  ⟨rfl, rfl, rfl⟩

end Query

end SearchQuery
