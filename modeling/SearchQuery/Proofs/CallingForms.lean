import SearchQuery.Geo.Constraint
import SearchQuery.Proofs.Constraint.Value
import SearchQuery.Proofs.Query.Expression
import SearchQuery.Range.Positional

/-!
# Calling with values one by one or in one array

Some builders spread their arguments, some unwrap them, and some do both; a constraint on
values also looks whether it was given null alone. None sees more of its arguments than
the two lists that spreading and unwrapping make of them. Both lists are the same in
either calling form unless the values are null alone or one array alone, and these two
exceptions are real ones.
-/

namespace SearchQuery

open Arguments

/-- The builders that take a list of values. -/
inductive Builder where
  | group (grouping : Grouping)
  | list (listing : Listing)
  | directory
  | qualifiedName
  | elementReference
  | rangeOptions
  | range
  | wordConstraint (name : String)
  | collectionConstraint (name : String)
  | valueConstraint (name : String)
  | customConstraint (name : String)
  | shapeLists
  | geospatialConstraint (name : String)

namespace Builder

/-- What a call builds and reports. -/
def call : Builder → Arguments → Traced Json
  | group grouping, args => pure (grouping.build args).json
  | list listing, args => pure (listing.build args).json
  | directory, args => pure (Query.directory args).json
  | qualifiedName, args => pure (SearchQuery.qualifiedName args)
  | elementReference, args => pure (SearchQuery.elementReference args)
  | rangeOptions, args => pure (SearchQuery.rangeOptions args)
  | range, args => do return (← Query.range args).json
  | wordConstraint name, args => pure (Query.wordConstraint name args).json
  | collectionConstraint name, args => pure (Query.collectionConstraint name args).json
  | valueConstraint name, args => pure (Query.valueConstraint name args).json
  | customConstraint name, args => do return (← Query.customConstraint name args).json
  | shapeLists, args => SearchQuery.shapeLists args
  | geospatialConstraint name, args => do return (← Query.geospatialConstraint name args).json

end Builder

variable {args others : Arguments}

/-- Spreading drops null alone and unwrapping keeps it, and no other list is told apart so. -/
theorem eq_lone_null_iff : args = [.null] ↔ args.unwrapped = [.null] ∧ args.spread = [] := by
  constructor
  · rintro rfl
    exact ⟨rfl, rfl⟩
  · rintro ⟨kept, dropped⟩
    by_cases lone : LoneArray args
    · obtain ⟨items, rfl⟩ := lone
      have items_null : items = [.null] := kept
      have items_nil : items = [] := dropped
      rw [items_null] at items_nil
      cases items_nil
    · rwa [unwrapped_of_not_loneArray lone] at kept

theorem valueEntry_congr (spread : args.spread = others.spread)
    (unwrapped : args.unwrapped = others.unwrapped) :
    Query.valueEntry args = Query.valueEntry others := by
  have together : args = [.null] ↔ others = [.null] := by
    rw [@eq_lone_null_iff args, @eq_lone_null_iff others, spread, unwrapped]
  by_cases lone : args = [.null]
  · rw [lone, together.mp lone]
  · rw [Query.valueEntry_of_ne_lone_null lone, spread,
      Query.valueEntry_of_ne_lone_null (fun h => lone (together.mpr h))]

/-- No builder sees more of its arguments than what spreading and unwrapping make of them. -/
theorem Builder.call_congr (builder : Builder) (spread : args.spread = others.spread)
    (unwrapped : args.unwrapped = others.unwrapped) : builder.call args = builder.call others := by
  cases builder with
  | group grouping => simp only [call, Grouping.build_eq, spread]
  | list listing => simp only [call, Listing.build_eq, spread]
  | directory => simp only [call, Query.directory, spread]
  | qualifiedName => simp only [call, SearchQuery.qualifiedName, spread]
  | elementReference => simp only [call, SearchQuery.elementReference, spread]
  | rangeOptions => simp only [call, SearchQuery.rangeOptions, spread]
  | range => simp only [call, Query.range, RangeQuery.read, spread]
  | wordConstraint name => simp only [call, Query.wordConstraint, spread]
  | collectionConstraint name => simp only [call, Query.collectionConstraint, spread]
  | valueConstraint name =>
    simp only [call, Query.valueConstraint, valueEntry_congr spread unwrapped]
  | customConstraint name => simp only [call, Query.customConstraint, unwrapped]
  | shapeLists => simp only [call, SearchQuery.shapeLists, ShapeSet.partition, spread]
  | geospatialConstraint name => simp only [call, Query.geospatialConstraint, unwrapped]

/-! ## When the two forms are spread and unwrapped alike -/

theorem not_lone_of_sameItems_spread {values : List Json}
    (h : Json.sameItems values (spread values) = true) :
    values ≠ [.null] ∧ ¬ LoneArray values := by
  constructor
  · rintro rfl
    cases h
  · rintro ⟨items, rfl⟩
    exact Json.not_sameItems_own_array items h

theorem not_loneArray_of_sameItems_unwrapped {values : List Json}
    (h : Json.sameItems values (unwrapped values) = true) : ¬ LoneArray values := by
  rintro ⟨items, rfl⟩
  exact Json.not_sameItems_own_array items h

theorem sameItems_of_eq {values results : List Json} (h : values = results) :
    Json.sameItems values results = true := by
  rw [h]
  exact Json.sameItems_self results

/-- A list that is neither null alone nor one array alone makes the same call in either form,
whatever is called. Spreading makes the same of both forms exactly for these lists, and
unwrapping exactly for those that are not one array alone, by identity or by equality of
values. -/
theorem call_array_eq_call (values : List Json) :
    (values ≠ [.null] → ¬ LoneArray values →
      ∀ builder : Builder, builder.call [.arr values] = builder.call values) ∧
      (spread [.arr values] = spread values ↔ values ≠ [.null] ∧ ¬ LoneArray values) ∧
      (Json.sameItems (spread [.arr values]) (spread values) = true ↔
        values ≠ [.null] ∧ ¬ LoneArray values) ∧
      (unwrapped [.arr values] = unwrapped values ↔ ¬ LoneArray values) ∧
      (Json.sameItems (unwrapped [.arr values]) (unwrapped values) = true ↔
        ¬ LoneArray values) := by
  have spread_eq : values ≠ [.null] ∧ ¬ LoneArray values → spread [.arr values] = spread values :=
    fun h => (spread_of_not_lone h.1 h.2).symm
  have unwrapped_eq : ¬ LoneArray values → unwrapped [.arr values] = unwrapped values :=
    fun h => (unwrapped_of_not_loneArray h).symm
  refine ⟨?_, ⟨?_, spread_eq⟩, ⟨?_, ?_⟩, ⟨?_, unwrapped_eq⟩, ⟨?_, ?_⟩⟩
  · intro notNull notArray builder
    exact builder.call_congr (spread_eq ⟨notNull, notArray⟩) (unwrapped_eq notArray)
  · exact fun h => not_lone_of_sameItems_spread (sameItems_of_eq h)
  · exact not_lone_of_sameItems_spread
  · exact fun h => sameItems_of_eq (spread_eq h)
  · exact fun h => not_loneArray_of_sameItems_unwrapped (sameItems_of_eq h)
  · exact not_loneArray_of_sameItems_unwrapped
  · exact fun h => sameItems_of_eq (unwrapped_eq h)

/-- An array that has null for company may stand in an array itself; null alone may not
where arguments are spread. -/
theorem call_array_beside_null :
    let values : List Json := [.arr [.str "a"], .null]
    values ≠ [.null] ∧ ¬ LoneArray values ∧
      (∀ builder : Builder, builder.call [.arr values] = builder.call values) ∧
      spread [.arr [.null]] ≠ spread [.null] ∧ unwrapped [.arr [.null]] = unwrapped [.null] := by
  intro values
  have notNull : values ≠ [.null] := by simp [values]
  have notArray : ¬ LoneArray values := by simp [LoneArray, values]
  refine ⟨notNull, notArray, (call_array_eq_call values).1 notNull notArray, ?_, rfl⟩
  intro equal
  exact ((call_array_eq_call [.null]).2.1.mp equal).1 rfl

end SearchQuery
