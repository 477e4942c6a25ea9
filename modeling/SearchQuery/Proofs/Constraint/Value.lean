import SearchQuery.Constraint.Basic

/-!
# What a value constraint holds

Null alone is no value and stands under a key of its own; any other arguments stand as they
are spread under the key of the first one's type. No first value gives the key of null, so
the key tells null alone from everything else, above all from no values.
-/

namespace SearchQuery.Query

variable {args : Arguments}

theorem valueKey_ne_name (value : Option Json) : valueKey value ≠ "constraint-name" := by
  unfold valueKey
  split <;> decide

theorem valueKey_ne_null (value : Option Json) : valueKey value ≠ "null" := by
  unfold valueKey
  split <;> decide

theorem valueEntry_of_ne_lone_null (given : args ≠ [.null]) :
    valueEntry args = (valueKey args.spread.head?, args.spread) := by
  unfold valueEntry
  split
  · exact absurd rfl given
  · rfl

theorem valueEntry_ne_name (args : Arguments) : (valueEntry args).1 ≠ "constraint-name" := by
  unfold valueEntry
  split
  · decide
  · exact valueKey_ne_name args.spread.head?

theorem valueEntry_values (args : Arguments) : (valueEntry args).2 = args.spread := by
  unfold valueEntry
  split <;> rfl

theorem valueEntry_key_eq_null_iff : (valueEntry args).1 = "null" ↔ args = [.null] := by
  constructor
  · intro key
    by_cases lone : args = [.null]
    · exact lone
    · rw [valueEntry_of_ne_lone_null lone] at key
      exact absurd key (valueKey_ne_null _)
  · rintro rfl
    rfl

/-- The key is chosen by the type of the first value, which equal values share. -/
theorem valueKey_of_sameItems {values others : List Json}
    (same : Json.sameItems values others = true) :
    valueKey values.head? = valueKey others.head? := by
  cases values with
  | nil =>
    cases others with
    | nil => rfl
    | cons _ _ => simp [Json.sameItems] at same
  | cons value rest =>
    cases others with
    | nil => simp [Json.sameItems] at same
    | cons other others =>
      simp only [Json.sameItems, Bool.and_eq_true] at same
      have first := same.1
      cases value <;> cases other <;> first | rfl | simp [Json.same] at first

end SearchQuery.Query
