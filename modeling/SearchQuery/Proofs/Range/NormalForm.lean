import SearchQuery.Proofs.Arguments
import SearchQuery.Proofs.Range.Steps

/-!
# The normal form of a run of steps

The record that a run of steps ends in is told by the steps of each kind alone: by the
last datatype, by the last comparison, and by all values and all options in their order.
How the kinds are mixed does not matter, nor whether values come one by one or together
in arrays. Null and arrays themselves are not regrouped: on their own null adds nothing and
an array its items, while within an array both are items like any other.
-/

namespace SearchQuery

open Arguments

/-- Lists of values that differ in grouping only: values that stand for themselves alone
may be handed over together in one array. -/
inductive Regrouped : List Json → List Json → Prop where
  | nil : Regrouped [] []
  | keep (value : Json) {values others : List Json} :
      Regrouped values others → Regrouped (value :: values) (value :: others)
  | gather {items values others : List Json} (plain : ∀ item ∈ items, Plain item) :
      Regrouped values others → Regrouped (items ++ values) (.arr items :: others)
  | symm {values others : List Json} : Regrouped values others → Regrouped others values
  | trans {values others further : List Json} :
      Regrouped values others → Regrouped others further → Regrouped values further

namespace Regrouped

theorem refl (values : List Json) : Regrouped values values := by
  induction values with
  | nil => exact nil
  | cons value rest ih => exact keep value ih

/-- Grouping is undone when each value is replaced by what it stands for. -/
theorem flatMap_elements {values others : List Json} (regrouped : Regrouped values others) :
    values.flatMap Json.elements = others.flatMap Json.elements := by
  induction regrouped with
  | nil => rfl
  | keep value _ ih => rw [List.flatMap_cons, List.flatMap_cons, ih]
  | gather plain _ ih =>
    rw [List.flatMap_append, List.flatMap_cons, flatMap_elements_of_plain plain, ih]
    rfl
  | symm _ ih => exact ih.symm
  | trans _ _ first second => exact first.trans second

end Regrouped

namespace RangeQuery

/-- Runs with the same steps of each kind in the same order, up to the grouping of the
values. -/
structure SameByKind (steps others : List Step) : Prop where
  datatypes : steps.filterMap Step.datatype? = others.filterMap Step.datatype?
  comparisons : steps.filterMap Step.comparison? = others.filterMap Step.comparison?
  values : Regrouped (steps.filterMap Step.value?) (others.filterMap Step.value?)
  options : steps.filterMap Step.option? = others.filterMap Step.option?

variable {steps others : List Step}

theorem applyAll_eq_of_sameByKind (q : RangeQuery) (same : SameByKind steps others) :
    q.applyAll others = q.applyAll steps := by
  have name : (q.applyAll others).indexedName = (q.applyAll steps).indexedName := by
    rw [indexedName_applyAll, indexedName_applyAll]
  have typing : (q.applyAll others).typing = (q.applyAll steps).typing := by
    rw [typing_applyAll, typing_applyAll, same.datatypes]
  have comparison : (q.applyAll others).comparison = (q.applyAll steps).comparison := by
    rw [comparison_applyAll, comparison_applyAll, same.comparisons]
  have values : (q.applyAll others).values = (q.applyAll steps).values := by
    rw [values_applyAll, values_applyAll, Step.flatMap_addedValues, Step.flatMap_addedValues,
      same.values.flatMap_elements]
  have options : (q.applyAll others).options = (q.applyAll steps).options := by
    rw [options_applyAll, options_applyAll, Step.flatMap_addedOptions,
      Step.flatMap_addedOptions, same.options]
  obtain ⟨datatype, collation⟩ := Prod.mk.inj typing
  exact RangeQuery.ext name datatype collation comparison values options

/-- After any run of steps the name is unchanged, the comparison is the last one given, the
type and the collation are those of the last datatype given, and the values and the options
are those of the start followed by all that were given, in order. Runs with the same steps
of each kind, up to the grouping of the values, end in one record and build one query. -/
theorem applyAll_normal_form (q : RangeQuery) (steps : List Step) :
    let filled := q.applyAll steps
    filled.indexedName = q.indexedName ∧
      filled.comparison =
        (steps.filterMap Step.comparison?).getLast?.elim q.comparison some ∧
      (filled.datatype, filled.collation) =
        (steps.filterMap Step.datatype?).getLast?.elim (q.datatype, q.collation)
          (fun d => (some (.str d.schemaType.qualifiedName), d.collation.map Json.str)) ∧
      filled.values = q.values ++ (steps.filterMap Step.value?).flatMap Json.elements ∧
      filled.options = q.options ++ (steps.filterMap Step.option?).map Json.str ∧
      ∀ others, SameByKind steps others →
        q.applyAll others = filled ∧ (q.applyAll others).build = filled.build := by
  intro filled
  refine ⟨indexedName_applyAll q steps, comparison_applyAll q steps, typing_applyAll q steps,
    ?_, ?_, ?_⟩
  · rw [← Step.flatMap_addedValues]
    exact values_applyAll q steps
  · rw [← Step.flatMap_addedOptions]
    exact options_applyAll q steps
  · intro others same
    have equal : q.applyAll others = filled := applyAll_eq_of_sameByKind q same
    exact ⟨equal, congrArg build equal⟩

/-- The later datatype has no collation and clears the earlier one, although the start has
one too. Two values may change places with other steps and come in one array, and the null
behind them adds nothing. -/
theorem applyAll_normal_form_cleared_collation :
    let start : RangeQuery :=
      { indexedName := .property (.str "price"), collation := some (.str "old"),
        values := [.bool true] }
    let steps : List Step :=
      [.datatype ⟨.string, some "late"⟩, .value (.str "x"), .option "limit=10",
        .comparison .less, .datatype ⟨.int, none⟩, .value (.str "y"), .comparison .greater,
        .value .null]
    let others : List Step :=
      [.value (.arr [.str "x", .str "y"]), .comparison .less, .comparison .greater,
        .value .null, .datatype ⟨.string, some "late"⟩, .datatype ⟨.int, none⟩,
        .option "limit=10"]
    SameByKind steps others ∧ start.applyAll others = start.applyAll steps ∧
      (start.applyAll others).collation = none ∧
      (start.applyAll others).values = [.bool true, .str "x", .str "y"] := by
  intro start steps others
  have plain : ∀ item ∈ [Json.str "x", .str "y"], Plain item := plain_texts ["x", "y"]
  have same : SameByKind steps others :=
    { datatypes := rfl
      comparisons := rfl
      values := .gather plain (.refl [.null])
      options := rfl }
  obtain ⟨-, -, -, -, -, interchangeable⟩ := applyAll_normal_form start steps
  exact ⟨same, (interchangeable others same).1, rfl, rfl⟩

end RangeQuery

end SearchQuery
