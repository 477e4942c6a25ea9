import SearchQuery.Proofs.Folding
import SearchQuery.Range.Basic

/-!
# Filling a record step by step

A run of steps adds up: each kind of step works on its own fields. The comparison and the
typing are those of the last step that gives them, and the values and the options only
grow, in the order of the steps. No step changes the name.
-/

namespace SearchQuery

/-- What a datatype writes into a record: the type and the collation, or no collation. -/
def Datatype.typing (d : Datatype) : Option Json × Option Json :=
  (some (.str d.schemaType.qualifiedName), d.collation.map Json.str)

attribute [ext] RangeQuery

namespace RangeQuery

def typing (q : RangeQuery) : Option Json × Option Json := (q.datatype, q.collation)

namespace Step

def datatype? : Step → Option Datatype
  | .datatype d => some d
  | _ => none

def comparison? : Step → Option Comparison
  | .comparison c => some c
  | _ => none

def value? : Step → Option Json
  | .value v => some v
  | _ => none

def option? : Step → Option String
  | .option text => some text
  | _ => none

/-- The values that a step adds. -/
def addedValues : Step → List Json
  | .value v => v.elements
  | _ => []

def addedOptions : Step → List Json
  | .option text => [.str text]
  | _ => []

theorem flatMap_addedValues (steps : List Step) :
    steps.flatMap addedValues = (steps.filterMap value?).flatMap Json.elements := by
  induction steps with
  | nil => rfl
  | cons step rest ih =>
    rw [List.flatMap_cons, ih]
    cases step <;> rfl

theorem flatMap_addedOptions (steps : List Step) :
    steps.flatMap addedOptions = (steps.filterMap option?).map Json.str := by
  induction steps with
  | nil => rfl
  | cons step rest ih =>
    rw [List.flatMap_cons, ih]
    cases step <;> rfl

end Step

theorem applyAll_append (q : RangeQuery) (first second : List Step) :
    q.applyAll (first ++ second) = (q.applyAll first).applyAll second :=
  List.foldl_append

theorem applyAll_cons (q : RangeQuery) (step : Step) (rest : List Step) :
    q.applyAll (step :: rest) = (q.apply step).applyAll rest := rfl

theorem applyAll_append_cons (q : RangeQuery) (first : List Step) (step : Step)
    (rest : List Step) :
    q.applyAll (first ++ step :: rest) = ((q.applyAll first).apply step).applyAll rest := by
  rw [applyAll_append, applyAll_cons]

/-! ## One step -/

section OneStep

variable (q : RangeQuery) (step : Step)

theorem indexedName_apply : (q.apply step).indexedName = q.indexedName := by
  cases step <;> rfl

theorem comparison_apply :
    (q.apply step).comparison = step.comparison?.elim q.comparison some := by
  cases step <;> rfl

/-- The type and the collation are given together or kept together. -/
theorem typing_apply : (q.apply step).typing = step.datatype?.elim q.typing Datatype.typing := by
  cases step <;> rfl

theorem values_apply : (q.apply step).values = q.values ++ step.addedValues := by
  cases step with
  | value v => rfl
  | datatype d => exact (List.append_nil q.values).symm
  | comparison c => exact (List.append_nil q.values).symm
  | option text => exact (List.append_nil q.values).symm

theorem options_apply : (q.apply step).options = q.options ++ step.addedOptions := by
  cases step with
  | option text => rfl
  | datatype d => exact (List.append_nil q.options).symm
  | comparison c => exact (List.append_nil q.options).symm
  | value v => exact (List.append_nil q.options).symm

end OneStep

/-! ## A run of steps -/

section Run

variable (q : RangeQuery) (steps : List Step)

theorem indexedName_applyAll : (q.applyAll steps).indexedName = q.indexedName := by
  induction steps generalizing q with
  | nil => rfl
  | cons step rest ih => rw [applyAll_cons, ih, indexedName_apply]

theorem comparison_applyAll :
    (q.applyAll steps).comparison =
      (steps.filterMap Step.comparison?).getLast?.elim q.comparison some :=
  read_foldl_of_sets comparison_apply steps q

theorem typing_applyAll :
    (q.applyAll steps).typing =
      (steps.filterMap Step.datatype?).getLast?.elim q.typing Datatype.typing :=
  read_foldl_of_sets typing_apply steps q

theorem values_applyAll :
    (q.applyAll steps).values = q.values ++ steps.flatMap Step.addedValues :=
  read_foldl_of_adds values_apply steps q

theorem options_applyAll :
    (q.applyAll steps).options = q.options ++ steps.flatMap Step.addedOptions :=
  read_foldl_of_adds options_apply steps q

end Run

/-- A run of options leaves everything else as it was. -/
theorem applyAll_options (q : RangeQuery) (texts : List String) :
    q.applyAll (texts.map Step.option) =
      { q with options := q.options ++ texts.map Json.str } := by
  induction texts generalizing q with
  | nil => simp [applyAll]
  | cons text rest ih =>
    rw [List.map_cons, applyAll_cons, ih]
    simp [apply, withOption]

end RangeQuery

end SearchQuery
