import SearchQuery.Proofs.Arguments
import SearchQuery.Proofs.Constraint.Custom

/-!
# Merging and filtering in a custom constraint

Mappings and nothing else are merged: under each key that any of them has, the last of those
that have it is heard. Merging some of the first mappings beforehand changes nothing. In
every other case, no values included, the values that hold no others are the text. What
stands under the name is left out here where mappings are merged; they may bring another.
-/

namespace SearchQuery.Query

variable {values : List Json} {key : String}

/-- The last of the values that has the key has this under it. -/
def LastHolds (values : List Json) (key : String) (found : Json) : Prop :=
  ∃ before held after, values = before ++ held :: after ∧ held.field? key = some found ∧
    ∀ later ∈ after, later.field? key = none

/-- One mapping out of several: each overwrites the ones before it. -/
def mergeAll (mappings : List Json) : Fields Json none :=
  mappings.foldl (fun merged mapping => merged.extend (mappingFields mapping)) .nil

/-! ## The last mapping with a key -/

theorem mergedField?_eq_some_iff {found : Json} :
    mergedField? values key = some found ↔ LastHolds values key found := by
  rw [mergedField?, List.getLast?_filterMap, List.findSome?_eq_some_iff]
  constructor
  · rintro ⟨after, held, before, split, holds, silent⟩
    refine ⟨before.reverse, held, after.reverse, ?_, holds, ?_⟩
    · simpa using congrArg List.reverse split
    · exact fun later member => silent later (List.mem_reverse.mp member)
  · rintro ⟨before, held, after, rfl, holds, silent⟩
    refine ⟨after.reverse, held, before.reverse, by simp, holds, ?_⟩
    exact fun later member => silent later (List.mem_reverse.mp member)

theorem isSome_mergedField?_iff :
    (mergedField? values key).isSome = true ↔ ∃ value ∈ values, (value.field? key).isSome = true := by
  rw [mergedField?, List.getLast?_filterMap, List.isSome_findSome?]
  simp

theorem mergedField?_append (a b : List Json) (key : String) :
    mergedField? (a ++ b) key = (mergedField? b key).or (mergedField? a key) := by
  rw [mergedField?, List.filterMap_append, List.getLast?_append]
  rfl

/-! ## Merging beforehand -/

theorem foldl_extend (mappings : List Json) (start : Fields Json none) :
    mappings.foldl (fun merged mapping => merged.extend (mappingFields mapping)) start =
      start.extend (mappings.flatMap mappingFields) := by
  induction mappings generalizing start with
  | nil => rfl
  | cons mapping rest ih => rw [List.foldl_cons, ih, List.flatMap_cons, Fields.extend_append]

theorem get?_mergeAll (mappings : List Json) (key : String) :
    (mergeAll mappings).get? key = mergedField? mappings key := by
  rw [mergeAll, foldl_extend, get?_extend_flatMap, Fields.get?_nil, Option.or_none]

theorem isAllMappings_iff :
    isAllMappings values = true ↔ values ≠ [] ∧ ∀ value ∈ values, value.isMapping = true := by
  simp [isAllMappings]

theorem isAllMappings_mergeAll {a b : List Json} (mappings : isAllMappings (a ++ b) = true) :
    isAllMappings (.obj (mergeAll a) :: b) = true := by
  have others : ∀ value ∈ b, value.isMapping = true := fun value member =>
    (isAllMappings_iff.mp mappings).2 value (List.mem_append_right a member)
  exact isAllMappings_iff.mpr ⟨List.cons_ne_nil _ b, List.forall_mem_cons.mpr ⟨rfl, others⟩⟩

theorem customBody_mergeAll (name : String) {a b : List Json}
    (mappings : isAllMappings (a ++ b) = true) :
    customBody name (.obj (mergeAll a) :: b) = customBody name (a ++ b) := by
  apply Fields.eq_of_get?
  intro key
  have first : (Json.obj (mergeAll a)).field? key = mergedField? a key := get?_mergeAll a key
  rw [get?_customBody_of_mappings name (isAllMappings_mergeAll mappings),
    get?_customBody_of_mappings name mappings,
    mergedField?_cons, first, mergedField?_append]

/-- Nothing is left out of mappings, so nothing is reported. -/
theorem customConstraint_of_mappings (name : String) {args : Arguments}
    (unwrapped : args.unwrapped = values) (mappings : isAllMappings values = true) :
    customConstraint name args =
      pure (ofKind "custom-constraint-query" (.obj (customBody name values))) := by
  have kept : discardedCount values = 0 := if_pos mappings
  simp only [customConstraint, unwrapped, kept, Nat.lt_irrefl, if_false]

theorem unwrapped_mappings (form : Arguments.Form)
    (mappings : isAllMappings values = true) :
    Arguments.unwrapped (form.arguments values) = values := by
  refine Arguments.unwrapped_arguments form fun value member => ?_
  have mapping := (isAllMappings_iff.mp mappings).2 value member
  cases value with
  | obj fields => trivial
  | _ => cases mapping

theorem customConstraint_mergeAll (name : String) {args : Arguments} {a b : List Json}
    (split : args.unwrapped = a ++ b) (mappings : isAllMappings (a ++ b) = true)
    (form : Arguments.Form) :
    customConstraint name (form.arguments (.obj (mergeAll a) :: b)) =
      customConstraint name args := by
  have merged := isAllMappings_mergeAll mappings
  calc customConstraint name (form.arguments (.obj (mergeAll a) :: b))
      = pure (ofKind "custom-constraint-query"
          (.obj (customBody name (.obj (mergeAll a) :: b)))) :=
        customConstraint_of_mappings name (unwrapped_mappings form merged) merged
    _ = pure (ofKind "custom-constraint-query" (.obj (customBody name (a ++ b)))) := by
        rw [customBody_mergeAll name mappings]
    _ = customConstraint name args := (customConstraint_of_mappings name split mappings).symm

/-! ## The two cases -/

/-- The query is a mapping of one key over a body. Given mappings only, the body holds under
each key but that of the name what the last of them that has the key holds, and merging any
first part of them beforehand is the same call. Given anything else, it holds the name and the
text, and the text is the values that hold no others in their order. -/
theorem customConstraint_merges_or_filters (name : String) (args : Arguments) :
    let values := args.unwrapped
    let query := (customConstraint name args).result
    let mapped := values ≠ [] ∧ ∀ value ∈ values, value.isMapping = true
    ∃ body : Fields Json none,
      query = ofKind "custom-constraint-query" (.obj body) ∧
      query.Reads "custom-constraint-query" (.obj body) ∧
      (mapped →
        (∀ key, key ≠ "constraint-name" →
          ((body.get? key).isSome = true ↔
            ∃ value ∈ values, (value.field? key).isSome = true) ∧
          ∀ found, body.get? key = some found ↔ LastHolds values key found) ∧
        ∀ a b, values = a ++ b → ∀ form : Arguments.Form,
          customConstraint name (form.arguments (.obj (mergeAll a) :: b)) =
            customConstraint name args) ∧
      (¬ mapped →
        body.keys = ["constraint-name", "text"] ∧
        body.get? "constraint-name" = some (.str name) ∧
        body.get? "text" = some (.arr (values.filter fun value => !value.isContainer))) := by
  intro values query mapped
  have built : query = ofKind "custom-constraint-query" (.obj (customBody name values)) :=
    result_customConstraint name args
  refine ⟨customBody name values, built, ?_, ?_, ?_⟩
  · rw [built]
    exact reads_ofKind _ _
  · intro given
    have mappings : isAllMappings values = true := isAllMappings_iff.mpr given
    refine ⟨?_, ?_⟩
    · intro key unnamed
      have merged : (customBody name values).get? key = mergedField? values key := by
        rw [get?_customBody_of_mappings name mappings, if_neg (Ne.symm unnamed), Option.or_none]
      rw [merged]
      exact ⟨isSome_mergedField?_iff, fun _ => mergedField?_eq_some_iff⟩
    · intro a b split form
      exact customConstraint_mergeAll name split (split ▸ mappings) form
  · intro mixed
    have unmapped : ¬ isAllMappings values = true := fun mappings =>
      mixed (isAllMappings_iff.mp mappings)
    refine ⟨?_, ?_, ?_⟩
    · rw [customBody, if_neg unmapped]
      rfl
    · rw [get?_customBody_of_text name unmapped, if_neg (by decide), if_pos rfl]
    · rw [get?_customBody_of_text name unmapped, if_pos rfl]
      rfl

/-- An empty mapping is merged like any other and takes nothing away, while an array among
mappings leaves only a text, and here an empty one. -/
theorem customConstraint_merges_empty_mapping :
    let first := Json.object [("limit", .null), ("mode", .bool true)]
    let last := Json.object [("mode", .arr [])]
    let mapped : Arguments := [.arr [first, last, .object []]]
    let mixed : Arguments := [first, .arr [.str "word"], last]
    (∃ body, (customConstraint "area" mapped).result =
        ofKind "custom-constraint-query" (.obj body) ∧
      body.get? "limit" = some .null ∧ body.get? "mode" = some (.arr []) ∧
      customConstraint "area" [.obj (mergeAll [first, last]), .object []] =
        customConstraint "area" mapped) ∧
      ∃ body, (customConstraint "area" mixed).result =
          ofKind "custom-constraint-query" (.obj body) ∧
        body.keys = ["constraint-name", "text"] ∧ body.get? "text" = some (.arr []) := by
  intro first last mapped mixed
  obtain ⟨body, built, -, merges, -⟩ := customConstraint_merges_or_filters "area" mapped
  obtain ⟨text, built', -, -, filters⟩ := customConstraint_merges_or_filters "area" mixed
  have given : [first, last, .object []] ≠ [] ∧
      ∀ value ∈ [first, last, .object []], value.isMapping = true := by decide
  have other : ¬ (mixed ≠ [] ∧ ∀ value ∈ mixed, value.isMapping = true) := by decide
  obtain ⟨fields, splits⟩ := merges given
  obtain ⟨keys, -, texts⟩ := filters other
  refine ⟨⟨body, built, ?_, ?_, ?_⟩, text, built', keys, texts⟩
  · have lastHeld : LastHolds [first, last, .object []] "limit" .null :=
      ⟨[], first, [last, .object []], rfl, rfl, by decide⟩
    exact ((fields "limit" (by decide)).2 _).mpr lastHeld
  · have lastHeld : LastHolds [first, last, .object []] "mode" (.arr []) :=
      ⟨[first], last, [.object []], rfl, rfl, by decide⟩
    exact ((fields "mode" (by decide)).2 _).mpr lastHeld
  · exact splits [first, last] [.object []] rfl .variadic

end SearchQuery.Query
