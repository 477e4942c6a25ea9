import SearchQuery.Geo.Constraint
import SearchQuery.Proofs.Constraint.Custom
import SearchQuery.Proofs.Constraint.Range
import SearchQuery.Proofs.Constraint.Value

/-!
# The name of a constraint

A constraint query names the constraint that it was asked for. The one exception is a
custom constraint merged from mappings: they are merged into a body that has the name
already, so that a name among their fields stands in its place, and of several the last.
-/

namespace SearchQuery

/-- The name that the arguments bring along: the last one among the mappings that a custom
constraint is merged from. -/
def ConstraintKind.broughtName? : ConstraintKind → Arguments → Option Json
  | .custom, args =>
    if Query.isAllMappings args.unwrapped then
      Query.mergedField? args.unwrapped "constraint-name"
    else none
  | _, _ => none

namespace Query

/-- A body with the name and then other entries holds the name if none of them has its
key. -/
theorem field?_named {kind name : String} {entries : List (String × Json)}
    (unnamed : ∀ entry ∈ entries, entry.1 ≠ "constraint-name") :
    (ofKind kind (.object (("constraint-name", .str name) :: entries))).field?
      "constraint-name" = some (.str name) := by
  rw [Json.object, field?_ofKind, Fields.ofList, Fields.extend_cons,
    Fields.get?_extend_of_absent _ unnamed, Fields.get?_insert, if_pos rfl]

theorem exists_of_rangeConstraint {name : String} {args : Arguments} {query : Query}
    (built : (rangeConstraint name args).result = .ok query) :
    ∃ c values options, query = rangeConstraintWith name c values options := by
  rcases rangeConstraint_built_or_refused name args with ⟨c, values, options, always⟩ |
    ⟨operator, refused⟩
  · rw [always] at built
    cases built
    exact ⟨c, values, options, rfl⟩
  · rw [refused] at built
    cases built

theorem field?_name_customConstraint (name : String) (args : Arguments) :
    (customConstraint name args).result.field? "constraint-name" =
      some ((ConstraintKind.custom.broughtName? args).getD (.str name)) := by
  rw [result_customConstraint, field?_ofKind, ConstraintKind.broughtName?]
  by_cases mappings : isAllMappings args.unwrapped = true
  · rw [if_pos mappings, get?_customBody_of_mappings name mappings, if_pos rfl, Option.or_some]
  · rw [if_neg mappings, get?_customBody_of_text name mappings, if_neg (by decide), if_pos rfl]
    rfl

theorem field?_name_ofShapeSet (name : String) (set : ShapeSet) :
    (ofShapeSet name set).field? "constraint-name" = some (.str name) :=
  field?_named (by simp [ShapeSet.entries])

end Query

namespace ConstraintKind

theorem field?_name_of_build {kind : ConstraintKind} {name : String} {args : Arguments}
    {query : Query} (built : (kind.build name args).result = .ok query) :
    query.field? "constraint-name" = some ((kind.broughtName? args).getD (.str name)) := by
  cases kind with
  | range =>
    obtain ⟨c, values, options, rfl⟩ := Query.exists_of_rangeConstraint built
    exact Query.field?_named (by simp)
  | value =>
    cases built
    exact Query.field?_named (List.forall_mem_singleton.mpr (Query.valueEntry_ne_name args))
  | word =>
    cases built
    exact Query.field?_named (by simp)
  | custom =>
    cases built
    exact Query.field?_name_customConstraint name args
  | collection =>
    cases built
    exact Query.field?_named (by simp)

/-- Whatever kind is asked for by name, a constraint that is built names the constraint
it was asked for unless its arguments bring another name along, which only a custom
constraint's mappings can; and geospatial constraints always name it. -/
theorem build_names_constraint (kind : Option String) (name : String) (args : Arguments) :
    (∀ query, ((ofName kind).build name args).result = .ok query →
      query.field? "constraint-name" = some (((ofName kind).broughtName? args).getD (.str name))) ∧
      (Query.geospatialConstraint name args).result.field? "constraint-name" =
        some (.str name) ∧
      ∀ shapes, (Query.shapesConstraint name shapes).field? "constraint-name" =
        some (.str name) := by
  refine ⟨?_, ?_, ?_⟩
  · intro query built
    exact field?_name_of_build built
  · exact Query.field?_name_ofShapeSet name _
  · intro shapes
    exact Query.field?_name_ofShapeSet name _

/-- Of two names brought along in one array of mappings the last one stands, text or not. -/
theorem build_names_last_mapping :
    let args : Arguments := [.arr [.object [("constraint-name", .str "first")],
      .object [("constraint-name", .bool true), ("limit", .null)], .object []]]
    ∃ query, ((ofName (some "custom")).build "asked" args).result = .ok query ∧
      query.field? "constraint-name" = some (.bool true) := by
  intro args
  have built : ((ofName (some "custom")).build "asked" args).result =
      .ok (Query.customConstraint "asked" args).result := rfl
  exact ⟨_, built, (build_names_constraint (some "custom") "asked" args).1 _ built⟩

/-- This query is asked for by one name and carries another. -/
theorem customConstraint_renamed :
    ∃ query, ((ofName (some "custom")).build "asked"
        [.object [("constraint-name", .str "other")]]).result = .ok query ∧
      query.field? "constraint-name" = some (.str "other") ∧
      query.field? "constraint-name" ≠ some (.str "asked") := by
  refine ⟨_, rfl, rfl, ?_⟩
  intro equal
  have names : "other" = "asked" := Json.str.inj (Option.some.inj equal)
  exact absurd names (by decide)

end ConstraintKind

end SearchQuery
