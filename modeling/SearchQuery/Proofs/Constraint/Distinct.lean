import SearchQuery.Proofs.Arguments
import SearchQuery.Proofs.Constraint.Value
import SearchQuery.Proofs.Query.Agreement

/-!
# Constraint calls do not collide

A constraint on words, collections, values or a range is written under a kind of its own,
and its name and its values can be read off its body. So two calls make one query exactly
when they ask for the same constraint with the same values, in the sense in which each
builder takes them. Custom constraints are left out: the mappings that one of them is
merged from may bring any name and any key along.
-/

namespace SearchQuery

/-- A call on a constraint by one of four builders. -/
inductive ConstraintCall where
  | word (name : String) (args : Arguments)
  | collection (name : String) (args : Arguments)
  | value (name : String) (args : Arguments)
  | range (name : String) (comparison : Comparison) (values options : Json)

namespace ConstraintCall

def build : ConstraintCall → Query
  | word name args => Query.wordConstraint name args
  | collection name args => Query.collectionConstraint name args
  | value name args => Query.valueConstraint name args
  | range name comparison values options =>
    Query.rangeConstraintWith name comparison values options

/-- Two calls of one builder on one name whose values agree once they are spread. A value
constraint also sees whether it was given null alone. -/
def Matches (g : Agreement) : ConstraintCall → ConstraintCall → Prop
  | word name args, word name' args' =>
    name = name' ∧ g.holds Json.sameItems args.spread args'.spread
  | collection name args, collection name' args' =>
    name = name' ∧ g.holds Json.sameItems args.spread args'.spread
  | value name args, value name' args' =>
    name = name' ∧ g.holds Json.sameItems args.spread args'.spread ∧
      (args = [.null] ↔ args' = [.null])
  | range name comparison values options, range name' comparison' values' options' =>
    name = name' ∧ comparison = comparison' ∧
      g.holds Json.sameItems values.elements values'.elements ∧
      g.holds Json.sameItems options.elements options'.elements
  | _, _ => False

def kind : ConstraintCall → String
  | word _ _ => "word-constraint-query"
  | collection _ _ => "collection-constraint-query"
  | value _ _ => "value-constraint-query"
  | range _ _ _ _ => "range-constraint-query"

theorem exists_body (call : ConstraintCall) : ∃ body, call.build = Query.ofKind call.kind body := by
  cases call <;> exact ⟨_, rfl⟩

end ConstraintCall

namespace Agreement

open Query

variable (g : Agreement)

/-! ## Reading the name and the values off a body -/

theorem holds_named {name name' key key' : String} {values values' : List Json}
    (unnamed : key ≠ "constraint-name") (unnamed' : key' ≠ "constraint-name") :
    g.holds Json.same (.object [("constraint-name", .str name), (key, .arr values)])
        (.object [("constraint-name", .str name'), (key', .arr values')]) ↔
      name = name' ∧ key = key' ∧ g.holds Json.sameItems values values' := by
  have written : ∀ (name key : String) (values : List Json),
      Json.object [("constraint-name", .str name), (key, .arr values)] =
        .obj ((Fields.nil.insert "constraint-name" (.str name)).insert key (.arr values)) :=
    fun _ _ _ => rfl
  rw [written, written, g.holds_obj]
  by_cases sameKey : key = key'
  · subst sameKey
    rw [holds_insert_iff (by simp [Ne.symm unnamed]) (by simp [Ne.symm unnamed]),
      holds_insert_iff rfl rfl, g.holds_str, g.holds_arr, and_iff_right g.holds_empty,
      and_iff_right rfl]
  · constructor
    · intro agree
      have lists := g.holds_fields_iff.mp agree key
      rw [Fields.get?_insert, if_pos rfl, Fields.get?_insert, if_neg (Ne.symm sameKey),
        Fields.get?_insert, if_neg (Ne.symm unnamed), Fields.get?_nil] at lists
      exact absurd lists g.not_holds_some_none
    · exact fun h => absurd h.2.1 sameKey

/-- A list under a fixed key tells itself and the name. -/
theorem holds_listed {kind key name name' : String} {values values' : List Json}
    (unnamed : key ≠ "constraint-name") :
    g.holds Json.same
        (ofKind kind (.object [("constraint-name", .str name), (key, .arr values)])).json
        (ofKind kind (.object [("constraint-name", .str name'), (key, .arr values')])).json ↔
      name = name' ∧ g.holds Json.sameItems values values' := by
  rw [holds_ofKind, and_iff_right rfl, g.holds_named unnamed unnamed, and_iff_right rfl]

theorem holds_rangeConstraintWith {name name' : String} {c c' : Comparison}
    {values values' options options' : Json} :
    g.holds Json.same (rangeConstraintWith name c values options).json
        (rangeConstraintWith name' c' values' options').json ↔
      name = name' ∧ c = c' ∧ g.holds Json.sameItems values.elements values'.elements ∧
        g.holds Json.sameItems options.elements options'.elements := by
  have written : ∀ (name : String) (c : Comparison) (values options : Json),
      rangeConstraintWith name c values options = ofKind "range-constraint-query" (.obj
        ((((Fields.nil.insert "constraint-name" (.str name)).insert "range-operator"
          (.str c.name)).insert "value" (.arr values.elements)).insert "range-option"
            (.arr options.elements))) := by
    intro name c values options
    simp only [rangeConstraintWith, Json.object, Fields.ofList, Fields.extend_cons,
      Fields.extend_nil]
  rw [written, written, holds_ofKind, g.holds_obj, and_iff_right rfl,
    holds_insert_iff (by simp) (by simp), holds_insert_iff (by simp) (by simp),
    holds_insert_iff (by simp) (by simp), holds_insert_iff rfl rfl, g.holds_str, g.holds_str,
    g.holds_arr, g.holds_arr, Comparison.name_inj, and_iff_right g.holds_empty, and_assoc,
    and_assoc]

end Agreement

namespace ConstraintCall

open Arguments

variable {g : Agreement} {a b : ConstraintCall}

theorem kind_eq_of_agree (agree : g.holds Json.same a.build.json b.build.json) :
    a.kind = b.kind := by
  obtain ⟨body, written⟩ := a.exists_body
  obtain ⟨body', written'⟩ := b.exists_body
  rw [written, written'] at agree
  exact (Agreement.holds_ofKind.mp agree).1

theorem agree_iff_of_kind_ne {condition : Prop} (kinds : a.kind ≠ b.kind)
    (unmet : ¬ condition) : g.holds Json.same a.build.json b.build.json ↔ condition :=
  iff_of_false (fun agree => kinds (kind_eq_of_agree agree)) unmet

/-- The key and the list of a value constraint tell the same as its spread values together
with whether it was given null alone. -/
theorem valueEntry_agree_iff {args others : Arguments} :
    ((Query.valueEntry args).1 = (Query.valueEntry others).1 ∧
        g.holds Json.sameItems (Query.valueEntry args).2 (Query.valueEntry others).2) ↔
      g.holds Json.sameItems args.spread others.spread ∧
        (args = [.null] ↔ others = [.null]) := by
  rw [Query.valueEntry_values, Query.valueEntry_values]
  constructor
  · rintro ⟨keys, values⟩
    refine ⟨values, ?_⟩
    rw [← Query.valueEntry_key_eq_null_iff, ← Query.valueEntry_key_eq_null_iff, keys]
  · rintro ⟨values, nulls⟩
    refine ⟨?_, values⟩
    by_cases lone : args = [.null]
    · rw [lone, nulls.mp lone]
    · have given : others ≠ [.null] := fun h => lone (nulls.mpr h)
      rw [Query.valueEntry_of_ne_lone_null lone, Query.valueEntry_of_ne_lone_null given]
      exact Query.valueKey_of_sameItems (g.same_of_holds Json.sameItems_self values)

theorem value_agree_iff {name name' : String} {args args' : Arguments} :
    g.holds Json.same (Query.valueConstraint name args).json
        (Query.valueConstraint name' args').json ↔
      name = name' ∧ g.holds Json.sameItems args.spread args'.spread ∧
        (args = [.null] ↔ args' = [.null]) := by
  have written : ∀ (name : String) (args : Arguments), Query.valueConstraint name args =
      Query.ofKind "value-constraint-query" (.object [("constraint-name", .str name),
        ((Query.valueEntry args).1, .arr (Query.valueEntry args).2)]) :=
    fun _ _ => rfl
  rw [written, written, Agreement.holds_ofKind, and_iff_right rfl,
    g.holds_named (Query.valueEntry_ne_name args) (Query.valueEntry_ne_name args'),
    valueEntry_agree_iff]

/-- In either way of agreeing, two calls make the same query exactly when they match: one
builder, one name, and agreeing values. A value constraint on null is never a value
constraint on no values, in whichever form none are given. -/
theorem build_agrees_iff_matches (g : Agreement) (a b : ConstraintCall) :
    (g.holds Json.same a.build.json b.build.json ↔ Matches g a b) ∧
      ∀ (name other : String) (form : Form),
        (value name [.null]).build.json.same (value other (form.arguments [])).build.json =
          false := by
  constructor
  · cases a with
    | word name args =>
      cases b with
      | word name' args' => exact g.holds_listed (by decide)
      | _ => exact agree_iff_of_kind_ne (by simp [kind]) id
    | collection name args =>
      cases b with
      | collection name' args' => exact g.holds_listed (by decide)
      | _ => exact agree_iff_of_kind_ne (by simp [kind]) id
    | value name args =>
      cases b with
      | value name' args' => exact value_agree_iff
      | _ => exact agree_iff_of_kind_ne (by simp [kind]) id
    | range name c values options =>
      cases b with
      | range name' c' values' options' => exact g.holds_rangeConstraintWith
      | _ => exact agree_iff_of_kind_ne (by simp [kind]) id
  · intro name other form
    rw [Bool.eq_false_iff]
    intro same
    have nulls := (value_agree_iff.mp (show Agreement.equal.holds _ _ _ from same)).2.2
    cases form with
    | variadic => cases nulls.mp rfl
    | array => cases nulls.mp rfl

/-- Null in an array of its own is a value like any other, and one of no particular type. -/
example : (value "price" [.arr [.null]]).build.field? "object" = some (.arr [.null]) := rfl

end ConstraintCall

end SearchQuery
