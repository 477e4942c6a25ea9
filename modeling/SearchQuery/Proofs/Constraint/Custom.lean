import SearchQuery.Constraint.Basic
import SearchQuery.Proofs.Folding

/-!
# What a custom constraint holds

Mappings given to a custom constraint are merged one after the other into a body that
holds the name already. Under each key the last mapping that has the key is heard, and the
name is a key like any other. Given anything else the body holds the name and the text, and
what the text leaves out are the values that hold others.
-/

namespace SearchQuery.Query

/-- What the last of the mappings with this key has under it. -/
def mergedField? (values : List Json) (key : String) : Option Json :=
  (values.filterMap fun value => value.field? key).getLast?

theorem mergedField?_cons (value : Json) (rest : List Json) (key : String) :
    mergedField? (value :: rest) key = (mergedField? rest key).or (value.field? key) :=
  getLast?_filterMap_cons (fun held : Json => held.field? key) value rest

theorem get?_extend_mappingFields (fields : Fields Json none) (value : Json) (key : String) :
    (fields.extend (mappingFields value)).get? key = (value.field? key).or (fields.get? key) := by
  cases value with
  | obj added => exact Fields.get?_extend_toList fields added key
  | _ => rfl

/-- One mapping after the other: each is heard under its keys until a later one is. -/
theorem get?_extend_flatMap (fields : Fields Json none) (values : List Json) (key : String) :
    (fields.extend (values.flatMap mappingFields)).get? key =
      (mergedField? values key).or (fields.get? key) := by
  induction values generalizing fields with
  | nil => rfl
  | cons value rest ih =>
    rw [List.flatMap_cons, Fields.extend_append, ih, get?_extend_mappingFields,
      mergedField?_cons, Option.or_assoc]

/-- The body of a merging call holds the merged fields beside the name. -/
theorem get?_customBody_of_mappings (name : String) {values : List Json}
    (mappings : isAllMappings values = true) (key : String) :
    (customBody name values).get? key =
      (mergedField? values key).or (if "constraint-name" = key then some (.str name) else none) := by
  rw [customBody, if_pos mappings, get?_extend_flatMap, Fields.get?_insert, Fields.get?_nil]

theorem get?_customBody_of_text (name : String) {values : List Json}
    (mixed : ¬ isAllMappings values = true) (key : String) :
    (customBody name values).get? key =
      if "text" = key then some (.arr (textValues values))
      else if "constraint-name" = key then some (.str name) else none := by
  rw [customBody, if_neg mixed, Fields.get?_insert, Fields.get?_insert, Fields.get?_nil]

theorem countP_textValues (values : List Json) :
    (textValues values).countP Json.isContainer = 0 := by
  rw [List.countP_eq_zero]
  intro value kept
  simpa using (List.mem_filter.mp kept).2

/-- Every value is kept for the text or holds others. -/
theorem length_textValues_add_countP (values : List Json) :
    (textValues values).length + values.countP Json.isContainer = values.length := by
  have kept : (textValues values).length = values.countP fun value => !value.isContainer :=
    List.countP_eq_length_filter.symm
  rw [kept, Nat.add_comm]
  simpa using (List.length_eq_countP_add_countP Json.isContainer (l := values)).symm

/-- What a text leaves out are the values that hold others. -/
theorem discardedCount_of_text {values : List Json} (mixed : ¬ isAllMappings values = true) :
    discardedCount values = values.countP Json.isContainer := by
  rw [discardedCount, if_neg mixed, ← length_textValues_add_countP values,
    Nat.add_sub_cancel_left]

/-- Reporting what is left out changes nothing in the query. -/
theorem result_customConstraint (name : String) (args : Arguments) :
    (customConstraint name args).result =
      ofKind "custom-constraint-query" (.obj (customBody name args.unwrapped)) := by
  simp only [customConstraint]
  split
  · rfl
  · rfl

end SearchQuery.Query
