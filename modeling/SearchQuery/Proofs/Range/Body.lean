import SearchQuery.Range.Positional

/-!
# The body of a range query

The comparison, the values and the options are written first and the fields of an
element reference after them. A field that the reference brings along under one
of those three keys therefore stands in the written query as it was given; every
other query holds exactly what its record holds. No claim is made that a written
`value` or `range-option` is an array.
-/

namespace SearchQuery

/-- What an element reference brings into the body under a key. -/
def IndexedName.supplied? : IndexedName → String → Option Json
  | property _, _ => none
  | element reference, key => reference.get? key

/-- What a name of either sort writes under a key. -/
def IndexedName.written? : IndexedName → String → Option Json
  | property name, key => if "json-property" = key then some name else none
  | element reference, key => reference.get? key

theorem IndexedName.written?_eq_supplied? (name : IndexedName) {key : String}
    (unnamed : key ≠ "json-property") : name.written? key = name.supplied? key := by
  cases name with
  | property value => exact if_neg (Ne.symm unnamed)
  | element reference => rfl

namespace RangeQuery

/-- The fields that are written before the name. -/
def ownFields (q : RangeQuery) : Fields Json none :=
  Fields.nil
    |>.insert "range-operator" (.str q.effectiveComparison.name)
    |>.insert "value" (.arr q.values)
    |>.insert "range-option" (.arr q.options)

theorem get?_extend_nameFields (fields : Fields Json none) (name : IndexedName) (key : String) :
    (fields.extend (nameFields name)).get? key = (name.written? key).or (fields.get? key) := by
  cases name with
  | property value =>
    rw [nameFields, Fields.extend_cons, Fields.extend_nil, Fields.get?_insert,
      IndexedName.written?]
    split <;> rfl
  | element reference => exact Fields.get?_extend_toList fields reference key

/-- The collation and the type are written last; before them the name's own fields stand in
the place of the record's. -/
theorem get?_body_written (q : RangeQuery) (key : String) :
    q.body.get? key =
      if "collation" = key then
        q.collation.or ((q.indexedName.written? key).or (q.ownFields.get? key))
      else if "type" = key then
        q.datatype.or ((q.indexedName.written? key).or (q.ownFields.get? key))
      else (q.indexedName.written? key).or (q.ownFields.get? key) := by
  have written : q.body = ((q.ownFields.extend (nameFields q.indexedName)).insertSome "type"
      q.datatype).insertSome "collation" q.collation := rfl
  rw [written, Fields.get?_insertSome, Fields.get?_insertSome, get?_extend_nameFields]
  by_cases collation : "collation" = key
  · rw [if_pos collation, if_pos collation, if_neg (collation ▸ by decide)]
  · rw [if_neg collation, if_neg collation]

/-- Apart from the name, the type and the collation, a field of the body is the
reference's if it has one and the record's otherwise. -/
theorem get?_body (q : RangeQuery) {key : String} (unnamed : key ≠ "json-property")
    (untyped : key ≠ "type") (uncollated : key ≠ "collation") :
    q.body.get? key = (q.indexedName.supplied? key).or (q.ownFields.get? key) := by
  rw [get?_body_written, if_neg (Ne.symm uncollated), if_neg (Ne.symm untyped),
    IndexedName.written?_eq_supplied? _ unnamed]

/-- An own field is written as it is unless the reference brings that key along. -/
theorem field?_build (q : RangeQuery) {key : String} {value : Json}
    (own : q.ownFields.get? key = some value) (unnamed : key ≠ "json-property")
    (untyped : key ≠ "type") (uncollated : key ≠ "collation") :
    q.build.field? key = some ((q.indexedName.supplied? key).getD value) := by
  have body : q.build.field? key = q.body.get? key := rfl
  rw [body, get?_body q unnamed untyped uncollated, own, Option.or_some]

/-- A range query has one key, and its body holds the record's comparison, values and
options except where the element reference has a field of that name. -/
theorem range_body (args : Arguments) :
    let record := (read args).result
    let query := (Query.range args).result
    (∃ fields, query.json = .obj fields ∧ fields.keys = ["range-query"]) ∧
      query.field? "range-operator" = some
        ((record.indexedName.supplied? "range-operator").getD
          (.str record.effectiveComparison.name)) ∧
      query.field? "value" =
        some ((record.indexedName.supplied? "value").getD (.arr record.values)) ∧
      query.field? "range-option" =
        some ((record.indexedName.supplied? "range-option").getD (.arr record.options)) := by
  intro record query
  have built : query = record.build := rfl
  rw [built]
  refine ⟨⟨_, rfl, rfl⟩, ?_, ?_, ?_⟩
  · exact field?_build record (by simp [ownFields]) (by decide) (by decide) (by decide)
  · exact field?_build record (by simp [ownFields]) (by decide) (by decide) (by decide)
  · exact field?_build record (by simp [ownFields]) (by decide) (by decide) (by decide)

/-- The values of this call are lost: the reference's own `value` is written instead. -/
theorem element_replaces_values :
    let args : Arguments :=
      [.object [("element", .object [("name", .str "foo")]), ("value", .str "x")], .str "bar"]
    (read args).result.values = [.str "bar"] ∧
      (Query.range args).result.field? "value" = some (.str "x") ∧
      (Query.range args).result.field? "value" ≠ some (.arr (read args).result.values) := by
  have written : (Query.range [.object [("element", .object [("name", .str "foo")]),
      ("value", .str "x")], .str "bar"]).result.field? "value" = some (.str "x") := by rfl
  refine ⟨rfl, written, ?_⟩
  rw [written]
  intro equal
  cases equal

end RangeQuery

end SearchQuery
