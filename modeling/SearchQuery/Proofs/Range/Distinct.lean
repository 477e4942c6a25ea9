import SearchQuery.Proofs.Query.Agreement
import SearchQuery.Proofs.Range.Body

/-!
# What a written range query tells of its record

A property has one field in the body and so has an element reference that carries nothing
beside its element. With such a name every part of the record stands under a key of its own,
and two records are written alike exactly when their parts agree; a comparison that was
never chosen counts as equality. An element reference with further fields is left out:
they may stand in the place of the record's own parts.
-/

namespace SearchQuery

open Json (sameOption)
open RangeQuery (nameFields)

namespace IndexedName

/-- The name brings one field only into the body. -/
def Single : IndexedName → Prop
  | property _ => True
  | element reference => reference.keys = ["element"]

theorem get?_of_single {reference : Fields Json none} (single : (element reference).Single)
    {key : String} (other : "element" ≠ key) : reference.get? key = none := by
  apply Fields.get?_of_not_mem_keys
  rw [show reference.keys = ["element"] from single]
  exact fun found => other (List.mem_singleton.mp found).symm

theorem written?_of_single {name : IndexedName} (single : name.Single) {key : String}
    (unnamed : "json-property" ≠ key) (notElement : "element" ≠ key) :
    name.written? key = none := by
  cases name with
  | property value => exact if_neg unnamed
  | element reference => exact get?_of_single single notElement

end IndexedName

namespace Agreement

variable {g : Agreement}

theorem holds_property {value value' : Json} :
    g.holds IndexedName.same (.property value) (.property value') ↔
      g.holds Json.same value value' := by
  cases g with
  | identical => exact iff_of_eq (IndexedName.property.injEq value value')
  | equal => rfl

theorem holds_element {reference reference' : Fields Json none} :
    g.holds IndexedName.same (.element reference) (.element reference') ↔
      g.holds Json.sameFields reference reference' := by
  cases g with
  | identical => exact iff_of_eq (IndexedName.element.injEq reference reference')
  | equal => rfl

theorem not_holds_property_element {value : Json} {reference : Fields Json none} :
    ¬ g.holds IndexedName.same (.property value) (.element reference) := by
  cases g with
  | identical => exact fun h => nomatch h
  | equal => exact fun h => nomatch h

theorem not_holds_element_property {value : Json} {reference : Fields Json none} :
    ¬ g.holds IndexedName.same (.element reference) (.property value) := by
  cases g with
  | identical => exact fun h => nomatch h
  | equal => exact fun h => nomatch h

theorem holds_extend_nameFields {a b : Fields Json none} {name other : IndexedName}
    (fields : g.holds Json.sameFields a b) (names : g.holds IndexedName.same name other) :
    g.holds Json.sameFields (a.extend (nameFields name)) (b.extend (nameFields other)) := by
  cases name with
  | property value =>
    cases other with
    | property value' => exact holds_insert fields "json-property" (holds_property.mp names)
    | element reference' => exact absurd names not_holds_property_element
  | element reference =>
    cases other with
    | property value' => exact absurd names not_holds_element_property
    | element reference' => exact holds_extend_toList fields (holds_element.mp names)

/-- Two names of one field each agree if what they write under the two keys agrees. -/
theorem holds_name_of_written {name other : IndexedName} (single : name.Single)
    (single' : other.Single)
    (properties : g.holds sameOption (name.written? "json-property")
      (other.written? "json-property"))
    (elements : g.holds sameOption (name.written? "element") (other.written? "element")) :
    g.holds IndexedName.same name other := by
  cases name with
  | property value =>
    cases other with
    | property value' => exact holds_property.mpr (g.holds_some.mp properties)
    | element reference' =>
      have missing : reference'.get? "json-property" = none :=
        IndexedName.get?_of_single single' (by decide)
      rw [IndexedName.written?, IndexedName.written?, if_pos rfl, missing] at properties
      exact absurd properties g.not_holds_some_none
  | element reference =>
    cases other with
    | property value' =>
      have missing : reference.get? "json-property" = none :=
        IndexedName.get?_of_single single (by decide)
      rw [IndexedName.written?, IndexedName.written?, if_pos rfl, missing] at properties
      exact absurd properties g.not_holds_none_some
    | element reference' =>
      rw [holds_element, holds_fields_iff]
      intro key
      by_cases own : "element" = key
      · rw [← own]
        exact elements
      · rw [IndexedName.get?_of_single single own, IndexedName.get?_of_single single' own]
        exact g.holds_none

end Agreement

namespace RangeQuery

theorem get?_body_of_single {q : RangeQuery} (single : q.indexedName.Single) (key : String) :
    q.body.get? key =
      if "collation" = key then q.collation
      else if "type" = key then q.datatype
      else (q.indexedName.written? key).or (q.ownFields.get? key) := by
  rw [get?_body_written]
  by_cases collation : "collation" = key
  · subst collation
    have free : q.indexedName.written? "collation" = none :=
      IndexedName.written?_of_single single (by decide) (by decide)
    rw [if_pos rfl, if_pos rfl, free]
    exact Option.or_none
  · rw [if_neg collation, if_neg collation]
    by_cases type : "type" = key
    · subst type
      have free : q.indexedName.written? "type" = none :=
        IndexedName.written?_of_single single (by decide) (by decide)
      rw [if_pos rfl, if_pos rfl, free]
      exact Option.or_none
    · rw [if_neg type, if_neg type]

/-! ## Each part under its key -/

section Parts

variable {q : RangeQuery} (single : q.indexedName.Single)

include single

theorem get?_body_collation : q.body.get? "collation" = q.collation := by
  rw [get?_body_of_single single, if_pos rfl]

theorem get?_body_type : q.body.get? "type" = q.datatype := by
  rw [get?_body_of_single single, if_neg (by decide), if_pos rfl]

theorem get?_body_property :
    q.body.get? "json-property" = q.indexedName.written? "json-property" := by
  simp [get?_body_of_single single, ownFields]

theorem get?_body_element : q.body.get? "element" = q.indexedName.written? "element" := by
  simp [get?_body_of_single single, ownFields]

theorem get?_body_operator :
    q.body.get? "range-operator" = some (.str q.effectiveComparison.name) := by
  simp [get?_body_of_single single, IndexedName.written?_of_single single, ownFields]

theorem get?_body_value : q.body.get? "value" = some (.arr q.values) := by
  simp [get?_body_of_single single, IndexedName.written?_of_single single, ownFields]

theorem get?_body_option : q.body.get? "range-option" = some (.arr q.options) := by
  simp [get?_body_of_single single, IndexedName.written?_of_single single, ownFields]

end Parts

/-- In either way of agreeing, two records with names of one field are written alike exactly
when their names, types, collations, values and options agree and the same comparison is in
effect. -/
theorem build_agrees_iff (g : Agreement) {a b : RangeQuery} (single : a.indexedName.Single)
    (single' : b.indexedName.Single) :
    g.holds Json.same a.build.json b.build.json ↔
      g.holds IndexedName.same a.indexedName b.indexedName ∧
        g.holds sameOption a.datatype b.datatype ∧
        g.holds sameOption a.collation b.collation ∧
        a.effectiveComparison = b.effectiveComparison ∧
        g.holds Json.sameItems a.values b.values ∧
        g.holds Json.sameItems a.options b.options := by
  have bodies : g.holds Json.same a.build.json b.build.json ↔
      g.holds Json.sameFields a.body b.body := by
    rw [build, build, Agreement.holds_ofKind, Agreement.holds_obj]
    exact and_iff_right rfl
  rw [bodies]
  constructor
  · intro agree
    have under := g.holds_fields_iff.mp agree
    have properties := under "json-property"
    have elements := under "element"
    have types := under "type"
    have collations := under "collation"
    have operators := under "range-operator"
    have values := under "value"
    have options := under "range-option"
    rw [get?_body_property single, get?_body_property single'] at properties
    rw [get?_body_element single, get?_body_element single'] at elements
    rw [get?_body_type single, get?_body_type single'] at types
    rw [get?_body_collation single, get?_body_collation single'] at collations
    rw [get?_body_operator single, get?_body_operator single', g.holds_some, g.holds_str,
      Comparison.name_inj] at operators
    rw [get?_body_value single, get?_body_value single', g.holds_some, g.holds_arr] at values
    rw [get?_body_option single, get?_body_option single', g.holds_some, g.holds_arr] at options
    exact ⟨Agreement.holds_name_of_written single single' properties elements, types,
      collations, operators, values, options⟩
  · rintro ⟨names, types, collations, comparisons, values, options⟩
    have operators : g.holds Json.same (.str a.effectiveComparison.name)
        (.str b.effectiveComparison.name) := by
      rw [g.holds_str, comparisons]
    have own : g.holds Json.sameFields a.ownFields b.ownFields :=
      Agreement.holds_insert
        (Agreement.holds_insert (Agreement.holds_insert g.holds_empty "range-operator" operators)
          "value" (g.holds_arr.mpr values))
        "range-option" (g.holds_arr.mpr options)
    have named := Agreement.holds_extend_nameFields own names
    exact Agreement.holds_insertSome (Agreement.holds_insertSome named "type" types)
      "collation" collations

/-- Chosen equality is written as no comparison at all is, and a value that becomes an option
is not overlooked. -/
theorem build_agrees_unset_comparison :
    let unset : RangeQuery :=
      { indexedName := .element (Fields.nil.insert "element" .null), datatype := some .null,
        values := [.str "a", .str "b"], options := [.str "c"] }
    let chosen : RangeQuery := { unset with comparison := some .equal }
    let moved : RangeQuery := { unset with values := [.str "a"], options := [.str "b", .str "c"] }
    unset.indexedName.Single ∧ chosen.indexedName.Single ∧ moved.indexedName.Single ∧
      unset.build.json = chosen.build.json ∧ ¬ unset.build.json.same moved.build.json = true := by
  intro unset chosen moved
  have single : unset.indexedName.Single := rfl
  refine ⟨single, single, single, ?_, ?_⟩
  · exact (build_agrees_iff .identical single single).mpr ⟨rfl, rfl, rfl, rfl, rfl, rfl⟩
  · intro same
    have single' : moved.indexedName.Single := rfl
    obtain ⟨-, -, -, -, values, -⟩ := (build_agrees_iff .equal single single').mp same
    cases Json.length_eq_of_sameItems values

end RangeQuery

end SearchQuery
