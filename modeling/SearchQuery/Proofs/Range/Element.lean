import SearchQuery.Proofs.Range.Distinct
import SearchQuery.Proofs.Range.Name
import SearchQuery.Proofs.Range.Positional

/-!
# Range queries over references to elements

A reference that was built, of whatever arguments, is known as a reference when it comes first
in a positional call, and it brings one field only into the body. So it takes the place of
nothing that the query writes itself, whatever follows it in the call. What follows the name
can change its typing by the first argument alone, and the name not at all.
-/

namespace SearchQuery

namespace RangeQuery

/-! ## What a positional call does to the name and the typing -/

/-- The part of a record that no argument behind the datatype changes. -/
def heading (q : RangeQuery) : IndexedName × Option Json × Option Json :=
  (q.indexedName, q.typing)

theorem heading_takeComparison (q : RangeQuery) (others : List Json) :
    (q.takeComparison others).result.1.heading = q.heading := by
  cases others with
  | nil => rfl
  | cons candidate rest =>
    rw [takeComparison]
    split <;> rfl

theorem heading_takeArgument (q : RangeQuery) (arg : Json) :
    (q.takeArgument arg).heading = q.heading := by
  rw [takeArgument]
  split <;> rfl

theorem heading_foldl_takeArgument (q : RangeQuery) (others : List Json) :
    (others.foldl takeArgument q).heading = q.heading := by
  induction others generalizing q with
  | nil => rfl
  | cons arg rest ih => rw [List.foldl_cons, ih, heading_takeArgument]

/-- Once the datatype is taken, the name and the typing stand. -/
theorem heading_read (name : Json) (others : List Json)
    (notLone : others = [] → ∀ items, name ≠ .arr items) :
    (read (name :: others)).result.heading =
      (takeDatatype { indexedName := .ofJson name } others).1.heading := by
  rw [read_cons name others notLone]
  exact (heading_foldl_takeArgument _ _).trans (heading_takeComparison _ _)

/-- The first argument behind the name has a truthy datatype. -/
def GivesType (others : List Json) : Prop :=
  ∃ first, others.head? = some first ∧ (first.truthyField? "datatype").isSome = true

/-- It has a collation besides, and the collation is not null. -/
def GivesCollation (others : List Json) : Prop :=
  ∃ first, others.head? = some first ∧ (first.truthyField? "datatype").isSome = true ∧
    first.hasField "collation" = true

theorem givesType_cons {first : Json} {rest : List Json} :
    GivesType (first :: rest) ↔ (first.truthyField? "datatype").isSome = true := by
  simp [GivesType]

theorem givesCollation_cons {first : Json} {rest : List Json} :
    GivesCollation (first :: rest) ↔
      (first.truthyField? "datatype").isSome = true ∧ first.hasField "collation" = true := by
  simp [GivesCollation]

/-- The first argument behind the name is taken for a datatype or for nothing here. -/
theorem typing_takeDatatype (name : IndexedName) (others : List Json) :
    let typed := (takeDatatype { indexedName := name } others).1
    typed.indexedName = name ∧ (typed.datatype.isSome = true ↔ GivesType others) ∧
      (typed.collation.isSome = true ↔ GivesCollation others) := by
  cases others with
  | nil => simp [takeDatatype, GivesType, GivesCollation]
  | cons first rest =>
    rw [givesType_cons, givesCollation_cons]
    cases given : first.truthyField? "datatype" with
    | none => simp [takeDatatype, given]
    | some datatype => simp [takeDatatype, given, Json.hasField, Option.isSome_filter]

/-- A record has the name of its call and is typed by the first argument behind it or not
at all. -/
theorem typing_read (name : Json) (others : List Json)
    (notLone : others = [] → ∀ items, name ≠ .arr items) :
    let record := (read (name :: others)).result
    record.indexedName = .ofJson name ∧ (record.datatype.isSome = true ↔ GivesType others) ∧
      (record.collation.isSome = true ↔ GivesCollation others) := by
  intro record
  obtain ⟨names, typings⟩ := Prod.mk.inj (heading_read name others notLone)
  obtain ⟨datatypes, collations⟩ := Prod.mk.inj typings
  obtain ⟨named, typed, collated⟩ := typing_takeDatatype (.ofJson name) others
  refine ⟨names.trans named, ?_, ?_⟩
  · rw [← typed, ← datatypes]
  · rw [← collated, ← collations]

/-! ## The keys of the body -/

variable {q : RangeQuery}

theorem keys_ownFields : q.ownFields.keys = ["range-operator", "range-option", "value"] := rfl

/-- Over an element with nothing beside it every part of the record has its key, and only the
type and the collation may be missing. -/
theorem mem_keys_body_of_single {reference : Fields Json none}
    (named : q.indexedName = .element reference) (single : reference.keys = ["element"])
    {key : String} :
    key ∈ q.body.keys ↔ key ∈ ["element", "range-operator", "range-option", "value"] ∨
      (key = "type" ∧ q.datatype.isSome = true) ∨
      (key = "collation" ∧ q.collation.isSome = true) := by
  have alone : q.indexedName.Single := by
    rw [named]
    exact single
  have brought : (q.indexedName.written? key).isSome = true ↔ key = "element" := by
    rw [named, IndexedName.written?, ← Fields.mem_keys_iff, single, List.mem_singleton]
  rw [Fields.mem_keys_iff, get?_body_of_single alone]
  by_cases collation : "collation" = key
  · subst collation
    simp
  · by_cases type : "type" = key
    · subst type
      simp
    · rw [if_neg collation, if_neg type, Option.isSome_or, Bool.or_eq_true, brought,
        ← Fields.mem_keys_iff, keys_ownFields]
      simp [Ne.symm collation, Ne.symm type]

end RangeQuery

open RangeQuery

/-- A reference, of whatever arguments it was built, is one field that holds a mapping. A range
query that begins with it is a mapping of one key over a body, and the body holds that mapping
as it is, no property, and exactly the fields of its own besides, of which the first argument
behind the reference decides on the type and the collation. -/
theorem range_over_elementReference (args : Arguments) :
    ∃ name : Fields Json none, elementReference args = .object [("element", .obj name)] ∧
      ∀ others : List Json,
        let query := (Query.range (elementReference args :: others)).result
        ∃ body : Fields Json none,
          query = Query.ofKind "range-query" (.obj body) ∧
          query.Reads "range-query" (.obj body) ∧
          body.get? "element" = some (.obj name) ∧
          body.get? "json-property" = none ∧
          ∀ key, key ∈ body.keys ↔
            key ∈ ["element", "range-operator", "range-option", "value"] ∨
              (key = "type" ∧ GivesType others) ∨ (key = "collation" ∧ GivesCollation others) := by
  obtain ⟨name, built⟩ := elementReference_eq_referenceTo args
  refine ⟨name, built, fun others => ?_⟩
  let record := (RangeQuery.read (elementReference args :: others)).result
  have notLone : others = [] → ∀ items, elementReference args ≠ .arr items := by
    rw [built]
    exact fun _ _ equal => by cases equal
  obtain ⟨named, typed, collated⟩ := typing_read (elementReference args) others notLone
  have reference : record.indexedName =
      .element (Fields.ofList [("element", Json.obj name)]) := by
    rw [named, built]
    rfl
  have alone : record.indexedName.Single := by
    rw [reference]
    rfl
  refine ⟨record.body, rfl, Query.reads_ofKind _ _, ?_, ?_, ?_⟩
  · rw [get?_body_element alone, reference]
    rfl
  · rw [get?_body_property alone, reference]
    rfl
  · intro key
    rw [mem_keys_body_of_single reference rfl, ← typed, ← collated]

/-- A name of two truthy parts and a datatype with a null collation, which is left out. -/
example : (Query.range [elementReference [.str "a", .str "b"],
    .object [("datatype", .str "xs:int"), ("collation", .null)]]).result.field? "collation" =
      none := rfl

end SearchQuery
