import SearchQuery.Constraint.Basic
import SearchQuery.Geo.Constraint
import SearchQuery.Proofs.Arguments
import SearchQuery.Proofs.Geo.ShapeSet
import SearchQuery.Proofs.Query.Equality

/-!
# Shapes filed by their own kind and by their looks

A constraint on shapes files each value under the kind of its shape, and one on
bare values under the kind that the value looks like. Both are the same constraint
exactly when every shape looks like its own kind. A list of shapes in which two
misfiled values stand in for one another is no exception: whatever the bare
constraint files under a kind looks like that kind.
-/

namespace SearchQuery

/-- The value looks like the kind that the shape has. -/
def Shape.Coherent (shape : Shape) : Prop := Shape.ofJson shape.value = .ok shape

theorem Shape.coherent_iff (shape : Shape) :
    shape.Coherent ↔ ShapeKind.ofJson? shape.value = some shape.kind := by
  obtain ⟨kind, value⟩ := shape
  rw [Coherent, ofJson]
  cases ShapeKind.ofJson? value <;> simp

instance (shape : Shape) : Decidable shape.Coherent :=
  decidable_of_iff _ shape.coherent_iff.symm

/-- Only objects look like a shape. -/
theorem ShapeKind.plain_of_ofJson? {value : Json} {kind : ShapeKind}
    (looks : ShapeKind.ofJson? value = some kind) : Arguments.Plain value := by
  have marked : value.hasField kind.mark = true := by
    simpa [ShapeKind.ofJson?] using List.find?_some looks
  cases value with
  | obj fields => trivial
  | _ => cases marked

theorem ShapeKind.ofJson?_of_same {a b : Json} (h : a.same b = true) :
    ShapeKind.ofJson? a = ShapeKind.ofJson? b := by
  simp only [ShapeKind.ofJson?, Json.hasField_of_same h]

namespace Query

variable {shapes : List Shape}

/-! ## Coherent shapes -/

theorem filterMap_ofJson?_values (coherent : ∀ shape ∈ shapes, shape.Coherent) :
    (shapes.map Shape.value).filterMap Shape.ofJson? = shapes := by
  induction shapes with
  | nil => rfl
  | cons shape rest ih =>
    obtain ⟨first, others⟩ := List.forall_mem_cons.mp coherent
    have looked : Shape.ofJson? shape.value = some shape := congrArg Except.toOption first
    rw [List.map_cons, List.filterMap_cons, looked, ih others]

theorem plain_values (coherent : ∀ shape ∈ shapes, shape.Coherent) :
    ∀ value ∈ shapes.map Shape.value, Arguments.Plain value := by
  intro value member
  obtain ⟨shape, found, rfl⟩ := List.mem_map.mp member
  exact ShapeKind.plain_of_ofJson? (shape.coherent_iff.mp (coherent shape found))

/-- In either calling form the values of coherent shapes make up the set of the shapes. -/
theorem partition_values (form : Arguments.Form) (coherent : ∀ shape ∈ shapes, shape.Coherent) :
    (ShapeSet.partition (form.arguments (shapes.map Shape.value))).result =
      ShapeSet.ofList shapes := by
  rw [ShapeSet.result_partition, Arguments.spread_arguments form (plain_values coherent),
    filterMap_ofJson?_values coherent]

theorem geospatialConstraint_values (name : String) (form : Arguments.Form)
    (coherent : ∀ shape ∈ shapes, shape.Coherent) :
    (geospatialConstraint name (form.arguments (shapes.map Shape.value))).result =
      shapesConstraint name shapes := by
  have plain := plain_values coherent
  have partitioned := partition_values .variadic coherent
  have unwrapped : (geospatialConstraint name (form.arguments (shapes.map Shape.value))).result =
      ofShapeSet name (ShapeSet.partition
        (Arguments.unwrapped (form.arguments (shapes.map Shape.value)))).result := rfl
  rw [unwrapped, Arguments.unwrapped_arguments form plain]
  exact congrArg (ofShapeSet name) partitioned

/-- A custom constraint on the lists of a set has the body of the constraint on the set. -/
theorem body?_customConstraint_toJson (name : String) (set : ShapeSet) :
    (customConstraint name [set.toJson]).result.body? = (ofShapeSet name set).body? := by
  have custom : (customConstraint name [set.toJson]).result.body? =
      some (.obj (customBody name [set.toJson])) := rfl
  have own : (ofShapeSet name set).body? =
      some (.object (("constraint-name", .str name) :: set.entries)) := rfl
  have merged : customBody name [set.toJson] =
      (Fields.nil.insert "constraint-name" (.str name)).extend
        ((Fields.ofList set.entries).toList ++ []) := rfl
  rw [custom, own, merged, List.append_nil, Fields.extend_toList_ofList]
  rfl

/-! ## Equal constraints -/

theorem get?_shapeEntries (name : String) (set : ShapeSet) (kind : ShapeKind) :
    (Fields.ofList (("constraint-name", .str name) :: set.entries)).get? kind.key =
      some (.arr (set.filed kind)) := by
  cases kind <;> simp [Fields.ofList, ShapeSet.entries, ShapeSet.filed, ShapeKind.key]

/-- Equal constraints hold equal values under every kind. -/
theorem filed_same_of_ofShapeSet_same {name : String} {a b : ShapeSet}
    (h : (ofShapeSet name a).json.same (ofShapeSet name b).json = true) (kind : ShapeKind) :
    Json.sameItems (a.filed kind) (b.filed kind) = true := by
  have bodies := body_same_of_ofKind_same h
  have lists := Json.same_of_field? bodies (get?_shapeEntries name a kind)
    (get?_shapeEntries name b kind)
  rwa [Json.same] at lists

/-- A shape whose value is filed under its kind by looks is coherent. -/
theorem coherent_of_same {name : String} {args : Arguments}
    (h : (shapesConstraint name shapes).json.same (geospatialConstraint name args).result.json =
      true) : ∀ shape ∈ shapes, shape.Coherent := by
  intro shape member
  have lists := filed_same_of_ofShapeSet_same h shape.kind
  have own : shape.value ∈ (ShapeSet.ofList shapes).filed shape.kind := by
    rw [ShapeSet.filed_ofList]
    exact List.mem_map_of_mem (List.mem_filter.mpr ⟨member, decide_eq_true rfl⟩)
  obtain ⟨value, filed, same⟩ := Json.exists_same_of_mem lists shape.value own
  rw [Shape.coherent_iff, ShapeKind.ofJson?_of_same same]
  exact ShapeSet.kind_of_mem_partition filed

/-! ## The two constraints -/

/-- In either calling form the constraint on the bare values is the constraint on the
shapes, by identity or by equality of values, exactly when all shapes are coherent; and
then a custom constraint on the lists of the values has the same body. -/
theorem shapesConstraint_eq_geospatialConstraint_iff (name : String) (shapes : List Shape) :
    let values := shapes.map Shape.value
    let typed := shapesConstraint name shapes
    (∀ form : Arguments.Form,
      let sniffed := (geospatialConstraint name (form.arguments values)).result
      (typed = sniffed ↔ ∀ shape ∈ shapes, shape.Coherent) ∧
        (typed.json.same sniffed.json = true ↔ ∀ shape ∈ shapes, shape.Coherent)) ∧
      ((∀ shape ∈ shapes, shape.Coherent) → ∀ form : Arguments.Form,
        (customConstraint name [(shapeLists (form.arguments values)).result]).result.body? =
          typed.body?) := by
  intro values typed
  refine ⟨?_, ?_⟩
  · intro form sniffed
    have equal : (∀ shape ∈ shapes, shape.Coherent) → typed = sniffed := fun coherent =>
      (geospatialConstraint_values name form coherent).symm
    have same : typed = sniffed → typed.json.same sniffed.json = true := by
      intro h
      rw [← h]
      exact Json.same_self typed.json
    constructor
    · exact ⟨fun h => coherent_of_same (same h), equal⟩
    · exact ⟨coherent_of_same, fun coherent => same (equal coherent)⟩
  · intro coherent form
    have lists : (shapeLists (form.arguments values)).result = (ShapeSet.ofList shapes).toJson :=
      congrArg ShapeSet.toJson (partition_values form coherent)
    rw [lists]
    exact body?_customConstraint_toJson name (ShapeSet.ofList shapes)

/-- A circle, which has the field of a polygon too, and a polygon come back under their
kinds from one list. Filed under one another's kinds they make up another constraint
than their values do. -/
theorem geospatialConstraint_circle_polygon :
    let round := Json.object [("point", .object []), ("radius", .num (.int 3 (by decide)))]
    let cornered := Json.object [("point", .arr [])]
    let own : List Shape := [⟨.circle, round⟩, ⟨.polygon, cornered⟩]
    let swapped : List Shape := [⟨.polygon, round⟩, ⟨.circle, cornered⟩]
    (∀ shape ∈ own, shape.Coherent) ∧
      shapesConstraint "area" own = (geospatialConstraint "area" [.arr [round, cornered]]).result ∧
      (customConstraint "area" [(shapeLists [round, cornered]).result]).result.body? =
        (shapesConstraint "area" own).body? ∧
      shapesConstraint "area" swapped ≠
        (geospatialConstraint "area" [round, cornered]).result := by
  intro round cornered own swapped
  have coherent : ∀ shape ∈ own, shape.Coherent := by decide
  have misfiled : ¬ ∀ shape ∈ swapped, shape.Coherent := by decide
  obtain ⟨constraints, bodies⟩ := shapesConstraint_eq_geospatialConstraint_iff "area" own
  obtain ⟨others, -⟩ := shapesConstraint_eq_geospatialConstraint_iff "area" swapped
  refine ⟨coherent, (constraints .array).1.mpr coherent, bodies coherent .variadic, ?_⟩
  intro equal
  exact misfiled ((others .variadic).1.mp equal)

end Query

end SearchQuery
