import SearchQuery.Geo.ShapeSet

/-!
# What a set of shapes holds

A set gathered from shapes holds, under each kind, the values of the shapes of that
kind in their order. Bare values are filed under the kind that their fields tell,
and values of no kind are left out.
-/

namespace SearchQuery

namespace Shape

theorem ofJson?_eq (value : Json) :
    ofJson? value = (ShapeKind.ofJson? value).map fun kind => { kind, value } := by
  rw [ofJson?, ofJson]
  cases ShapeKind.ofJson? value <;> rfl

/-- What is handed back is the value as it came. -/
theorem eq_of_ofJson_error {value unfiled : Json} (refused : ofJson value = .error unfiled) :
    unfiled = value := by
  rw [ofJson] at refused
  split at refused
  · cases refused
  · exact (Except.error.inj refused).symm

end Shape

namespace ShapeSet

/-- The list of one kind. -/
def filed (set : ShapeSet) : ShapeKind → List Json
  | .point => set.points
  | .box => set.boxes
  | .circle => set.circles
  | .polygon => set.polygons

theorem filed_push (set : ShapeSet) (shape : Shape) (kind : ShapeKind) :
    (set.push shape).filed kind =
      set.filed kind ++ if shape.kind = kind then [shape.value] else [] := by
  obtain ⟨own, value⟩ := shape
  cases own <;> cases kind <;> simp [push, filed]

theorem filed_foldl_push (shapes : List Shape) (set : ShapeSet) (kind : ShapeKind) :
    (shapes.foldl push set).filed kind =
      set.filed kind ++ (shapes.filter fun shape => shape.kind = kind).map Shape.value := by
  induction shapes generalizing set with
  | nil => simp
  | cons shape rest ih =>
    rw [List.foldl_cons, ih, filed_push]
    by_cases own : shape.kind = kind
    · simp [own]
    · simp [own]

theorem filed_ofList (shapes : List Shape) (kind : ShapeKind) :
    (ofList shapes).filed kind =
      (shapes.filter fun shape => shape.kind = kind).map Shape.value := by
  rw [ofList, filed_foldl_push]
  cases kind <;> rfl

theorem result_classify (values : List Json) :
    (classify values).result = values.filterMap Shape.ofJson? := by
  induction values with
  | nil => rfl
  | cons value rest ih =>
    rw [classify, List.filterMap_cons, Shape.ofJson?]
    cases Shape.ofJson value with
    | error unfiled => exact ih
    | ok shape =>
      rw [← ih]
      rfl

theorem result_partition (args : Arguments) :
    (partition args).result = ofList (args.spread.filterMap Shape.ofJson?) := by
  rw [← result_classify]
  rfl

/-- A value is classified as a shape of this kind exactly when it looks like the kind. -/
theorem map_value_filter_ofJson? (value : Json) (kind : ShapeKind) :
    ((Shape.ofJson? value).filter fun shape => shape.kind = kind).map Shape.value =
      if ShapeKind.ofJson? value = some kind then some value else none := by
  rw [Shape.ofJson?_eq]
  cases ShapeKind.ofJson? value with
  | none => rfl
  | some own =>
    by_cases same : own = kind
    · rw [Option.map_some, Option.filter_some, if_pos (decide_eq_true same),
        if_pos (congrArg some same)]
      rfl
    · simp [same]

/-- Under each kind are the values that look like it, in their order. -/
theorem filed_partition (args : Arguments) (kind : ShapeKind) :
    (partition args).result.filed kind =
      args.spread.filter fun value => ShapeKind.ofJson? value = some kind := by
  rw [result_partition, filed_ofList, List.filter_filterMap, List.map_filterMap,
    ← List.filterMap_eq_filter]
  congr 1
  funext value
  rw [map_value_filter_ofJson?]
  simp [Option.guard]

/-- Whatever is filed after classification looks like its kind. -/
theorem kind_of_mem_partition {args : Arguments} {kind : ShapeKind} {value : Json}
    (member : value ∈ (partition args).result.filed kind) :
    ShapeKind.ofJson? value = some kind := by
  rw [filed_partition] at member
  exact of_decide_eq_true (List.mem_filter.mp member).2

end ShapeSet

end SearchQuery
