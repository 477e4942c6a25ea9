import SearchQuery.Proofs.Geo.ShapeSet

/-!
# What built shapes look like

One coordinate tells the kind of a built shape: the latitude of a point, the south of a
box and the radius of a circle. It is null unless it is finite, and a null field does not
count. The field that tells a polygon is the list of its vertices, which is never null.
-/

namespace SearchQuery

@[simp] theorem Coordinate.isNull_toJson (coordinate : Coordinate) :
    coordinate.toJson.isNull = !coordinate.isFinite := by
  cases coordinate <;> rfl

/-- The kinds whose field the value has, in the order in which they are looked for. -/
def ShapeKind.carried (value : Json) : List ShapeKind :=
  all.filter fun kind => value.hasField kind.mark

namespace Shape

/-! ## The kinds whose fields a built shape has -/

theorem ofJson_of_carried {value : Json} {kinds : List ShapeKind}
    (carried : ShapeKind.carried value = kinds) :
    ofJson value =
      match kinds.head? with
      | some kind => .ok { kind, value }
      | none => .error value := by
  rw [← carried, ShapeKind.carried, List.head?_filter]
  rfl

theorem carried_point (latitude longitude : Coordinate) :
    ShapeKind.carried (point latitude longitude).value =
      if latitude.isFinite then [.point] else [] := by
  cases finite : latitude.isFinite <;>
    simp [ShapeKind.carried, ShapeKind.all, ShapeKind.mark, point, place,
      Json.object, Fields.ofList, Json.hasField, Json.field?, finite]

theorem carried_box (south west north east : Coordinate) :
    ShapeKind.carried (box south west north east).value =
      if south.isFinite then [.box] else [] := by
  cases finite : south.isFinite <;>
    simp [ShapeKind.carried, ShapeKind.all, ShapeKind.mark, box,
      Json.object, Fields.ofList, Json.hasField, Json.field?, finite]

/-- A circle has the field of a polygon too, and nothing else without a finite radius. -/
theorem carried_circle (radius latitude longitude : Coordinate) :
    ShapeKind.carried (circle radius latitude longitude).value =
      if radius.isFinite then [.circle, .polygon] else [.polygon] := by
  have center : (place latitude longitude).isNull = false := rfl
  cases finite : radius.isFinite <;>
    simp [ShapeKind.carried, ShapeKind.all, ShapeKind.mark, circle, center,
      Json.object, Fields.ofList, Json.hasField, Json.field?, finite]

theorem carried_polygon (vertices : List (Coordinate × Coordinate)) :
    ShapeKind.carried (polygon vertices).value = [.polygon] := by
  simp [ShapeKind.carried, ShapeKind.all, ShapeKind.mark, polygon,
    Json.object, Fields.ofList, Json.hasField, Json.field?, Json.isNull]

/-! ## What the shapes are taken for -/

/-- A value that is handed back is reported. -/
theorem classify_single (value : Json) :
    ShapeSet.classify [value] =
      match ofJson value with
      | .ok shape => pure [shape]
      | .error unfiled => ⟨[.shapeDropped unfiled], []⟩ := by
  rw [ShapeSet.classify]
  cases ofJson value <;> rfl

/-- A shape whose value has the field of its own kind, if that is finite, and none of the
others that are looked for. -/
theorem ofJson_of_carried_own {shape : Shape} {finite : Bool}
    (carried : ShapeKind.carried shape.value = if finite then [shape.kind] else []) :
    (ofJson shape.value = .ok shape ↔ finite = true) ∧
      ofJson shape.value = (if finite then .ok shape else .error shape.value) ∧
      ShapeSet.classify [shape.value] =
        if finite then pure [shape] else ⟨[.shapeDropped shape.value], []⟩ := by
  rw [classify_single, ofJson_of_carried carried]
  cases finite with
  | true => exact ⟨iff_of_true rfl rfl, rfl, rfl⟩
  | false => exact ⟨iff_of_false nofun nofun, rfl, rfl⟩

theorem ofJson_circle (radius latitude longitude : Coordinate) :
    ofJson (circle radius latitude longitude).value =
      .ok (if radius.isFinite then circle radius latitude longitude
        else { kind := .polygon, value := (circle radius latitude longitude).value }) := by
  rw [ofJson_of_carried (carried_circle radius latitude longitude)]
  cases radius.isFinite <;> rfl

theorem ofJson_polygon (vertices : List (Coordinate × Coordinate)) :
    ofJson (polygon vertices).value = .ok (polygon vertices) :=
  ofJson_of_carried (carried_polygon vertices)

/-- A built point or box is taken for itself exactly when its telling coordinate is finite;
otherwise its value is handed back, and dropped from a list. A circle without a finite radius
is taken for a polygon, and a polygon for itself. Nothing else about the coordinates matters. -/
theorem ofJson_built :
    (∀ latitude longitude : Coordinate,
      let shape := point latitude longitude
      (ofJson shape.value = .ok shape ↔ latitude.isFinite = true) ∧
        ofJson shape.value = (if latitude.isFinite then .ok shape else .error shape.value) ∧
        ShapeSet.classify [shape.value] =
          if latitude.isFinite then pure [shape] else ⟨[.shapeDropped shape.value], []⟩) ∧
    (∀ south west north east : Coordinate,
      let shape := box south west north east
      (ofJson shape.value = .ok shape ↔ south.isFinite = true) ∧
        ofJson shape.value = (if south.isFinite then .ok shape else .error shape.value) ∧
        ShapeSet.classify [shape.value] =
          if south.isFinite then pure [shape] else ⟨[.shapeDropped shape.value], []⟩) ∧
    (∀ radius latitude longitude : Coordinate,
      let shape := circle radius latitude longitude
      let taken : Shape := if radius.isFinite then shape else { shape with kind := .polygon }
      (ofJson shape.value = .ok shape ↔ radius.isFinite = true) ∧
        ofJson shape.value = .ok taken ∧
        ShapeSet.classify [shape.value] = pure [taken]) ∧
    (∀ vertices : List (Coordinate × Coordinate),
      let shape := polygon vertices
      ofJson shape.value = .ok shape ∧ ShapeSet.classify [shape.value] = pure [shape]) := by
  refine ⟨?point, ?box, ?circle, ?polygon⟩
  case point =>
    intro latitude longitude shape
    exact ofJson_of_carried_own (carried_point latitude longitude)
  case box =>
    intro south west north east shape
    exact ofJson_of_carried_own (carried_box south west north east)
  case circle =>
    intro radius latitude longitude shape taken
    have told : ofJson shape.value = .ok taken := ofJson_circle radius latitude longitude
    refine ⟨?_, told, ?_⟩
    · rw [told]
      cases finite : radius.isFinite with
      | true => exact iff_of_true (by simp [taken, finite]) rfl
      | false =>
        have other : taken.kind ≠ shape.kind := by simp [taken, finite, shape, circle]
        exact iff_of_false (fun same => other (congrArg kind (Except.ok.inj same))) nofun
    · rw [classify_single, told]
  case polygon =>
    intro vertices shape
    rw [classify_single, ofJson_polygon]
    exact ⟨rfl, rfl⟩

end Shape

end SearchQuery
