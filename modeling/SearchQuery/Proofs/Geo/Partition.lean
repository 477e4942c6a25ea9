import SearchQuery.Proofs.Geo.Coherence
import SearchQuery.Proofs.Query.Agreement

/-!
# Nothing is lost between the lists of shapes

A value goes into the list of the first of four fields that it has, and a field that is null
does not count. So each list is a part of the given values in their order, a value is in one
list at most and there as often as it was given, and those that are missing from all lists
are those with none of the fields. A shape has its kind already and its value is not looked
at: what is gathered from two lists of shapes is what each of them gives, side by side.
-/

namespace SearchQuery

/-- The first of four fields that the value has and that is not null. -/
def Json.shapeMark? (value : Json) : Option String :=
  ["latitude", "south", "radius", "point"].find? fun key => value.hasField key

open Classical in
/-- How many of the values agree with this one. -/
noncomputable def Agreement.occurrences (g : Agreement) (value : Json) (values : List Json) : Nat :=
  values.countP fun other => g.holds Json.same value other

namespace ShapeKind

theorem shapeMark?_eq (value : Json) : value.shapeMark? = (ofJson? value).map mark :=
  List.find?_map (f := mark) (l := all)

theorem mark_inj {a b : ShapeKind} : a.mark = b.mark ↔ a = b := by
  cases a <;> cases b <;> decide

theorem shapeMark?_eq_some_iff {value : Json} {kind : ShapeKind} :
    value.shapeMark? = some kind.mark ↔ ofJson? value = some kind := by
  rw [shapeMark?_eq, Option.map_eq_some_iff]
  constructor
  · rintro ⟨other, looks, marks⟩
    rwa [← mark_inj.mp marks]
  · exact fun looks => ⟨kind, looks, rfl⟩

theorem shapeMark?_eq_none_iff {value : Json} : value.shapeMark? = none ↔ ofJson? value = none := by
  rw [shapeMark?_eq, Option.map_eq_none_iff]

theorem shapeMark?_of_same {a b : Json} (h : a.same b = true) : a.shapeMark? = b.shapeMark? := by
  rw [shapeMark?_eq, shapeMark?_eq, ofJson?_of_same h]

end ShapeKind

namespace ShapeSet

/-- Two sets side by side, list by list. -/
def append (a b : ShapeSet) : ShapeSet where
  points := a.points ++ b.points
  boxes := a.boxes ++ b.boxes
  circles := a.circles ++ b.circles
  polygons := a.polygons ++ b.polygons

/-! ## Sets of shapes -/

theorem eq_of_filed {a b : ShapeSet} (equal : ∀ kind, a.filed kind = b.filed kind) : a = b := by
  obtain ⟨points, boxes, circles, polygons⟩ := a
  obtain ⟨points', boxes', circles', polygons'⟩ := b
  have samePoints : points = points' := equal .point
  have sameBoxes : boxes = boxes' := equal .box
  have sameCircles : circles = circles' := equal .circle
  have samePolygons : polygons = polygons' := equal .polygon
  rw [samePoints, sameBoxes, sameCircles, samePolygons]

theorem filed_append (a b : ShapeSet) (kind : ShapeKind) :
    (a.append b).filed kind = a.filed kind ++ b.filed kind := by
  cases kind <;> rfl

theorem ofList_append (a b : List Shape) : ofList (a ++ b) = (ofList a).append (ofList b) := by
  apply eq_of_filed
  intro kind
  rw [filed_append, filed_ofList, filed_ofList, filed_ofList, List.filter_append, List.map_append]

theorem size_push (set : ShapeSet) (shape : Shape) : (set.push shape).size = set.size + 1 := by
  obtain ⟨kind, value⟩ := shape
  cases kind <;> simp [push, size] <;> omega

theorem size_foldl_push (shapes : List Shape) (set : ShapeSet) :
    (shapes.foldl push set).size = set.size + shapes.length := by
  induction shapes generalizing set with
  | nil => rfl
  | cons shape rest ih =>
    rw [List.foldl_cons, ih, size_push, List.length_cons]
    omega

theorem size_ofList (shapes : List Shape) : (ofList shapes).size = shapes.length := by
  rw [ofList, size_foldl_push]
  exact Nat.zero_add shapes.length

/-! ## Values told by their looks -/

theorem filed_partition_marked (args : Arguments) (kind : ShapeKind) :
    (partition args).result.filed kind =
      args.spread.filter fun value => value.shapeMark? = some kind.mark := by
  simp only [filed_partition, ShapeKind.shapeMark?_eq_some_iff]

/-- The lists and the values left out of them make up all values. -/
theorem size_partition (args : Arguments) :
    (partition args).result.size + args.spread.countP (fun value => value.shapeMark? = none) =
      args.spread.length := by
  have listed : (partition args).result.size =
      args.spread.countP fun value => (Shape.ofJson? value).isSome := by
    rw [result_partition, size_ofList, List.length_filterMap_eq_countP]
  have missing : args.spread.countP (fun value => value.shapeMark? = none) =
      args.spread.countP fun value => ¬ (Shape.ofJson? value).isSome := by
    apply List.countP_congr
    intro value _
    simp [Shape.ofJson?_eq, ShapeKind.shapeMark?_eq_none_iff]
  rw [listed, missing]
  exact (List.length_eq_countP_add_countP _).symm

/-- A value is in the list of its own field as often as it was given, and in no other. -/
theorem occurrences_filed (g : Agreement) (value : Json) (args : Arguments) (kind : ShapeKind) :
    g.occurrences value ((partition args).result.filed kind) =
      if value.shapeMark? = some kind.mark then g.occurrences value args.spread else 0 := by
  classical
  have sameMark : ∀ other, g.holds Json.same value other →
      other.shapeMark? = value.shapeMark? := fun other agree =>
    (ShapeKind.shapeMark?_of_same (g.same_of_holds Json.same_self agree)).symm
  rw [filed_partition_marked, Agreement.occurrences, List.countP_filter]
  split
  · rename_i marked
    apply List.countP_congr
    intro other _
    simp only [Bool.and_eq_true, decide_eq_true_eq, and_iff_left_iff_imp]
    exact fun agree => (sameMark other agree).trans marked
  · rename_i unmarked
    rw [List.countP_eq_zero]
    intro other _ both
    simp only [Bool.and_eq_true, decide_eq_true_eq] at both
    exact unmarked ((sameMark other both.1).symm.trans both.2)

/-! ## The partition -/

/-- The four lists are the values marked by one field each, in their order; every marked
value is in one list only and as often as it was given; and the lists and the unmarked
values, which all values but mappings are, make up the whole. Pushing one list of shapes
after the other, gathering both at once, and joining the two sets list by list make one
set. It has as many values as there are shapes, each under the kind of its own shape. -/
theorem shapeLists_partition (args : Arguments) :
    let values := args.spread
    let set := (partition args).result
    let marked (mark : String) := values.filter fun value => value.shapeMark? = some mark
    (shapeLists args).result = .object [("point", .arr set.points), ("box", .arr set.boxes),
        ("circle", .arr set.circles), ("polygon", .arr set.polygons)] ∧
      (set.points = marked "latitude" ∧ set.boxes = marked "south" ∧
        set.circles = marked "radius" ∧ set.polygons = marked "point") ∧
      (∀ (g : Agreement) (value : Json), value ∈ values → value.shapeMark? ≠ none →
        ∃ kind, g.occurrences value (set.filed kind) = g.occurrences value values ∧
          ∀ other, other ≠ kind → g.occurrences value (set.filed other) = 0) ∧
      set.points.length + set.boxes.length + set.circles.length + set.polygons.length +
        values.countP (fun value => value.shapeMark? = none) = values.length ∧
      (∀ value : Json, value.isMapping = false → value.shapeMark? = none) ∧
      ∀ a b : List Shape,
        b.foldl push (a.foldl push {}) = ofList (a ++ b) ∧
          (ofList a).append (ofList b) = ofList (a ++ b) ∧
          (ofList (a ++ b)).size = a.length + b.length ∧
          ∀ kind, (ofList (a ++ b)).filed kind =
            ((a ++ b).filter fun shape => shape.kind = kind).map Shape.value := by
  intro values set marked
  refine ⟨rfl, ?_, ?_, size_partition args, ?_, ?_⟩
  · exact ⟨filed_partition_marked args .point, filed_partition_marked args .box,
      filed_partition_marked args .circle, filed_partition_marked args .polygon⟩
  · intro g value _ told
    obtain ⟨kind, looks⟩ := Option.ne_none_iff_exists'.mp
      (fun missing => told (ShapeKind.shapeMark?_eq_none_iff.mpr missing))
    have mark : value.shapeMark? = some kind.mark := ShapeKind.shapeMark?_eq_some_iff.mpr looks
    refine ⟨kind, ?_, ?_⟩
    · rw [occurrences_filed, if_pos mark]
    · intro other different
      rw [occurrences_filed, if_neg]
      intro mark'
      have looks' := ShapeKind.shapeMark?_eq_some_iff.mp mark'
      exact different (Option.some.inj (looks'.symm.trans looks))
  · intro value scalar
    cases value with
    | obj fields => cases scalar
    | _ => rfl
  · intro a b
    refine ⟨List.foldl_append.symm, (ofList_append a b).symm, ?_, filed_ofList (a ++ b)⟩
    rw [size_ofList, List.length_append]

/-- A field that is null is passed over for the next one, and a value given twice is in its
list twice. -/
theorem shapeLists_partition_null_latitude :
    let wide := Json.object [("latitude", .null), ("radius", .bool true), ("south", .bool false)]
    let cornered := Json.object [("point", .arr []), ("radius", .null)]
    let args : Arguments := [wide, .str "south", cornered, wide]
    let set := (partition args).result
    wide ∈ args.spread ∧ wide.shapeMark? ≠ none ∧
      (∃ kind, Agreement.equal.occurrences wide (set.filed kind) =
          Agreement.equal.occurrences wide args.spread ∧
        ∀ other, other ≠ kind → Agreement.equal.occurrences wide (set.filed other) = 0) ∧
      set.points = [] ∧ set.boxes = [wide, wide] ∧ set.circles = [] ∧
      set.polygons = [cornered] := by
  intro wide cornered args set
  have member : wide ∈ args.spread := List.mem_cons_self
  have told : wide.shapeMark? ≠ none := by decide
  obtain ⟨-, ⟨points, boxes, circles, polygons⟩, once, -⟩ := shapeLists_partition args
  exact ⟨member, told, once .equal wide member told, points.trans rfl, boxes.trans rfl,
    circles.trans rfl, polygons.trans rfl⟩

end ShapeSet

end SearchQuery
