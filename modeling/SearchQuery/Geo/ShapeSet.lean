import SearchQuery.Arguments
import SearchQuery.Event
import SearchQuery.Geo.Shape

/-!
# Sets of shapes

A set of shapes keeps one list for each kind, in the order in which the shapes
came. A shape is filed under its own kind whatever its value looks like. Bare
values are classified first, and those of no kind are dropped and reported.
-/

namespace SearchQuery

structure ShapeSet where
  points : List Json := []
  boxes : List Json := []
  circles : List Json := []
  polygons : List Json := []

namespace ShapeSet

def push (set : ShapeSet) (shape : Shape) : ShapeSet :=
  match shape.kind with
  | .point => { set with points := set.points ++ [shape.value] }
  | .box => { set with boxes := set.boxes ++ [shape.value] }
  | .circle => { set with circles := set.circles ++ [shape.value] }
  | .polygon => { set with polygons := set.polygons ++ [shape.value] }

def ofList (shapes : List Shape) : ShapeSet := shapes.foldl push {}

def size (set : ShapeSet) : Nat :=
  set.points.length + set.boxes.length + set.circles.length + set.polygons.length

def isEmpty (set : ShapeSet) : Bool := set.size == 0

def entries (set : ShapeSet) : List (String × Json) :=
  [("point", .arr set.points), ("box", .arr set.boxes),
    ("circle", .arr set.circles), ("polygon", .arr set.polygons)]

def toJson (set : ShapeSet) : Json := .object set.entries

def same (a b : ShapeSet) : Bool :=
  Json.sameItems a.points b.points && Json.sameItems a.boxes b.boxes &&
    Json.sameItems a.circles b.circles && Json.sameItems a.polygons b.polygons

/-- The shapes among the values; each of the others is reported. -/
def classify : List Json → Traced (List Shape)
  | [] => pure []
  | value :: rest =>
    match Shape.ofJson value with
    | .ok shape => do return shape :: (← classify rest)
    | .error unfiled => do
      Traced.report (.shapeDropped unfiled)
      classify rest

def partition (args : Arguments) : Traced ShapeSet := do
  return ofList (← classify args.spread)

end ShapeSet

end SearchQuery
