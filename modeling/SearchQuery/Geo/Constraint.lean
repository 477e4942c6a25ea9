import SearchQuery.Geo.ShapeSet
import SearchQuery.Query.Basic

/-!
# Geospatial constraints

A geospatial constraint holds its name and one list for each kind of shape.
Bare values are unwrapped, spread and classified; shapes are taken as they are.
-/

namespace SearchQuery

/-- The lists of shapes by kind, as a value for a custom constraint. -/
def shapeLists (args : Arguments) : Traced Json := do
  let set ← ShapeSet.partition args
  return set.toJson

namespace Query

def ofShapeSet (name : String) (set : ShapeSet) : Query :=
  ofKind "geospatial-constraint-query"
    (.object (("constraint-name", .str name) :: set.entries))

def geospatialConstraint (name : String) (args : Arguments) : Traced Query := do
  let set ← ShapeSet.partition args.unwrapped
  return ofShapeSet name set

def shapesConstraint (name : String) (shapes : List Shape) : Query :=
  ofShapeSet name (ShapeSet.ofList shapes)

end Query

end SearchQuery
