import SearchQuery.Json.Shape

/-!
# Geospatial shapes

A shape is a JSON value filed under one of four kinds. The kind of a bare value
is told by the first of four fields that it carries and that is not null, in a
fixed order: a circle has a `point` too, so its radius is looked for before it.
Shapes can also be built from coordinates. A coordinate that is not finite is
written as null, so a shape built from it may look like another kind or none.
-/

namespace SearchQuery

inductive ShapeKind where
  | point
  | box
  | circle
  | polygon
deriving DecidableEq

namespace ShapeKind

/-- In the order in which their fields are looked for. -/
def all : List ShapeKind := [point, box, circle, polygon]

/-- The name of the list that shapes of this kind are gathered in. -/
def key : ShapeKind → String
  | point => "point"
  | box => "box"
  | circle => "circle"
  | polygon => "polygon"

/-- The field that tells this kind. -/
def mark : ShapeKind → String
  | point => "latitude"
  | box => "south"
  | circle => "radius"
  | polygon => "point"

def ofJson? (value : Json) : Option ShapeKind := all.find? fun kind => value.hasField kind.mark

end ShapeKind

structure Shape where
  kind : ShapeKind
  value : Json

inductive Coordinate where
  | finite (value : Binary64)
  | notFinite
deriving DecidableEq

namespace Coordinate

def ofNumber (n : Number) : Coordinate :=
  match n.toBinary64? with
  | some value => finite value
  | none => notFinite

def isFinite : Coordinate → Bool
  | finite _ => true
  | notFinite => false

def toJson : Coordinate → Json
  | finite value => .num (.real value)
  | notFinite => .null

end Coordinate

namespace Shape

/-- A value of no kind is handed back. -/
def ofJson (value : Json) : Except Json Shape :=
  match ShapeKind.ofJson? value with
  | some kind => .ok { kind, value }
  | none => .error value

/-- The shape that a value is taken for, if it is of some kind. -/
def ofJson? (value : Json) : Option Shape := (ofJson value).toOption

def place (latitude longitude : Coordinate) : Json :=
  .object [("latitude", latitude.toJson), ("longitude", longitude.toJson)]

def point (latitude longitude : Coordinate) : Shape :=
  { kind := .point, value := place latitude longitude }

def box (south west north east : Coordinate) : Shape :=
  { kind := .box
    value := .object [
      ("south", south.toJson), ("west", west.toJson),
      ("north", north.toJson), ("east", east.toJson)] }

def circle (radius latitude longitude : Coordinate) : Shape :=
  { kind := .circle
    value := .object [("radius", radius.toJson), ("point", place latitude longitude)] }

/-- A polygon from the latitudes and longitudes of its vertices. -/
def polygon (vertices : List (Coordinate × Coordinate)) : Shape :=
  { kind := .polygon
    value := .object [("point", .arr (vertices.map fun vertex => place vertex.1 vertex.2))] }

end Shape

end SearchQuery
