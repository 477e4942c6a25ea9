import SearchQuery.Arguments

/-!
# Names of indexed values

A range query compares the values of a JSON property or of an element. An
element is referred to by its qualified name, a namespace and a local name. A
mapping that carries a truthy `element` is an element reference, and all of its
fields go into the query; anything else is the name of a property.
-/

namespace SearchQuery

/-- One value is a local name; two are a namespace and a local name. -/
def qualifiedName (args : Arguments) : Json :=
  match args.spread with
  | [name] => .object [("ns", .null), ("name", name)]
  | values =>
    .object [("ns", values.getD 0 .null), ("name", values.getD 1 .null)]

/-- A mapping with a truthy namespace or local name is a qualified name already. -/
def isQualifiedName (value : Json) : Bool :=
  (value.truthyField? "ns").isSome || (value.truthyField? "name").isSome

def elementReference (args : Arguments) : Json :=
  let name := match args.spread with
    | [value] => if isQualifiedName value then value else qualifiedName [value]
    | values => qualifiedName (values.take 2)
  .object [("element", name)]

/-- Options of a range query in the form that its arguments take. -/
def rangeOptions (options : Arguments) : Json :=
  .object [("range-option", .arr options.spread)]

inductive IndexedName where
  | property (name : Json)
  | element (reference : Fields Json none)

namespace IndexedName

def ofJson : Json → IndexedName
  | .obj fields =>
    if (fields.get? "element").any Json.isTruthy then element fields else property (.obj fields)
  | name => property name

def ofString (name : String) : IndexedName := property (.str name)

def same : IndexedName → IndexedName → Bool
  | property a, property b => a.same b
  | element a, element b => Json.sameFields a b
  | _, _ => false

end IndexedName

end SearchQuery
