import SearchQuery.Constraint.Range

/-!
# Constraint queries

Beside ranges a named constraint can be on a value, a word, a collection or
whatever the service makes of a custom one. A value constraint files its values
under the type of the first. A custom constraint given mappings only takes their
fields as its own, later ones first; given anything else it keeps the scalars as
text and reports how many values it left out.
-/

namespace SearchQuery.Query

/-- The key that values of this type stand under. -/
def valueKey : Option Json → String
  | none => "text"
  | some (.str _) => "text"
  | some (.num _) => "number"
  | some (.bool _) => "boolean"
  | some _ => "object"

def valueEntry : Arguments → String × List Json
  | [.null] => ("null", [])
  | args => (valueKey args.spread.head?, args.spread)

def valueConstraint (name : String) (args : Arguments) : Query :=
  let (key, values) := valueEntry args
  ofKind "value-constraint-query" (.object [("constraint-name", .str name), (key, .arr values)])

def wordConstraint (name : String) (args : Arguments) : Query :=
  ofKind "word-constraint-query"
    (.object [("constraint-name", .str name), ("text", .arr args.spread)])

def collectionConstraint (name : String) (args : Arguments) : Query :=
  ofKind "collection-constraint-query"
    (.object [("constraint-name", .str name), ("uri", .arr args.spread)])

/-- The fields of a mapping; other values have none. -/
def mappingFields : Json → List (String × Json)
  | .obj fields => fields.toList
  | _ => []

def isAllMappings (values : List Json) : Bool := !values.isEmpty && values.all Json.isMapping

/-- The values that can stand in a text: those that hold no others. -/
def textValues (values : List Json) : List Json := values.filter fun value => !value.isContainer

def customBody (name : String) (values : List Json) : Fields Json none :=
  let named := Fields.nil.insert "constraint-name" (.str name)
  if isAllMappings values then
    named.extend (values.flatMap mappingFields)
  else
    named.insert "text" (.arr (textValues values))

/-- How many values a custom constraint leaves out. -/
def discardedCount (values : List Json) : Nat :=
  if isAllMappings values then 0 else values.length - (textValues values).length

def customConstraint (name : String) (args : Arguments) : Traced Query := do
  let values := args.unwrapped
  if 0 < discardedCount values then
    Traced.report (.valuesDiscarded name (discardedCount values))
  return ofKind "custom-constraint-query" (.obj (customBody name values))

/-- The state of a named operator of the service, such as a sort order. -/
def operatorState (name state : String) : Query :=
  ofKind "operator-state" (.object [("operator-name", .str name), ("state-name", .str state)])

end SearchQuery.Query

namespace SearchQuery

inductive ConstraintKind where
  | range
  | value
  | word
  | custom
  | collection
deriving DecidableEq

namespace ConstraintKind

instance : Inhabited ConstraintKind := ⟨range⟩

/-- Every name that is not one of the other four means a range. -/
def ofName : Option String → ConstraintKind
  | some "value" => value
  | some "word" => word
  | some "custom" => custom
  | some "collection" => collection
  | _ => range

def build (kind : ConstraintKind) (name : String) (args : Arguments) :
    Traced (Except QueryError Query) :=
  match kind with
  | range => Query.rangeConstraint name args
  | value => pure (.ok (Query.valueConstraint name args))
  | word => pure (.ok (Query.wordConstraint name args))
  | custom => do return .ok (← Query.customConstraint name args)
  | collection => pure (.ok (Query.collectionConstraint name args))

end ConstraintKind

end SearchQuery
