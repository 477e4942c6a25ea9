import SearchQuery.Arguments
import SearchQuery.Comparison
import SearchQuery.Event
import SearchQuery.Failure
import SearchQuery.Query.Basic

/-!
# Range constraints

A constraint is a matching rule that the search service knows by name. A call on
a range constraint gives a comparison, values and options by position. Null in
the second or third place counts as nothing; where both hold nothing, the first
place holds the values. A comparison that is missing, null, `false` or empty is
equality. Any other value that names no comparison is refused and reported with
the text that the failure carries.
-/

namespace SearchQuery

/-- The three places of a call. -/
structure RangeCall where
  comparison : Option Json
  values : Json
  options : Json

namespace RangeCall

def ofArgs (args : Arguments) : RangeCall :=
  let given (place : Nat) : Option Json := args[place]?.filter fun value => !value.isNull
  match given 1, given 2 with
  | none, none => { comparison := none, values := args[0]?.getD .null, options := .null }
  | values, options =>
    { comparison := args[0]?, values := values.getD .null, options := options.getD .null }

/-- The comparison that a value asks for, or the text under which it is refused. -/
def choose : Option Json → Except String Comparison
  | none => .ok .equal
  | some .null => .ok .equal
  | some (.bool false) => .ok .equal
  | some (.str name) =>
    if name = "" then .ok .equal
    else
      match Comparison.ofName? name with
      | some c => .ok c
      | none => .error name
  | some other => .error other.text

end RangeCall

namespace Query

def rangeConstraintWith (name : String) (comparison : Comparison) (values options : Json) :
    Query :=
  ofKind "range-constraint-query" (.object [
    ("constraint-name", .str name),
    ("range-operator", .str comparison.name),
    ("value", .arr values.elements),
    ("range-option", .arr options.elements)])

def rangeConstraint (name : String) (args : Arguments) : Traced (Except QueryError Query) :=
  let call := RangeCall.ofArgs args
  match RangeCall.choose call.comparison with
  | .ok c => pure (.ok (rangeConstraintWith name c call.values call.options))
  | .error operator => do
    Traced.report (.operatorRejected name operator)
    return .error (.invalidOperator operator)

end Query

end SearchQuery
