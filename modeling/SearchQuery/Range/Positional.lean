import SearchQuery.Range.Basic

/-!
# Positional range queries

The arguments of a positional range query are a name, an optional datatype, an
optional comparison symbol, and then values and options in any order. Which is
which is told by shape. The argument in the place of the comparison is a value
if it is no symbol, whatever else it looks like, and that is reported.
-/

namespace SearchQuery.RangeQuery

/-- A mapping with a truthy `datatype` in the first place is a datatype. -/
def takeDatatype (q : RangeQuery) : List Json → RangeQuery × List Json
  | [] => (q, [])
  | arg :: rest =>
    match arg.truthyField? "datatype" with
    | none => (q, arg :: rest)
    | some datatype =>
      let collation := (arg.field? "collation").filter fun c => !c.isNull
      ({ q with datatype := some datatype, collation }, rest)

def takeComparison (q : RangeQuery) : List Json → Traced (RangeQuery × List Json)
  | [] => pure (q, [])
  | candidate :: rest =>
    match candidate.string?.bind Comparison.ofSymbol? with
    | some c => pure (q.withComparison c, rest)
    | none => do
      Traced.report (.candidateTakenAsValue candidate)
      return (q.withValue candidate, rest)

/-- A mapping with a truthy `range-option` adds options, any other argument adds
values. -/
def takeArgument (q : RangeQuery) (arg : Json) : RangeQuery :=
  match arg.truthyField? "range-option" with
  | some options => { q with options := q.options ++ options.elements }
  | none => q.withValue arg

def read (args : Arguments) : Traced RangeQuery := do
  let values := args.spread
  let named : RangeQuery := { indexedName := .ofJson (values.headD .null) }
  let (typed, others) := takeDatatype named values.tail
  let (compared, others) ← takeComparison typed others
  return others.foldl takeArgument compared

end SearchQuery.RangeQuery

namespace SearchQuery.Query

def range (args : Arguments) : Traced Query := do
  let record ← RangeQuery.read args
  return record.build

end SearchQuery.Query
