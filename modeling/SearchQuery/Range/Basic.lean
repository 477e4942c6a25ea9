import SearchQuery.Comparison
import SearchQuery.Datatype
import SearchQuery.Query.Basic
import SearchQuery.Range.Name

/-!
# Range queries

A range query is a record of what is compared, how, and with which values. The
record is filled step by step and then written. A comparison that was never
chosen is written as equality but is not the same record as chosen equality.
Writing puts the comparison, the values and the options first; the fields of an
element reference follow and may replace them, and the datatype comes last.
-/

namespace SearchQuery

structure RangeQuery where
  indexedName : IndexedName
  datatype : Option Json := none
  collation : Option Json := none
  comparison : Option Comparison := none
  values : List Json := []
  options : List Json := []

namespace RangeQuery

/-- Sets the datatype and the collation together, so that a datatype without a
collation clears an earlier one. -/
def withDatatype (q : RangeQuery) (d : Datatype) : RangeQuery :=
  { q with
    datatype := some (.str d.schemaType.qualifiedName)
    collation := d.collation.map Json.str }

def withComparison (q : RangeQuery) (c : Comparison) : RangeQuery :=
  { q with comparison := some c }

/-- Adds a value; an array adds each of its items and null adds nothing. -/
def withValue (q : RangeQuery) (value : Json) : RangeQuery :=
  { q with values := q.values ++ value.elements }

def withOption (q : RangeQuery) (option : String) : RangeQuery :=
  { q with options := q.options ++ [.str option] }

/-- One step in filling a record. -/
inductive Step where
  | datatype (d : Datatype)
  | comparison (c : Comparison)
  | value (value : Json)
  | option (text : String)

def apply (q : RangeQuery) : Step → RangeQuery
  | .datatype d => q.withDatatype d
  | .comparison c => q.withComparison c
  | .value value => q.withValue value
  | .option text => q.withOption text

def applyAll (q : RangeQuery) (steps : List Step) : RangeQuery := steps.foldl apply q

def effectiveComparison (q : RangeQuery) : Comparison := q.comparison.getD default

def nameFields : IndexedName → List (String × Json)
  | .property name => [("json-property", name)]
  | .element reference => reference.toList

def body (q : RangeQuery) : Fields Json none :=
  Fields.nil
    |>.insert "range-operator" (.str q.effectiveComparison.name)
    |>.insert "value" (.arr q.values)
    |>.insert "range-option" (.arr q.options)
    |>.extend (nameFields q.indexedName)
    |>.insertSome "type" q.datatype
    |>.insertSome "collation" q.collation

def build (q : RangeQuery) : Query := Query.ofKind "range-query" (.obj q.body)

/-- Equality of records, field by field. -/
def same (a b : RangeQuery) : Bool :=
  a.indexedName.same b.indexedName && Json.sameOption a.datatype b.datatype &&
    Json.sameOption a.collation b.collation && a.comparison == b.comparison &&
    Json.sameItems a.values b.values && Json.sameItems a.options b.options

end RangeQuery

end SearchQuery
