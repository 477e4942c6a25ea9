import SearchQuery.Event
import SearchQuery.Failure

/-!
# Datatypes of range indexes

An index holds values of one of nineteen schema types, and an index of strings
may have a collation. A type is known by its exact name, without the namespace
mark that stands before it in a written query.
-/

namespace SearchQuery

inductive SchemaType where
  | anyUri
  | date
  | dateTime
  | dayTimeDuration
  | decimal
  | double
  | float
  | gDay
  | gMonth
  | gMonthDay
  | gYear
  | gYearMonth
  | int
  | long
  | string
  | time
  | unsignedInt
  | unsignedLong
  | yearMonthDuration
deriving DecidableEq

namespace SchemaType

def all : List SchemaType :=
  [anyUri, date, dateTime, dayTimeDuration, decimal, double, float, gDay, gMonth, gMonthDay,
    gYear, gYearMonth, int, long, string, time, unsignedInt, unsignedLong, yearMonthDuration]

def name : SchemaType → String
  | anyUri => "anyURI"
  | date => "date"
  | dateTime => "dateTime"
  | dayTimeDuration => "dayTimeDuration"
  | decimal => "decimal"
  | double => "double"
  | float => "float"
  | gDay => "gDay"
  | gMonth => "gMonth"
  | gMonthDay => "gMonthDay"
  | gYear => "gYear"
  | gYearMonth => "gYearMonth"
  | int => "int"
  | long => "long"
  | string => "string"
  | time => "time"
  | unsignedInt => "unsignedInt"
  | unsignedLong => "unsignedLong"
  | yearMonthDuration => "yearMonthDuration"

def ofName? (name : String) : Option SchemaType := all.find? fun t => t.name = name

theorem ofName?_name (t : SchemaType) : ofName? t.name = some t := by
  cases t <;> rfl

def qualifiedName (t : SchemaType) : String := "xs:" ++ t.name

end SchemaType

structure Datatype where
  schemaType : SchemaType
  collation : Option String := none
deriving DecidableEq

namespace Datatype

def withCollation (d : Datatype) (collation : String) : Datatype :=
  { d with collation := some collation }

/-- Finds the type by name; a name that is not known is reported. -/
def read (name : String) (collation : Option String) : Traced (Except QueryError Datatype) :=
  match SchemaType.ofName? name with
  | some schemaType => pure (.ok { schemaType, collation })
  | none => do
    Traced.report (.datatypeRejected name)
    return .error (.unknownDatatype name)

def toJson (d : Datatype) : Json :=
  .obj (Fields.nil
    |>.insert "datatype" (.str d.schemaType.qualifiedName)
    |>.insertSome "collation" (d.collation.map Json.str))

end Datatype

end SearchQuery
