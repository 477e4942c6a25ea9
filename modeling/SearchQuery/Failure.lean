import SearchQuery.Decoding
import SearchQuery.Options.Environment

/-!
# Failures

The four ways in which a query or its options cannot be made. Each has a code
for programs and a message for people.
-/

namespace SearchQuery

inductive QueryError where
  | invalidOperator (operator : String)
  | unknownDatatype (name : String)
  | decoding (cause : DecodeError)
  | configuration (cause : ConfigError)

namespace QueryError

def code : QueryError → String
  | invalidOperator _ => "invalid_operator"
  | unknownDatatype _ => "unknown_datatype"
  | decoding _ => "serialization_error"
  | configuration _ => "configuration_error"

def message : QueryError → String
  | invalidOperator operator => "invalid rangeConstraint query operator: " ++ operator
  | unknownDatatype name => "Unknown datatype: " ++ name
  | decoding cause => "Serialization error: " ++ cause.message
  | configuration cause => "Configuration error: " ++ cause.message

end QueryError

end SearchQuery
