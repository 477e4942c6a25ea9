import SearchQuery.Json.Writing
import SearchQuery.Text.Quoted

/-!
# Decoding failures

A typed value is decoded from JSON by shape. A failure names what was found and
what was expected in its place.
-/

namespace SearchQuery

/-- What a decoder expects. -/
inductive Expectation where
  | word
  | boolean
  | sequence
  | string
  | options
  | stringOrMap
  | unit
deriving DecidableEq

def Expectation.description : Expectation → String
  | word => "u64"
  | boolean => "a boolean"
  | sequence => "a sequence"
  | string => "a string"
  | options => "struct SearchOptions"
  | stringOrMap => "string or map"
  | unit => "unit"

/-- How a value is named in a message; containers only by their kind. -/
def Json.description : Json → String
  | .null => "null"
  | .bool value => "boolean `" ++ (if value then "true" else "false") ++ "`"
  | .num (.int value _) => "integer `" ++ String.ofList (Number.intChars value) ++ "`"
  | .num (.real value) => "floating point `" ++ String.ofList value.chars ++ "`"
  | .str value => "string " ++ Text.quoted value
  | .arr _ => "sequence"
  | .obj _ => "map"

inductive DecodeError where
  | wrongType (found : Json) (expected : Expectation)
  | negative (value : Int)
  | notOneKey
  | tooLong (length : Nat)
  | unknownVariant (name : String) (known : List String)

def DecodeError.message : DecodeError → String
  | wrongType found expected =>
    "invalid type: " ++ found.description ++ ", expected " ++ expected.description
  | negative value =>
    "invalid value: integer `" ++ String.ofList (Number.intChars value) ++ "`, expected u64"
  | notOneKey => "invalid value: map, expected map with a single key"
  | tooLong length =>
    "invalid length " ++ toString length ++ ", expected fewer elements in array"
  | unknownVariant name known =>
    "unknown variant `" ++ name ++ "`, expected one of " ++
      String.intercalate ", " (known.map fun variant => "`" ++ variant ++ "`")

end SearchQuery
