import SearchQuery.Json.Shape

/-!
# Arguments

A builder that takes one or more values can be given them one by one or in one
array. Spreading turns both calls into the same list: a lone null is no value at
all, a lone array is its items, and anything else is taken as given. Unwrapping
does the same except that it keeps a lone null. Neither looks into an array that
has company, and neither repeats: a lone array inside a lone array stays.
-/

namespace SearchQuery

/-- The values that one argument stands for when it comes alone. -/
def Json.elements : Json → List Json
  | .null => []
  | .arr items => items
  | value => [value]

/-- The arguments of a call as they were given. -/
abbrev Arguments := List Json

namespace Arguments

def spread : Arguments → List Json
  | [value] => value.elements
  | args => args

def unwrapped : Arguments → List Json
  | [.arr items] => items
  | args => args

end Arguments

end SearchQuery
