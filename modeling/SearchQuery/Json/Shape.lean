import SearchQuery.Json.Basic

/-!
# What a value looks like

Arguments are told apart by shape: whether a value is a mapping, whether it is
truthy, and which fields it carries. Null, `false`, a zero and the empty string
are not truthy; arrays and mappings always are, even empty ones.
-/

namespace SearchQuery.Json

def isNull : Json → Bool
  | null => true
  | _ => false

def isMapping : Json → Bool
  | obj _ => true
  | _ => false

/-- Arrays and mappings hold other values. -/
def isContainer : Json → Bool
  | arr _ => true
  | obj _ => true
  | _ => false

def string? : Json → Option String
  | str text => some text
  | _ => none

def isTruthy : Json → Bool
  | null => false
  | bool value => value
  | num value => !value.isZero
  | str text => text != ""
  | arr _ => true
  | obj _ => true

/-- A field of a mapping; other values have none. -/
def field? (value : Json) (key : String) : Option Json :=
  match value with
  | obj fields => fields.get? key
  | _ => none

def truthyField? (value : Json) (key : String) : Option Json :=
  (value.field? key).filter isTruthy

/-- The field is there and is not null. -/
def hasField (value : Json) (key : String) : Bool :=
  (value.field? key).any fun field => !field.isNull

end SearchQuery.Json
