import SearchQuery.Json.Writing

/-!
# Queries

A query is a JSON mapping whose only key names its kind and whose body stands
under that key. Any value can be taken for a query: one that is no mapping has
no kind and no body, and of several keys the first in key order counts.
-/

namespace SearchQuery

structure Query where
  json : Json

namespace Query

def ofKind (kind : String) (body : Json) : Query := ⟨.object [(kind, body)]⟩

def entry? (query : Query) : Option (String × Json) :=
  match query.json with
  | .obj fields => fields.first?
  | _ => none

def kind? (query : Query) : Option String := query.entry?.map Prod.fst

def body? (query : Query) : Option Json := query.entry?.map Prod.snd

/-- A field of the body. -/
def field? (query : Query) (key : String) : Option Json :=
  match query.body? with
  | some (.obj fields) => fields.get? key
  | _ => none

/-- What stands under a top-level key; null if nothing does. -/
def index (query : Query) (key : String) : Json :=
  match query.json with
  | .obj fields => (fields.get? key).getD .null
  | _ => .null

def text (query : Query) : String := query.json.text

/-- The JSON is a mapping of this key alone, and this stands under it. -/
def Reads (query : Query) (kind : String) (body : Json) : Prop :=
  ∃ root : Fields Json none, query.json = .obj root ∧ root.toList = [(kind, body)]

theorem reads_ofKind (kind : String) (body : Json) : (ofKind kind body).Reads kind body :=
  ⟨Fields.ofList [(kind, body)], rfl, rfl⟩

theorem field?_ofKind (kind : String) (fields : Fields Json none) (key : String) :
    (ofKind kind (.obj fields)).field? key = fields.get? key := rfl

end Query

end SearchQuery
