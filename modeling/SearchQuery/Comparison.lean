import SearchQuery.Decoding

/-!
# Comparisons

The six comparisons of a range. A range query gives them as symbols and a range
constraint as names; the written queries always hold the name.
-/

namespace SearchQuery

inductive Comparison where
  | less
  | lessOrEqual
  | greater
  | greaterOrEqual
  | equal
  | notEqual
deriving DecidableEq

namespace Comparison

def all : List Comparison :=
  [less, lessOrEqual, greater, greaterOrEqual, equal, notEqual]

/-- Equality, where nothing else is asked for. -/
instance : Inhabited Comparison := ⟨equal⟩

def name : Comparison → String
  | less => "LT"
  | lessOrEqual => "LE"
  | greater => "GT"
  | greaterOrEqual => "GE"
  | equal => "EQ"
  | notEqual => "NE"

def symbol : Comparison → String
  | less => "<"
  | lessOrEqual => "<="
  | greater => ">"
  | greaterOrEqual => ">="
  | equal => "="
  | notEqual => "!="

def ofName? (name : String) : Option Comparison := all.find? fun c => c.name = name

def ofSymbol? (symbol : String) : Option Comparison := all.find? fun c => c.symbol = symbol

theorem ofName?_name (c : Comparison) : ofName? c.name = some c := by
  cases c <;> rfl

theorem ofSymbol?_symbol (c : Comparison) : ofSymbol? c.symbol = some c := by
  cases c <;> rfl

theorem ofName?_eq_some_iff {name : String} {c : Comparison} :
    ofName? name = some c ↔ c.name = name := by
  constructor
  · intro found
    simpa [ofName?] using List.find?_some found
  · rintro rfl
    exact ofName?_name c

theorem ofSymbol?_eq_some_iff {symbol : String} {c : Comparison} :
    ofSymbol? symbol = some c ↔ c.symbol = symbol := by
  constructor
  · intro found
    simpa [ofSymbol?] using List.find?_some found
  · rintro rfl
    exact ofSymbol?_symbol c

theorem name_inj {a b : Comparison} : a.name = b.name ↔ a = b := by
  constructor
  · intro equal
    have found : ofName? b.name = some a := equal ▸ ofName?_name a
    exact Option.some.inj (found.symm.trans (ofName?_name b))
  · rintro rfl
    rfl

def decodeName (name : String) : Except DecodeError Comparison :=
  match ofName? name with
  | some c => .ok c
  | none => .error (.unknownVariant name (all.map Comparison.name))

/-- Reads a name, or a mapping of one name to null. The name is looked up before
its value is. -/
def ofJson : Json → Except DecodeError Comparison
  | .str name => decodeName name
  | .obj (.cons name _ value .nil) =>
    match decodeName name, value with
    | .ok c, .null => .ok c
    | .ok _, found => .error (.wrongType found .unit)
    | .error e, _ => .error e
  | .obj _ => .error .notOneKey
  | found => .error (.wrongType found .stringOrMap)

end Comparison

end SearchQuery
