import SearchQuery.Json.Fields
import SearchQuery.Number.Basic

/-!
# JSON values

A value is null, a boolean, a number, a string, an array or an object, and an
object keeps its fields in key order. Two objects with the same contents are the
same value. `depth` counts nested containers; `same` is equality of values, which
differs from identity only in that the two zeros of doubles are one value.
-/

namespace SearchQuery

inductive Json where
  | null
  | bool (value : Bool)
  | num (value : Number)
  | str (value : String)
  | arr (items : List Json)
  | obj (fields : Fields Json none)

namespace Json

instance : Inhabited Json := ⟨null⟩

/-- An object from its fields; a key given twice keeps the last value. -/
def object (entries : List (String × Json)) : Json := obj (Fields.ofList entries)

def ofUInt64 (n : UInt64) : Json := num (Number.ofUInt64 n)

mutual

/-- The greatest number of containers around one another; none for a scalar. -/
def depth : Json → Nat
  | arr items => itemsDepth items + 1
  | obj fields => fieldsDepth fields + 1
  | _ => 0
termination_by structural value => value

def itemsDepth : List Json → Nat
  | [] => 0
  | item :: rest => max item.depth (itemsDepth rest)
termination_by structural items => items

def fieldsDepth {low : Option String} : Fields Json low → Nat
  | .nil => 0
  | .cons _ _ value rest => max value.depth (fieldsDepth rest)
termination_by structural fields => fields

end

mutual

/-- Equality of values. -/
def same : Json → Json → Bool
  | null, null => true
  | bool a, bool b => a == b
  | num a, num b => a.same b
  | str a, str b => a == b
  | arr a, arr b => sameItems a b
  | obj a, obj b => sameFields a b
  | _, _ => false
termination_by structural value => value

def sameItems : List Json → List Json → Bool
  | [], [] => true
  | a :: as, b :: bs => a.same b && sameItems as bs
  | _, _ => false
termination_by structural items => items

def sameFields {low low' : Option String} : Fields Json low → Fields Json low' → Bool
  | .nil, .nil => true
  | .cons key _ a as, .cons key' _ b bs => key == key' && a.same b && sameFields as bs
  | _, _ => false
termination_by structural fields => fields

end

/-- Equality of values that may be missing. -/
def sameOption : Option Json → Option Json → Bool
  | none, none => true
  | some a, some b => a.same b
  | _, _ => false

end Json

end SearchQuery
