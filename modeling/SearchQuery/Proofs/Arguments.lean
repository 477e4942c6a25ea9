import SearchQuery.Arguments

/-!
# Spreading and unwrapping

The two calling forms of a list: its values one by one, or all of them in one
array. Values that stand for themselves alone come out of either form unchanged.
-/

namespace SearchQuery

namespace Arguments

/-- How a list of values is handed to a call. -/
inductive Form where
  | variadic
  | array
deriving DecidableEq

def Form.arguments : Form → List Json → Arguments
  | variadic, values => values
  | array, values => [.arr values]

variable {values : List Json}

/-- Neither null nor an array, so that it is taken as it is even when it comes alone. -/
def Plain : Json → Prop
  | .null => False
  | .arr _ => False
  | _ => True

theorem plain_texts (texts : List String) : ∀ value ∈ texts.map Json.str, Plain value := by
  intro value member
  obtain ⟨text, -, rfl⟩ := List.mem_map.mp member
  trivial

theorem elements_of_plain {value : Json} (plain : Plain value) : value.elements = [value] := by
  cases value with
  | null => cases plain
  | arr items => cases plain
  | _ => rfl

theorem flatMap_elements_of_plain (plain : ∀ value ∈ values, Plain value) :
    values.flatMap Json.elements = values := by
  induction values with
  | nil => rfl
  | cons value rest ih =>
    obtain ⟨first, others⟩ := List.forall_mem_cons.mp plain
    rw [List.flatMap_cons, elements_of_plain first, ih others]
    rfl

/-- One array and nothing beside it. -/
def LoneArray (values : List Json) : Prop := ∃ items, values = [.arr items]

theorem spread_of_not_lone (notNull : values ≠ [.null]) (notArray : ¬ LoneArray values) :
    spread values = values := by
  match values with
  | [] => rfl
  | [value] =>
    cases value with
    | null => exact absurd rfl notNull
    | arr items => exact absurd ⟨items, rfl⟩ notArray
    | _ => rfl
  | _ :: _ :: _ => rfl

theorem unwrapped_of_not_loneArray (notArray : ¬ LoneArray values) :
    unwrapped values = values := by
  match values with
  | [] => rfl
  | [value] =>
    cases value with
    | arr items => exact absurd ⟨items, rfl⟩ notArray
    | _ => rfl
  | first :: _ :: _ => cases first <;> rfl

theorem not_loneArray_of_plain (plain : ∀ value ∈ values, Plain value) : ¬ LoneArray values := by
  rintro ⟨items, rfl⟩
  exact plain (.arr items) List.mem_cons_self

theorem spread_eq_self (plain : ∀ value ∈ values, Plain value) : spread values = values := by
  have notNull : values ≠ [.null] := by
    rintro rfl
    exact plain .null List.mem_cons_self
  exact spread_of_not_lone notNull (not_loneArray_of_plain plain)

theorem unwrapped_eq_self (plain : ∀ value ∈ values, Plain value) : unwrapped values = values :=
  unwrapped_of_not_loneArray (not_loneArray_of_plain plain)

theorem spread_arguments (form : Form) (plain : ∀ value ∈ values, Plain value) :
    spread (form.arguments values) = values := by
  cases form with
  | variadic => exact spread_eq_self plain
  | array => rfl

theorem unwrapped_arguments (form : Form) (plain : ∀ value ∈ values, Plain value) :
    unwrapped (form.arguments values) = values := by
  cases form with
  | variadic => exact unwrapped_eq_self plain
  | array => rfl

/-- With a flag behind them the values are never a lone argument. -/
theorem spread_append_flag (flag : Bool) :
    spread (values ++ [.bool flag]) = values ++ [.bool flag] := by
  match values with
  | [] => rfl
  | [_] => rfl
  | _ :: _ :: _ => rfl

end Arguments

end SearchQuery
