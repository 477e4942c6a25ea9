import Mathlib.Dynamics.FixedPoints.Basic
import SearchQuery.Proofs.CallingForms
import SearchQuery.Proofs.Query.Agreement

/-!
# Unwrapping to the end

Neither spreading nor unwrapping is done with a list in one step: what was inside a lone array
may be a lone array again. Repeated, both come to an end, since a step that changes anything
takes one level of nesting away or drops null alone. They end in the same list except that
null alone is left by unwrapping and dropped by spreading, for which spreading may take one step
more than there are levels.
-/

namespace SearchQuery.Arguments

open Function (IsFixedPt)
open Json (itemsDepth)

variable {values : List Json}

/-! ## Lists that a step leaves as they are -/

/-- Spreading leaves a list as it is, by identity or by equality of values, exactly if the list
is neither null alone nor one array alone. -/
theorem holds_spread_iff (g : Agreement) :
    g.holds Json.sameItems values (spread values) ↔ values ≠ [.null] ∧ ¬ LoneArray values := by
  constructor
  · exact fun h => not_lone_of_sameItems_spread (g.same_of_holds Json.sameItems_self h)
  · rintro ⟨notNull, notArray⟩
    rw [spread_of_not_lone notNull notArray]
    exact g.holds_self Json.sameItems_self values

theorem holds_unwrapped_iff (g : Agreement) :
    g.holds Json.sameItems values (unwrapped values) ↔ ¬ LoneArray values := by
  constructor
  · exact fun h => not_loneArray_of_sameItems_unwrapped (g.same_of_holds Json.sameItems_self h)
  · intro notArray
    rw [unwrapped_of_not_loneArray notArray]
    exact g.holds_self Json.sameItems_self values

theorem isFixedPt_spread_iff : IsFixedPt spread values ↔ values ≠ [.null] ∧ ¬ LoneArray values :=
  eq_comm.trans (holds_spread_iff .identical)

theorem isFixedPt_unwrapped_iff : IsFixedPt unwrapped values ↔ ¬ LoneArray values :=
  eq_comm.trans (holds_unwrapped_iff .identical)

/-! ## Unwrapping as often as the values are nested -/

/-- A step that changes the list takes one level of nesting away. -/
theorem itemsDepth_unwrapped (lone : LoneArray values) :
    itemsDepth (unwrapped values) + 1 = itemsDepth values := by
  obtain ⟨items, rfl⟩ := lone
  simp [unwrapped, itemsDepth, Json.depth]

theorem isFixedPt_unwrapped_iterate {n : Nat} (enough : itemsDepth values ≤ n) :
    IsFixedPt unwrapped (unwrapped^[n] values) := by
  induction n generalizing values with
  | zero =>
    have notArray : ¬ LoneArray values := by
      intro lone
      have shallower := itemsDepth_unwrapped lone
      omega
    exact isFixedPt_unwrapped_iff.mpr notArray
  | succ n ih =>
    -- The first step either opens a lone array or is one of many that change nothing.
    by_cases lone : LoneArray values
    · have shallower := itemsDepth_unwrapped lone
      exact ih (by omega)
    · have fixed : IsFixedPt unwrapped values := isFixedPt_unwrapped_iff.mpr lone
      rwa [(fixed.iterate (n + 1)).eq]

/-! ## Spreading beside unwrapping -/

/-- What spreading and unwrapping have made of one list: the same, unless null alone is all
that is left and spreading has dropped it. -/
inductive SameButNull : List Json → List Json → Prop where
  | same (values : List Json) : SameButNull values values
  | dropped : SameButNull [] [.null]

variable {dropping keeping : List Json}

theorem spread_eq_unwrapped (notNull : values ≠ [.null]) : spread values = unwrapped values := by
  by_cases lone : LoneArray values
  · obtain ⟨items, rfl⟩ := lone
    rfl
  · rw [spread_of_not_lone notNull lone, unwrapped_of_not_loneArray lone]

theorem sameButNull_step (before : SameButNull dropping keeping) :
    SameButNull (spread dropping) (unwrapped keeping) := by
  cases before with
  | dropped => exact .dropped
  | same =>
    by_cases null : dropping = [.null]
    · rw [null]
      exact .dropped
    · rw [spread_eq_unwrapped null]
      exact .same _

theorem sameButNull_iterate (args : Arguments) (n : Nat) :
    SameButNull (spread^[n] args) (unwrapped^[n] args) := by
  induction n with
  | zero => exact .same args
  | succ n ih =>
    rw [Function.iterate_succ_apply', Function.iterate_succ_apply']
    exact sameButNull_step ih

/-- Once unwrapping has nothing more to do, spreading has at most one step left. -/
theorem spread_of_sameButNull (related : SameButNull dropping keeping)
    (fixed : IsFixedPt unwrapped keeping) :
    (keeping = [.null] → spread dropping = []) ∧
      (keeping ≠ [.null] → spread dropping = keeping) := by
  cases related with
  | dropped => exact ⟨fun _ => rfl, fun notNull => absurd rfl notNull⟩
  | same =>
    constructor
    · rintro rfl
      rfl
    · exact fun notNull => (spread_eq_unwrapped notNull).trans fixed

/-- Spreading ends after at most one step more than the values are nested and unwrapping after
at most as many steps. Spreading leaves exactly those lists as they are that are neither null
alone nor one array alone, and unwrapping those that are not one array alone. The two end in
the same list except where unwrapping ends in null alone; there spreading ends in no value. -/
theorem iterate_spread_unwrapped (args : Arguments) :
    let levels := itemsDepth args
    IsFixedPt spread (spread^[levels + 1] args) ∧
      IsFixedPt unwrapped (unwrapped^[levels] args) ∧
      (unwrapped^[levels] args = [.null] → spread^[levels + 1] args = []) ∧
      (unwrapped^[levels] args ≠ [.null] →
        spread^[levels + 1] args = unwrapped^[levels] args) ∧
      ∀ (g : Agreement) (values : List Json),
        (g.holds Json.sameItems values (spread values) ↔
          values ≠ [.null] ∧ ¬ LoneArray values) ∧
        (g.holds Json.sameItems values (unwrapped values) ↔ ¬ LoneArray values) := by
  intro levels
  have fixed : IsFixedPt unwrapped (unwrapped^[levels] args) :=
    isFixedPt_unwrapped_iterate (Nat.le_refl levels)
  have ends := spread_of_sameButNull (sameButNull_iterate args levels) fixed
  rw [← Function.iterate_succ_apply' spread] at ends
  refine ⟨?_, fixed, ends.1, ends.2, fun g values => ⟨holds_spread_iff g, holds_unwrapped_iff g⟩⟩
  by_cases null : unwrapped^[levels] args = [.null]
  · rw [ends.1 null]
    rfl
  · rw [ends.2 null]
    exact isFixedPt_spread_iff.mpr ⟨null, isFixedPt_unwrapped_iff.mp fixed⟩

/-- Null in two arrays takes all three steps of spreading, and unwrapping ends in it after two;
values with company end alike. -/
theorem iterate_spread_unwrapped_nested_null :
    let nested : Arguments := [.arr [.arr [.null]]]
    let together : Arguments := [.arr [.str "a", .arr []]]
    (itemsDepth nested = 2 ∧ unwrapped^[2] nested = [.null] ∧
      ¬ IsFixedPt spread (spread^[2] nested) ∧ spread^[3] nested = []) ∧
    (itemsDepth together = 2 ∧ unwrapped^[2] together ≠ [.null] ∧
      spread^[3] together = unwrapped^[2] together) := by
  intro nested together
  have left : unwrapped^[2] nested = [.null] := by rfl
  have company : unwrapped^[2] together ≠ [.null] := by
    intro alone
    cases alone
  obtain ⟨-, -, dropped, -, -⟩ := iterate_spread_unwrapped nested
  obtain ⟨-, -, -, alike, -⟩ := iterate_spread_unwrapped together
  refine ⟨⟨rfl, left, ?_, dropped left⟩, rfl, company, alike company⟩
  exact fun fixed => (isFixedPt_spread_iff.mp fixed).1 rfl

end SearchQuery.Arguments
