import SearchQuery.Proofs.Json.Equality
import SearchQuery.Query.Basic

/-!
# Two ways to agree

Two values agree if they are identical, and more loosely if they are equal values, to which
the two zeros of doubles are one. Both ways are read off objects key by key: objects agree
exactly when they agree under every key, and setting keys to agreeing values keeps that.
What is proved through these facts alone holds for either way.
-/

namespace SearchQuery

open Json (sameOption)

/-- How closely things agree: they are identical, or equal by their comparison. -/
inductive Agreement where
  | identical
  | equal

namespace Agreement

/-- Do the two agree? Their values are compared by `same`. -/
def holds {α : Type} (g : Agreement) (same : α → α → Bool) (a b : α) : Prop :=
  match g with
  | identical => a = b
  | equal => same a b = true

variable (g : Agreement)

theorem holds_self {α : Type} {same : α → α → Bool} (reflexive : ∀ a, same a a = true) (a : α) :
    g.holds same a a := by
  cases g with
  | identical => rfl
  | equal => exact reflexive a

theorem same_of_holds {α : Type} {same : α → α → Bool} (reflexive : ∀ a, same a a = true)
    {a b : α} (h : g.holds same a b) : same a b = true := by
  cases g with
  | identical =>
    rw [show a = b from h]
    exact reflexive b
  | equal => exact h

/-! ## Values -/

theorem holds_str {a b : String} : g.holds Json.same (.str a) (.str b) ↔ a = b := by
  cases g with
  | identical => exact iff_of_eq (Json.str.injEq a b)
  | equal => simp [holds, Json.same]

theorem holds_arr {as bs : List Json} :
    g.holds Json.same (.arr as) (.arr bs) ↔ g.holds Json.sameItems as bs := by
  cases g with
  | identical => exact iff_of_eq (Json.arr.injEq as bs)
  | equal => simp only [holds, Json.same]

theorem holds_obj {a b : Fields Json none} :
    g.holds Json.same (.obj a) (.obj b) ↔ g.holds Json.sameFields a b := by
  cases g with
  | identical => exact iff_of_eq (Json.obj.injEq a b)
  | equal => simp only [holds, Json.same]

/-! ## Fields that may be missing -/

theorem holds_some {a b : Json} :
    g.holds sameOption (some a) (some b) ↔ g.holds Json.same a b := by
  cases g with
  | identical => exact iff_of_eq (Option.some.injEq a b)
  | equal => rfl

theorem holds_none : g.holds sameOption none none := by
  cases g <;> rfl

theorem not_holds_some_none {a : Json} : ¬ g.holds sameOption (some a) none := by
  cases g with
  | identical => exact fun h => nomatch h
  | equal => exact fun h => nomatch h

theorem not_holds_none_some {a : Json} : ¬ g.holds sameOption none (some a) := by
  cases g with
  | identical => exact fun h => nomatch h
  | equal => exact fun h => nomatch h

theorem holds_or {a b x y : Option Json} (first : g.holds sameOption a b)
    (second : g.holds sameOption x y) : g.holds sameOption (a.or x) (b.or y) := by
  cases a with
  | none =>
    cases b with
    | none => exact second
    | some _ => exact absurd first g.not_holds_none_some
  | some _ =>
    cases b with
    | none => exact absurd first g.not_holds_some_none
    | some _ => exact first

/-! ## Objects -/

theorem sameOption_of_sameFields {low low' : Option String} {a : Fields Json low}
    {b : Fields Json low'} (h : Json.sameFields a b = true) (key : String) :
    sameOption (a.get? key) (b.get? key) = true := by
  rcases Json.get?_of_sameFields key h with ⟨missing, missing'⟩ | ⟨x, y, found, found', same⟩
  · rw [missing, missing']
    rfl
  · rw [found, found']
    exact same

theorem isSome_eq_of_sameOption {x y : Option Json} (h : sameOption x y = true) :
    x.isSome = y.isSome := by
  cases x with
  | none =>
    cases y with
    | none => rfl
    | some _ => cases h
  | some _ =>
    cases y with
    | none => cases h
    | some _ => rfl

theorem sameFields_of_sameOption {low : Option String} {a b : Fields Json low}
    (h : ∀ key, sameOption (a.get? key) (b.get? key) = true) : Json.sameFields a b = true := by
  induction a with
  | nil =>
    cases b with
    | nil => rfl
    | cons key above value rest => simpa [Fields.get?, sameOption] using h key
  | cons key above value rest ih =>
    cases b with
    | nil => simpa [Fields.get?, sameOption] using h key
    | cons other otherAbove otherValue others =>
      have sameKey : key = other :=
        Fields.firstKey_eq fun wanted => isSome_eq_of_sameOption (h wanted)
      subst sameKey
      have first : value.same otherValue = true := by
        simpa [Fields.get?, sameOption] using h key
      have later : Json.sameFields rest others = true := by
        apply ih
        intro wanted
        by_cases own : key = wanted
        · rw [← own, Fields.get?_own, Fields.get?_own]
          rfl
        · simpa [Fields.get?, own] using h wanted
      simp only [Json.sameFields, beq_self_eq_true, first, later, Bool.and_self]

/-- Fields agree exactly when they agree under every key. -/
theorem holds_fields_iff {a b : Fields Json none} :
    g.holds Json.sameFields a b ↔ ∀ key, g.holds sameOption (a.get? key) (b.get? key) := by
  cases g with
  | identical =>
    constructor
    · rintro rfl key
      rfl
    · exact Fields.eq_of_get?
  | equal => exact ⟨sameOption_of_sameFields, sameFields_of_sameOption⟩

theorem holds_empty : g.holds Json.sameFields (Fields.nil : Fields Json none) Fields.nil :=
  g.holds_self Json.sameFields_self Fields.nil

variable {g} {a b : Fields Json none}

theorem holds_insert (fields : g.holds Json.sameFields a b) (key : String) {x y : Json}
    (value : g.holds Json.same x y) :
    g.holds Json.sameFields (a.insert key x) (b.insert key y) := by
  rw [holds_fields_iff] at fields ⊢
  intro wanted
  rw [Fields.get?_insert, Fields.get?_insert]
  split
  · exact g.holds_some.mpr value
  · exact fields wanted

/-- A key that was free keeps what is set under it apart from the rest. -/
theorem holds_insert_iff {key : String} (free : a.get? key = none) (free' : b.get? key = none)
    {x y : Json} :
    g.holds Json.sameFields (a.insert key x) (b.insert key y) ↔
      g.holds Json.sameFields a b ∧ g.holds Json.same x y := by
  constructor
  · intro agree
    have under := g.holds_fields_iff.mp agree
    constructor
    · rw [holds_fields_iff]
      intro wanted
      by_cases own : key = wanted
      · rw [← own, free, free']
        exact g.holds_none
      · have others := under wanted
        rwa [Fields.get?_insert, Fields.get?_insert, if_neg own, if_neg own] at others
    · have set := under key
      rwa [Fields.get?_insert, Fields.get?_insert, if_pos rfl, if_pos rfl, holds_some] at set
  · rintro ⟨fields, value⟩
    exact holds_insert fields key value

theorem holds_insertSome (fields : g.holds Json.sameFields a b) (key : String)
    {x y : Option Json} (value : g.holds sameOption x y) :
    g.holds Json.sameFields (a.insertSome key x) (b.insertSome key y) := by
  rw [holds_fields_iff] at fields ⊢
  intro wanted
  rw [Fields.get?_insertSome, Fields.get?_insertSome]
  split
  · exact g.holds_or value (fields wanted)
  · exact fields wanted

theorem holds_extend_toList (fields : g.holds Json.sameFields a b) {added added' : Fields Json none}
    (merged : g.holds Json.sameFields added added') :
    g.holds Json.sameFields (a.extend added.toList) (b.extend added'.toList) := by
  rw [holds_fields_iff] at fields merged ⊢
  intro wanted
  rw [Fields.get?_extend_toList, Fields.get?_extend_toList]
  exact g.holds_or (merged wanted) (fields wanted)

/-! ## Queries -/

/-- Queries agree exactly when they are of one kind and their bodies agree. -/
theorem holds_ofKind {kind kind' : String} {body body' : Json} :
    g.holds Json.same (Query.ofKind kind body).json (Query.ofKind kind' body').json ↔
      kind = kind' ∧ g.holds Json.same body body' := by
  cases g with
  | identical =>
    constructor
    · exact Json.object_single_inj
    · rintro ⟨rfl, rfl⟩
      rfl
  | equal =>
    have unfolded : (Query.ofKind kind body).json.same (Query.ofKind kind' body').json =
        (kind == kind' && body.same body' && true) := rfl
    simp [holds, unfolded]

end Agreement

end SearchQuery
