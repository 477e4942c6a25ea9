import SearchQuery.Proofs.Arguments
import SearchQuery.Proofs.Json.Equality
import SearchQuery.Range.Name

/-!
# Names handed back for a reference

A reference to an element is made of the same arguments as a qualified name, or of a name that
was made already. The two ways lead to one reference exactly when the arguments give a name
that looks like one, and when they do not come down to one array or to a ready-made name: such
a value is wrapped by the name, while the reference opens the array and takes the name as it
is. A name of two parts that are not truthy looks like none, and handed back it is taken for a
local name.
-/

namespace SearchQuery

open Arguments

/-- The name with this namespace and this local name. -/
def qualify (space name : Json) : Json := .object [("ns", space), ("name", name)]

def referenceTo (name : Json) : Json := .object [("element", name)]

section Qualify

variable (space name : Json)

theorem field?_qualify_ns : (qualify space name).field? "ns" = some space := by
  simp [qualify, Json.object, Fields.ofList, Json.field?]

theorem field?_qualify_name : (qualify space name).field? "name" = some name := by
  simp [qualify, Json.object, Fields.ofList, Json.field?]

theorem qualify_ne : qualify space name ≠ name :=
  (Json.ne_of_field? (field?_qualify_name space name)).symm

theorem isQualifiedName_qualify :
    isQualifiedName (qualify space name) = (space.isTruthy || name.isTruthy) := by
  rw [isQualifiedName, Json.truthyField?, Json.truthyField?, field?_qualify_ns,
    field?_qualify_name, Option.isSome_filter, Option.isSome_filter, Option.any_some,
    Option.any_some]

end Qualify

theorem qualify_inj {space name space' name' : Json}
    (h : qualify space name = qualify space' name') : space = space' ∧ name = name' :=
  Json.object_pair_inj (by decide) h

theorem referenceTo_inj {name name' : Json} (h : referenceTo name = referenceTo name') :
    name = name' :=
  (Json.object_single_inj h).2

/-- Only a mapping looks like a name. -/
theorem exists_fields_of_isQualifiedName {value : Json} (h : isQualifiedName value = true) :
    ∃ fields, value = .obj fields := by
  cases value with
  | obj fields => exact ⟨fields, rfl⟩
  | _ => cases h

/-! ## What the arguments come down to -/

section Spread

variable {args : Arguments} {space name value : Json} {rest : List Json}

theorem qualifiedName_of_nil (spreads : args.spread = []) :
    qualifiedName args = qualify .null .null := by
  simp only [qualifiedName, spreads]
  rfl

theorem qualifiedName_of_single (spreads : args.spread = [value]) :
    qualifiedName args = qualify .null value := by
  simp only [qualifiedName, spreads]
  rfl

/-- What comes behind the local name is never looked at. -/
theorem qualifiedName_of_pair (spreads : args.spread = space :: name :: rest) :
    qualifiedName args = qualify space name := by
  simp only [qualifiedName, spreads]
  rfl

theorem elementReference_of_nil (spreads : args.spread = []) :
    elementReference args = referenceTo (qualify .null .null) := by
  simp only [elementReference, spreads]
  rfl

theorem elementReference_of_name (spreads : args.spread = [value])
    (isName : isQualifiedName value = true) : elementReference args = referenceTo value := by
  simp only [elementReference, spreads, isName]
  rfl

theorem elementReference_of_single (spreads : args.spread = [value])
    (noName : isQualifiedName value = false) :
    elementReference args = referenceTo (qualifiedName [value]) := by
  simp only [elementReference, spreads, noName]
  rfl

theorem elementReference_of_pair (spreads : args.spread = space :: name :: rest) :
    elementReference args = referenceTo (qualify space name) := by
  simp only [elementReference, spreads]
  rfl

end Spread

/-- A qualified name has the two fields whatever it was made of, and its local name is among
the arguments or is null. -/
theorem qualifiedName_eq_qualify (args : Arguments) :
    ∃ space name, qualifiedName args = qualify space name ∧
      (name = .null ∨ name ∈ args.spread) := by
  match spreads : args.spread with
  | [] => exact ⟨_, _, qualifiedName_of_nil spreads, .inl rfl⟩
  | [value] => exact ⟨_, _, qualifiedName_of_single spreads, .inr (by simp)⟩
  | space :: name :: rest => exact ⟨_, _, qualifiedName_of_pair spreads, .inr (by simp)⟩

/-- What a reference refers to is always a mapping. -/
theorem elementReference_eq_referenceTo (args : Arguments) :
    ∃ fields, elementReference args = referenceTo (.obj fields) := by
  match spreads : args.spread with
  | [] => exact ⟨_, elementReference_of_nil spreads⟩
  | [value] =>
    by_cases isName : isQualifiedName value = true
    · obtain ⟨fields, rfl⟩ := exists_fields_of_isQualifiedName isName
      exact ⟨fields, elementReference_of_name spreads isName⟩
    · obtain ⟨space, name, made, -⟩ := qualifiedName_eq_qualify [value]
      have direct := elementReference_of_single spreads (Bool.eq_false_iff.mpr isName)
      rw [made] at direct
      exact ⟨_, direct⟩
  | space :: name :: rest => exact ⟨_, elementReference_of_pair spreads⟩

/-! ## A name in the place of what it was made of -/

/-- The reference takes a name that looks like one, and any other name for a local name. -/
theorem elementReference_qualify (space name : Json) :
    elementReference [qualify space name] =
      referenceTo (if isQualifiedName (qualify space name) then qualify space name
        else qualify .null (qualify space name)) := by
  by_cases isName : isQualifiedName (qualify space name) = true
  · rw [if_pos isName]
    exact elementReference_of_name rfl isName
  · rw [if_neg isName]
    exact elementReference_of_single rfl (Bool.eq_false_iff.mpr isName)

/-- Handed back, a name refers to itself exactly if it looks like a name. -/
theorem elementReference_qualifiedName_iff (args : Arguments) :
    elementReference [qualifiedName args] = referenceTo (qualifiedName args) ↔
      isQualifiedName (qualifiedName args) = true := by
  obtain ⟨space, name, made, -⟩ := qualifiedName_eq_qualify args
  rw [made, elementReference_qualify]
  by_cases isName : isQualifiedName (qualify space name) = true
  · rw [if_pos isName]
    exact ⟨fun _ => isName, fun _ => rfl⟩
  · rw [if_neg isName]
    constructor
    · exact fun same => absurd (referenceTo_inj same) (qualify_ne _ _)
    · exact fun found => absurd found isName

/-- The arguments spread to something that a qualified name wraps and a reference does not. -/
def Wraps (args : Arguments) : Prop :=
  LoneArray args.spread ∨ ∃ value, args.spread = [value] ∧ isQualifiedName value = true

/-- What is wrapped is an array or a mapping, so the name around it looks like one. -/
theorem isQualifiedName_of_wraps {args : Arguments} (wraps : Wraps args) :
    isQualifiedName (qualifiedName args) = true := by
  rcases wraps with ⟨items, spreads⟩ | ⟨value, spreads, isName⟩
  · rw [qualifiedName_of_single spreads, isQualifiedName_qualify]
    rfl
  · obtain ⟨fields, rfl⟩ := exists_fields_of_isQualifiedName isName
    rw [qualifiedName_of_single spreads, isQualifiedName_qualify]
    rfl

/-- Apart from a lone array and a ready-made name a reference refers to the qualified name of
its arguments. -/
theorem elementReference_eq_iff (args : Arguments) :
    elementReference args = referenceTo (qualifiedName args) ↔ ¬ Wraps args := by
  constructor
  · -- What is wrapped would be its own item or its own local name.
    rintro same (⟨items, spreads⟩ | ⟨value, spreads, isName⟩)
    · rw [elementReference_of_single spreads rfl, qualifiedName_of_single spreads] at same
      obtain ⟨space, name, made, within⟩ := qualifiedName_eq_qualify [.arr items]
      rw [made] at same
      obtain ⟨-, rfl⟩ := qualify_inj (referenceTo_inj same)
      rcases within with null | member
      · cases null
      · exact Json.not_mem_own_items items member
    · rw [elementReference_of_name spreads isName, qualifiedName_of_single spreads] at same
      exact qualify_ne _ _ (referenceTo_inj same).symm
  · intro bare
    match spreads : args.spread with
    | [] => rw [elementReference_of_nil spreads, qualifiedName_of_nil spreads]
    | [value] =>
      have noName : isQualifiedName value = false :=
        Bool.eq_false_iff.mpr fun isName => bare (.inr ⟨value, spreads, isName⟩)
      rw [elementReference_of_single spreads noName, qualifiedName_of_single spreads]
      cases value with
      | arr items => exact absurd (.inl ⟨items, spreads⟩) bare
      | _ => rfl
    | space :: name :: rest =>
      rw [elementReference_of_pair spreads, qualifiedName_of_pair spreads]

/-- A name can be handed back in the place of its arguments exactly when they wrap nothing and
the name looks like one; then the reference is to that name. In either calling form the first
two of several values are all that counts. -/
theorem elementReference_handed_back (args : Arguments) :
    (elementReference [qualifiedName args] = elementReference args ↔
      ¬ Wraps args ∧ isQualifiedName (qualifiedName args) = true) ∧
    (¬ Wraps args → isQualifiedName (qualifiedName args) = true →
      elementReference [qualifiedName args] = referenceTo (qualifiedName args) ∧
        elementReference args = referenceTo (qualifiedName args)) ∧
    ∀ (form : Form) (space name : Json) (rest : List Json),
      qualifiedName (form.arguments (space :: name :: rest)) = qualify space name ∧
        elementReference (form.arguments (space :: name :: rest)) =
          referenceTo (qualify space name) := by
  have kept : isQualifiedName (qualifiedName args) = true →
      elementReference [qualifiedName args] = referenceTo (qualifiedName args) :=
    (elementReference_qualifiedName_iff args).mpr
  have direct : ¬ Wraps args → elementReference args = referenceTo (qualifiedName args) :=
    (elementReference_eq_iff args).mpr
  refine ⟨⟨?_, ?_⟩, fun bare isName => ⟨kept isName, direct bare⟩, ?_⟩
  · intro same
    have bare : ¬ Wraps args := by
      intro wraps
      have back := kept (isQualifiedName_of_wraps wraps)
      exact (elementReference_eq_iff args).mp (same.symm.trans back) wraps
    exact ⟨bare, (elementReference_qualifiedName_iff args).mp (same.trans (direct bare))⟩
  · rintro ⟨bare, isName⟩
    exact (kept isName).trans (direct bare).symm
  · intro form space name rest
    have spreads : (form.arguments (space :: name :: rest)).spread = space :: name :: rest := by
      cases form <;> rfl
    exact ⟨qualifiedName_of_pair spreads, elementReference_of_pair spreads⟩

/-- An empty mapping is a local name like any other, beside a namespace `false` and in front
of a value that does not count; an empty local name alone cannot be handed back. -/
theorem elementReference_handed_back_empty :
    let args : Arguments := [.arr [.bool false, .object [], .str "left out"]]
    ¬ Wraps args ∧ isQualifiedName (qualifiedName args) = true ∧
      elementReference [qualifiedName args] = referenceTo (qualify (.bool false) (.object [])) ∧
      elementReference [qualifiedName [.str ""]] ≠ elementReference [.str ""] := by
  intro args
  have bare : ¬ Wraps args := by
    rintro (⟨items, spreads⟩ | ⟨value, spreads, -⟩)
    · cases spreads
    · cases spreads
  have isName : isQualifiedName (qualifiedName args) = true := by rfl
  refine ⟨bare, isName, ((elementReference_handed_back args).2.1 bare isName).1, ?_⟩
  intro same
  have found := ((elementReference_handed_back [.str ""]).1.mp same).2
  cases found

end SearchQuery
