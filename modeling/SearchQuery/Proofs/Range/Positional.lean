import SearchQuery.Proofs.Arguments
import SearchQuery.Proofs.Json.Equality
import SearchQuery.Proofs.Range.Steps
import SearchQuery.Range.Positional

/-!
# Positional calls and filled records

A positional call finds out by shape what a record is told step by step. Once the
comparison is given, the two agree on every sequence of values and options. With
the comparison left out they agree as long as a value comes first: options in the
place of the comparison are taken for a value, so the call differs there from the
record, and nowhere else.
-/

namespace SearchQuery.RangeQuery

/-- What follows the comparison: a value that is not marked as options, or options
in one mapping. -/
inductive Item where
  | value (value : Json) (plain : value.truthyField? "range-option" = none)
  | options (texts : List String)

namespace Item

/-- How an item is written in a positional call. -/
def argument : Item → Json
  | value v _ => v
  | options texts => rangeOptions (texts.map Json.str)

/-- How an item is told to a record. -/
def steps : Item → List Step
  | value v _ => [.value v]
  | options texts => texts.map Step.option

end Item

/-- The argument that gives a datatype, if there is one. -/
def typeArgument (d : Option Datatype) : List Json := d.toList.map Datatype.toJson

def typeSteps (d : Option Datatype) : List Step := d.toList.map Step.datatype

/-- The record of a name and the steps that fill it. -/
def fill (name : Json) (steps : List Step) : RangeQuery :=
  applyAll { indexedName := .ofJson name } steps

/-! ## Items -/

theorem truthyField?_rangeOptions (texts : List String) :
    (rangeOptions (texts.map Json.str)).truthyField? "range-option" =
      some (.arr (texts.map Json.str)) := by
  rw [rangeOptions, Arguments.spread_eq_self (Arguments.plain_texts texts)]
  rfl

/-- One argument of the loop does what the steps of its item do. -/
theorem takeArgument_argument (q : RangeQuery) (item : Item) :
    q.takeArgument item.argument = q.applyAll item.steps := by
  cases item with
  | value v plain =>
    simp only [Item.argument, takeArgument, plain]
    rfl
  | options texts =>
    simp only [Item.argument, takeArgument, truthyField?_rangeOptions, Item.steps,
      applyAll_options, Json.elements]

theorem foldl_takeArgument (q : RangeQuery) (items : List Item) :
    (items.map Item.argument).foldl takeArgument q = q.applyAll (items.flatMap Item.steps) := by
  induction items generalizing q with
  | nil => rfl
  | cons item rest ih =>
    rw [List.map_cons, List.foldl_cons, takeArgument_argument, ih, List.flatMap_cons,
      applyAll_append]

/-! ## Datatypes -/

/-- The mark of the namespace keeps a written type from being empty, hence truthy. -/
theorem isTruthy_qualifiedName (t : SchemaType) : (Json.str t.qualifiedName).isTruthy = true := by
  cases t <;> decide

theorem field?_toJson_datatype (d : Datatype) :
    d.toJson.field? "datatype" = some (.str d.schemaType.qualifiedName) := by
  simp [Datatype.toJson, Json.field?]

theorem field?_toJson_collation (d : Datatype) :
    d.toJson.field? "collation" = d.collation.map Json.str := by
  simp [Datatype.toJson, Json.field?]

/-- A written datatype is taken back as it was, an empty collation included. -/
theorem takeDatatype_toJson (q : RangeQuery) (d : Datatype) (rest : List Json) :
    q.takeDatatype (d.toJson :: rest) = (q.withDatatype d, rest) := by
  have found : d.toJson.truthyField? "datatype" = some (.str d.schemaType.qualifiedName) := by
    rw [Json.truthyField?, field?_toJson_datatype, Option.filter_some,
      if_pos (isTruthy_qualifiedName d.schemaType)]
  have kept : (d.collation.map Json.str).filter (fun c => !c.isNull) =
      d.collation.map Json.str := by
    cases d.collation <;> rfl
  simp only [takeDatatype, found, field?_toJson_collation, kept, withDatatype]

/-- Without a datatype the next argument stays, unless it looks like one. -/
theorem takeDatatype_typeArgument (q : RangeQuery) (d : Option Datatype) (rest : List Json)
    (clear : d = none → ∀ arg, rest.head? = some arg → arg.truthyField? "datatype" = none) :
    q.takeDatatype (typeArgument d ++ rest) = (q.applyAll (typeSteps d), rest) := by
  cases d with
  | some d => exact takeDatatype_toJson q d rest
  | none =>
    cases rest with
    | nil => rfl
    | cons arg rest =>
      have untyped := clear rfl arg rfl
      simp only [typeArgument, Option.toList_none, List.map_nil, List.nil_append, takeDatatype,
        untyped]
      rfl

/-! ## The comparison -/

theorem takeComparison_symbol (q : RangeQuery) (c : Comparison) (rest : List Json) :
    q.takeComparison (.str c.symbol :: rest) = pure (q.withComparison c, rest) := by
  simp [takeComparison, Json.string?, Comparison.ofSymbol?_symbol]

/-- What is no symbol goes to the values, whatever else it is. -/
theorem takeComparison_of_no_symbol (q : RangeQuery) {candidate : Json} (rest : List Json)
    (unsigned : candidate.string?.bind Comparison.ofSymbol? = none) :
    (q.takeComparison (candidate :: rest)).result = (q.withValue candidate, rest) := by
  simp [takeComparison, unsigned]

/-! ## Whole calls -/

/-- A call with a name that is no lone array is read argument by argument. -/
theorem read_cons (name : Json) (others : List Json)
    (notLone : others = [] → ∀ items, name ≠ .arr items) :
    read (name :: others) = (do
      let (typed, rest) := takeDatatype { indexedName := .ofJson name } others
      let (compared, rest) ← takeComparison typed rest
      return rest.foldl takeArgument compared) := by
  cases others with
  | cons other others => rfl
  | nil =>
    cases name with
    | arr items => exact absurd rfl (notLone rfl items)
    | _ => rfl

/-- With the name and the datatype read, the comparison and the loop remain. -/
theorem read_typed (name : Json) (d : Option Datatype) (others : List Json)
    (notLone : typeArgument d ++ others = [] → ∀ items, name ≠ .arr items)
    (clear : d = none → ∀ arg, others.head? = some arg → arg.truthyField? "datatype" = none) :
    read (name :: (typeArgument d ++ others)) = (do
      let (compared, rest) ← takeComparison (fill name (typeSteps d)) others
      return rest.foldl takeArgument compared) := by
  rw [read_cons name _ notLone, takeDatatype_typeArgument _ d others clear]
  rfl

/-- A call with its comparison given is the record filled with the same things, and
it reports nothing. -/
theorem read_eq_fill (name : Json) (d : Option Datatype) (c : Comparison) (items : List Item) :
    let args := name :: (typeArgument d ++ .str c.symbol :: items.map Item.argument)
    let record := fill name (typeSteps d ++ .comparison c :: items.flatMap Item.steps)
    read args = pure record ∧ Query.range args = pure record.build := by
  intro args record
  have whole : read args = pure record := by
    -- A symbol is a text and carries no field, so it is never taken for a datatype.
    calc read args
        = (do
            let (compared, rest) ← takeComparison (fill name (typeSteps d))
              (.str c.symbol :: items.map Item.argument)
            return rest.foldl takeArgument compared) :=
          read_typed name d _ (by simp) (by rintro - arg ⟨⟩; rfl)
      _ = pure ((items.map Item.argument).foldl takeArgument
            ((fill name (typeSteps d)).withComparison c)) := by
          rw [takeComparison_symbol]
          rfl
      _ = pure record := by
          rw [foldl_takeArgument]
          exact congrArg pure (applyAll_append_cons _ (typeSteps d) (.comparison c) _).symm
  refine ⟨whole, ?_⟩
  rw [Query.range, whole]
  rfl

/-- Behind the comparison a symbol is a value, and no options are no value. -/
example : (read [.str "foo", .str "<", .str "=", rangeOptions [], .arr [.null]]).result.values =
    [.str "=", .null] := rfl

/-! ## Calls without a comparison -/

/-- The first item is not mistaken for a comparison or a datatype. -/
def OpensPlainly (d : Option Datatype) : List Item → Prop
  | .value v _ :: _ =>
    (∀ c : Comparison, v ≠ .str c.symbol) ∧ (d = none → v.truthyField? "datatype" = none)
  | _ => True

def OptionsFirst : List Item → Prop
  | .options _ :: _ => True
  | _ => False

/-- What a call without a comparison tells a record: leading options are a value. -/
def stepsInPlace : List Item → List Step
  | .options texts :: rest =>
    .value (rangeOptions (texts.map Json.str)) :: rest.flatMap Item.steps
  | items => items.flatMap Item.steps

theorem symbol_iff {v : Json} {c : Comparison} :
    v.string?.bind Comparison.ofSymbol? = some c ↔ v = .str c.symbol := by
  constructor
  · intro found
    cases v with
    | str text => rw [Comparison.ofSymbol?_eq_some_iff.mp found]
    | _ => cases found
  · rintro rfl
    exact Comparison.ofSymbol?_symbol c

theorem no_symbol {v : Json} (plain : ∀ c : Comparison, v ≠ .str c.symbol) :
    v.string?.bind Comparison.ofSymbol? = none :=
  Option.eq_none_iff_forall_ne_some.mpr fun c found => plain c (symbol_iff.mp found)

/-- Options carry no datatype and are no text, so nothing in front of the loop knows them. -/
theorem rangeOptions_unknown (texts : List String) :
    (rangeOptions (texts.map Json.str)).truthyField? "datatype" = none ∧
      (rangeOptions (texts.map Json.str)).string?.bind Comparison.ofSymbol? = none :=
  ⟨rfl, rfl⟩

/-- Whatever stands in the place of the comparison is taken for a value, and the loop
reads the rest. -/
theorem read_candidate (name : Json) (d : Option Datatype) {candidate : Json} (rest : List Item)
    (single : ∀ held, name ≠ .arr held)
    (untyped : d = none → candidate.truthyField? "datatype" = none)
    (unsigned : candidate.string?.bind Comparison.ofSymbol? = none) :
    (read (name :: (typeArgument d ++ candidate :: rest.map Item.argument))).result =
      fill name (typeSteps d ++ .value candidate :: rest.flatMap Item.steps) := by
  have clear : d = none → ∀ arg, (candidate :: rest.map Item.argument).head? = some arg →
      arg.truthyField? "datatype" = none := by
    rintro none arg ⟨⟩
    exact untyped none
  rw [read_typed name d _ (fun _ => single) clear]
  simp only [Traced.result_bind, takeComparison_of_no_symbol _ _ unsigned, Traced.result_pure,
    foldl_takeArgument]
  exact (applyAll_append_cons _ (typeSteps d) (.value candidate) _).symm

theorem read_stepsInPlace (name : Json) (d : Option Datatype) (items : List Item)
    (single : ∀ held, name ≠ .arr held) (opening : OpensPlainly d items) :
    (read (name :: (typeArgument d ++ items.map Item.argument))).result =
      fill name (typeSteps d ++ stepsInPlace items) := by
  match items with
  | [] =>
    rw [List.map_nil, read_typed name d _ (fun _ => single) (by rintro none arg ⟨⟩)]
    exact congrArg (fill name) (List.append_nil _).symm
  | .value v plain :: rest =>
    exact read_candidate name d rest single opening.2 (no_symbol opening.1)
  | .options texts :: rest =>
    have unknown := rangeOptions_unknown texts
    exact read_candidate name d rest single (fun _ => unknown.1) unknown.2

theorem stepsInPlace_of_not_optionsFirst {items : List Item} (later : ¬ OptionsFirst items) :
    stepsInPlace items = items.flatMap Item.steps := by
  match items with
  | [] => rfl
  | .value _ _ :: _ => rfl
  | .options _ :: _ => exact absurd trivial later

/-- Leading options make one value more than the record has. -/
theorem length_values_stepsInPlace (name : Json) (d : Option Datatype) {items : List Item}
    (first : OptionsFirst items) :
    (fill name (typeSteps d ++ stepsInPlace items)).values.length =
      (fill name (typeSteps d ++ items.flatMap Item.steps)).values.length + 1 := by
  match items with
  | .options texts :: rest =>
    have silent : (texts.map Step.option).flatMap Step.addedValues = [] := by
      simp [Step.addedValues]
    have value : Step.addedValues (.value (rangeOptions (texts.map Json.str))) =
        [rangeOptions (texts.map Json.str)] := rfl
    simp only [fill, values_applyAll, stepsInPlace, List.flatMap_append, List.flatMap_cons,
      Item.steps, silent, value, List.length_append, List.length_cons, List.length_nil]
    omega

theorem length_values_of_same {a b : RangeQuery} (equal : a.same b = true) :
    a.values.length = b.values.length := by
  simp only [same, Bool.and_eq_true] at equal
  exact Json.length_eq_of_sameItems equal.1.2

/-- A call without a comparison is the record filled with the same things unless
options come first; then they are a value, and the two always differ. -/
theorem read_without_comparison (name : Json) (d : Option Datatype) (items : List Item)
    (named : name.isMapping = true ∨ ∃ text, name = .str text)
    (opening : OpensPlainly d items) :
    let record := (read (name :: (typeArgument d ++ items.map Item.argument))).result
    let filled := fill name (typeSteps d ++ items.flatMap Item.steps)
    (¬ OptionsFirst items → record = filled) ∧
      (OptionsFirst items → record = fill name (typeSteps d ++ stepsInPlace items) ∧
        record.same filled = false) := by
  intro record filled
  have single : ∀ held, name ≠ .arr held := by
    rintro held rfl
    rcases named with mapping | ⟨text, written⟩
    · cases mapping
    · cases written
  have told : record = fill name (typeSteps d ++ stepsInPlace items) :=
    read_stepsInPlace name d items single opening
  constructor
  · intro later
    rw [told, stepsInPlace_of_not_optionsFirst later]
  · intro first
    refine ⟨told, Bool.eq_false_iff.mpr ?_⟩
    intro equal
    have lengths := length_values_of_same equal
    have longer := length_values_stepsInPlace name d first
    rw [← told, lengths] at longer
    exact Nat.succ_ne_self _ longer.symm

/-- An operator symbol after the first value and options after it are read as such. -/
theorem read_without_comparison_value_first :
    let items := [Item.value (.str "bar") rfl, .options ["limit=10"], .value (.str "<") rfl]
    ((Json.str "foo").isMapping = true ∨ ∃ text, Json.str "foo" = .str text) ∧
      OpensPlainly none items ∧
      (read [.str "foo", .str "bar", rangeOptions [.str "limit=10"], .str "<"]).result =
        fill (.str "foo") [.value (.str "bar"), .option "limit=10", .value (.str "<")] := by
  have named : ∃ text, Json.str "foo" = .str text := ⟨"foo", rfl⟩
  have opening : OpensPlainly none
      [Item.value (.str "bar") rfl, .options ["limit=10"], .value (.str "<") rfl] :=
    ⟨by intro c; cases c <;> simp [Comparison.symbol], fun _ => rfl⟩
  exact ⟨.inr named, opening,
    (read_without_comparison (.str "foo") none _ (.inr named) opening).1 id⟩

/-- Options right after the name become a value and are lost as options. -/
theorem read_leading_options :
    let record := (read [.str "foo", rangeOptions [.str "limit=10"]]).result
    OpensPlainly none [.options ["limit=10"]] ∧
      record.values = [rangeOptions [.str "limit=10"]] ∧ record.options = [] ∧
      record.same (fill (.str "foo") [.option "limit=10"]) = false :=
  ⟨trivial, rfl, rfl, rfl⟩

end SearchQuery.RangeQuery
