import SearchQuery.Geo.Constraint
import SearchQuery.Options.Loading
import SearchQuery.Proofs.Constraint.Merging
import SearchQuery.Proofs.Constraint.Range
import SearchQuery.Proofs.Geo.ShapeSet
import SearchQuery.Proofs.Range.Positional

/-!
# What calls report

Six calls report what they refuse, leave out, take for something else or load. What is
written down of an event is its level and what it carries. A call reports once if there is
a cause, with what the cause tells, and not at all otherwise; a call on shapes reports each
value of no kind by itself. The wording of the reports is left out here.
-/

namespace SearchQuery

/-- What is written down of an event. -/
abbrev Event.Entry : Type := Level × List (String × Detail)

def Event.entry (event : Event) : Entry := (event.level, event.details)

/-- The argument in the place of the comparison: the second, or the third if the second is a
datatype. -/
def RangeQuery.candidate? (args : Arguments) : Option Json :=
  match args.spread[1]? with
  | none => none
  | some arg => if (arg.truthyField? "datatype").isSome then args.spread[2]? else some arg

def Traced.entries {α : Type} (call : Traced α) : List Event.Entry :=
  call.events.map Event.entry

/-- There is one entry, the cause's own, if there is a cause, and there is none otherwise. -/
def ReportedOnce {β : Type} (entries : List Event.Entry) (cause : β → Prop)
    (entry : β → Event.Entry) : Prop :=
  (∀ b, cause b → entries = [entry b]) ∧ (entries ≠ [] ↔ ∃ b, cause b)

section

variable {β : Type} {cause : β → Prop} {entry : β → Event.Entry} {entries : List Event.Entry}

theorem reportedOnce_of_cause {b : β} (found : cause b) (only : ∀ other, cause other → other = b)
    (reported : entries = [entry b]) : ReportedOnce entries cause entry := by
  refine ⟨?_, ?_⟩
  · intro other present
    rw [only other present, reported]
  · rw [reported]
    exact ⟨fun _ => ⟨b, found⟩, fun _ => List.cons_ne_nil _ _⟩

theorem reportedOnce_of_no_cause (absent : ∀ b, ¬ cause b) (silent : entries = []) :
    ReportedOnce entries cause entry := by
  refine ⟨fun b present => absurd present (absent b), ?_⟩
  exact ⟨fun given => absurd silent given, fun ⟨b, present⟩ => absurd present (absent b)⟩

end

/-! ## Datatypes and range constraints -/

theorem Datatype.reported_read (name : String) (collation : Option String) :
    ReportedOnce (read name collation).entries
      (fun fault => (read name collation).result = .error fault)
      fun _ => (.debug, [("datatype", .text name)]) := by
  cases found : SchemaType.ofName? name with
  | none =>
    have refused : read name collation =
        ⟨[.datatypeRejected name], .error (.unknownDatatype name)⟩ := by
      rw [read, found]
      rfl
    rw [refused]
    refine reportedOnce_of_cause (b := .unknownDatatype name) rfl ?_ rfl
    rintro fault ⟨⟩
    rfl
  | some schemaType =>
    have known : read name collation = pure (.ok { schemaType, collation }) := by
      rw [read, found]
    rw [known]
    exact reportedOnce_of_no_cause (fun _ failed => nomatch failed) rfl

theorem Query.reported_rangeConstraint (name : String) (args : Arguments) :
    ReportedOnce (rangeConstraint name args).entries
      (fun operator => (rangeConstraint name args).result = .error (.invalidOperator operator))
      fun operator => (.debug, [("constraint", .text name), ("operator", .text operator)]) := by
  rcases rangeConstraint_built_or_refused name args with ⟨c, values, options, built⟩ |
    ⟨operator, refused⟩
  · rw [built]
    exact reportedOnce_of_no_cause (fun _ failed => nomatch failed) rfl
  · rw [refused]
    refine reportedOnce_of_cause (b := operator) rfl ?_ rfl
    rintro other ⟨⟩
    rfl

theorem Query.rangeConstraint_fault {name : String} {args : Arguments} {fault : QueryError}
    (failed : (rangeConstraint name args).result = .error fault) :
    ∃ operator, fault = .invalidOperator operator := by
  rcases rangeConstraint_built_or_refused name args with ⟨c, values, options, built⟩ |
    ⟨operator, refused⟩
  · rw [built] at failed
    cases failed
  · rw [refused] at failed
    cases failed
    exact ⟨operator, rfl⟩

/-! ## Custom constraints -/

theorem Query.events_customConstraint (name : String) (args : Arguments) :
    (customConstraint name args).events =
      if 0 < discardedCount args.unwrapped then
        [.valuesDiscarded name (discardedCount args.unwrapped)]
      else [] := by
  simp only [customConstraint]
  split <;> rfl

/-- Where there is a text, what is left out of it are the values that hold others. -/
theorem Query.reported_customConstraint (name : String) {args : Arguments}
    (mixed : ¬ isAllMappings args.unwrapped = true) :
    ReportedOnce (customConstraint name args).entries
      (fun count => 0 < count ∧ count = args.unwrapped.countP Json.isContainer)
      fun count => (.warn, [("constraint", .text name), ("discarded", .count count)]) := by
  have counted := discardedCount_of_text mixed
  by_cases discarded : 0 < args.unwrapped.countP Json.isContainer
  · refine reportedOnce_of_cause ⟨discarded, rfl⟩ (fun other present => present.2) ?_
    rw [Traced.entries, events_customConstraint, counted, if_pos discarded]
    rfl
  · refine reportedOnce_of_no_cause (fun count present => discarded (present.2 ▸ present.1)) ?_
    rw [Traced.entries, events_customConstraint, counted, if_neg discarded]
    rfl

/-! ## Shapes -/

theorem ShapeSet.events_classify (values : List Json) :
    (classify values).events =
      (values.filter fun value => (Shape.ofJson? value).isNone).map Event.shapeDropped := by
  induction values with
  | nil => rfl
  | cons value rest ih =>
    rw [classify]
    cases looks : Shape.ofJson value with
    | error unfiled =>
      rw [List.filter_cons_of_pos (by rw [Shape.ofJson?, looks]; rfl), List.map_cons, ← ih,
        Shape.eq_of_ofJson_error looks]
      rfl
    | ok shape =>
      rw [List.filter_cons_of_neg (by rw [Shape.ofJson?, looks]; exact Bool.false_ne_true), ← ih]
      exact List.append_nil _

theorem entries_shapeLists (args : Arguments) :
    (shapeLists args).entries =
      (args.spread.filter fun value => (Shape.ofJson? value).isNone).map fun value =>
        (.debug, [("shape", .text value.text)]) := by
  have events : (shapeLists args).events = (ShapeSet.classify args.spread).events := by
    simp only [shapeLists, ShapeSet.partition, Traced.events_bind, Traced.events_pure,
      List.append_nil]
  rw [Traced.entries, events, ShapeSet.events_classify, List.map_map]
  rfl

/-- A constraint on shapes reports what the lists of its unwrapped arguments report. -/
theorem Query.entries_geospatialConstraint (name : String) (args : Arguments) :
    (geospatialConstraint name args).entries = (shapeLists args.unwrapped).entries := rfl

/-! ## Positional range queries -/

namespace RangeQuery

theorem head?_takeDatatype (q : RangeQuery) (args : Arguments) :
    (q.takeDatatype args.spread.tail).2.head? = candidate? args := by
  rw [candidate?]
  match args.spread with
  | [] => rfl
  | [_] => rfl
  | name :: arg :: rest =>
    have third : (name :: arg :: rest)[2]? = rest.head? := List.head?_eq_getElem?.symm
    simp only [List.tail_cons, takeDatatype, third, List.getElem?_cons_succ,
      List.getElem?_cons_zero]
    cases arg.truthyField? "datatype" <;> rfl

theorem reported_takeComparison (q : RangeQuery) (args : List Json) :
    ReportedOnce (q.takeComparison args).entries
      (fun candidate => args.head? = some candidate ∧ ∀ c : Comparison, candidate ≠ .str c.symbol)
      fun candidate => (.trace, [("value", .text candidate.text)]) := by
  cases args with
  | nil => exact reportedOnce_of_no_cause (fun _ present => nomatch present.1) rfl
  | cons candidate rest =>
    cases found : candidate.string?.bind Comparison.ofSymbol? with
    | some c =>
      have named : q.takeComparison (candidate :: rest) = pure (q.withComparison c, rest) := by
        simp only [takeComparison, found]
      rw [named]
      refine reportedOnce_of_no_cause ?_ rfl
      rintro other ⟨⟨⟩, plain⟩
      exact plain c (symbol_iff.mp found)
    | none =>
      have taken : q.takeComparison (candidate :: rest) =
          ⟨[.candidateTakenAsValue candidate], (q.withValue candidate, rest)⟩ := by
        simp only [takeComparison, found]
        rfl
      have plain : ∀ c : Comparison, candidate ≠ .str c.symbol := by
        intro c symbol
        rw [symbol_iff.mpr symbol] at found
        cases found
      rw [taken]
      refine reportedOnce_of_cause ⟨rfl, plain⟩ ?_ rfl
      rintro other ⟨⟨⟩, -⟩
      rfl

theorem reported_read (args : Arguments) :
    ReportedOnce (read args).entries
      (fun candidate => candidate? args = some candidate ∧
        ∀ c : Comparison, candidate ≠ .str c.symbol)
      fun candidate => (.trace, [("value", .text candidate.text)]) := by
  let typed := takeDatatype { indexedName := .ofJson (args.spread.headD .null) } args.spread.tail
  have events : (read args).events = (typed.1.takeComparison typed.2).events :=
    List.append_nil _
  rw [Traced.entries, events, ← head?_takeDatatype]
  exact reported_takeComparison typed.1 typed.2

end RangeQuery

/-! ## Loaded options -/

theorem Options.reported_load (env : Environment) :
    ReportedOnce (load env).entries (fun options => (load env).result = .ok options)
      fun options => (.debug, [("options", .text options.logText)]) := by
  cases loaded : ofEnvironment env with
  | ok options =>
    have reported : load env = ⟨[.optionsLoaded options], .ok options⟩ := by
      rw [load, loaded]
      rfl
    rw [reported]
    refine reportedOnce_of_cause rfl ?_ rfl
    rintro other ⟨⟩
    rfl
  | error fault =>
    have failed : load env = pure (.error fault) := by
      rw [load, loaded]
    rw [failed]
    exact reportedOnce_of_no_cause (fun _ succeeded => nomatch succeeded) rfl

/-! ## All calls -/

/-- A datatype that is not known and a comparison that is refused are reported once, with the
name or with the constraint and the text in the failure. A custom constraint reports once, and
with their number, the values holding others that its text lacks. Calls on shapes report each
value of no kind, in order and as it is written. A positional range query reports once an
argument in the place of the comparison that is no symbol, and loading reports the options
that it gives. Where there is no such thing nothing is reported, by any of these calls. -/
theorem entries_account_for_calls :
    (∀ name collation,
      let call := Datatype.read name collation
      ReportedOnce call.entries (fun fault => call.result = .error fault)
        fun _ => (.debug, [("datatype", .text name)])) ∧
    (∀ name args,
      let call := Query.rangeConstraint name args
      (∀ fault, call.result = .error fault → ∃ operator, fault = .invalidOperator operator) ∧
      ReportedOnce call.entries
        (fun operator => call.result = .error (.invalidOperator operator))
        fun operator => (.debug, [("constraint", .text name), ("operator", .text operator)])) ∧
    (∀ name (args : Arguments),
      let call := Query.customConstraint name args
      let values := args.unwrapped
      let mapped := values ≠ [] ∧ ∀ value ∈ values, value.isMapping = true
      (mapped → call.entries = []) ∧
      (¬ mapped → ∃ text, call.result.field? "text" = some (.arr text) ∧
        let missing := values.countP Json.isContainer - text.countP Json.isContainer
        ReportedOnce call.entries (fun count => 0 < count ∧ count = missing)
          fun count => (.warn, [("constraint", .text name), ("discarded", .count count)]))) ∧
    (∀ name (args : Arguments),
      let dropped (values : List Json) : List Event.Entry :=
        (values.filter fun value => (Shape.ofJson? value).isNone).map fun value =>
          (.debug, [("shape", .text value.text)])
      (shapeLists args).entries = dropped args.spread ∧
      (Query.geospatialConstraint name args).entries = dropped (Arguments.spread args.unwrapped)) ∧
    (∀ args,
      ReportedOnce (RangeQuery.read args).entries
        (fun candidate => RangeQuery.candidate? args = some candidate ∧
          ∀ c : Comparison, candidate ≠ .str c.symbol)
        fun candidate => (.trace, [("value", .text candidate.text)])) ∧
    ∀ env,
      let call := Options.load env
      ReportedOnce call.entries (fun options => call.result = .ok options)
        fun options => (.debug, [("options", .text options.logText)]) := by
  refine ⟨Datatype.reported_read, ?_, ?_, ?_, RangeQuery.reported_read, Options.reported_load⟩
  · intro name args call
    exact ⟨fun _ => Query.rangeConstraint_fault, Query.reported_rangeConstraint name args⟩
  · intro name args call values mapped
    refine ⟨?_, ?_⟩
    · intro given
      have silent := Query.customConstraint_of_mappings name rfl (Query.isAllMappings_iff.mpr given)
      exact congrArg Traced.entries silent
    · intro other
      have mixed : ¬ Query.isAllMappings values = true := fun mappings =>
        other (Query.isAllMappings_iff.mp mappings)
      refine ⟨Query.textValues values, ?_, ?_⟩
      · rw [Query.result_customConstraint, Query.field?_ofKind,
          Query.get?_customBody_of_text name mixed, if_pos rfl]
      · rw [Query.countP_textValues, Nat.sub_zero]
        exact Query.reported_customConstraint name mixed
  · intro name args dropped
    exact ⟨entries_shapeLists args,
      (Query.entries_geospatialConstraint name args).trans (entries_shapeLists args.unwrapped)⟩

/-- A mapping and an array beside a word are left out together, and one report counts both. -/
theorem entries_account_two_discarded :
    let values : Arguments := [.object [], .str "word", .arr []]
    ¬ (values ≠ [] ∧ ∀ value ∈ values, value.isMapping = true) ∧
      (Query.customConstraint "area" values).entries =
        [(.warn, [("constraint", .text "area"), ("discarded", .count 2)])] := by
  intro values
  have other : ¬ (values ≠ [] ∧ ∀ value ∈ values, value.isMapping = true) := by decide
  obtain ⟨-, mixed⟩ := entries_account_for_calls.2.2.1 "area" values
  obtain ⟨text, found, once, -⟩ := mixed other
  have written : some (Json.arr text) = some (.arr [.str "word"]) := found.symm.trans rfl
  cases written
  exact ⟨other, once 2 ⟨by decide, rfl⟩⟩

end SearchQuery
