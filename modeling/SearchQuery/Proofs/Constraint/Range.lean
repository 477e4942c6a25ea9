import SearchQuery.Constraint.Basic

/-!
# What a range constraint is asked for

What stands first in a call on a range constraint is the comparison if anything stands in
the second or third place, and the values otherwise. As a comparison it asks for one of
the six or is refused under a text, and its shape alone tells which. Nothing behind the
third place is looked at. Of the constraints picked by kind only those on a range fail.
-/

namespace SearchQuery

namespace RangeCall

variable {args : Arguments}

/-- Something other than null stands in the second or third place. -/
def Supplied (args : Arguments) : Prop :=
  ∃ value, (args[1]? = some value ∨ args[2]? = some value) ∧ value ≠ .null

/-- The value, given as a comparison, asks for this one. -/
inductive Asks : Json → Comparison → Prop where
  | null : Asks .null .equal
  | no : Asks (.bool false) .equal
  | empty : Asks (.str "") .equal
  | named (c : Comparison) : Asks (.str c.name) c

/-- The value, given as a comparison, is refused under this text. -/
inductive Refuses : Json → String → Prop where
  | unknown {text : String} (given : text ≠ "") (unnamed : ∀ c : Comparison, c.name ≠ text) :
    Refuses (.str text) text
  | yes : Refuses (.bool true) (Json.bool true).text
  | number (n : Number) : Refuses (.num n) (Json.num n).text
  | array (items : List Json) : Refuses (.arr items) (Json.arr items).text
  | mapping (fields : Fields Json none) : Refuses (.obj fields) (Json.obj fields).text

/-! ## The comparison -/

theorem choose_of_asks {value : Json} {c : Comparison} (asks : Asks value c) :
    choose (some value) = .ok c := by
  cases asks with
  | null => rfl
  | no => rfl
  | empty => rfl
  | named => cases c <;> rfl

theorem choose_of_refuses {value : Json} {text : String} (refuses : Refuses value text) :
    choose (some value) = .error text := by
  cases refuses with
  | unknown given unnamed =>
    have missing : Comparison.ofName? text = none := by
      cases found : Comparison.ofName? text with
      | none => rfl
      | some c => exact absurd (Comparison.ofName?_eq_some_iff.mp found) (unnamed c)
    rw [choose, if_neg given, missing]
  | yes => rfl
  | number n => rfl
  | array items => rfl
  | mapping fields => rfl

/-- Every value asks for a comparison or is refused. -/
theorem asks_or_refuses (value : Json) : (∃ c, Asks value c) ∨ ∃ text, Refuses value text := by
  cases value with
  | null => exact .inl ⟨_, .null⟩
  | bool value =>
    cases value with
    | false => exact .inl ⟨_, .no⟩
    | true => exact .inr ⟨_, .yes⟩
  | num n => exact .inr ⟨_, .number n⟩
  | str text =>
    by_cases given : text = ""
    · subst given
      exact .inl ⟨_, .empty⟩
    · by_cases known : ∃ c : Comparison, c.name = text
      · obtain ⟨c, rfl⟩ := known
        exact .inl ⟨c, .named c⟩
      · exact .inr ⟨text, .unknown given fun c named => known ⟨c, named⟩⟩
  | arr items => exact .inr ⟨_, .array items⟩
  | obj fields => exact .inr ⟨_, .mapping fields⟩

/-! ## The places -/

theorem filter_not_isNull_eq_none_iff {place : Option Json} :
    (place.filter fun value => !value.isNull) = none ↔
      ∀ value, place = some value → value = .null := by
  cases place with
  | none => simp
  | some value => cases value <;> simp [Json.isNull]

/-- Null counts as nothing, and nothing is written as null. -/
theorem getD_filter_not_isNull (place : Option Json) :
    (place.filter fun value => !value.isNull).getD .null = place.getD .null := by
  cases place with
  | none => rfl
  | some value => cases value <;> rfl

theorem ofArgs_of_not_supplied (alone : ¬ Supplied args) :
    ofArgs args = { comparison := none, values := args[0]?.getD .null, options := .null } := by
  have second : (args[1]?.filter fun value => !value.isNull) = none :=
    filter_not_isNull_eq_none_iff.mpr fun value found =>
      Classical.byContradiction fun given => alone ⟨value, .inl found, given⟩
  have third : (args[2]?.filter fun value => !value.isNull) = none :=
    filter_not_isNull_eq_none_iff.mpr fun value found =>
      Classical.byContradiction fun given => alone ⟨value, .inr found, given⟩
  simp only [ofArgs, second, third]

/-- With something behind it the first argument is there, so the comparison is never missing. -/
theorem ofArgs_of_supplied (supplied : Supplied args) :
    ofArgs args =
      { comparison := some (args[0]?.getD .null)
        values := args[1]?.getD .null
        options := args[2]?.getD .null } := by
  cases args with
  | nil =>
    obtain ⟨value, found | found, -⟩ := supplied
    · cases found
    · cases found
  | cons first rest =>
    simp only [ofArgs]
    split
    · rename_i second third
      obtain ⟨value, found | found, given⟩ := supplied
      · exact absurd (filter_not_isNull_eq_none_iff.mp second value found) given
      · exact absurd (filter_not_isNull_eq_none_iff.mp third value found) given
    · simp only [getD_filter_not_isNull]
      rfl

theorem ofArgs_take (args : Arguments) : ofArgs (args.take 3) = ofArgs args := by
  simp [ofArgs]

end RangeCall

namespace Query

variable {name : String} {args : Arguments}

/-! ## The call -/

theorem rangeConstraint_of_not_supplied (alone : ¬ RangeCall.Supplied args) :
    rangeConstraint name args =
      pure (.ok (rangeConstraintWith name .equal (args[0]?.getD .null) .null)) := by
  rw [rangeConstraint, RangeCall.ofArgs_of_not_supplied alone]
  rfl

theorem rangeConstraint_of_asks (supplied : RangeCall.Supplied args) {c : Comparison}
    (asks : RangeCall.Asks (args[0]?.getD .null) c) :
    rangeConstraint name args =
      pure (.ok (rangeConstraintWith name c (args[1]?.getD .null) (args[2]?.getD .null))) := by
  simp only [rangeConstraint, RangeCall.ofArgs_of_supplied supplied,
    RangeCall.choose_of_asks asks]

theorem rangeConstraint_of_refuses (supplied : RangeCall.Supplied args) {operator : String}
    (refuses : RangeCall.Refuses (args[0]?.getD .null) operator) :
    rangeConstraint name args = (do
      Traced.report (.operatorRejected name operator)
      return .error (.invalidOperator operator)) := by
  simp only [rangeConstraint, RangeCall.ofArgs_of_supplied supplied,
    RangeCall.choose_of_refuses refuses]

theorem rangeConstraint_built_or_refused (name : String) (args : Arguments) :
    (∃ c values options,
        rangeConstraint name args = pure (.ok (rangeConstraintWith name c values options))) ∨
      ∃ operator, rangeConstraint name args = (do
        Traced.report (.operatorRejected name operator)
        return .error (.invalidOperator operator)) := by
  by_cases supplied : RangeCall.Supplied args
  · rcases RangeCall.asks_or_refuses (args[0]?.getD .null) with ⟨c, asks⟩ | ⟨operator, refuses⟩
    · exact .inl ⟨c, _, _, rangeConstraint_of_asks supplied asks⟩
    · exact .inr ⟨operator, rangeConstraint_of_refuses supplied refuses⟩
  · exact .inl ⟨.equal, _, _, rangeConstraint_of_not_supplied supplied⟩

theorem rangeConstraint_error_iff (supplied : RangeCall.Supplied args) {fault : QueryError} :
    (rangeConstraint name args).result = .error fault ↔
      ∃ operator, RangeCall.Refuses (args[0]?.getD .null) operator ∧
        fault = .invalidOperator operator := by
  constructor
  · intro failed
    rcases RangeCall.asks_or_refuses (args[0]?.getD .null) with ⟨c, asks⟩ | ⟨operator, refuses⟩
    · rw [rangeConstraint_of_asks supplied asks] at failed
      cases failed
    · rw [rangeConstraint_of_refuses supplied refuses] at failed
      cases failed
      exact ⟨operator, refuses, rfl⟩
  · rintro ⟨operator, refuses, rfl⟩
    rw [rangeConstraint_of_refuses supplied refuses]
    rfl

theorem rangeConstraint_ok_iff (supplied : RangeCall.Supplied args) {query : Query} :
    (rangeConstraint name args).result = .ok query ↔
      ∃ c, RangeCall.Asks (args[0]?.getD .null) c ∧
        query = rangeConstraintWith name c (args[1]?.getD .null) (args[2]?.getD .null) := by
  constructor
  · intro built
    rcases RangeCall.asks_or_refuses (args[0]?.getD .null) with ⟨c, asks⟩ | ⟨operator, refuses⟩
    · rw [rangeConstraint_of_asks supplied asks] at built
      cases built
      exact ⟨c, asks, rfl⟩
    · rw [rangeConstraint_of_refuses supplied refuses] at built
      cases built
  · rintro ⟨c, asks, rfl⟩
    rw [rangeConstraint_of_asks supplied asks]
    rfl

theorem rangeConstraint_take (name : String) (args : Arguments) :
    rangeConstraint name (args.take 3) = rangeConstraint name args := by
  simp only [rangeConstraint, RangeCall.ofArgs_take]

end Query

/-! ## Constraints picked by kind -/

namespace ConstraintKind

/-- The names that pick something else than a range. -/
def otherNames : List (Option String) :=
  [some "value", some "word", some "custom", some "collection"]

theorem ofName_eq_range_iff (kind : Option String) : ofName kind = range ↔ kind ∉ otherNames := by
  unfold ofName
  split
  · simp [otherNames]
  · simp [otherNames]
  · simp [otherNames]
  · simp [otherNames]
  · simp_all [otherNames]

theorem build_error_iff {kind : ConstraintKind} {name : String} {args : Arguments}
    {fault : QueryError} :
    (kind.build name args).result = .error fault ↔
      kind = range ∧ (Query.rangeConstraint name args).result = .error fault := by
  cases kind with
  | range => exact (and_iff_right rfl).symm
  | _ =>
    constructor
    · intro failed
      cases failed
    · rintro ⟨ranged, -⟩
      cases ranged

end ConstraintKind

namespace Query

/-- With nothing in the second and third places a call succeeds and its first argument is
the values. With something there it fails exactly when the first argument is refused, with
the text that it is refused under, and succeeds with the comparison that is asked for
otherwise. What stands behind the third place never matters. A constraint picked by kind
fails exactly when it is on a range, and as that does. -/
theorem rangeConstraint_outcome (name : String) (args : Arguments) :
    let place (n : Nat) : Json := args[n]?.getD .null
    let outcome := (rangeConstraint name args).result
    (¬ RangeCall.Supplied args →
        outcome = .ok (rangeConstraintWith name .equal (place 0) .null)) ∧
      (RangeCall.Supplied args →
        (∀ fault, outcome = .error fault ↔
          ∃ operator, RangeCall.Refuses (place 0) operator ∧ fault = .invalidOperator operator) ∧
        ∀ query, outcome = .ok query ↔
          ∃ c, RangeCall.Asks (place 0) c ∧
            query = rangeConstraintWith name c (place 1) (place 2)) ∧
      rangeConstraint name (args.take 3) = rangeConstraint name args ∧
      ∀ kind fault, ((ConstraintKind.ofName kind).build name args).result = .error fault ↔
        kind ∉ ConstraintKind.otherNames ∧ outcome = .error fault := by
  intro place outcome
  refine ⟨?_, ?_, rangeConstraint_take name args, ?_⟩
  · intro alone
    exact congrArg Traced.result (rangeConstraint_of_not_supplied alone)
  · intro supplied
    exact ⟨fun _ => rangeConstraint_error_iff supplied, fun _ => rangeConstraint_ok_iff supplied⟩
  · intro kind fault
    rw [ConstraintKind.build_error_iff, ConstraintKind.ofName_eq_range_iff]

/-- Options alone make the first argument a comparison, and `true` is none; with null there
an unknown name is a value. -/
theorem rangeConstraint_outcome_options_only :
    let refused : Arguments := [.bool true, .null, .str "limit=3"]
    let asked : Arguments := [.str "NE", .null, .str "limit=3"]
    let alone : Arguments := [.str "ZZ", .null]
    (RangeCall.Supplied refused ∧
        (rangeConstraint "price" refused).result = .error (.invalidOperator "true")) ∧
      (RangeCall.Supplied asked ∧
        (rangeConstraint "price" asked).result =
          .ok (rangeConstraintWith "price" .notEqual .null (.str "limit=3"))) ∧
      ¬ RangeCall.Supplied alone ∧
        (rangeConstraint "price" alone).result =
          .ok (rangeConstraintWith "price" .equal (.str "ZZ") .null) := by
  intro refused asked alone
  have limited : ∀ first : Json, RangeCall.Supplied [first, .null, .str "limit=3"] :=
    fun first => ⟨.str "limit=3", .inr rfl, by simp⟩
  have unlimited : ¬ RangeCall.Supplied alone := by
    rintro ⟨value, found | found, given⟩
    · exact given (Option.some.inj found).symm
    · cases found
  refine ⟨⟨limited _, ?_⟩, ⟨limited _, ?_⟩, unlimited, ?_⟩
  · have iffs := (rangeConstraint_outcome "price" refused).2.1 (limited _)
    exact (iffs.1 _).mpr ⟨"true", .yes, rfl⟩
  · have iffs := (rangeConstraint_outcome "price" asked).2.1 (limited _)
    exact (iffs.2 _).mpr ⟨.notEqual, .named .notEqual, rfl⟩
  · exact (rangeConstraint_outcome "price" alone).1 unlimited

end Query

end SearchQuery
