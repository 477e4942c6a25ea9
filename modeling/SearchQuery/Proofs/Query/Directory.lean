import SearchQuery.Proofs.Arguments
import SearchQuery.Query.Location

/-!
# The calling forms of a directory query

The URIs are given one by one or in one array, the flag stands behind them or is left out,
and all of that may come in one more array. Three steps undo this in turn: the arguments are
spread, a closing flag is taken off, and a lone array of what is left is unwrapped. Inside
their own array the URIs can be any values, since no step opens an array inside that one.
Given one by one they must not be flags, nor be spread or unwrapped themselves.
-/

namespace SearchQuery.Query

open Arguments

variable {uris values : List Json}

/-- The directory query for these URIs, whose deeper directories count or do not. -/
def below (uris : List Json) (infinite : Bool) : Query :=
  ofKind "directory-query" (.object [("uri", .arr uris), ("infinite", .bool infinite)])

/-- It is a mapping of one key over these URIs and the flag. -/
theorem reads_below (uris : List Json) (infinite : Bool) :
    ∃ body : Fields Json none, (below uris infinite).Reads "directory-query" (.obj body) ∧
      body.toList = [("infinite", .bool infinite), ("uri", .arr uris)] := by
  refine ⟨_, reads_ofKind _ _, ?_⟩
  have before : "infinite" < "uri" := by decide
  simp [Fields.ofList, Fields.insert, Fields.place, Fields.toList, before]

/-- None of the values could be taken for the flag. -/
def NoFlag (values : List Json) : Prop := ∀ value ∈ values, ∀ flag, value ≠ .bool flag

/-! ## The flag is taken off what was spread -/

theorem takeFlag_append_flag (values : List Json) (flag : Bool) :
    takeFlag (values ++ [.bool flag]) = (values, flag) := by
  simp [takeFlag]

theorem takeFlag_eq_self (noFlag : NoFlag values) : takeFlag values = (values, true) := by
  rw [takeFlag]
  split
  · next flag closing => exact absurd rfl (noFlag _ (List.mem_of_getLast? closing) flag)
  · rfl

/-- A closing flag is found in either form, whatever the values before it are. -/
theorem directory_append_flag (form : Form) (values : List Json) (flag : Bool) :
    directory (form.arguments (values ++ [.bool flag])) = below (unwrapped values) flag := by
  have spreads : spread (form.arguments (values ++ [.bool flag])) = values ++ [.bool flag] := by
    cases form with
    | variadic => exact spread_append_flag flag
    | array => rfl
  simp only [directory, spreads, takeFlag_append_flag]
  rfl

theorem directory_of_noFlag {args : Arguments} (noFlag : NoFlag args.spread) :
    directory args = below (unwrapped args.spread) true := by
  simp only [directory, takeFlag_eq_self noFlag]
  rfl

/-! ## What is left is unwrapped -/

theorem noFlag_array (uris : List Json) : NoFlag [.arr uris] := by
  simp [NoFlag]

theorem noFlag_arguments (form : Form) (noFlag : NoFlag uris) : NoFlag (form.arguments uris) := by
  cases form with
  | variadic => exact noFlag
  | array => exact noFlag_array uris

/-- Without a flag, spreading may already undo the form of the URIs. -/
theorem directory_arguments (outer inner : Form) (plain : ∀ uri ∈ uris, Plain uri)
    (noFlag : NoFlag uris) :
    directory (outer.arguments (inner.arguments uris)) = below uris true := by
  cases outer with
  | variadic =>
    have spreads : spread (inner.arguments uris) = uris := spread_arguments inner plain
    have direct : directory (inner.arguments uris) =
        below (unwrapped (spread (inner.arguments uris))) true :=
      directory_of_noFlag (by rwa [spreads])
    rw [Form.arguments, direct, spreads, unwrapped_eq_self plain]
  | array =>
    have direct : directory [.arr (inner.arguments uris)] =
        below (unwrapped (inner.arguments uris)) true :=
      directory_of_noFlag (noFlag_arguments inner noFlag)
    rw [Form.arguments, direct, unwrapped_arguments inner plain]

theorem directory_arguments_flag (outer inner : Form) (plain : ∀ uri ∈ uris, Plain uri)
    (noFlag : NoFlag uris) (flag : Option Bool) :
    directory (outer.arguments (inner.arguments uris ++ flag.toList.map Json.bool)) =
      below uris (flag.getD true) := by
  cases flag with
  | some flag =>
    exact (directory_append_flag outer (inner.arguments uris) flag).trans
      (congrArg (below · flag) (unwrapped_arguments inner plain))
  | none =>
    rw [Option.toList_none, List.map_nil, List.append_nil]
    exact directory_arguments outer inner plain noFlag

/-- A list of any values in its own array, with or without a further array around it, is
the list of URIs; a flag is the one behind that array and nothing from inside it. Values
that are neither null nor flags nor arrays may as well be given one by one. What is written
holds the URIs and the flag and nothing else. -/
theorem directory_eq_below :
    (∀ (uris : List Json) (infinite : Bool), ∃ body : Fields Json none,
      (below uris infinite).Reads "directory-query" (.obj body) ∧
        body.toList = [("infinite", .bool infinite), ("uri", .arr uris)]) ∧
    (∀ (uris : List Json) (flag : Bool),
      directory [.arr uris, .bool flag] = below uris flag ∧
        directory [.arr [.arr uris, .bool flag]] = below uris flag ∧
        directory [.arr [.arr uris]] = below uris true) ∧
    (∀ uris : List Json, (∀ uri ∈ uris, Plain uri ∧ ∀ flag, uri ≠ .bool flag) →
      ∀ (outer inner : Form) (flag : Option Bool),
        directory (outer.arguments (inner.arguments uris ++ flag.toList.map Json.bool)) =
          below uris (flag.getD true)) := by
  refine ⟨reads_below, ?_, ?_⟩
  · intro uris flag
    have nested : directory [.arr [.arr uris]] = below uris true :=
      directory_of_noFlag (noFlag_array uris)
    exact ⟨directory_append_flag .variadic [.arr uris] flag,
      directory_append_flag .array [.arr uris] flag, nested⟩
  · intro uris members outer inner flag
    have plain : ∀ uri ∈ uris, Plain uri := fun uri member => (members uri member).1
    have noFlag : NoFlag uris := fun uri member => (members uri member).2
    exact directory_arguments_flag outer inner plain noFlag flag

/-- One URI and a mapping in the four forms, with the flag and without; and a list of a
flag and an array, which is left as it is inside its own array. -/
theorem directory_eq_below_mixed :
    let plain : List Json := [.str "/a/", .object []]
    let mixed : List Json := [.arr [.str "/a/"], .bool false]
    (∀ uri ∈ plain, Plain uri ∧ ∀ flag, uri ≠ .bool flag) ∧
      (directory [.str "/a/", .object [], .bool false] = below plain false ∧
        directory [.arr plain] = below plain true) ∧
      directory [.arr [.arr mixed]] = below mixed true := by
  intro plain mixed
  obtain ⟨-, arrays, forms⟩ := directory_eq_below
  have members : ∀ uri ∈ plain, Plain uri ∧ ∀ flag, uri ≠ .bool flag := by
    simp [plain, Plain, Json.object]
  exact ⟨members, ⟨forms plain members .variadic .variadic (some false),
    forms plain members .variadic .array none⟩, (arrays mixed false).2.2⟩

end SearchQuery.Query
