import SearchQuery.Proofs.Arguments
import SearchQuery.Proofs.Json.Equality
import SearchQuery.Proofs.Query.Directory
import SearchQuery.Query.Combination

/-!
# Query expressions

An expression is a tree of the queries that are combined or that restrict by
place. It can be called in many ways, since every list of it is handed over value
by value or in one array and the flag of a directory may be left out. All calls
of an expression build one query, and the query gives the expression back: no
sub-query is lost, moved, flattened or taken for another kind.
-/

namespace SearchQuery

open Arguments

/-- Queries over a list of sub-queries. -/
inductive Grouping where
  | structured
  | conjunction
  | disjunction
deriving DecidableEq

/-- Queries over one sub-query. -/
inductive Wrapping where
  | negation
  | within (fragment : Fragment)
deriving DecidableEq

/-- Queries over a list of texts. -/
inductive Listing where
  | term
  | collection
  | document
deriving DecidableEq

namespace Grouping

def build : Grouping → Arguments → Query
  | structured => Query.structured
  | conjunction => Query.conjunction
  | disjunction => Query.disjunction

def kind : Grouping → String
  | structured => "query"
  | conjunction => "and-query"
  | disjunction => "or-query"

theorem build_eq (g : Grouping) (parts : Arguments) :
    (g.build parts).json = .object [(g.kind, .object [("queries", .arr parts.spread)])] := by
  cases g <;> rfl

end Grouping

namespace Wrapping

def build : Wrapping → Json → Query
  | negation => Query.negation
  | within fragment => Query.within fragment

def kind : Wrapping → String
  | negation => "not-query"
  | within fragment => fragment.kind

theorem build_eq (w : Wrapping) (part : Json) :
    (w.build part).json = .object [(w.kind, part)] := by
  cases w <;> rfl

end Wrapping

namespace Listing

def build : Listing → Arguments → Query
  | term => Query.term
  | collection => Query.collection
  | document => Query.document

def kind : Listing → String
  | term => "term-query"
  | collection => "collection-query"
  | document => "document-query"

def key : Listing → String
  | term => "text"
  | _ => "uri"

theorem build_eq (l : Listing) (texts : Arguments) :
    (l.build texts).json = .object [(l.kind, .object [(l.key, .arr texts.spread)])] := by
  cases l <;> rfl

end Listing

/-- The tree of a query, without the way in which it was called. -/
inductive Expression where
  | group (grouping : Grouping) (parts : List Expression)
  | wrap (wrapping : Wrapping) (part : Expression)
  | boost (matching boosting : Expression)
  | list (listing : Listing) (texts : List String)
  | directory (uris : List String) (infinite : Bool)

/-- A tree of calls: each list has its own form, and a flag may be left out. -/
inductive Call where
  | group (grouping : Grouping) (form : Form) (parts : List Call)
  | wrap (wrapping : Wrapping) (part : Call)
  | boost (matching boosting : Call)
  | list (listing : Listing) (form : Form) (texts : List String)
  | directory (form : Form) (uris : List String) (flag : Option Bool)

namespace Call

mutual

/-- Makes the calls from the leaves up. -/
def build : Call → Query
  | group grouping form parts => grouping.build (form.arguments (buildAll parts))
  | wrap wrapping part => wrapping.build part.build.json
  | boost matching boosting => Query.boosted matching.build.json boosting.build.json
  | list listing form texts => listing.build (form.arguments (texts.map Json.str))
  | directory form uris flag =>
    Query.directory (form.arguments (uris.map Json.str) ++ flag.toList.map Json.bool)
termination_by structural call => call

def buildAll : List Call → List Json
  | [] => []
  | call :: rest => call.build.json :: buildAll rest
termination_by structural calls => calls

end

mutual

/-- The expression that is called; a flag left out is `true`. -/
def expression : Call → Expression
  | group grouping _ parts => .group grouping (expressions parts)
  | wrap wrapping part => .wrap wrapping part.expression
  | boost matching boosting => .boost matching.expression boosting.expression
  | list listing _ texts => .list listing texts
  | directory _ uris flag => .directory uris (flag.getD true)
termination_by structural call => call

def expressions : List Call → List Expression
  | [] => []
  | call :: rest => call.expression :: expressions rest
termination_by structural calls => calls

end

end Call

namespace Expression

mutual

/-- The written query of an expression. -/
def json : Expression → Json
  | group grouping parts =>
    .object [(grouping.kind, .object [("queries", .arr (jsons parts))])]
  | wrap wrapping part => .object [(wrapping.kind, part.json)]
  | boost matching boosting =>
    .object [("boost-query", .object [("matching-query", matching.json),
      ("boosting-query", boosting.json)])]
  | list listing texts =>
    .object [(listing.kind, .object [(listing.key, .arr (texts.map Json.str))])]
  | directory uris infinite =>
    .object [("directory-query", .object [("uri", .arr (uris.map Json.str)),
      ("infinite", .bool infinite)])]
termination_by structural expression => expression

def jsons : List Expression → List Json
  | [] => []
  | expression :: rest => expression.json :: jsons rest
termination_by structural expressions => expressions

end

theorem plain_json (e : Expression) : Plain e.json := by
  cases e <;> trivial

theorem plain_jsons (es : List Expression) : ∀ value ∈ jsons es, Plain value := by
  induction es with
  | nil => simp [jsons]
  | cons e rest ih =>
    intro value member
    rcases List.mem_cons.mp member with rfl | later
    · exact plain_json e
    · exact ih value later

end Expression

/-! ## All calls of an expression build its query -/

theorem noFlag_texts (texts : List String) : Query.NoFlag (texts.map Json.str) := by
  intro value member flag
  obtain ⟨text, -, rfl⟩ := List.mem_map.mp member
  nofun

/-- The texts are plain URIs, so the form of their list and the flag do not matter. -/
theorem directory_eq (form : Form) (uris : List String) (flag : Option Bool) :
    (Query.directory (form.arguments (uris.map Json.str) ++ flag.toList.map Json.bool)).json =
      .object [("directory-query", .object [("uri", .arr (uris.map Json.str)),
        ("infinite", .bool (flag.getD true))])] :=
  congrArg Query.json
    (Query.directory_arguments_flag .variadic form (plain_texts uris) (noFlag_texts uris) flag)

namespace Call

mutual

theorem json_build : ∀ call : Call, call.build.json = call.expression.json
  | group grouping form parts => by
    simp only [build, expression, Expression.json, Grouping.build_eq, buildAll_eq parts]
    rw [spread_arguments form (Expression.plain_jsons _)]
  | wrap wrapping part => by
    simp only [build, expression, Expression.json, Wrapping.build_eq, json_build part]
  | boost matching boosting => by
    simp only [build, expression, Expression.json, json_build matching, json_build boosting]
    rfl
  | list listing form texts => by
    simp only [build, expression, Expression.json, Listing.build_eq]
    rw [spread_arguments form (plain_texts texts)]
  | directory form uris flag => by
    simp only [build, expression, Expression.json, directory_eq]
termination_by structural call => call

theorem buildAll_eq : ∀ calls : List Call, buildAll calls = Expression.jsons (expressions calls)
  | [] => rfl
  | call :: rest => by
    simp only [buildAll, expressions, Expression.jsons, json_build call, buildAll_eq rest]
termination_by structural calls => calls

end

end Call

/-! ## The query of an expression gives the expression back -/

/-- The kinds of queries in an expression. -/
inductive Head where
  | group (grouping : Grouping)
  | wrap (wrapping : Wrapping)
  | boost
  | list (listing : Listing)
  | directory

namespace Head

def all : List Head :=
  [group .structured, group .conjunction, group .disjunction, wrap .negation,
    wrap (.within .document), wrap (.within .properties), wrap (.within .locks), boost,
    list .term, list .collection, list .document, directory]

def kind : Head → String
  | group grouping => grouping.kind
  | wrap wrapping => wrapping.kind
  | boost => "boost-query"
  | list listing => listing.kind
  | directory => "directory-query"

def ofKind? (kind : String) : Option Head := all.find? fun head => head.kind = kind

theorem ofKind?_kind (head : Head) : ofKind? head.kind = some head := by
  cases head with
  | group grouping => cases grouping <;> rfl
  | wrap wrapping =>
    cases wrapping with
    | negation => rfl
    | within fragment => cases fragment <;> rfl
  | boost => rfl
  | list listing => cases listing <;> rfl
  | directory => rfl

theorem kind_injective {a b : Head} (h : a.kind = b.kind) : a = b := by
  have found := ofKind?_kind a
  rw [h, ofKind?_kind b] at found
  exact (Option.some.inj found).symm

end Head

namespace Expression

def head : Expression → Head
  | group grouping _ => .group grouping
  | wrap wrapping _ => .wrap wrapping
  | boost _ _ => .boost
  | list listing _ => .list listing
  | directory _ _ => .directory

/-- What stands under the kind. -/
def body : Expression → Json
  | group _ parts => .object [("queries", .arr (jsons parts))]
  | wrap _ part => part.json
  | boost matching boosting =>
    .object [("matching-query", matching.json), ("boosting-query", boosting.json)]
  | list listing texts => .object [(listing.key, .arr (texts.map Json.str))]
  | directory uris infinite =>
    .object [("uri", .arr (uris.map Json.str)), ("infinite", .bool infinite)]

theorem json_eq (e : Expression) : e.json = .object [(e.head.kind, e.body)] := by
  cases e <;> rfl

theorem head_body_of_json {a b : Expression} (h : a.json = b.json) :
    a.head = b.head ∧ a.body = b.body := by
  rw [json_eq, json_eq] at h
  obtain ⟨kinds, bodies⟩ := Json.object_single_inj h
  exact ⟨Head.kind_injective kinds, bodies⟩

mutual

/-- The head says which queries are compared, and the bodies then agree part by part. -/
theorem json_inj : ∀ {a b : Expression}, a.json = b.json → a = b
  | group grouping parts, b, h => by
    obtain ⟨heads, bodies⟩ := head_body_of_json h
    cases b with
    | group grouping' parts' =>
      cases heads
      have lists := Json.arr.inj (Json.object_single_inj bodies).2
      rw [jsons_inj lists]
    | _ => cases heads
  | wrap wrapping part, b, h => by
    obtain ⟨heads, bodies⟩ := head_body_of_json h
    cases b with
    | wrap wrapping' part' =>
      cases heads
      rw [json_inj bodies]
    | _ => cases heads
  | boost matching boosting, b, h => by
    obtain ⟨heads, bodies⟩ := head_body_of_json h
    cases b with
    | boost matching' boosting' =>
      obtain ⟨first, second⟩ := Json.object_pair_inj (by decide) bodies
      rw [json_inj first, json_inj second]
    | _ => cases heads
  | list listing texts, b, h => by
    obtain ⟨heads, bodies⟩ := head_body_of_json h
    cases b with
    | list listing' texts' =>
      cases heads
      rw [Json.texts_inj (Json.object_single_inj bodies).2]
    | _ => cases heads
  | directory uris infinite, b, h => by
    obtain ⟨heads, bodies⟩ := head_body_of_json h
    cases b with
    | directory uris' infinite' =>
      obtain ⟨first, second⟩ := Json.object_pair_inj (by decide) bodies
      rw [Json.texts_inj first, Json.bool.inj second]
    | _ => cases heads
termination_by structural a => a

theorem jsons_inj : ∀ {as bs : List Expression}, jsons as = jsons bs → as = bs
  | [], bs, h => by
    cases bs with
    | nil => rfl
    | cons b bs => cases h
  | a :: as, bs, h => by
    cases bs with
    | nil => cases h
    | cons b bs =>
      obtain ⟨first, others⟩ := List.cons.inj h
      rw [json_inj first, jsons_inj others]
termination_by structural as => as

end

mutual

/-- The leaves hold texts and flags, so equality of written queries is identity. -/
theorem integral_json : ∀ e : Expression, e.json.Integral
  | group _ parts => by
    have queries : (Json.arr (jsons parts)).Integral := itemsIntegral_jsons parts
    exact Json.integral_object (by simpa using Json.integral_object (by simpa using queries))
  | wrap _ part => Json.integral_object (by simpa using integral_json part)
  | boost matching boosting => by
    have pair := And.intro (integral_json matching) (integral_json boosting)
    exact Json.integral_object (by simpa using Json.integral_object (by simpa using pair))
  | list _ texts => by
    have written : (Json.arr (texts.map Json.str)).Integral := Json.itemsIntegral_texts texts
    exact Json.integral_object (by simpa using Json.integral_object (by simpa using written))
  | directory uris infinite => by
    have written : (Json.arr (uris.map Json.str)).Integral := Json.itemsIntegral_texts uris
    have pair := And.intro written (show (Json.bool infinite).Integral from trivial)
    exact Json.integral_object (by simpa using Json.integral_object (by simpa using pair))
termination_by structural e => e

theorem itemsIntegral_jsons : ∀ es : List Expression, Json.ItemsIntegral (jsons es)
  | [] => trivial
  | e :: rest => ⟨integral_json e, itemsIntegral_jsons rest⟩
termination_by structural es => es

end

end Expression

/-- Two calls build the same query, by identity or by equality of values, exactly when
they call the same expression. -/
theorem Call.build_eq_build_iff (a b : Call) :
    (a.build = b.build ↔ a.expression = b.expression) ∧
      (a.build.json.same b.build.json = true ↔ a.expression = b.expression) := by
  have written : a.build.json = b.build.json ↔ a.expression = b.expression := by
    rw [json_build, json_build]
    exact ⟨Expression.json_inj, congrArg Expression.json⟩
  have integral : a.build.json.Integral := by
    rw [json_build]
    exact Expression.integral_json a.expression
  constructor
  · rw [← written]
    exact ⟨congrArg Query.json, congrArg Query.mk⟩
  · rw [← written]
    exact Json.same_iff_eq integral

/-- One directory in an array, and the same with the flag written out. -/
example : (Call.directory .array ["/a/"] none).expression =
    (Call.directory .variadic ["/a/"] (some true)).expression := rfl

end SearchQuery
