import SearchQuery.Proofs.Json.Equality
import SearchQuery.Query.Basic

/-!
# Equality of queries

Queries of one kind are equal values exactly when their bodies are. Identical queries
are equal, so a condition that makes two queries identical and that equality alone
gives back is exact for either.
-/

namespace SearchQuery.Query

theorem body_same_of_ofKind_same {kind : String} {body other : Json}
    (h : (ofKind kind body).json.same (ofKind kind other).json = true) :
    body.same other = true :=
  Json.same_of_field? h (Json.field?_object_single kind body)
    (Json.field?_object_single kind other)

/-- Enough for a condition to hold exactly when two queries are identical, and exactly
when they are equal values. -/
theorem eq_and_same_iff {a b : Query} {condition : Prop} (identical : condition → a = b)
    (holds : a.json.same b.json = true → condition) :
    (a = b ↔ condition) ∧ (a.json.same b.json = true ↔ condition) := by
  have equal : a = b → a.json.same b.json = true := by
    rintro rfl
    exact Json.same_self a.json
  constructor
  · exact ⟨fun h => holds (equal h), identical⟩
  · exact ⟨holds, fun h => equal (identical h)⟩

end SearchQuery.Query
