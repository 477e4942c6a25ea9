/-!
# Ranges of code points

A character class is a list of inclusive ranges in ascending order. The search
stops at the first range that starts above the character.
-/

namespace SearchQuery.Text

def inRanges (code : Nat) : List (Nat × Nat) → Bool
  | [] => false
  | (first, last) :: rest =>
    if code < first then false else code ≤ last || inRanges code rest

end SearchQuery.Text
