import SearchQuery.Json.Basic
import SearchQuery.Json.Token

/-!
# Writing values

The written form of a value is its tokens without any blanks, the fields of an
object in key order.
-/

namespace SearchQuery.Json

mutual

def tokens : Json → List Token
  | null => [.null]
  | bool value => [.bool value]
  | num value => [.num value]
  | str value => [.str value]
  | arr items => .openArray :: ((itemTokens items).drop 1 ++ [.closeArray])
  | obj fields => .openObject :: ((fieldTokens fields).drop 1 ++ [.closeObject])
termination_by structural value => value

/-- Each item after a comma, also the first. -/
def itemTokens : List Json → List Token
  | [] => []
  | item :: rest => .comma :: (item.tokens ++ itemTokens rest)
termination_by structural items => items

/-- Each field after a comma, also the first. -/
def fieldTokens {low : Option String} : Fields Json low → List Token
  | .nil => []
  | .cons key _ value rest =>
    .comma :: .str key :: .colon :: (value.tokens ++ fieldTokens rest)
termination_by structural fields => fields

end

def chars (value : Json) : List Char := value.tokens.flatMap Token.chars

def text (value : Json) : String := String.ofList value.chars

end SearchQuery.Json
