import SearchQuery.Json.Basic
import SearchQuery.Json.Token

/-!
# Reading values

A text is first cut into tokens, each with the blanks before it dropped. The
tokens then run through a reader whose state is what it expects next and the
containers that are still open around it. A container opens only while fewer
than the limit are open, a key given twice keeps its last value, and nothing may
follow the value.
-/

namespace SearchQuery

/-! ## Cutting a text into tokens -/

namespace Token

theorem length_dropBlanks (cs : List Char) : (cs.dropWhile isBlank).length ≤ cs.length :=
  (List.dropWhile_sublist isBlank).length_le

/-- All tokens of a text, or nothing if some part of it is no token. -/
def scan? (cs : List Char) : Option (List Token) :=
  match _start : cs.dropWhile isBlank with
  | [] => some []
  | c :: tail =>
    match _found : read? (c :: tail) with
    | none => none
    | some (token, rest) => (scan? rest).map (token :: ·)
termination_by cs.length
decreasing_by
  have shorter := length_of_read? _found
  have dropped := length_dropBlanks cs
  rw [_start] at dropped
  omega

end Token

/-! ## From tokens to a value -/

namespace Json

/-- A container that is still open, with what was read of it. -/
inductive Frame where
  | items (reversed : List Json)
  | member (before : Fields Json none) (key : String)

/-- What the reader expects next; the open containers are listed innermost first. -/
inductive Reader where
  | value (around : List Frame)
  | itemOrClose (around : List Frame)
  | keyOrClose (around : List Frame)
  | nextKey (before : Fields Json none) (around : List Frame)
  | colon (before : Fields Json none) (key : String) (around : List Frame)
  | afterItem (reversed : List Json) (around : List Frame)
  | afterMember (before : Fields Json none) (around : List Frame)
  | finished (value : Json)

namespace Reader

/-- A value is complete and goes to the innermost open container. -/
def deliver (value : Json) : List Frame → Reader
  | [] => finished value
  | .items reversed :: around => afterItem (value :: reversed) around
  | .member before key :: around => afterMember (before.insert key value) around

/-- The first token of a value. -/
def begin? (limit : Nat) (around : List Frame) : Token → Option Reader
  | .null => some (deliver .null around)
  | .bool content => some (deliver (.bool content) around)
  | .num content => some (deliver (.num content) around)
  | .str content => some (deliver (.str content) around)
  | .openArray => if around.length < limit then some (itemOrClose around) else none
  | .openObject => if around.length < limit then some (keyOrClose around) else none
  | _ => none

def step? (limit : Nat) : Reader → Token → Option Reader
  | value around, token => begin? limit around token
  | itemOrClose around, .closeArray => some (deliver (.arr []) around)
  | itemOrClose around, token => begin? limit (.items [] :: around) token
  | keyOrClose around, .closeObject => some (deliver (.obj .nil) around)
  | keyOrClose around, .str name => some (colon .nil name around)
  | nextKey before around, .str name => some (colon before name around)
  | colon before name around, .colon => some (value (.member before name :: around))
  | afterItem reversed around, .comma => some (value (.items reversed :: around))
  | afterItem reversed around, .closeArray => some (deliver (.arr reversed.reverse) around)
  | afterMember before around, .comma => some (nextKey before around)
  | afterMember before around, .closeObject => some (deliver (.obj before) around)
  | _, _ => none

def run? (limit : Nat) (reader : Reader) : List Token → Option Reader
  | [] => some reader
  | token :: rest => (reader.step? limit token).bind fun next => next.run? limit rest

end Reader

/-- The value that the tokens spell, with at most `limit` containers around one another. -/
def ofTokens? (limit : Nat) (tokens : List Token) : Option Json :=
  match Reader.run? limit (.value []) tokens with
  | some (.finished value) => some value
  | _ => none

def readWithin? (limit : Nat) (text : String) : Option Json :=
  (Token.scan? text.toList).bind (ofTokens? limit)

/-- The number of containers that may stand around one another in a text. -/
def nestingLimit : Nat := 127

def read? (text : String) : Option Json := readWithin? nestingLimit text

end Json

end SearchQuery
