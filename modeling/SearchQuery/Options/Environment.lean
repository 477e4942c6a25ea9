import SearchQuery.Options.Basic
import SearchQuery.Text.Blank

/-!
# Search options from the environment

Six variables set the options. Every text is trimmed first. A page length is a
decimal number below `2 ^ 64` with an optional plus sign, a switch is one of six
words in any ASCII case, and the free-form options stand in one list with commas
between them. The variables are read in a fixed order and the first that does
not parse is the failure; the list of free-form options always parses.
-/

namespace SearchQuery

/-- Why the text of a variable was refused. -/
inductive SettingFault where
  | empty
  | invalidDigit
  | tooLarge
  | notBoolean (found : String)
  | other (message : String)
deriving DecidableEq

def SettingFault.message : SettingFault → String
  | empty => "cannot parse integer from empty string"
  | invalidDigit => "invalid digit found in string"
  | tooLarge => "number too large to fit in target type"
  | notBoolean found => "expected a boolean, got " ++ Text.quoted found
  | other message => message

structure ConfigError where
  key : String
  fault : SettingFault
deriving DecidableEq

def ConfigError.message (e : ConfigError) : String :=
  "Invalid value for " ++ e.key ++ ": " ++ e.fault.message

/-- The text of each variable that is set. -/
abbrev Environment := String → Option String

/-- The text that the bytes of a variable spell; other bytes leave it unset. -/
def Environment.textOfBytes? (bytes : List UInt8) : Option String :=
  String.fromUTF8? ⟨bytes.toArray⟩

namespace Options

/-- Reads digits from left to right; a wrong character or a number that has
become too large ends the reading, whichever comes first. -/
def readDigits (value : Nat) : List Char → Except SettingFault Nat
  | [] => .ok value
  | c :: rest =>
    if c.isDigit then
      let next := value * 10 + (c.toNat - '0'.toNat)
      if next < UInt64.size then readDigits next rest else .error .tooLarge
    else
      .error .invalidDigit

/-- One plus sign may stand before the digits. -/
def dropPlus : List Char → List Char
  | '+' :: rest => rest
  | cs => cs

def readPageLength (text : String) : Except SettingFault UInt64 :=
  let trimmed := Text.trim text.toList
  if trimmed = [] then .error .empty
  else
    match dropPlus trimmed with
    | [] => .error .invalidDigit
    | digits => (readDigits 0 digits).map UInt64.ofNat

/-- Lower case for ASCII letters; all other characters stay. -/
def lowerCase (cs : List Char) : List Char := cs.map Char.toLower

def readSwitch (text : String) : Except SettingFault Bool :=
  let word := String.ofList (lowerCase (Text.trim text.toList))
  if ["true", "1", "yes"].contains word then .ok true
  else if ["false", "0", "no"].contains word then .ok false
  else .error (.notBoolean word)

/-- The trimmed pieces between the commas that are not empty. -/
def readEntries (text : String) : List String :=
  (((text.toList.splitOn ',').map Text.trim).filter fun piece => piece ≠ []).map String.ofList

/-- The value of one variable, if it is set. -/
def setting {α : Type} (env : Environment) (key : String)
    (read : String → Except SettingFault α) : Except ConfigError (Option α) :=
  match env key with
  | none => .ok none
  | some text =>
    match read text with
    | .ok value => .ok (some value)
    | .error fault => .error ⟨key, fault⟩

def ofEnvironment (env : Environment) : Except ConfigError Options := do
  let pageLength ← setting env "SQ_PAGE_LENGTH" readPageLength
  let returnQuery ← setting env "SQ_RETURN_QUERY" readSwitch
  let returnResults ← setting env "SQ_RETURN_RESULTS" readSwitch
  let returnFacets ← setting env "SQ_RETURN_FACETS" readSwitch
  let debug ← setting env "SQ_DEBUG" readSwitch
  let searchOptions := ((env "SQ_SEARCH_OPTIONS").map readEntries).getD []
  return { pageLength, returnQuery, returnResults, returnFacets, debug, searchOptions }

end Options

end SearchQuery
