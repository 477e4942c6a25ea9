import SearchQuery.Decoding
import SearchQuery.Options.Basic

/-!
# Decoding search options

Options are read from a mapping or from a list. The fields of a mapping are
visited in key order and unknown keys are passed over. A list gives the fields
in their declared order; missing ones stay unset and more than six are refused
once the first six were read. Null leaves a field unset, except for the list of
free-form options.
-/

namespace SearchQuery

/-- The fields of the options. -/
inductive OptionField where
  | pageLength
  | returnQuery
  | returnResults
  | returnFacets
  | debug
  | searchOptions
deriving DecidableEq

namespace OptionField

/-- In declared order. -/
def all : List OptionField :=
  [pageLength, returnQuery, returnResults, returnFacets, debug, searchOptions]

def key : OptionField → String
  | pageLength => "page-length"
  | returnQuery => "return-query"
  | returnResults => "return-results"
  | returnFacets => "return-facets"
  | debug => "debug"
  | searchOptions => "search-option"

def ofKey? (key : String) : Option OptionField := all.find? fun field => field.key = key

end OptionField

namespace Options

def decodeWord : Json → Except DecodeError UInt64
  | .num (.int value _) =>
    if value < 0 then .error (.negative value) else .ok (UInt64.ofNat value.toNat)
  | found => .error (.wrongType found .word)

def decodeBool : Json → Except DecodeError Bool
  | .bool value => .ok value
  | found => .error (.wrongType found .boolean)

def decodeString : Json → Except DecodeError String
  | .str value => .ok value
  | found => .error (.wrongType found .string)

def decodeStrings : Json → Except DecodeError (List String)
  | .arr items => items.mapM decodeString
  | found => .error (.wrongType found .sequence)

/-- Null stands for an unset field. -/
def decodeSetting {α : Type} (decode : Json → Except DecodeError α) :
    Json → Except DecodeError (Option α)
  | .null => .ok none
  | value => (decode value).map some

/-- Sets one field from its JSON value. -/
def assign (o : Options) (field : OptionField) (value : Json) : Except DecodeError Options :=
  match field with
  | .pageLength => (decodeSetting decodeWord value).map fun v => { o with pageLength := v }
  | .returnQuery => (decodeSetting decodeBool value).map fun v => { o with returnQuery := v }
  | .returnResults => (decodeSetting decodeBool value).map fun v => { o with returnResults := v }
  | .returnFacets => (decodeSetting decodeBool value).map fun v => { o with returnFacets := v }
  | .debug => (decodeSetting decodeBool value).map fun v => { o with debug := v }
  | .searchOptions => (decodeStrings value).map fun v => { o with searchOptions := v }

def assignKey (o : Options) (entry : String × Json) : Except DecodeError Options :=
  match OptionField.ofKey? entry.1 with
  | some field => o.assign field entry.2
  | none => .ok o

def ofFields (fields : Fields Json none) : Except DecodeError Options :=
  fields.toList.foldlM assignKey {}

def ofItems (items : List Json) : Except DecodeError Options := do
  let o ← (OptionField.all.zip items).foldlM (fun o entry => o.assign entry.1 entry.2) {}
  if OptionField.all.length < items.length then
    throw (.tooLong items.length)
  return o

def ofJson : Json → Except DecodeError Options
  | .obj fields => ofFields fields
  | .arr items => ofItems items
  | found => .error (.wrongType found .options)

end Options

end SearchQuery
