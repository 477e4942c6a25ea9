import SearchQuery.Json.Basic
import SearchQuery.Text.Quoted

/-!
# Search options

The options that accompany a search. An option that is not set is left out of
the written mapping, and so is an empty list of free-form options.
-/

namespace SearchQuery

structure Options where
  pageLength : Option UInt64 := none
  returnQuery : Option Bool := none
  returnResults : Option Bool := none
  returnFacets : Option Bool := none
  debug : Option Bool := none
  searchOptions : List String := []
deriving DecidableEq

namespace Options

def withPageLength (o : Options) (length : UInt64) : Options :=
  { o with pageLength := some length }

def withReturnQuery (o : Options) (enabled : Bool) : Options :=
  { o with returnQuery := some enabled }

def withReturnResults (o : Options) (enabled : Bool) : Options :=
  { o with returnResults := some enabled }

def withReturnFacets (o : Options) (enabled : Bool) : Options :=
  { o with returnFacets := some enabled }

def withDebug (o : Options) (enabled : Bool) : Options :=
  { o with debug := some enabled }

/-- Adds one free-form option after those already there. -/
def withSearchOption (o : Options) (entry : String) : Options :=
  { o with searchOptions := o.searchOptions ++ [entry] }

/-- One change to the options. -/
inductive Change where
  | pageLength (length : UInt64)
  | returnQuery (enabled : Bool)
  | returnResults (enabled : Bool)
  | returnFacets (enabled : Bool)
  | debug (enabled : Bool)
  | searchOption (entry : String)
deriving DecidableEq

def apply (o : Options) : Change → Options
  | .pageLength length => o.withPageLength length
  | .returnQuery enabled => o.withReturnQuery enabled
  | .returnResults enabled => o.withReturnResults enabled
  | .returnFacets enabled => o.withReturnFacets enabled
  | .debug enabled => o.withDebug enabled
  | .searchOption entry => o.withSearchOption entry

def searchOptionsJson? : List String → Option Json
  | [] => none
  | entries => some (.arr (entries.map Json.str))

def fields (o : Options) : Fields Json none :=
  Fields.nil
    |>.insertSome "page-length" (o.pageLength.map Json.ofUInt64)
    |>.insertSome "return-query" (o.returnQuery.map Json.bool)
    |>.insertSome "return-results" (o.returnResults.map Json.bool)
    |>.insertSome "return-facets" (o.returnFacets.map Json.bool)
    |>.insertSome "debug" (o.debug.map Json.bool)
    |>.insertSome "search-option" (searchOptionsJson? o.searchOptions)

/-- Writing options cannot fail: integers, booleans and texts are written, under keys that
are texts. -/
def toJson (o : Options) : Json := .obj o.fields

def envelope (o : Options) : Json := .object [("options", o.toJson)]

/-! ## The form used in logs -/

def boolText (value : Bool) : String := if value then "true" else "false"

def settingText : Option String → String
  | none => "None"
  | some text => "Some(" ++ text ++ ")"

def logText (o : Options) : String :=
  "SearchOptions \x7b page_length: " ++ settingText (o.pageLength.map fun n => toString n.toNat)
    ++ ", return_query: " ++ settingText (o.returnQuery.map boolText)
    ++ ", return_results: " ++ settingText (o.returnResults.map boolText)
    ++ ", return_facets: " ++ settingText (o.returnFacets.map boolText)
    ++ ", debug: " ++ settingText (o.debug.map boolText)
    ++ ", search_option: [" ++ String.intercalate ", " (o.searchOptions.map Text.quoted)
    ++ "] \x7d"

end Options

end SearchQuery
