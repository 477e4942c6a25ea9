import SearchQuery.Json.Shape
import SearchQuery.Options.Basic
import SearchQuery.Query.Basic

/-!
# Searches

A search pairs a query with a text and options. Options may take the place of
the text if there are no others, and then the text is empty. A query or options
that come inside an envelope of their own are taken out of it.
-/

namespace SearchQuery

/-- The content of an envelope with this key, or the value itself. -/
def Json.outOf (value : Json) (key : String) : Json := (value.truthyField? key).getD value

/-- Does this value stand for options when it is in the place of the text? -/
def Json.isMisplacedOptions (value : Json) : Bool :=
  value.isTruthy && value.string?.isNone

namespace Query

def searchBody (query text : Json) (options : Option Json) : Fields Json none :=
  Fields.nil
    |>.insert "query" (query.outOf "query")
    |>.insert "qtext" (if text.isTruthy then text else .str "")
    |>.insertSome "options" (options.map fun o => o.outOf "options")

def search (query text : Json) (options : Option Json) : Query :=
  let given := options.filter fun o => !o.isNull
  ofKind "search" (.obj (
    if given.isNone && text.isMisplacedOptions then
      searchBody query .null (some text)
    else
      searchBody query text given))

/-- There is always a query, since writing options cannot fail. -/
def searchWithOptions (query : Json) (text : String) (options : Options) : Query :=
  search query (.str text) (some options.toJson)

end Query

end SearchQuery
