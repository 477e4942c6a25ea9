import SearchQuery.Arguments
import SearchQuery.Query.Basic

/-!
# Where documents are

Queries that match documents by where they are stored: in a collection, under
their own URI, or below a directory. A directory query ends in an optional flag
that says whether deeper directories count too, which they do by default. The
flag is taken off first, so that the URIs before it may stand in one array.
-/

namespace SearchQuery.Query

def collection (uris : Arguments) : Query :=
  ofKind "collection-query" (.object [("uri", .arr uris.spread)])

def document (uris : Arguments) : Query :=
  ofKind "document-query" (.object [("uri", .arr uris.spread)])

/-- The values before a closing flag, and the flag; without one it is `true`. -/
def takeFlag (values : List Json) : List Json × Bool :=
  match values.getLast? with
  | some (.bool flag) => (values.dropLast, flag)
  | _ => (values, true)

def directory (args : Arguments) : Query :=
  let (uris, infinite) := takeFlag args.spread
  ofKind "directory-query"
    (.object [("uri", .arr (Arguments.unwrapped uris)), ("infinite", .bool infinite)])

end SearchQuery.Query
