import SearchQuery.Arguments
import SearchQuery.Query.Basic

/-!
# Combining queries

Queries over several sub-queries keep them in the order of the call. Queries
over one sub-query hold it as it is, without a look at what it is.
-/

namespace SearchQuery

/-- The part of a document that a fragment query looks in. -/
inductive Fragment where
  | document
  | properties
  | locks
deriving DecidableEq

def Fragment.kind : Fragment → String
  | document => "document-fragment-query"
  | properties => "properties-fragment-query"
  | locks => "locks-fragment-query"

namespace Query

/-- A query over a list of sub-queries. -/
def ofParts (kind : String) (parts : Arguments) : Query :=
  ofKind kind (.object [("queries", .arr parts.spread)])

/-- The root of a structured query. -/
def structured (parts : Arguments) : Query := ofParts "query" parts

def conjunction (parts : Arguments) : Query := ofParts "and-query" parts

def disjunction (parts : Arguments) : Query := ofParts "or-query" parts

def negation (part : Json) : Query := ofKind "not-query" part

/-- Matches what `matching` matches and ranks what `boosting` matches higher. -/
def boosted (matching boosting : Json) : Query :=
  ofKind "boost-query" (.object [("matching-query", matching), ("boosting-query", boosting)])

def within (fragment : Fragment) (part : Json) : Query := ofKind fragment.kind part

/-- Matches any of the given terms. -/
def term (terms : Arguments) : Query :=
  ofKind "term-query" (.object [("text", .arr terms.spread)])

end Query

end SearchQuery
