import FacetedSearch.Boosting
import FacetedSearch.Facet
import FacetedSearch.Filter
import FacetedSearch.Sort

/-!
# Queries

A query is everything that a search depends on: the phrase, the filters, the facets, the order of
the results and the page of them. Queries are made by `Query.Builder`, which guarantees that filter
keys and facet keys are unique, that a facet excludes only a filter of the same query, and that all
numbers are finite.
-/

namespace FacetedSearch

/-- The language of the items to search. The empty code is the default language. -/
structure Language where
  code : String := ""
deriving DecidableEq

/-- Whether this is the default language. -/
def Language.isDefault (l : Language) : Bool := l.code.isEmpty

/-- A search. -/
structure Query where
  text : String := ""
  language : Language := {}
  /-- The number of results to skip. -/
  offset : UInt64 := 0
  /-- The number of results to return at most. -/
  limit : UInt64
  /-- The criteria to sort by, the primary one first. -/
  sort : List SortCriterion := []
  filters : List Filter := []
  facets : List Facet := []
  /-- Whether archived items are included. -/
  archive : Bool := false
  /-- How the terms of the phrase are joined. -/
  operator : Operator
  /-- The time zone for date math. -/
  timeZone : Option String
  boosting : Option Boosting := none
  /-- The point from which distances are measured. -/
  referencePoint : Option GeoPoint := none
  /-- Whether the scores are to be explained. -/
  explain : Bool := false
deriving DecidableEq

namespace Query

/-- The first filter with a key. -/
def filter? (q : Query) (key : String) : Option Filter := q.filters.find? fun f ↦ f.key == some key

/-- The first facet with a key. -/
def facet? (q : Query) (key : String) : Option Facet := q.facets.find? fun f ↦ f.key == key

end Query

/-- A search of an index that is named explicitly. -/
structure SelectQuery where
  index : String
  query : Query
deriving DecidableEq

end FacetedSearch
