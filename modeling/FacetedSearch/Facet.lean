import FacetedSearch.DateRange
import FacetedSearch.GeoPoint

/-!
# Facets

A facet asks for counts beside the results. Every facet has a key, under which its counts are found
in the response, and may name a keyed filter of the same query that is to be ignored while it
counts. What is counted is the facet's `Measure`.

A group of queries is one facet with several counts. Each of its queries has a key and possibly an
exclusion of its own; the group has at least one query, which is a proof field of `QueryGroup`.
-/

namespace FacetedSearch

/-- The items that match a query in the grammar of the backend. -/
structure QueryCount where
  key : String
  query : String
  excludeFilter : Option String := none
deriving DecidableEq

/-- Several queries that are counted together. -/
structure QueryGroup where
  queries : List QueryCount
  queries_ne_nil : queries ≠ []
deriving DecidableEq

/-- What a facet counts. -/
inductive Measure where
  /-- The items per value of a field. Terms restrict the values; no terms mean all of them. -/
  | field (name : String) (terms : List String)
  /-- The items that match a query. -/
  | query (query : String)
  /-- The items that match each of several queries. -/
  | queryGroup (group : QueryGroup)
  /-- The items within a range of dates, as one count or per bucket of a gap. -/
  | dateRange (range : DateRange) (gap : Option Period)
  /-- The same for a relative range, whose ends are moved to the edge of a day. -/
  | relativeRange (range : RelativeRange) (gap : Option Period) (roundStart roundEnd : Rounding)
  /-- The items whose distance from a point lies between two numbers of kilometers. -/
  | distance (point : GeoPoint) (nearest farthest : Float)
deriving DecidableEq

/-- A request for counts. -/
structure Facet where
  key : String
  measure : Measure
  /-- The key of the filter to ignore. -/
  excludeFilter : Option String := none
deriving DecidableEq

namespace Facet

/-- Counts per value of a specialized field. -/
def specialized (key : String) (s : Specialization) (terms : List String) : Facet :=
  { key, measure := .field s.field terms }

/-- A group of queries, if there is one. -/
def queryGroup (key : String) (queries : List QueryCount) : Except Violation Facet :=
  if h : queries = [] then .error (.emptyQueries key)
  else .ok { key, measure := .queryGroup ⟨queries, h⟩ }

/-- The facet with a filter that it ignores. -/
def excluding (filterKey : String) (f : Facet) : Facet := { f with excludeFilter := some filterKey }

end Facet

/-! ## Ends of relative ranges -/

namespace RelativeRange

open DateMath

/-- An end of a counted range: the moment that lies a period back, or the present, moved to the edge
of a day. -/
def boundary (period : Option Period) (rounding : Rounding) : Except Violation String := do
  let offset ← match period with
    | some p => p.subtractText
    | none => .ok ""
  return now ++ offset ++ rounding.text

/-- A range that is open at both ends cannot be counted. -/
def ensureBounded (r : RelativeRange) : Except Violation Unit :=
  if r.before.isNone && r.after.isNone then .error (.missingDateRangeBound r.field) else .ok ()

/-- The beginning of a counted range. -/
def startText (r : RelativeRange) (rounding : Rounding) : Except Violation String := do
  r.ensureBounded
  boundary r.before rounding

/-- The end of a counted range. -/
def endText (r : RelativeRange) (rounding : Rounding) : Except Violation String := do
  r.ensureBounded
  boundary r.after rounding

end RelativeRange

end FacetedSearch
