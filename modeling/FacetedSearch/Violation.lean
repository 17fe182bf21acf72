import FacetedSearch.Operator
import FacetedSearch.Period.Basic

/-!
# Violations

Filters, facets and queries obey a few rules that their types do not express, such as that a facet
may only exclude a filter of its own query. A call that would break a rule is refused with the rule
it would break.
-/

namespace FacetedSearch

/-- A rule that was broken, and by what. -/
inductive Violation where
  /-- A test of a field without a term. -/
  | emptyTerms (field : String)
  /-- An operator with nothing to join. -/
  | emptyOperands (operator : Operator)
  /-- A facet that groups no queries. -/
  | emptyQueries (key : String)
  | negativeOffset (offset : Int)
  | negativeLimit (limit : Int)
  | duplicateFilterKey (key : String)
  | duplicateFacetKey (key : String)
  /-- A facet that excludes a filter which the query does not have. -/
  | unknownExcludeFilter (facetKey filterKey : String)
  | missingIndex
  /-- A range of dates that is open at both ends. -/
  | missingDateRangeBound (field : String)
  /-- A period that is no number of days, where only days can be counted. -/
  | unsupportedPeriodUnit (period : Period)
  /-- A number that is infinite or none at all. -/
  | nonFiniteNumber (name : String)
deriving DecidableEq

/-- The violation as text. -/
def Violation.message : Violation → String
  | .emptyTerms f => "Field filter on '" ++ f ++ "' requires at least one term"
  | .emptyOperands op => op.text ++ " filter requires at least one operand"
  | .emptyQueries k => "Multi-query facet '" ++ k ++ "' requires at least one query"
  | .negativeOffset n => "Offset must not be negative, got " ++ toString n
  | .negativeLimit n => "Limit must not be negative, got " ++ toString n
  | .duplicateFilterKey k => "Filter key '" ++ k ++ "' is already in use"
  | .duplicateFacetKey k => "Facet key '" ++ k ++ "' is already in use"
  | .unknownExcludeFilter facet filter =>
    "Facet '" ++ facet ++ "' excludes filter '" ++ filter ++ "' which is not part of the query"
  | .missingIndex => "Select query requires a non-empty index name"
  | .missingDateRangeBound f => "Date range on '" ++ f ++ "' requires at least one bound"
  | .unsupportedPeriodUnit p => "Period '" ++ p.text ++ "' uses units finer than a day"
  | .nonFiniteNumber name => "Number '" ++ name ++ "' must be finite"

end FacetedSearch
