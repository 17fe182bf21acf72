import FacetedSearch.DateMath
import FacetedSearch.Field

/-!
# Ranges of dates

Filters and facets select items by date in two ways. A `DateRange` has fixed ends. A `RelativeRange`
is measured back from the moment of execution, by whole days: `before` says how far back it begins
and `after` how far back it ends, so that a range without `after` reaches into today and one without
`before` begins today.

A range of either kind needs one end; which field it tests is part of the range.
-/

namespace FacetedSearch

/-- A range with fixed ends. -/
structure DateRange where
  field : String := Field.dateList
  lower : Option Instant := none
  upper : Option Instant := none
deriving DecidableEq

namespace DateRange

/-- The query that selects the range. -/
def compile (r : DateRange) : Except Violation String :=
  if r.lower.isNone && r.upper.isNone then .error (.missingDateRangeBound r.field)
  else .ok <| DateMath.rangeText r.field (r.lower.map Instant.dateMathText)
    (r.upper.map Instant.dateMathText)

end DateRange

/-- A range measured back from the moment of execution. -/
structure RelativeRange where
  field : String := Field.dateList
  /-- How far back the range begins. -/
  before : Option Period := none
  /-- How far back the range ends. -/
  after : Option Period := none
deriving DecidableEq

namespace RelativeRange

open DateMath

/-- The beginning of the day that lies a period back. -/
def dayStart (p : Period) : Except Violation String := do
  return now ++ (← p.subtractText) ++ startOfDay

/-- The query that selects the range. Both ends are at the beginning of a day, except for the end of
today. -/
def compile (r : RelativeRange) : Except Violation String :=
  match r.before, r.after with
  | some before, none => do
    return rangeText r.field (some (← dayStart before)) (some (now ++ endOfDay))
  | none, some after => do
    return rangeText r.field (some (now ++ startOfDay)) (some (← dayStart after))
  | some before, some after => do
    return rangeText r.field (some (← dayStart before)) (some (← dayStart after))
  | none, none => .error (.missingDateRangeBound r.field)

example : compile { before := some { days := 7 } } =
    .ok "sp_date_list:[NOW-7DAYS/DAY TO NOW/DAY+1DAY-1SECOND]" := rfl

end RelativeRange

end FacetedSearch
