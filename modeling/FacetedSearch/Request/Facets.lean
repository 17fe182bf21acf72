import FacetedSearch.Facet
import FacetedSearch.Request.Basic
import FacetedSearch.Request.LocalParams

/-!
# Facets as parameters

Every count becomes one parameter, `facet.field`, `facet.query` or `facet.range`, whose local
parameters hold the key and the filter to ignore. A group of queries becomes one parameter per
query; its queries ignore the filter that the group ignores unless they name one of their own.

A range of dates with a gap is counted per bucket, which needs both ends. Without a gap, and for a
fixed range with an open end, the whole range is a single count, given as a query.
-/

namespace FacetedSearch.Facet

/-- A parameter: its name and its value. -/
abbrev Param := String × String

/-- The local parameters that all counts have. -/
def keyed (key : String) (excludeFilter : Option String) : LocalParams :=
  (LocalParams.add {} "key" key).add? "ex" excludeFilter

/-- The parameter that counts the items of a query. -/
def queryParam (key : String) (excludeFilter : Option String) (query : String) : Param :=
  ("facet.query", (keyed key excludeFilter).wrap query)

/-- The parameter that counts the items per value of a field. -/
def fieldParam (f : Facet) (name : String) (terms : List String) : Param :=
  let terms? := if terms.isEmpty then none else some (LocalParams.joinItems terms)
  ("facet.field", ((keyed f.key f.excludeFilter).add? "terms" terms?).wrap name)

/-- The parameter that counts the items per bucket of a range. -/
def rangeParam (f : Facet) (field start stop gap : String) : Param :=
  let range := (((keyed f.key f.excludeFilter).add "facet.range.start" start).add
    "facet.range.end" stop).add "facet.range.gap" gap
  ("facet.range", range.wrap field)

/-- The parameter for a fixed range of dates. -/
def dateRangeParam (f : Facet) (r : DateRange) (gap : Option Period) : Except Violation Param :=
  match gap, r.lower, r.upper with
  | some gap, some lower, some upper => do
    return rangeParam f r.field lower.dateMathText upper.dateMathText (← gap.addText)
  | _, _, _ => do
    return queryParam f.key f.excludeFilter (← r.compile)

/-- The parameter for a relative range of dates. -/
def relativeRangeParam (f : Facet) (r : RelativeRange) (gap : Option Period)
    (roundStart roundEnd : Rounding) : Except Violation Param := do
  let start ← r.startText roundStart
  let stop ← r.endText roundEnd
  match gap with
  | some gap => return rangeParam f r.field start stop (← gap.addText)
  | none =>
    return queryParam f.key f.excludeFilter (DateMath.rangeText r.field (some start) (some stop))

/-- The parameter that counts the items within a range of distances from a point. -/
def distanceParam (f : Facet) (geoField : String) (point : GeoPoint) (nearest farthest : Float) :
    Param :=
  let text := Decimal.Layout.plain.render
  let base : LocalParams := { parser := some "frange", pairs := [("key", f.key)] }
  let range := ((base.add? "ex" f.excludeFilter).add "l" (text nearest)).add "u" (text farthest)
  ("facet.query", range.wrap ("geodist(" ++ geoField ++ "," ++ point.text ++ ")"))

/-- The parameters of a facet, one for each of its counts. -/
def params (b : Backend) (f : Facet) : Except Violation (List Param) :=
  match f.measure with
  | .field name terms => .ok [fieldParam f name terms]
  | .query query => .ok [queryParam f.key f.excludeFilter query]
  | .queryGroup g =>
    .ok (g.queries.map fun q ↦ queryParam q.key (q.excludeFilter.or f.excludeFilter) q.query)
  | .dateRange r gap => do return [← dateRangeParam f r gap]
  | .relativeRange r gap roundStart roundEnd => do
    return [← relativeRangeParam f r gap roundStart roundEnd]
  | .distance p nearest farthest => .ok [distanceParam f b.geoField p nearest farthest]

end FacetedSearch.Facet
