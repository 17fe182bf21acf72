import FacetedSearch.Query.Basic
import FacetedSearch.Request.Facets

/-!
# Queries as requests

The parameters of a request follow one another in sections: phrase and page, filters, order,
reference point, weights, facets. Each section depends on its own part of the query, and rendering
fails in the first section that cannot be written.
-/

namespace FacetedSearch

/-- Why a query has no request. -/
inductive Request.RenderError where
  | violation (cause : Violation)
  /-- Results are to be sorted by their distance from a point that is not given. -/
  | missingReferencePoint
deriving DecidableEq

/-- The failure as text. -/
def Request.RenderError.message : Request.RenderError → String
  | .violation v => v.message
  | .missingReferencePoint => "Sorting by spatial distance requires a distance reference point"

namespace Query

open Request (RenderError)
open Facet (Param)

/-- The search phrase. A blank one matches everything. -/
def phrase (text : String) : String :=
  let trimmed := Text.trim text
  if trimmed.isEmpty then "*:*" else trimmed

/-- Phrase and page. -/
def basicParams (q : Query) (b : Backend) : List Param :=
  [("q", phrase q.text), ("q.op", q.operator.text), ("defType", b.defType),
      ("start", toString q.offset), ("rows", toString q.limit)] ++
    (q.timeZone.map fun zone ↦ ("TZ", zone)).toList ++
    if q.explain then [("debugQuery", "true")] else []

/-- A filter. Its key becomes a tag, so that facets can refer to it. -/
def filterParam (f : Filter) : Except Violation Param := do
  let text ← f.compile
  return ("fq", LocalParams.wrap (LocalParams.add? {} "tag" f.key) text)

/-- The filters, and the one that hides archived items. -/
def filterParams (q : Query) : Except Violation (List Param) := do
  let params ← q.filters.mapM filterParam
  if q.archive then return params
  else return params ++ [← filterParam Filter.unarchived]

/-- What the backend compares by. -/
def sortField (referencePoint : Option GeoPoint) : SortKey → Except RenderError String
  | .score => .ok "score"
  | .date => .ok Field.date
  | .name => .ok Field.sortValue
  | .natural => .ok Field.naturalSort
  | .field name => .ok name
  | .distance => if referencePoint.isNone then .error .missingReferencePoint else .ok "geodist()"

/-- The order of the results, if one is asked for. -/
def sortParams (q : Query) : Except RenderError (List Param) := do
  let parts ← q.sort.mapM fun c ↦ do
    return (← sortField q.referencePoint c.key) ++ " " ++ c.direction.text
  if parts.isEmpty then return [] else return [("sort", ",".intercalate parts)]

/-- The point from which distances are measured. -/
def pointParams (q : Query) (b : Backend) : List Param :=
  match q.referencePoint with
  | some p => [("pt", p.text), ("sfield", b.geoField)]
  | none => []

/-- A list of weights as a single parameter, if there are any. -/
def joinedParam (name : String) (weights : List String) : List Param :=
  if weights.isEmpty then [] else [(name, " ".intercalate weights)]

/-- Weights. A tie breaker alone is not written. -/
def boostingParams (q : Query) : List Param :=
  match q.boosting with
  | none => []
  | some w =>
    if w.isEmpty then []
    else
      joinedParam "qf" w.queryFields ++ joinedParam "pf" w.phraseFields ++
        w.boostQueries.map (fun s ↦ ("bq", s)) ++ w.boostFunctions.map (fun s ↦ ("bf", s)) ++
        [("tie", Decimal.Layout.plain.render w.tie)]

/-- The settings that all facets share. -/
def facetSettings (b : Backend) : List Param :=
  [("facet", "true"), ("facet.mincount", toString b.facetMinCount),
    ("facet.limit", toString b.facetLimit)]

/-- Facets, behind their settings. -/
def facetParams (q : Query) (b : Backend) : Except Violation (List Param) := do
  if q.facets.isEmpty then return []
  else return facetSettings b ++ (← q.facets.mapM (Facet.params b)).flatten

/-- The request for a query of the given index. -/
def requestFor (index : String) (q : Query) (b : Backend) : Except RenderError Request := do
  let filters ← q.filterParams.mapError .violation
  let sort ← q.sortParams
  let facets ← (q.facetParams b).mapError .violation
  return { index, params :=
    q.basicParams b ++ filters ++ sort ++ q.pointParams b ++ q.boostingParams ++ facets }

/-- The index of the language of a query. -/
def indexOf (q : Query) (b : Backend) : String :=
  if q.language.isDefault then b.defaultIndex else b.defaultIndex ++ "-" ++ q.language.code

/-- The request for a query, to the index of its language. -/
def request (q : Query) (b : Backend) : Except RenderError Request := requestFor (q.indexOf b) q b

end Query

/-- The request for a query of a named index. -/
def SelectQuery.request (q : SelectQuery) (b : Backend) : Except Request.RenderError Request :=
  q.query.requestFor q.index b

end FacetedSearch
