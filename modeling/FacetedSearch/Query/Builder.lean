import FacetedSearch.Query.Basic
import FacetedSearch.Query.Defaults

/-!
# Building queries

A query is built by a sequence of edits. An edit that would break a rule is refused and changes
nothing, so that the edits after it start from the state before it.

## Two kinds of rule

Keys must be unique from the first edit on, so each batch of filters or facets is checked when it
arrives, as a whole: against the keys in use and against the keys before it in the same batch. Which
filters a facet may exclude, and whether all numbers are finite, is known only in the end and judged
by `Builder.build`. A facet may therefore be added before the filter that it excludes.

Beside the query in the making, the builder holds the keys in use. They repeat what the query says;
that the two agree is a fact about `Builder.apply`.
-/

namespace FacetedSearch

namespace Query

/-- A query in the making. -/
structure Builder where
  draft : Query
  /-- The keys of the filters so far. -/
  filterKeys : List String := []
  /-- The keys of the facets so far. -/
  facetKeys : List String := []
deriving DecidableEq

/-- A change to a query in the making. -/
inductive Edit where
  | text (text : String)
  | language (language : Language)
  | offset (count : Int64)
  | limit (count : Int64)
  /-- Criteria behind those there are. -/
  | sort (criteria : List SortCriterion)
  /-- Filters behind those there are. -/
  | filter (filters : List Filter)
  /-- Facets behind those there are. -/
  | facet (facets : List Facet)
  | archive (included : Bool)
  | operator (operator : Operator)
  | timeZone (name : String)
  | boosting (boosting : Boosting)
  | referencePoint (point : GeoPoint)
  | explain (wanted : Bool)

/-- The first key of a batch that is in use already, or occurs earlier in the batch. -/
def firstClash (used : List String) : List String → Option String
  | [] => none
  | k :: ks => if k ∈ used then some k else firstClash (k :: used) ks

namespace Builder

/-- A builder that has seen no edit. -/
def new (d : Defaults) : Builder where
  draft := { limit := d.limit, operator := d.operator, timeZone := d.timeZone }

/-! ## Edits -/

/-- Skips results. -/
def setOffset (b : Builder) (n : Int64) : Except Violation Builder :=
  if n < 0 then .error (.negativeOffset n.toInt)
  else .ok { b with draft := { b.draft with offset := n.toUInt64 } }

/-- Bounds the number of results. -/
def setLimit (b : Builder) (n : Int64) : Except Violation Builder :=
  if n < 0 then .error (.negativeLimit n.toInt)
  else .ok { b with draft := { b.draft with limit := n.toUInt64 } }

/-- Appends filters. The whole batch is refused if one of their keys is not new. -/
def addFilters (b : Builder) (fs : List Filter) : Except Violation Builder :=
  let keys := fs.filterMap Filter.key
  match firstClash b.filterKeys keys with
  | some k => .error (.duplicateFilterKey k)
  | none => .ok { b with
      draft := { b.draft with filters := b.draft.filters ++ fs }
      filterKeys := b.filterKeys ++ keys }

/-- Appends facets. The whole batch is refused if one of their keys is not new. -/
def addFacets (b : Builder) (fs : List Facet) : Except Violation Builder :=
  let keys := fs.map Facet.key
  match firstClash b.facetKeys keys with
  | some k => .error (.duplicateFacetKey k)
  | none => .ok { b with
      draft := { b.draft with facets := b.draft.facets ++ fs }
      facetKeys := b.facetKeys ++ keys }

/-- One edit, if it breaks no rule. -/
def apply (b : Builder) : Edit → Except Violation Builder
  | .text s => .ok { b with draft := { b.draft with text := s } }
  | .language l => .ok { b with draft := { b.draft with language := l } }
  | .offset n => b.setOffset n
  | .limit n => b.setLimit n
  | .sort cs => .ok { b with draft := { b.draft with sort := b.draft.sort ++ cs } }
  | .filter fs => b.addFilters fs
  | .facet fs => b.addFacets fs
  | .archive included => .ok { b with draft := { b.draft with archive := included } }
  | .operator op => .ok { b with draft := { b.draft with operator := op } }
  | .timeZone name => .ok { b with draft := { b.draft with timeZone := some name } }
  | .boosting w => .ok { b with draft := { b.draft with boosting := some w } }
  | .referencePoint p => .ok { b with draft := { b.draft with referencePoint := some p } }
  | .explain wanted => .ok { b with draft := { b.draft with explain := wanted } }

/-- One edit. A refused edit changes nothing. -/
def attempt (b : Builder) (e : Edit) : Builder := (b.apply e).toOption.getD b

/-- A sequence of edits, of which the refused ones change nothing. -/
def run (b : Builder) (es : List Edit) : Builder := es.foldl attempt b

/-! ## The finished query -/

/-- The first facet that excludes a filter which is not there, and that filter's key. -/
def danglingExclusion? (b : Builder) : Option (String × String) :=
  b.draft.facets.findSome? fun f ↦
    match f.excludeFilter with
    | some k => if k ∈ b.filterKeys then none else some (f.key, k)
    | none => none

end Builder

/-- The numbers of a facet, with their names. -/
def facetNumbers (f : Facet) : List (String × Float) :=
  match f.measure with
  | .distance p nearest farthest =>
    [(f.key ++ ".point.lng", p.longitude), (f.key ++ ".point.lat", p.latitude),
      (f.key ++ ".from", nearest), (f.key ++ ".to", farthest)]
  | _ => []

/-- The numbers of a query that could be infinite or none at all, with their names. -/
def numbers (q : Query) : List (String × Float) :=
  (q.boosting.map fun w ↦ ("boosting.tie", w.tie)).toList ++
    (match q.referencePoint with
      | some p =>
        [("distanceReferencePoint.lng", p.longitude), ("distanceReferencePoint.lat", p.latitude)]
      | none => []) ++
    q.facets.flatMap facetNumbers

/-- The query, if all exclusions refer to one of its filters and all numbers are finite. -/
def Builder.build (b : Builder) : Except Violation Query :=
  match b.danglingExclusion? with
  | some (facetKey, filterKey) => .error (.unknownExcludeFilter facetKey filterKey)
  | none =>
    match b.draft.numbers.find? fun n ↦ !n.2.isFinite with
    | some (name, _) => .error (.nonFiniteNumber name)
    | none => .ok b.draft

end Query

namespace SelectQuery

/-- A query of a named index in the making. -/
structure Builder where
  index : Option String := none
  query : Query.Builder
deriving DecidableEq

/-- A change to such a query. -/
inductive Edit where
  | index (name : String)
  | query (edit : Query.Edit)

namespace Builder

/-- A builder that has seen no edit. -/
def new (d : Query.Defaults) : Builder where
  query := .new d

/-- One edit, if it breaks no rule. -/
def apply (b : Builder) : Edit → Except Violation Builder
  | .index name => .ok { b with index := some name }
  | .query e => (b.query.apply e).map fun q ↦ { b with query := q }

/-- One edit. A refused edit changes nothing. -/
def attempt (b : Builder) (e : Edit) : Builder := (b.apply e).toOption.getD b

/-- A sequence of edits, of which the refused ones change nothing. -/
def run (b : Builder) (es : List Edit) : Builder := es.foldl attempt b

/-- The query, if it has an index with a name and the rest can be built. -/
def build (b : Builder) : Except Violation SelectQuery :=
  match b.index.filter fun name ↦ !name.isEmpty with
  | none => .error .missingIndex
  | some index => b.query.build.map fun query ↦ { index, query }

end Builder

end SelectQuery

end FacetedSearch
