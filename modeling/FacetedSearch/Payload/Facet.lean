import FacetedSearch.Facet
import FacetedSearch.Payload.Filter

/-!
# Payloads of facets

A facet is an object whose `type` names what is counted; counts of a specialized field are tagged by
the specialization, as tests are. Key and exclusion are the same for all kinds.

The queries of a group are facets in the payload, too, and are read as such: an item of the list may
be a facet of any kind as far as reading goes, and only then has to be a query. Groups can therefore
be nested in a payload, although never in a facet, which makes the reader recursive.
-/

namespace FacetedSearch

/-- The kinds of measure that are no groups. -/
inductive Measure.Tag where
  | specialized (s : Specialization)
  | field
  | query
  | dateRange
  | relativeRange
  | distance
deriving DecidableEq

namespace Facet

/-- The kinds of facet that payloads distinguish. -/
inductive Tag where
  | single (measure : Measure.Tag)
  | queryGroup
deriving DecidableEq

namespace Tag

instance : Vocabulary Tag where
  values :=
    Vocabulary.values.map (fun s ↦ single (.specialized s)) ++
      [single .dateRange, single .field, queryGroup, single .query, single .relativeRange,
        single .distance]
  word
    | single (.specialized s) => s.tag
    | single .field => "field"
    | single .query => "query"
    | queryGroup => "multiQuery"
    | single .dateRange => "absoluteDateRange"
    | single .relativeRange => "relativeDateRange"
    | single .distance => "spatialDistanceRange"
  find?_word t := by
    rcases t with (s | _) | _
    · cases s <;> rfl
    all_goals rfl

end Tag

/-! ## Writing -/

/-- A facet as a payload, given the entries that describe what it counts. -/
def node (key : String) (excludeFilter : Option String) (tag : Tag) (entries : Json.Object) :
    Json :=
  .object (("type", .ofWord tag) :: entries ++
    ("key", .string key) :: Json.Object.optionalEntry "excludeFilter" (excludeFilter.map .string))

end Facet

/-- The query as the payload of a facet of its own. -/
def QueryCount.toPayload (q : QueryCount) : Json :=
  Facet.node q.key q.excludeFilter (.single .query) [("query", .string q.query)]

namespace Measure

open Json.Object (optionalEntry)

/-- The kind of a measure. -/
def tag : Measure → Facet.Tag
  | field name _ =>
    .single (((Specialization.ofField? name).map Measure.Tag.specialized).getD .field)
  | query _ => .single .query
  | queryGroup _ => .queryGroup
  | dateRange .. => .single .dateRange
  | relativeRange .. => .single .relativeRange
  | distance .. => .single .distance

/-- The entries that describe a measure. -/
def entries : Measure → Json.Object
  | field name terms =>
    ("terms", .ofStrings terms) ::
      if (Specialization.ofField? name).isNone then [("field", .string name)] else []
  | query q => [("query", .string q)]
  | queryGroup g => [("queries", .array (g.queries.map QueryCount.toPayload))]
  | dateRange r gap =>
    ("field", .string r.field) ::
      (optionalEntry "from" (r.lower.map Instant.toPayload) ++
        optionalEntry "to" (r.upper.map Instant.toPayload) ++
        optionalEntry "gap" (gap.map Period.toPayload))
  | relativeRange r gap roundStart roundEnd =>
    [("field", .string r.field), ("roundStart", .ofWord roundStart),
        ("roundEnd", .ofWord roundEnd)] ++
      (optionalEntry "before" (r.before.map Period.toPayload) ++
        optionalEntry "after" (r.after.map Period.toPayload) ++
        optionalEntry "gap" (gap.map Period.toPayload))
  | distance p nearest farthest =>
    [("point", p.toPayload), ("from", .ofFloat nearest), ("to", .ofFloat farthest)]

end Measure

namespace Facet

/-- The kind of a facet. -/
def tag (f : Facet) : Tag := f.measure.tag

/-- The facet as a payload. -/
def toPayload (f : Facet) : Json := node f.key f.excludeFilter f.tag f.measure.entries

end Facet

/-! ## Reading -/

namespace Payload

/-- The count of a field, restricted to terms if there are any. -/
def readFieldCount (o : Json.Object) (field : String) : Reading Facet := do
  let key ← required o "key" readText
  return { key, measure := .field field (← listOf o "terms" readTerm) }

/-- A facet that is no group, without its exclusion. -/
def readSingle (o : Json.Object) : Measure.Tag → Reading Facet
  | .specialized s => readFieldCount o s.field
  | .field => do readFieldCount o (← required o "field" readText)
  | .query => do
    let key ← required o "key" readText
    return { key, measure := .query (← required o "query" readText) }
  | .dateRange => do
    let key ← required o "key" readText
    let lower ← optional o "from" readInstant
    let upper ← optional o "to" readInstant
    let gap ← optional o "gap" readPeriod
    return { key, measure := .dateRange { field := ← readRangeField o, lower, upper } gap }
  | .relativeRange => do
    let key ← required o "key" readText
    let before ← optional o "before" readPeriod
    let after ← optional o "after" readPeriod
    let gap ← optional o "gap" readPeriod
    let roundStart ← optionalD o "roundStart" readWord Rounding.startOfDay
    let roundEnd ← optionalD o "roundEnd" readWord Rounding.endOfDay
    let range : RelativeRange := { field := ← readRangeField o, before, after }
    return { key, measure := .relativeRange range gap roundStart roundEnd }
  | .distance => do
    let point ← required o "point" readPoint
    let key ← required o "key" readText
    let nearest ← required o "from" readFloat
    let farthest ← required o "to" readFloat
    return { key, measure := .distance point nearest farthest }

/-- The facet as one query of a group, if it counts a query. -/
def asQuery (f : Facet) : Reading QueryCount :=
  match f.measure with
  | .query query => .ok { key := f.key, query, excludeFilter := f.excludeFilter }
  | _ => .error (.malformed [] .notAQuery)

end Payload

namespace Facet

open Payload

mutual

/-- The facet that a payload describes. -/
def ofPayload : Json → Reading Facet
  | .object o => do
    let tag : Tag ← readTag .facet o
    let facet : Facet ← match tag with
      | .single t => readSingle o t
      | .queryGroup => do
        let queries ← readQueries o
        let key ← required o "key" readText
        checked (queryGroup key queries)
    return { facet with excludeFilter := ← optional o "excludeFilter" readText }
  | v => .error (unexpected .object v)

/-- The queries under the key `queries`. -/
def readQueries : Json.Object → Reading (List QueryCount)
  | [] => .error (.malformed [.key "queries"] .missing)
  | (key, v) :: o =>
    if key = "queries" then
      match v with
      | .null => .error (.malformed [.key "queries"] .missing)
      | .array items => within (.key "queries") (readEachQuery 0 items)
      | v => within (.key "queries") (.error (unexpected .list v))
    else readQueries o

/-- The queries of a list from a position on. -/
def readEachQuery : Nat → List Json → Reading (List QueryCount)
  | _, [] => .ok []
  | i, v :: vs => do
    let query ← within (.index i) (do asQuery (← ofPayload v))
    return query :: (← readEachQuery (i + 1) vs)
termination_by structural _ vs => vs

end

/-- One query of a group, read as a facet first. -/
def readQuery (v : Json) : Reading QueryCount := do asQuery (← ofPayload v)

theorem readEachQuery_eq (i : Nat) (vs : List Json) :
    readEachQuery i vs = readItems readQuery i vs := by
  induction vs generalizing i with
  | nil => rfl
  | cons v vs ih =>
    rw [readEachQuery, readItems]
    simp only [ih]
    rfl

theorem readQueries_eq (o : Json.Object) :
    readQueries o = required o "queries" (readList readQuery) := by
  induction o with
  | nil => rfl
  | cons e o ih =>
    obtain ⟨key, v⟩ := e
    by_cases h : key = "queries"
    · subst h
      cases v <;> simp [readQueries, required, Json.Object.value?, readList, readEachQuery_eq]
    · rw [required, Json.Object.value?_cons_of_ne v o (Ne.symm h), ← required, ← ih]
      cases v <;> simp [readQueries, h]

/-- The reader of an object in terms of the ways to ask for a key. -/
theorem ofPayload_object (o : Json.Object) : ofPayload (.object o) = (do
    let tag : Tag ← readTag .facet o
    let facet : Facet ← match tag with
      | .single t => readSingle o t
      | .queryGroup => do
        let queries ← required o "queries" (readList readQuery)
        let key ← required o "key" readText
        checked (queryGroup key queries)
    return { facet with excludeFilter := ← optional o "excludeFilter" readText }) := by
  rw [ofPayload, readQueries_eq]

end Facet

end FacetedSearch
