import FacetedSearch.Payload.Facet
import FacetedSearch.Payload.Sort
import FacetedSearch.Query.Builder

/-!
# Payloads of queries

The payload of a query is an object with a key for each of its parts. Reading one gives a builder
and not a query: what the payload leaves out stays as the defaults have it, and a program may edit
further before it builds. Filters and facets are handed to the builder as batches, so that a key
that occurs twice is found while reading; exclusions are judged when the query is built.

The order in which the keys are read decides which of several faults is reported. Lists come before
the batches they make up, so a malformed facet is reported before a duplicate filter key.
-/

namespace FacetedSearch

open Json.Object (optionalEntry)

/-! ## Writing -/

/-- The weights as a payload. -/
def Boosting.toPayload (w : Boosting) : Json :=
  .object [("queryFields", .ofStrings w.queryFields), ("phraseFields", .ofStrings w.phraseFields),
    ("boostQueries", .ofStrings w.boostQueries), ("boostFunctions", .ofStrings w.boostFunctions),
    ("tie", .ofFloat w.tie)]

namespace Query

/-- A number of results as a payload. -/
def countPayload (n : UInt64) : Json := .number (.ofUInt64 n)

/-- The entries that describe a query. -/
def entries (q : Query) : Json.Object :=
  [("text", .string q.text), ("lang", .string q.language.code),
      ("offset", countPayload q.offset), ("limit", countPayload q.limit),
      ("sort", .array (q.sort.map SortCriterion.toPayload)),
      ("filter", .array (q.filters.map Filter.toPayload)),
      ("facets", .array (q.facets.map Facet.toPayload)), ("archive", .bool q.archive),
      ("defaultQueryOperator", .ofWord q.operator), ("explain", .bool q.explain)] ++
    (optionalEntry "timeZone" (q.timeZone.map .string) ++
      optionalEntry "boosting" (q.boosting.map Boosting.toPayload) ++
      optionalEntry "distanceReferencePoint" (q.referencePoint.map GeoPoint.toPayload))

/-- The query as a payload. -/
def toPayload (q : Query) : Json := .object q.entries

end Query

/-- The query with its index as a payload. -/
def SelectQuery.toPayload (q : SelectQuery) : Json :=
  .object (("index", .string q.index) :: q.query.entries)

/-! ## Reading -/

namespace Payload

/-- A language, as its code or as an object that has the code. -/
def readLanguage : Json → Reading Language
  | .string code => .ok { code }
  | .object o =>
    match o.lookup "code" with
    | some (.string code) => .ok { code }
    | _ => .error (.malformed [] (.undecodable (.noForm "LanguagePayload")))
  | _ => .error (.malformed [] (.undecodable (.noForm "LanguagePayload")))

/-- Weights. -/
def readBoosting : Json → Reading Boosting :=
  readObject fun o ↦ do
    let queryFields ← listOf o "queryFields" readTerm
    let phraseFields ← listOf o "phraseFields" readTerm
    let boostQueries ← listOf o "boostQueries" readTerm
    let boostFunctions ← listOf o "boostFunctions" readTerm
    let tie ← optionalD o "tie" readFloat 0
    return { queryFields, phraseFields, boostQueries, boostFunctions, tie }

/-- The edit for the value of a key, if the key is there. -/
def editOf {α : Type} (o : Json.Object) (key : String) (read : Json → Reading α)
    (edit : α → Query.Edit) (b : Query.Builder) : Reading Query.Builder := do
  match ← optional o key read with
  | none => return b
  | some a => checked (b.apply (edit a))

/-- The edits that the keys of an object stand for. -/
def readEdits (o : Json.Object) (b : Query.Builder) : Reading Query.Builder := do
  let b ← editOf o "text" readText .text b
  let b ← editOf o "lang" readLanguage .language b
  let b ← editOf o "offset" readInteger .offset b
  let b ← editOf o "limit" readInteger .limit b
  let sort ← listOf o "sort" SortCriterion.ofPayload
  let filters ← listOf o "filter" Filter.ofPayload
  let facets ← listOf o "facets" Facet.ofPayload
  let b ← checked (b.apply (.sort sort))
  let b ← checked (b.apply (.filter filters))
  let b ← checked (b.apply (.facet facets))
  let b ← editOf o "archive" readBool .archive b
  let b ← editOf o "defaultQueryOperator" readWord .operator b
  let b ← editOf o "timeZone" readText .timeZone b
  let b ← editOf o "boosting" readBoosting .boosting b
  let b ← editOf o "distanceReferencePoint" readPoint .referencePoint b
  editOf o "explain" readBool .explain b

end Payload

open Payload

/-- The builder that a payload describes, starting from defaults. -/
def Query.Builder.ofPayload (d : Query.Defaults) : Json → Reading Query.Builder :=
  readObject fun o ↦ readEdits o (.new d)

/-- The same for a query of a named index, which is read before everything else. -/
def SelectQuery.Builder.ofPayload (d : Query.Defaults) : Json → Reading SelectQuery.Builder :=
  readObject fun o ↦ do
    let index ← optional o "index" readText
    return { index, query := ← readEdits o (.new d) }

end FacetedSearch
