import FacetedSearch.Payload.Facet
import FacetedSearch.Proofs.Payload.Filter
import FacetedSearch.Query.Builder

/-!
# Written facets read back

A facet whose leap seconds are at the ends of minutes is restored from its payload if its timestamps
have years of four digits and its numbers are finite. If not, its payload is refused.

The six measures share two pairs of keys: `from` and `to` are timestamps for a range of dates and
numbers for a range of distances. The tag decides which reader they meet, and a gap, a rounding or
an exclusion that was written under another key than the one that is read would be lost without an
error. `yields_readSingle` rules that out for every measure that is no group, and groups add one
level: each of their queries is read as a facet and has to turn out to be a query.
-/

namespace FacetedSearch

open Json.Object (value? value?_cons)
open Payload

/-- The timestamps of a measure. -/
def Measure.instants : Measure → List Instant
  | dateRange r _ => r.lower.toList ++ r.upper.toList
  | _ => []

/-- The numbers of a facet can all be written. -/
def Facet.IsFinite (f : Facet) : Prop := ∀ n ∈ Query.facetNumbers f, n.2.isFinite = true

namespace Measure

/-! ## Measures that are no groups -/

section Single

variable {o : Json.Object} {key : String}

private theorem readText_eq_ok (s : String) : readText (.string s) = .ok s := rfl

/-- What an object has to show for a measure: its entries, among the keys that all facets have. -/
private def Shows (o : Json.Object) (key : String) (m : Measure) : Prop :=
  o.value? "key" = some (.string key) ∧
    ∀ k ∉ ["type", "key", "excludeFilter"], o.value? k = value? m.entries k

private theorem readFieldCount_eq_ok {name : String} {terms : List String}
    (ho : Shows o key (.field name terms)) :
    readFieldCount o name = .ok { key, measure := .field name terms } := by
  have hterms : o.value? "terms" = some (.ofStrings terms) := by
    rw [ho.2 _ (by decide)]
    simp [entries, value?_cons, Json.ofStrings]
  rw [readFieldCount, required_eq_ok ho.1 (readText_eq_ok key), ok_bind, listOf_readTerm hterms]
  rfl

private theorem readSingle_field {name : String} {terms : List String} {t : Tag}
    (ht : tag (.field name terms) = .single t) (ho : Shows o key (.field name terms)) :
    readSingle o t = .ok { key, measure := .field name terms } := by
  cases hs : Specialization.ofField? name with
  | some s =>
    obtain rfl : .specialized s = t := by simpa [tag, hs] using ht
    rw [readSingle, Specialization.field_of_ofField? hs]
    exact readFieldCount_eq_ok ho
  | none =>
    obtain rfl : .field = t := by simpa [tag, hs] using ht
    have hfield : o.value? "field" = some (.string name) := by
      rw [ho.2 _ (by decide)]
      simp [entries, value?_cons, hs]
    rw [readSingle, required_eq_ok hfield (readText_eq_ok name), ok_bind]
    exact readFieldCount_eq_ok ho

private theorem readSingle_query {q : String} (ho : Shows o key (.query q)) :
    readSingle o .query = .ok { key, measure := .query q } := by
  have hquery : o.value? "query" = some (.string q) := by
    rw [ho.2 _ (by decide)]
    simp [entries, value?_cons]
  rw [readSingle, required_eq_ok ho.1 (readText_eq_ok key), ok_bind,
    required_eq_ok hquery (readText_eq_ok q)]
  rfl

private theorem yields_readSingle_dateRange {r : DateRange} {gap : Option Period}
    (ho : Shows o key (.dateRange r gap)) (hlower : ∀ t ∈ r.lower, t.LeapsAtMinuteEnd)
    (hupper : ∀ t ∈ r.upper, t.LeapsAtMinuteEnd) :
    Yields (readSingle o .dateRange) { key, measure := .dateRange r gap }
      ((∀ t ∈ r.lower, t.HasFourDigitYear) ∧ ∀ t ∈ r.upper, t.HasFourDigitYear) := by
  have hfield : o.value? "field" = some (.string r.field) := by
    rw [ho.2 _ (by decide)]
    simp [entries, value?_cons]
  have hfrom : o.value? "from" = r.lower.map Instant.toPayload := by
    rw [ho.2 _ (by decide)]
    simp [entries, value?_cons]
  have hto : o.value? "to" = r.upper.map Instant.toPayload := by
    rw [ho.2 _ (by decide)]
    simp [entries, value?_cons]
  have hgap : o.value? "gap" = gap.map Period.toPayload := by
    rw [ho.2 _ (by decide)]
    simp [entries, value?_cons]
  rw [readSingle, required_eq_ok ho.1 (readText_eq_ok key), ok_bind]
  refine ((yields_optional_instant hfrom hlower).bind ((yields_optional_instant hto hupper).bind
    (Yields.bind_of_ok (optional_period hgap)
      ((Yields.of_eq_ok (readRangeField_eq_ok hfield)).bind_pure _)))).congr ?_
  rw [and_true]

private theorem readSingle_relativeRange {r : RelativeRange} {gap : Option Period}
    {roundStart roundEnd : Rounding}
    (ho : Shows o key (.relativeRange r gap roundStart roundEnd)) :
    readSingle o .relativeRange =
      .ok { key, measure := .relativeRange r gap roundStart roundEnd } := by
  have hfield : o.value? "field" = some (.string r.field) := by
    rw [ho.2 _ (by decide)]
    simp [entries, value?_cons]
  have hbefore : o.value? "before" = r.before.map Period.toPayload := by
    rw [ho.2 _ (by decide)]
    simp [entries, value?_cons]
  have hafter : o.value? "after" = r.after.map Period.toPayload := by
    rw [ho.2 _ (by decide)]
    simp [entries, value?_cons]
  have hgap : o.value? "gap" = gap.map Period.toPayload := by
    rw [ho.2 _ (by decide)]
    simp [entries, value?_cons]
  have hstart : o.value? "roundStart" = some (.ofWord roundStart) := by
    rw [ho.2 _ (by decide)]
    simp [entries, value?_cons, Json.ofWord]
  have hend : o.value? "roundEnd" = some (.ofWord roundEnd) := by
    rw [ho.2 _ (by decide)]
    simp [entries, value?_cons, Json.ofWord]
  rw [readSingle, required_eq_ok ho.1 (readText_eq_ok key), ok_bind, optional_period hbefore,
    ok_bind, optional_period hafter, ok_bind, optional_period hgap, ok_bind,
    optionalD_eq_ok hstart (readWord_ofWord roundStart), ok_bind,
    optionalD_eq_ok hend (readWord_ofWord roundEnd), ok_bind, readRangeField_eq_ok hfield]
  rfl

private theorem yields_readSingle_distance {p : GeoPoint} {nearest farthest : Float}
    (ho : Shows o key (.distance p nearest farthest)) :
    Yields (readSingle o .distance) { key, measure := .distance p nearest farthest }
      ((p.longitude.isFinite = true ∧ p.latitude.isFinite = true) ∧
        nearest.isFinite = true ∧ farthest.isFinite = true) := by
  have hpoint : o.value? "point" = some p.toPayload := by
    rw [ho.2 _ (by decide)]
    simp [entries, value?_cons, GeoPoint.toPayload]
  have hfrom : o.value? "from" = (Json.ofFloat nearest).present? := by
    rw [ho.2 _ (by decide)]
    simp [entries, value?_cons]
  have hto : o.value? "to" = (Json.ofFloat farthest).present? := by
    rw [ho.2 _ (by decide)]
    simp [entries, value?_cons]
  rw [readSingle]
  exact (yields_required hpoint (yields_readPoint p)).bind
    (Yields.bind_of_ok (required_eq_ok ho.1 (readText_eq_ok key))
      ((yields_required_float hfrom).bind ((yields_required_float hto).bind_pure _)))

private theorem yields_readSingle {m : Measure} (hm : ∀ i ∈ m.instants, i.LeapsAtMinuteEnd)
    {t : Tag} (ht : m.tag = .single t) (ho : Shows o key m) :
    Yields (readSingle o t) { key, measure := m }
      ((∀ i ∈ m.instants, i.HasFourDigitYear) ∧ Facet.IsFinite { key, measure := m }) := by
  cases m with
  | field name terms =>
    exact (Yields.of_eq_ok (readSingle_field ht ho)).congr
      (by simp [instants, Facet.IsFinite, Query.facetNumbers])
  | query q =>
    obtain rfl : .query = t := by simpa [tag] using ht
    exact (Yields.of_eq_ok (readSingle_query ho)).congr
      (by simp [instants, Facet.IsFinite, Query.facetNumbers])
  | queryGroup g => simp [tag] at ht
  | dateRange r gap =>
    obtain rfl : .dateRange = t := by simpa [tag] using ht
    simp only [instants, List.mem_append, Option.mem_toList, or_imp, forall_and] at hm ⊢
    exact (yields_readSingle_dateRange ho hm.1 hm.2).congr
      (by simp [Facet.IsFinite, Query.facetNumbers])
  | relativeRange r gap roundStart roundEnd =>
    obtain rfl : .relativeRange = t := by simpa [tag] using ht
    exact (Yields.of_eq_ok (readSingle_relativeRange ho)).congr
      (by simp [instants, Facet.IsFinite, Query.facetNumbers])
  | distance p nearest farthest =>
    obtain rfl : .distance = t := by simpa [tag] using ht
    exact (yields_readSingle_distance ho).congr
      (by simp [instants, Facet.IsFinite, Query.facetNumbers, and_assoc])

end Single

end Measure

namespace Facet

/-! ## Nodes -/

/-- A facet of a kind without its exclusion, from an object that describes it. -/
def readNode (o : Json.Object) : Tag → Reading Facet
  | .single t => readSingle o t
  | .queryGroup => do
    let queries ← required o "queries" (readList readQuery)
    let key ← required o "key" readText
    checked (queryGroup key queries)

theorem ofPayload_eq_readNode (o : Json.Object) : ofPayload (.object o) = (do
    let facet ← readNode o (← readTag .facet o)
    return { facet with excludeFilter := ← optional o "excludeFilter" readText }) := by
  rw [ofPayload_object]
  congr
  funext tag
  cases tag with
  | single t => rfl
  | queryGroup => simp only [readNode, bind_assoc]

section Node

variable (key : String) (excludeFilter : Option String) (tag : Tag) {entries : Json.Object}

/-- The entries of a facet. -/
private def facetEntries (entries : Json.Object) : Json.Object :=
  ("type", .ofWord tag) :: entries ++
    ("key", .string key) :: Json.Object.optionalEntry "excludeFilter" (excludeFilter.map .string)

private theorem value?_facetEntries {k : String} (h : k ∉ ["type", "key", "excludeFilter"]) :
    value? (facetEntries key excludeFilter tag entries) k = value? entries k := by
  simp only [List.mem_cons, List.not_mem_nil, or_false, not_or] at h
  rw [facetEntries, List.cons_append, value?_cons, if_neg h.1]
  refine Json.Object.value?_append_of_notMem_right fun hmem ↦ ?_
  rw [List.map_cons, List.mem_cons] at hmem
  rcases hmem with heq | hmem
  · exact h.2.1 heq
  · exact h.2.2 (List.mem_singleton.mp (Json.Object.map_fst_optionalEntry_subset _ _ hmem))

private theorem value?_facetEntries_key (hkey : "key" ∉ entries.map Prod.fst) :
    value? (facetEntries key excludeFilter tag entries) "key" = some (.string key) := by
  rw [facetEntries, List.cons_append, value?_cons, if_neg (by decide),
    Json.Object.value?_append_of_notMem_left hkey, value?_cons, if_pos rfl]
  rfl

private theorem yields_ofPayload_node {m : Measure} {p : Prop}
    (hexclude : "excludeFilter" ∉ entries.map Prod.fst)
    (hf : Yields (readNode (facetEntries key excludeFilter tag entries) tag)
      { key, measure := m } p) :
    Yields (ofPayload (node key excludeFilter tag entries))
      { key, measure := m, excludeFilter } p := by
  have htype : value? (facetEntries key excludeFilter tag entries) "type" = some (.ofWord tag) := by
    rw [facetEntries, List.cons_append, value?_cons, if_pos rfl]
    rfl
  have hexclude' : value? (facetEntries key excludeFilter tag entries) "excludeFilter"
      = excludeFilter.map .string := by
    rw [facetEntries, List.cons_append, value?_cons, if_neg (by decide),
      Json.Object.value?_append_of_notMem_left hexclude, value?_cons, if_neg (by decide),
      Json.Object.value?_written, if_pos rfl]
  change Yields (ofPayload (.object (facetEntries key excludeFilter tag entries))) _ _
  rw [ofPayload_eq_readNode, readTag_eq_ok htype, ok_bind]
  refine (hf.bind ((Yields.of_eq_ok (optional_text hexclude')).bind_pure _)).congr ?_
  exact and_iff_left trivial

end Node

/-! ## Facets -/

/-- The keys that all facets have are not used by what they count. -/
theorem notMem_entries (m : Measure) :
    "key" ∉ m.entries.map Prod.fst ∧ "excludeFilter" ∉ m.entries.map Prod.fst := by
  cases m with
  | field name terms => cases h : Specialization.ofField? name <;> simp [Measure.entries, h]
  | query q => simp [Measure.entries]
  | queryGroup g => simp [Measure.entries]
  | dateRange r gap =>
    cases h : r.lower <;> cases h' : r.upper <;> cases gap <;>
      simp [Measure.entries, Json.Object.optionalEntry, h, h']
  | relativeRange r gap roundStart roundEnd =>
    cases h : r.before <;> cases h' : r.after <;> cases gap <;>
      simp [Measure.entries, Json.Object.optionalEntry, h, h']
  | distance p nearest farthest => simp [Measure.entries]

private theorem shows_facetEntries (key : String) (excludeFilter : Option String) (tag : Tag)
    (m : Measure) : m.Shows (facetEntries key excludeFilter tag m.entries) key :=
  ⟨value?_facetEntries_key key excludeFilter tag (notMem_entries m).1,
    fun _ hk ↦ value?_facetEntries key excludeFilter tag hk⟩

theorem readQuery_toPayload (q : QueryCount) : readQuery q.toPayload = .ok q := by
  have hsingle := Measure.yields_readSingle (m := .query q.query) (List.forall_mem_nil _) rfl
    (shows_facetEntries q.key q.excludeFilter (.single .query) _)
  have hread := (yields_ofPayload_node q.key q.excludeFilter (.single .query)
    (notMem_entries (.query q.query)).2 hsingle).ok
    (by simp [Measure.instants, IsFinite, Query.facetNumbers])
  change (do asQuery (← ofPayload (node q.key q.excludeFilter (.single .query)
    (Measure.entries (.query q.query))))) = _
  rw [hread]
  rfl

private theorem readNode_queryGroup (key : String) (excludeFilter : Option String)
    (g : QueryGroup) :
    readNode (facetEntries key excludeFilter .queryGroup (Measure.entries (.queryGroup g)))
      .queryGroup = .ok { key, measure := .queryGroup g } := by
  have ho := shows_facetEntries key excludeFilter .queryGroup (.queryGroup g)
  have hqueries : value? (facetEntries key excludeFilter .queryGroup
      (Measure.entries (.queryGroup g))) "queries"
      = some (.array (g.queries.map QueryCount.toPayload)) := by
    rw [ho.2 _ (by decide)]
    simp [Measure.entries, value?_cons]
  have hlist := readList_eq_ok fun q (_ : q ∈ g.queries) ↦ readQuery_toPayload q
  have hgroup : queryGroup key g.queries = .ok { key, measure := .queryGroup g } :=
    dif_neg g.queries_ne_nil
  rw [readNode, required_eq_ok hqueries hlist, ok_bind,
    required_eq_ok ho.1 (Measure.readText_eq_ok key), ok_bind, hgroup, checked_ok]

/-- A facet is read back exactly if its years have four digits and its numbers are finite. -/
theorem yields_ofPayload {f : Facet} (hf : ∀ t ∈ f.measure.instants, t.LeapsAtMinuteEnd) :
    Yields (ofPayload f.toPayload) f
      ((∀ t ∈ f.measure.instants, t.HasFourDigitYear) ∧ f.IsFinite) := by
  obtain ⟨key, m, excludeFilter⟩ := f
  refine yields_ofPayload_node key excludeFilter m.tag (notMem_entries m).2 ?_
  cases ht : m.tag with
  | single t =>
    exact Measure.yields_readSingle hf ht (shows_facetEntries key excludeFilter (.single t) m)
  | queryGroup =>
    -- no other measure has the tag of a group
    cases m with
    | queryGroup g =>
      exact (Yields.of_eq_ok (readNode_queryGroup key excludeFilter g)).congr
        (by simp [Measure.instants, IsFinite, Query.facetNumbers])
    | _ => simp [Measure.tag] at ht

end Facet

end FacetedSearch
