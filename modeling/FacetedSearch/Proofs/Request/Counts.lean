import FacetedSearch.Proofs.Request.LocalParams
import FacetedSearch.Proofs.Steps
import FacetedSearch.Request.Facets

/-!
# Counts of a request

What the backend finds in the parameters of facets. A parameter stands for one count, and its local
parameters hold the key under which the count is reported and the filter to ignore. `Facet.counts`
lists both for every count of a facet, in order, and `Facet.forall₂_params` says that the parameters
of the facet show exactly these.

A group is the only facet with several counts. Its own key is not shown at all, and its exclusion
only for those of its queries that have none.
-/

namespace FacetedSearch

namespace Facet

open LocalParams (Readable readable_empty valuesIn valuesIn_wrap)

/-- The names of the parameters that stand for counts. -/
def countNames : List String := ["facet.field", "facet.query", "facet.range"]

/-- The key and the exclusion of every count of a facet. -/
def counts (f : Facet) : List (String × Option String) :=
  match f.measure with
  | .queryGroup g => g.queries.map fun q ↦ (q.key, q.excludeFilter.or f.excludeFilter)
  | _ => [(f.key, f.excludeFilter)]

/-- The parameter stands for a count with the given key and exclusion. -/
structure Counts (c : String × Option String) (p : Param) : Prop where
  name_mem : p.1 ∈ countNames
  key : valuesIn "key" p.2 = [c.1]
  exclusion : valuesIn "ex" p.2 = c.2.toList

variable {key : String} {excludeFilter : Option String} {f : Facet} {p : Param}

theorem counts_wrap {locals : LocalParams} {name : String} (hlocals : locals.Readable)
    (hname : name ∈ countNames) (hkey : locals.values "key" = [key])
    (hex : locals.values "ex" = excludeFilter.toList) (body : String) :
    Counts (key, excludeFilter) (name, locals.wrap body) := by
  have hparts : locals.parts ≠ [] :=
    LocalParams.parts_ne_nil_of_values (hkey ▸ List.mem_singleton_self key)
  exact ⟨hname, by rw [valuesIn_wrap hlocals hparts, hkey],
    by rw [valuesIn_wrap hlocals hparts, hex]⟩

theorem readable_keyed (key : String) (excludeFilter : Option String) :
    (keyed key excludeFilter).Readable :=
  (readable_empty.add (by decide) key).add? (by decide) excludeFilter

@[simp] theorem values_keyed_key (key : String) (excludeFilter : Option String) :
    (keyed key excludeFilter).values "key" = [key] := by
  simp [keyed]

@[simp] theorem values_keyed_ex (key : String) (excludeFilter : Option String) :
    (keyed key excludeFilter).values "ex" = excludeFilter.toList := by
  simp [keyed]

/-! ## Single counts -/

theorem counts_queryParam (key : String) (excludeFilter : Option String) (query : String) :
    Counts (key, excludeFilter) (queryParam key excludeFilter query) :=
  counts_wrap (readable_keyed key excludeFilter) (by decide) (by simp) (by simp) query

theorem counts_fieldParam (f : Facet) (name : String) (terms : List String) :
    Counts (f.key, f.excludeFilter) (fieldParam f name terms) :=
  counts_wrap ((readable_keyed f.key f.excludeFilter).add? (by decide) _) (by decide) (by simp)
    (by simp) name

/-- The local parameters of a range that is counted per bucket. -/
def rangeLocals (f : Facet) (start stop gap : String) : LocalParams :=
  (((keyed f.key f.excludeFilter).add "facet.range.start" start).add "facet.range.end" stop).add
    "facet.range.gap" gap

theorem rangeParam_eq_wrap (f : Facet) (field start stop gap : String) :
    rangeParam f field start stop gap =
      ("facet.range", (rangeLocals f start stop gap).wrap field) := rfl

theorem readable_rangeLocals (f : Facet) (start stop gap : String) :
    (rangeLocals f start stop gap).Readable :=
  (((readable_keyed f.key f.excludeFilter).add (by decide) start).add (by decide) stop).add
    (by decide) gap

theorem counts_rangeParam (f : Facet) (field start stop gap : String) :
    Counts (f.key, f.excludeFilter) (rangeParam f field start stop gap) := by
  rw [rangeParam_eq_wrap]
  exact counts_wrap (readable_rangeLocals f start stop gap) (by decide) (by simp [rangeLocals])
    (by simp [rangeLocals]) field

theorem counts_distanceParam (f : Facet) (geoField : String) (point : GeoPoint)
    (nearest farthest : Float) :
    Counts (f.key, f.excludeFilter) (distanceParam f geoField point nearest farthest) := by
  -- the one count that names a parser, so its parameters do not start from `keyed`
  let base : LocalParams := { parser := some "frange", pairs := [("key", f.key)] }
  have hbase : base.Readable := by
    constructor
    · rintro name ⟨⟩
      decide
    · intro nv hnv
      have hkey : LocalParams.IsName "key" := by decide
      rw [List.mem_singleton.mp hnv]
      exact hkey
  have hkey : base.values "key" = [f.key] := rfl
  have hex : base.values "ex" = [] := rfl
  have hexclude := hbase.add? (show LocalParams.IsName "ex" by decide) f.excludeFilter
  have hnearest := hexclude.add (show LocalParams.IsName "l" by decide)
    (Decimal.Layout.plain.render nearest)
  have hrange := hnearest.add (show LocalParams.IsName "u" by decide)
    (Decimal.Layout.plain.render farthest)
  exact counts_wrap hrange (by decide) (by simp [hkey]) (by simp [hex]) _

theorem counts_dateRangeParam {r : DateRange} {gap : Option Period}
    (h : dateRangeParam f r gap = .ok p) : Counts (f.key, f.excludeFilter) p := by
  unfold dateRangeParam at h
  split at h
  · obtain ⟨gapText, -, hp⟩ := bind_eq_ok_iff.mp h
    cases hp
    exact counts_rangeParam f _ _ _ _
  · obtain ⟨query, -, hp⟩ := bind_eq_ok_iff.mp h
    cases hp
    exact counts_queryParam f.key f.excludeFilter query

theorem counts_relativeRangeParam {r : RelativeRange} {gap : Option Period}
    {roundStart roundEnd : Rounding}
    (h : relativeRangeParam f r gap roundStart roundEnd = .ok p) :
    Counts (f.key, f.excludeFilter) p := by
  obtain ⟨start, -, h⟩ := bind_eq_ok_iff.mp h
  obtain ⟨stop, -, h⟩ := bind_eq_ok_iff.mp h
  cases gap with
  | none =>
    cases h
    exact counts_queryParam f.key f.excludeFilter _
  | some gap =>
    obtain ⟨gapText, -, hp⟩ := bind_eq_ok_iff.mp h
    cases hp
    exact counts_rangeParam f _ _ _ _

/-! ## Facets -/

/-- **The parameters of a facet show its counts**, one each, in order. -/
theorem forall₂_params {b : Backend} {ps : List Param} (h : f.params b = .ok ps) :
    List.Forall₂ Counts f.counts ps := by
  rw [params] at h
  rw [counts]
  cases hm : f.measure with
  | field name terms =>
    rw [hm] at h
    cases h
    exact .cons (counts_fieldParam f name terms) .nil
  | query query =>
    rw [hm] at h
    cases h
    exact .cons (counts_queryParam f.key f.excludeFilter query) .nil
  | queryGroup g =>
    rw [hm] at h
    cases h
    -- the queries are counted and written one by one, each under its own key
    rw [List.forall₂_map_left_iff, List.forall₂_map_right_iff, List.forall₂_same]
    exact fun q _ ↦ counts_queryParam q.key _ q.query
  | dateRange r gap =>
    rw [hm] at h
    obtain ⟨p, hp, hps⟩ := bind_eq_ok_iff.mp h
    cases hps
    exact .cons (counts_dateRangeParam hp) .nil
  | relativeRange r gap roundStart roundEnd =>
    rw [hm] at h
    obtain ⟨p, hp, hps⟩ := bind_eq_ok_iff.mp h
    cases hps
    exact .cons (counts_relativeRangeParam hp) .nil
  | distance point nearest farthest =>
    rw [hm] at h
    cases h
    exact .cons (counts_distanceParam f b.geoField point nearest farthest) .nil

theorem forall₂_flatten_params {b : Backend} {fs : List Facet} {pss : List (List Param)}
    (h : List.Forall₂ (fun f ps ↦ f.params b = .ok ps) fs pss) :
    List.Forall₂ Counts (fs.flatMap counts) pss.flatten := by
  have hfacets := h.imp fun _ _ hps ↦ forall₂_params hps
  rw [← List.flatMap_id]
  exact List.rel_flatMap hfacets fun _ _ hps ↦ hps

end Facet

end FacetedSearch
