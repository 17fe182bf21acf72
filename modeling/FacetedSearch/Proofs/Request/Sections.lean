import FacetedSearch.Proofs.Request.Counts
import FacetedSearch.Request.Rendering

/-!
# Sections of a request

The parameters of a request come in sections, and every section has names of its own. That is enough
to find a section in the finished list: the filters are the parameters with the name `fq`, and the
counts are those with one of the names in `Facet.countNames`.

The section of the filters has one parameter more than the query has filters if archived items are
hidden. It comes last, so the parameters and the filters can be paired from the front.
-/

namespace FacetedSearch

open Facet (Param countNames)

/-- The parameters of a request that stand for counts. -/
def Request.counts (r : Request) : List Param := r.params.filter fun p ↦ p.1 ∈ countNames

namespace Query

variable {q : Query} {b : Backend} {index : String} {r : Request}

/-- A request consists of its sections, of which three may fail. -/
theorem requestFor_eq_ok_iff : q.requestFor index b = .ok r ↔
    ∃ filters sort facets, q.filterParams = .ok filters ∧ q.sortParams = .ok sort ∧
      q.facetParams b = .ok facets ∧
      { index, params := q.basicParams b ++ filters ++ sort ++ q.pointParams b ++
          q.boostingParams ++ facets } = r := by
  simp only [requestFor, bind_eq_ok_iff, mapError_eq_ok_iff]
  constructor
  · rintro ⟨filters, hfilters, sort, hsort, facets, hfacets, h⟩
    exact ⟨filters, sort, facets, hfilters, hsort, hfacets, Except.ok.inj h⟩
  · rintro ⟨filters, sort, facets, hfilters, hsort, hfacets, rfl⟩
    exact ⟨filters, hfilters, sort, hsort, facets, hfacets, rfl⟩

/-! ## Names -/

/-- Parameters whose names are all among the given ones. -/
def Named (names : List String) (ps : List Param) : Prop := ∀ p ∈ ps, p.1 ∈ names

section Named

variable {names : List String}

@[simp] theorem named_nil : Named names [] := fun _ hp ↦ absurd hp List.not_mem_nil

@[simp] theorem named_cons {p : Param} {ps : List Param} :
    Named names (p :: ps) ↔ p.1 ∈ names ∧ Named names ps := List.forall_mem_cons

@[simp] theorem named_append {ps ps' : List Param} :
    Named names (ps ++ ps') ↔ Named names ps ∧ Named names ps' := List.forall_mem_append

theorem named_map {α : Type} {name : String} (hname : name ∈ names) (as : List α) (f : α → String) :
    Named names (as.map fun a ↦ (name, f a)) := by
  intro p hp
  obtain ⟨a, -, rfl⟩ := List.mem_map.mp hp
  exact hname

theorem Named.mono {names' : List String} {ps : List Param} (h : Named names ps)
    (hnames : names ⊆ names') : Named names' ps := fun p hp ↦ hnames (h p hp)

theorem Named.filter_eq_nil {ps : List Param} (h : Named names ps) (test : String → Bool)
    (htest : ∀ name ∈ names, test name = false) : ps.filter (fun p ↦ test p.1) = [] := by
  rw [List.filter_eq_nil_iff]
  intro p hp
  rw [htest p.1 (h p hp)]
  exact Bool.false_ne_true

theorem Named.filter_eq_self {ps : List Param} (h : Named names ps) (test : String → Bool)
    (htest : ∀ name ∈ names, test name = true) : ps.filter (fun p ↦ test p.1) = ps :=
  List.filter_eq_self.mpr fun p hp ↦ htest p.1 (h p hp)

end Named

theorem named_basicParams (q : Query) (b : Backend) :
    Named ["q", "q.op", "defType", "start", "rows", "TZ", "debugQuery"] (q.basicParams b) := by
  unfold basicParams
  cases q.timeZone <;> cases q.explain <;> simp

theorem named_sortParams {sort : List Param} (h : q.sortParams = .ok sort) :
    Named ["sort"] sort := by
  obtain ⟨parts, -, h⟩ := bind_eq_ok_iff.mp h
  split at h
  · cases h
    exact named_nil
  · cases h
    simp

theorem named_pointParams (q : Query) (b : Backend) :
    Named ["pt", "sfield"] (q.pointParams b) := by
  unfold pointParams
  cases q.referencePoint <;> simp

theorem named_joinedParam {names : List String} {name : String} (hname : name ∈ names)
    (weights : List String) : Named names (joinedParam name weights) := by
  unfold joinedParam
  split
  · exact named_nil
  · simpa using hname

theorem named_boostingParams (q : Query) :
    Named ["qf", "pf", "bq", "bf", "tie"] q.boostingParams := by
  unfold boostingParams
  split
  · exact named_nil
  · next w hw =>
    split
    · exact named_nil
    · simp only [named_append]
      refine ⟨⟨⟨⟨?_, ?_⟩, ?_⟩, ?_⟩, ?_⟩
      · exact named_joinedParam (by decide) w.queryFields
      · exact named_joinedParam (by decide) w.phraseFields
      · exact named_map (by decide) w.boostQueries id
      · exact named_map (by decide) w.boostFunctions id
      · simp

/-! ## Filters -/

theorem name_filterParam {f : Filter} {p : Param} (h : filterParam f = .ok p) : p.1 = "fq" := by
  obtain ⟨text, -, hp⟩ := bind_eq_ok_iff.mp h
  cases hp
  rfl

theorem named_mapM_filterParam {fs : List Filter} {ps : List Param}
    (h : List.Forall₂ (fun f p ↦ filterParam f = .ok p) fs ps) : Named ["fq"] ps := by
  induction h with
  | nil => exact named_nil
  | cons hp _ ih => exact named_cons.mpr ⟨by simp [name_filterParam hp], ih⟩

/-- The parameter that hides archived items, unless they are included. -/
def archiveParams (q : Query) : List Param := if q.archive then [] else [("fq", "-sp_archive:true")]

theorem named_archiveParams (q : Query) : Named ["fq"] q.archiveParams := by
  rw [archiveParams]
  split <;> simp

/-- The parameters of the filters come first, and at most one follows them. -/
theorem filterParams_eq_ok {ps : List Param} (h : q.filterParams = .ok ps) :
    ∃ filters, ps = filters ++ q.archiveParams ∧
      List.Forall₂ (fun f p ↦ filterParam f = .ok p) q.filters filters := by
  obtain ⟨filters, hfilters, h⟩ := bind_eq_ok_iff.mp h
  refine ⟨filters, ?_, mapM_eq_ok_iff.mp hfilters⟩
  rw [archiveParams]
  split at h
  · next harchive =>
    cases h
    rw [if_pos harchive, List.append_nil]
  · next harchive =>
    cases h
    rw [if_neg harchive]
    rfl

/-! ## Facets -/

/-- The parameters for counts, facet by facet, follow the settings that they share. -/
theorem facetParams_eq_ok {ps : List Param} (h : q.facetParams b = .ok ps) :
    ∃ settings pss, ps = settings ++ pss.flatten ∧
      (settings = [] ∨ settings = facetSettings b) ∧
        List.Forall₂ (fun f ps ↦ f.params b = .ok ps) q.facets pss := by
  unfold facetParams at h
  split at h
  · next hempty =>
    cases h
    rw [List.isEmpty_iff.mp hempty]
    exact ⟨[], [], rfl, .inl rfl, .nil⟩
  · obtain ⟨pss, hpss, h⟩ := bind_eq_ok_iff.mp h
    cases h
    exact ⟨_, pss, rfl, .inr rfl, mapM_eq_ok_iff.mp hpss⟩

theorem named_facetSettings {settings : List Param}
    (h : settings = [] ∨ settings = facetSettings b) :
    Named ["facet", "facet.mincount", "facet.limit"] settings := by
  rcases h with rfl | rfl
  · exact named_nil
  · simp [facetSettings]

/-! ## Requests -/

theorem named_counts {cs : List (String × Option String)} {ps : List Param}
    (h : List.Forall₂ Facet.Counts cs ps) : Named countNames ps := by
  induction h with
  | nil => exact named_nil
  | cons hp _ ih => exact named_cons.mpr ⟨hp.name_mem, ih⟩

/-- The names of the parameters that are neither filters nor counts. -/
def settingNames : List String :=
  ["q", "q.op", "defType", "start", "rows", "TZ", "debugQuery", "sort", "pt", "sfield", "qf", "pf",
    "bq", "bf", "tie", "facet", "facet.mincount", "facet.limit"]

/-- The filters stand between settings, and the counts behind them. -/
theorem params_of_requestFor (h : q.requestFor index b = .ok r) :
    ∃ before filters between pss,
      r.params = before ++ (filters ++ q.archiveParams) ++ between ++ pss.flatten ∧
        Named settingNames before ∧ Named settingNames between ∧
        List.Forall₂ (fun f p ↦ filterParam f = .ok p) q.filters filters ∧
        List.Forall₂ (fun f ps ↦ f.params b = .ok ps) q.facets pss := by
  obtain ⟨fqs, sort, facets, hfqs, hsort, hfacets, rfl⟩ := requestFor_eq_ok_iff.mp h
  obtain ⟨filters, rfl, hfilters⟩ := filterParams_eq_ok hfqs
  obtain ⟨settings, pss, rfl, hsettings, hpss⟩ := facetParams_eq_ok hfacets
  have hbefore : Named settingNames (q.basicParams b) := (named_basicParams q b).mono (by decide)
  have hbetween : Named settingNames (sort ++ q.pointParams b ++ q.boostingParams ++ settings) := by
    simp only [named_append]
    exact ⟨⟨⟨(named_sortParams hsort).mono (by decide), (named_pointParams q b).mono (by decide)⟩,
      (named_boostingParams q).mono (by decide)⟩, (named_facetSettings hsettings).mono (by decide)⟩
  exact ⟨_, filters, _, pss, by simp only [List.append_assoc], hbefore, hbetween, hfilters, hpss⟩

/-- **The filters of a request.** The values under the name `fq` begin with those of the filters. -/
theorem values_fq_of_requestFor (h : q.requestFor index b = .ok r) :
    ∃ filters, r.values "fq" = filters.map Prod.snd ++ q.archiveParams.map Prod.snd ∧
      List.Forall₂ (fun f p ↦ filterParam f = .ok p) q.filters filters := by
  obtain ⟨before, filters, between, pss, hparams, hbefore, hbetween, hfilters, hpss⟩ :=
    params_of_requestFor h
  let test (name : String) : Bool := name == "fq"
  refine ⟨filters, ?_, hfilters⟩
  change (r.params.filter fun p ↦ test p.1).map Prod.snd = _
  rw [hparams, List.filter_append, List.filter_append, List.filter_append, List.filter_append,
    hbefore.filter_eq_nil test (by decide),
    (named_mapM_filterParam hfilters).filter_eq_self test (by decide),
    q.named_archiveParams.filter_eq_self test (by decide),
    hbetween.filter_eq_nil test (by decide),
    (named_counts (Facet.forall₂_flatten_params hpss)).filter_eq_nil test (by decide),
    List.nil_append, List.append_nil, List.append_nil, List.map_append]

theorem exists_counts_of_requestFor (h : q.requestFor index b = .ok r) :
    ∃ pss, r.counts = pss.flatten ∧
      List.Forall₂ (fun f ps ↦ f.params b = .ok ps) q.facets pss := by
  obtain ⟨before, filters, between, pss, hparams, hbefore, hbetween, hfilters, hpss⟩ :=
    params_of_requestFor h
  let test (name : String) : Bool := decide (name ∈ countNames)
  refine ⟨pss, ?_, hpss⟩
  change (r.params.filter fun p ↦ test p.1) = _
  rw [hparams, List.filter_append, List.filter_append, List.filter_append, List.filter_append,
    hbefore.filter_eq_nil test (by decide),
    (named_mapM_filterParam hfilters).filter_eq_nil test (by decide),
    q.named_archiveParams.filter_eq_nil test (by decide),
    hbetween.filter_eq_nil test (by decide),
    (named_counts (Facet.forall₂_flatten_params hpss)).filter_eq_self test (by decide),
    List.nil_append, List.append_nil, List.nil_append, List.nil_append]

/-- **The counts of a request.** They are those of the facets, in order. -/
theorem counts_of_requestFor (h : q.requestFor index b = .ok r) :
    List.Forall₂ Facet.Counts (q.facets.flatMap Facet.counts) r.counts := by
  obtain ⟨pss, hcounts, hpss⟩ := exists_counts_of_requestFor h
  rw [hcounts]
  exact Facet.forall₂_flatten_params hpss

end Query

end FacetedSearch
