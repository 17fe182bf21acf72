import FacetedSearch.Proofs.Request.Sections

/-!
# The shape of a request

How often the names of a request occur, in which order, and which parts of the query they depend on.
Lists are sent as parameters of the same name, and so are filters and counts. Every other name
occurs once at most, and these names always come in the same order (`Request.singleNames`): what is
left of the names of a request without those of lists is a sublist of it. This is said section by
section, since sublists can be appended.

The facets come last and none of their names is used by another section. Taking them out therefore
leaves a front part of the request, and this part is made from the rest of the query alone. The
language is used for nothing but the index.
-/

namespace FacetedSearch

open Facet (Param countNames)
open scoped List

namespace Request

/-- The names of the parameters, in order. -/
def names (r : Request) : List String := r.params.map Prod.fst

/-- The names that occur once at most, in the order in which they come. -/
def singleNames : List String :=
  ["q", "q.op", "defType", "start", "rows", "TZ", "debugQuery", "sort", "pt", "sfield", "qf", "pf",
    "tie", "facet", "facet.mincount", "facet.limit"]

/-- The names of facets: of their settings, and of their counts. -/
def facetNames : List String := ["facet", "facet.mincount", "facet.limit"] ++ countNames

/-- The names that have nothing to do with facets. -/
def plainNames : List String :=
  ["q", "q.op", "defType", "start", "rows", "TZ", "debugQuery", "fq", "sort", "pt", "sfield", "qf",
    "pf", "bq", "bf", "tie"]

/-- The parameters that have nothing to do with facets. -/
def plain (r : Request) : List Param := r.params.filter fun p ↦ p.1 ∉ facetNames

end Request

/-- The query of a filter as it is sent: with the key of the filter as a tag, if it has one. -/
def Filter.tagged (f : Filter) (text : String) : String :=
  match f.key with
  | some k => "\x7b!tag=" ++ LocalParams.quote k ++ "\x7d" ++ text
  | none => text

namespace Query

open Request (singleNames facetNames plainNames)

variable {q : Query} {b : Backend} {index : String} {r : Request}

/-! ## Names that occur once -/

/-- The names of a section that occur once at most in a request. -/
def singles (ps : List Param) : List String := (ps.map Prod.fst).filter (· ∈ singleNames)

@[simp] theorem singles_nil : singles [] = [] := rfl

@[simp] theorem singles_cons (p : Param) (ps : List Param) :
    singles (p :: ps) = if p.1 ∈ singleNames then p.1 :: singles ps else singles ps := by
  simp [singles, List.filter_cons]

@[simp] theorem singles_append (ps ps' : List Param) :
    singles (ps ++ ps') = singles ps ++ singles ps' := by
  simp [singles]

theorem Named.singles_eq_nil {names : List String} {ps : List Param} (h : Named names ps)
    (hnames : ∀ name ∈ names, name ∉ singleNames) : singles ps = [] := by
  rw [singles, List.filter_eq_nil_iff]
  intro name hname
  obtain ⟨p, hp, rfl⟩ := List.mem_map.mp hname
  simpa using hnames p.1 (h p hp)

theorem singles_basicParams (q : Query) (b : Backend) : singles (q.basicParams b) <+
    ["q", "q.op", "defType", "start", "rows", "TZ", "debugQuery"] := by
  unfold basicParams
  cases q.timeZone <;> cases q.explain <;> simp [singleNames]

theorem singles_sortParams {sort : List Param} (h : q.sortParams = .ok sort) :
    singles sort <+ ["sort"] := by
  obtain ⟨parts, -, h⟩ := bind_eq_ok_iff.mp h
  split at h
  · cases h
    exact List.nil_sublist _
  · cases h
    exact List.Sublist.refl _

theorem singles_pointParams (q : Query) (b : Backend) :
    singles (q.pointParams b) <+ ["pt", "sfield"] := by
  unfold pointParams
  split
  · exact List.Sublist.refl _
  · exact List.nil_sublist _

theorem singles_joinedParam {name : String} (hname : name ∈ singleNames) (weights : List String) :
    singles (joinedParam name weights) <+ [name] := by
  unfold joinedParam
  split
  · exact List.nil_sublist _
  · simp [hname]

theorem singles_boostingParams (q : Query) : singles q.boostingParams <+ ["qf", "pf", "tie"] := by
  unfold boostingParams
  split
  · exact List.nil_sublist _
  · next w hw =>
    split
    · exact List.nil_sublist _
    · have hqueries : singles (w.boostQueries.map fun s ↦ ("bq", s)) = [] :=
        (named_map (List.mem_singleton_self "bq") w.boostQueries id).singles_eq_nil (by decide)
      have hfunctions : singles (w.boostFunctions.map fun s ↦ ("bf", s)) = [] :=
        (named_map (List.mem_singleton_self "bf") w.boostFunctions id).singles_eq_nil (by decide)
      have hqf := @singles_joinedParam "qf" (by decide) w.queryFields
      have hpf := @singles_joinedParam "pf" (by decide) w.phraseFields
      simp only [singles_append, hqueries, hfunctions, List.append_nil]
      exact (hqf.append hpf).append (List.Sublist.refl ["tie"])

theorem singles_facetParams {facets : List Param} (h : q.facetParams b = .ok facets) :
    singles facets <+ ["facet", "facet.mincount", "facet.limit"] := by
  obtain ⟨settings, pss, rfl, hsettings, hpss⟩ := facetParams_eq_ok h
  have hcounts : singles pss.flatten = [] :=
    (named_counts (Facet.forall₂_flatten_params hpss)).singles_eq_nil (by decide)
  rw [singles_append, hcounts, List.append_nil]
  rcases hsettings with rfl | rfl
  · exact List.nil_sublist _
  · exact List.Sublist.refl _

/-- **The names of a request.** Without those of lists, they are a sublist of a list in which every
name occurs once. -/
theorem singles_of_requestFor (h : q.requestFor index b = .ok r) :
    singles r.params <+ singleNames := by
  obtain ⟨fqs, sort, facets, hfqs, hsort, hfacets, rfl⟩ := requestFor_eq_ok_iff.mp h
  obtain ⟨filters, rfl, hfilters⟩ := filterParams_eq_ok hfqs
  have hfq : singles (filters ++ q.archiveParams) = [] :=
    (named_append.mpr ⟨named_mapM_filterParam hfilters, q.named_archiveParams⟩).singles_eq_nil
      (by decide)
  simp only [singles_append _ facets, singles_append _ q.boostingParams,
    singles_append _ (q.pointParams b), singles_append _ sort, singles_append (q.basicParams b),
    hfq, List.append_nil]
  exact ((((singles_basicParams q b).append (singles_sortParams hsort)).append
    (singles_pointParams q b)).append (singles_boostingParams q)).append
    (singles_facetParams hfacets)

theorem count_names_le_one (h : q.requestFor index b = .ok r) {name : String}
    (hname : name ∈ singleNames) : r.names.count name ≤ 1 := by
  have hsingles : (singles r.params).count name = r.names.count name :=
    List.count_filter (by simpa using hname)
  rw [← hsingles]
  have hnodup : singleNames.Nodup := by decide
  exact ((singles_of_requestFor h).count_le name).trans (List.nodup_iff_count_le_one.mp hnodup name)

theorem count_names_eq_one (h : q.requestFor index b = .ok r) {name : String}
    (hname : name ∈ ["q", "q.op", "defType", "start", "rows"]) : r.names.count name = 1 := by
  have hsingle : name ∈ singleNames := by
    have hsubset : ["q", "q.op", "defType", "start", "rows"] ⊆ singleNames := by decide
    exact hsubset hname
  have hmem : name ∈ r.names := by
    obtain ⟨fqs, sort, facets, hfqs, hsort, hfacets, rfl⟩ := requestFor_eq_ok_iff.mp h
    have hbasic : ["q", "q.op", "defType", "start", "rows"] ⊆ (q.basicParams b).map Prod.fst := by
      simp [basicParams]
    simp only [Request.names, List.map_append, List.mem_append]
    simp [hbasic hname]
  exact le_antisymm (count_names_le_one h hsingle) (List.one_le_count_iff.mpr hmem)

/-! ## Filters and counts -/

theorem wrap_tag (f : Filter) (text : String) :
    LocalParams.wrap (LocalParams.add? {} "tag" f.key) text = f.tagged text := by
  rw [Filter.tagged]
  cases f.key with
  | none => rfl
  | some k =>
    have hparts : (LocalParams.add? {} "tag" (some k)).parts =
        ["tag=" ++ LocalParams.quote k] := rfl
    have hopen : "\x7b!" ++ "tag=" = "\x7b!tag=" := rfl
    rw [LocalParams.wrap, hparts, ← hopen, @String.append_assoc "\x7b!"]
    rfl

theorem exists_values_fq (h : q.requestFor index b = .ok r) :
    ∃ values, r.values "fq" = values ++ (if q.archive then [] else ["-sp_archive:true"]) ∧
      List.Forall₂ (fun f value ↦ ∃ text, f.compile = .ok text ∧ value = f.tagged text)
        q.filters values := by
  obtain ⟨filters, hvalues, hfilters⟩ := values_fq_of_requestFor h
  have harchive : q.archiveParams.map Prod.snd =
      if q.archive then [] else ["-sp_archive:true"] := by
    rw [archiveParams]
    split <;> rfl
  refine ⟨filters.map Prod.snd, harchive ▸ hvalues, ?_⟩
  rw [List.forall₂_map_right_iff]
  refine hfilters.imp fun f p hp ↦ ?_
  obtain ⟨text, htext, hp⟩ := bind_eq_ok_iff.mp hp
  cases hp
  exact ⟨text, htext, wrap_tag f text⟩

/-! ## What the facets change -/

/-- The parameters in front of those of the facets, from those of the filters and of the order. -/
def front (q : Query) (b : Backend) (filters sort : List Param) : List Param :=
  q.basicParams b ++ filters ++ sort ++ q.pointParams b ++ q.boostingParams

theorem named_front {filters sort : List Param} (hfilters : q.filterParams = .ok filters)
    (hsort : q.sortParams = .ok sort) : Named plainNames (q.front b filters sort) := by
  obtain ⟨params, rfl, hparams⟩ := filterParams_eq_ok hfilters
  simp only [front, named_append]
  refine ⟨⟨⟨⟨?_, ?_, ?_⟩, ?_⟩, ?_⟩, ?_⟩
  · exact (named_basicParams q b).mono (by decide)
  · exact (named_mapM_filterParam hparams).mono (by decide)
  · exact q.named_archiveParams.mono (by decide)
  · exact (named_sortParams hsort).mono (by decide)
  · exact (named_pointParams q b).mono (by decide)
  · exact (named_boostingParams q).mono (by decide)

theorem named_facetParams {facets : List Param} (h : q.facetParams b = .ok facets) :
    Named facetNames facets := by
  obtain ⟨settings, pss, rfl, hsettings, hpss⟩ := facetParams_eq_ok h
  have hcounts := named_counts (Facet.forall₂_flatten_params hpss)
  exact named_append.mpr
    ⟨(named_facetSettings hsettings).mono (by decide), hcounts.mono (by decide)⟩

/-- What is left without the facets is the front of the request, and does not depend on them. -/
theorem plain_of_requestFor (h : q.requestFor index b = .ok r) :
    r.plain <+: r.params ∧ ∃ filters sort, q.filterParams = .ok filters ∧ q.sortParams = .ok sort ∧
      r.plain = q.front b filters sort := by
  obtain ⟨filters, sort, facets, hfilters, hsort, hfacets, rfl⟩ := requestFor_eq_ok_iff.mp h
  let test (name : String) : Bool := decide (name ∉ facetNames)
  have hplain : (q.front b filters sort ++ facets).filter (fun p ↦ test p.1) =
      q.front b filters sort := by
    rw [List.filter_append, (named_front hfilters hsort).filter_eq_self test (by decide),
      (named_facetParams hfacets).filter_eq_nil test (by decide), List.append_nil]
  refine ⟨?_, filters, sort, hfilters, hsort, hplain⟩
  change (q.front b filters sort ++ facets).filter (fun p ↦ test p.1) <+: _
  rw [hplain]
  exact List.prefix_append _ _

/-- The language of a query decides about the index of its request and nothing else. -/
theorem params_of_language (q : Query) (b : Backend) (index index' : String) (l : Language) :
    ({ q with language := l }.requestFor index' b).map Request.params =
      (q.requestFor index b).map Request.params := by
  have hfilters : { q with language := l }.filterParams = q.filterParams := rfl
  have hsort : { q with language := l }.sortParams = q.sortParams := rfl
  have hfacets : { q with language := l }.facetParams b = q.facetParams b := rfl
  rw [requestFor, requestFor, hfilters, hsort, hfacets]
  cases q.filterParams with
  | error v => rfl
  | ok filters =>
    cases q.sortParams with
    | error e => rfl
    | ok sort => cases q.facetParams b <;> rfl

/-- **The shape of a request.** Phrase, operators and page are given exactly once, and every other
setting once at most. The values under `fq` are the filters in order, tagged by their keys, and the
one that hides archived items unless they are included. The counts follow each other facet by facet,
one for each facet that is no group and one for each query of a group. Queries that differ in their
facets have the same parameters in front of them, and queries that differ in their language the same
parameters altogether. -/
theorem shape_of_requestFor (h : q.requestFor index b = .ok r) :
    (∀ name ∈ ["q", "q.op", "defType", "start", "rows"], r.names.count name = 1) ∧
    (∀ name ∈ ["TZ", "debugQuery", "sort", "pt", "sfield", "qf", "pf", "tie", "facet",
      "facet.mincount", "facet.limit"], r.names.count name ≤ 1) ∧
    (∃ values, r.values "fq" = values ++ (if q.archive then [] else ["-sp_archive:true"]) ∧
      List.Forall₂ (fun f value ↦ ∃ text, f.compile = .ok text ∧ value = f.tagged text)
        q.filters values) ∧
    (∃ pss, r.counts = pss.flatten ∧ List.Forall₂ (fun f ps ↦
      f.params b = .ok ps ∧ List.Forall₂ Facet.Counts f.counts ps) q.facets pss) ∧
    (∀ facets index' r', { q with facets }.requestFor index' b = .ok r' →
      r.plain = r'.plain ∧ r.plain <+: r.params ∧ r.plain <+: r'.params) ∧
    ∀ language index', ({ q with language }.requestFor index' b).map Request.params =
      .ok r.params := by
  refine ⟨fun name hname ↦ count_names_eq_one h hname, fun name hname ↦ ?_, exists_values_fq h, ?_,
    fun facets index' r' h' ↦ ?_, fun language index' ↦ ?_⟩
  · have hsubset : ["TZ", "debugQuery", "sort", "pt", "sfield", "qf", "pf", "tie", "facet",
        "facet.mincount", "facet.limit"] ⊆ singleNames := by decide
    exact count_names_le_one h (hsubset hname)
  · obtain ⟨pss, hcounts, hpss⟩ := exists_counts_of_requestFor h
    exact ⟨pss, hcounts, hpss.imp fun f ps hps ↦ ⟨hps, Facet.forall₂_params hps⟩⟩
  · -- filters and criteria are the same in both queries, so they are written alike
    obtain ⟨hbegins, filters, sort, hfilters, hsort, hplain⟩ := plain_of_requestFor h
    obtain ⟨hbegins', filters', sort', hfilters', hsort', hplain'⟩ := plain_of_requestFor h'
    obtain rfl := Except.ok.inj (hfilters.symm.trans hfilters')
    obtain rfl := Except.ok.inj (hsort.symm.trans hsort')
    have heq : r.plain = r'.plain := hplain.trans hplain'.symm
    exact ⟨heq, hbegins, heq ▸ hbegins'⟩
  · rw [params_of_language q b index index' language, h]
    rfl

/-- A query with a tagged filter and three counts, and the same without facets. -/
theorem shape_of_requestFor_pets :
    let cats : QueryCount := { key := "cats", query := "kind:cat" }
    let dogs : QueryCount := { key := "dogs", query := "kind:dog", excludeFilter := some "site" }
    let group : QueryGroup := ⟨[cats, dogs], List.cons_ne_nil _ _⟩
    let pets : Facet := { key := "pets", measure := .queryGroup group }
    let sites : Facet := { key := "sites", measure := .field Field.site [] }
    let site : Filter := .test (some "site") (.raw "a:b")
    let q : Query := { limit := 10, operator := .and, timeZone := none, filters := [site],
                       facets := [sites, pets] }
    ∃ r r', q.request {} = .ok r ∧ { q with facets := [] }.request {} = .ok r' ∧
      r.names.count "rows" = 1 ∧ r.values "fq" = ["\x7b!tag=site\x7da:b", "-sp_archive:true"] ∧
      r.counts.length = 3 ∧ r.plain = r'.plain ∧ r.plain <+: r.params ∧ r.plain <+: r'.params := by
  intro cats dogs group pets sites site q
  refine ⟨_, _, rfl, rfl, ?_⟩
  obtain ⟨hone, -, -, -, hfacets, -⟩ := @shape_of_requestFor q {} (q.indexOf {}) _ rfl
  exact ⟨hone "rows" (by decide), by decide, by decide, hfacets [] (q.indexOf {}) _ rfl⟩

end Query

end FacetedSearch
