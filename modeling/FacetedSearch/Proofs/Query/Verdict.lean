import FacetedSearch.Proofs.Query.Atomicity
import FacetedSearch.Proofs.Query.Numbers

/-!
# What building decides

Everything that is judged only in the end is a fact about the draft: whether the exclusions of its
facets can be resolved, and whether its numbers are finite. `Query.Sound` says that both are so, and
`Query.Refused` which of several faults is reported: the first exclusion that refers to nothing goes
before every number.

A builder keeps the members of the accepted edits, in the order of the edits, and their keys are
all different. This is why a member that is found by its key is the only one with that key.

The name of an index is judged before everything else, and is nothing that the rest of the query
could make up for.
-/

namespace FacetedSearch

/-! ## Searching lists -/

/-- The member is the only one with a property, and stands at one position only. -/
def IsOnly {α : Type} (as : List α) (p : α → Prop) (a : α) : Prop :=
  ∃ i : Nat, as[i]? = some a ∧ p a ∧ ∀ j b, as[j]? = some b → p b → j = i

/-- Where two members never share a property, the first with the property is the only one. -/
theorem find?_eq_some_iff_isOnly {α : Type} {as : List α} {a : α} {p : α → Bool}
    (h : as.Pairwise fun a b ↦ p a = true → ¬ p b = true) :
    as.find? p = some a ↔ IsOnly as (fun a ↦ p a = true) a := by
  rw [List.find?_eq_some_iff_getElem]
  rw [List.pairwise_iff_getElem] at h
  constructor
  · rintro ⟨ha, i, hi, rfl, hfirst⟩
    refine ⟨i, List.getElem?_eq_getElem hi, ha, fun j b hj hb ↦ ?_⟩
    obtain ⟨hlen, rfl⟩ := List.getElem?_eq_some_iff.mp hj
    rcases Nat.lt_trichotomy j i with hlt | heq | hgt
    · have hnot := hfirst j hlt
      rw [hb] at hnot
      cases hnot
    · exact heq
    · exact absurd hb (h i j hi hlen hgt ha)
  · rintro ⟨i, hi, ha, honly⟩
    obtain ⟨hlen, rfl⟩ := List.getElem?_eq_some_iff.mp hi
    refine ⟨ha, i, hlen, rfl, fun j hj ↦ ?_⟩
    have hne : ¬ p as[j] = true := fun hb ↦
      absurd (honly j _ (List.getElem?_eq_getElem (hj.trans hlen)) hb) hj.ne
    simpa using hne

/-- A search finds what there is at the first position that has anything to find. -/
theorem findSome?_eq_some_iff_getElem? {α β : Type} {as : List α} {f : α → Option β} {x : β} :
    as.findSome? f = some x ↔ ∃ (i : Nat) (a : α), as[i]? = some a ∧ f a = some x ∧
      ∀ j < i, ∀ b, as[j]? = some b → f b = none := by
  rw [List.findSome?_eq_some_iff]
  constructor
  · rintro ⟨front, a, back, rfl, ha, hfront⟩
    refine ⟨front.length, a, by simp, ha, fun j hj b hb ↦ hfront b ?_⟩
    rw [List.getElem?_append_left hj] at hb
    exact List.mem_of_getElem? hb
  · rintro ⟨i, a, hi, ha, hfirst⟩
    obtain ⟨hlen, rfl⟩ := List.getElem?_eq_some_iff.mp hi
    refine ⟨as.take i, as[i], as.drop (i + 1), by simp, ha, fun b hb ↦ ?_⟩
    obtain ⟨j, hj, rfl⟩ := List.mem_take_iff_getElem.mp hb
    obtain ⟨hji, hjlen⟩ := lt_min_iff.mp hj
    exact hfirst j hji _ (List.getElem?_eq_getElem hjlen)

namespace Query

/-! ## Faults -/

/-- The filter that a facet excludes, if any, is one of the query. -/
def Resolves (q : Query) (f : Facet) : Prop :=
  ∀ k ∈ f.excludeFilter, ∃ g ∈ q.filters, g.key = some k

/-- All exclusions refer to filters of the query and all numbers are finite. -/
def Sound (q : Query) : Prop :=
  (∀ f ∈ q.facets, q.Resolves f) ∧ ∀ s, ∀ n ∈ q.numberAt? s, n.2.isFinite = true

/-- What is reported of a query that is not sound: the first exclusion that refers to nothing, and
only if there is none, the first number that is not finite. -/
inductive Refused (q : Query) : Violation → Prop
  | exclusion {i : Nat} {f : Facet} {k : String} (facet : q.facets[i]? = some f)
      (excludes : f.excludeFilter = some k) (unknown : ∀ g ∈ q.filters, g.key ≠ some k)
      (first : ∀ j < i, ∀ g, q.facets[j]? = some g → q.Resolves g) :
      Refused q (.unknownExcludeFilter f.key k)
  | number {s : Site} {name : String} {x : Float} (resolved : ∀ f ∈ q.facets, q.Resolves f)
      (site : q.numberAt? s = some (name, x)) (not_finite : x.isFinite = false)
      (first : ∀ t, t.rank < s.rank → ∀ n ∈ q.numberAt? t, n.2.isFinite = true) :
      Refused q (.nonFiniteNumber name)

namespace Builder

variable {b : Builder}

/-- What is wrong with the exclusion of a facet, if only the given keys can be excluded. -/
private def fault? (keys : List String) (f : Facet) : Option (String × String) :=
  match f.excludeFilter with
  | some k => if k ∈ keys then none else some (f.key, k)
  | none => none

private theorem fault?_eq_none_iff {keys : List String} {f : Facet} :
    fault? keys f = none ↔ ∀ k ∈ f.excludeFilter, k ∈ keys := by
  rw [fault?]
  cases f.excludeFilter <;> simp

private theorem fault?_eq_some_iff {keys : List String} {f : Facet} {facetKey k : String} :
    fault? keys f = some (facetKey, k) ↔
      f.key = facetKey ∧ f.excludeFilter = some k ∧ k ∉ keys := by
  rw [fault?]
  cases f.excludeFilter with
  | none => simp
  | some l =>
    by_cases hl : l ∈ keys
    · simp only [hl, if_true, reduceCtorEq, Option.some.injEq, false_iff, not_and, not_not]
      rintro - rfl
      exact hl
    · simp only [hl, if_false, Option.some.injEq, Prod.mk.injEq]
      refine and_congr_right fun _ ↦ (and_iff_left_of_imp ?_).symm
      rintro rfl
      exact hl

/-- The exclusion that is reported is the one of the first facet that has none of the keys. -/
theorem danglingExclusion?_eq_some_iff {facetKey k : String} :
    b.danglingExclusion? = some (facetKey, k) ↔
      ∃ (i : Nat) (f : Facet), b.draft.facets[i]? = some f ∧
        (f.key = facetKey ∧ f.excludeFilter = some k ∧ k ∉ b.filterKeys) ∧
        ∀ j < i, ∀ g, b.draft.facets[j]? = some g → ∀ l ∈ g.excludeFilter, l ∈ b.filterKeys := by
  have hscan : b.danglingExclusion? = b.draft.facets.findSome? (fault? b.filterKeys) := rfl
  simp only [hscan, findSome?_eq_some_iff_getElem?, fault?_eq_some_iff, fault?_eq_none_iff]

theorem resolves_iff (hb : b.InStep) (f : Facet) :
    b.draft.Resolves f ↔ ∀ k ∈ f.excludeFilter, k ∈ b.filterKeys := by
  simp only [Resolves, hb.mem_filterKeys_iff]

theorem build_eq_ok_iff_sound (hb : b.InStep) {q : Query} :
    b.build = .ok q ↔ b.draft.Sound ∧ q = b.draft := by
  have hnumbers : (∀ n ∈ b.draft.numbers, n.2.isFinite = true) ↔
      ∀ s, ∀ n ∈ b.draft.numberAt? s, n.2.isFinite = true := by
    simp only [numbers_eq, List.mem_filterMap]
    constructor
    · exact fun h s n hn ↦ h n ⟨s, mem_sites hn, hn⟩
    · exact fun h n ⟨s, _, hn⟩ ↦ h s n hn
  rw [build_eq_ok_iff, hnumbers, Sound, and_assoc, eq_comm (a := q)]
  simp only [resolves_iff hb]

theorem build_eq_error_iff (hb : b.InStep) {v : Violation} :
    b.build = .error v ↔ b.draft.Refused v := by
  have hunknown (k : String) : k ∉ b.filterKeys ↔ ∀ g ∈ b.draft.filters, g.key ≠ some k := by
    simp only [hb.mem_filterKeys_iff, not_exists, not_and, ne_eq]
  constructor
  · intro h
    rw [build] at h
    -- numbers are looked at only where every exclusion resolves
    cases hdangling : b.danglingExclusion? with
    | some fk =>
      obtain ⟨facetKey, k⟩ := fk
      obtain ⟨i, f, hf, ⟨rfl, hexcludes, hk⟩, hfirst⟩ :=
        danglingExclusion?_eq_some_iff.mp hdangling
      rw [hdangling] at h
      cases h
      exact .exclusion hf hexcludes ((hunknown k).mp hk) fun j hj g hg ↦
        (resolves_iff hb g).mpr (hfirst j hj g hg)
    | none =>
      have hresolved := danglingExclusion?_eq_none_iff.mp hdangling
      rw [hdangling] at h
      cases hfind : b.draft.numbers.find? fun n ↦ !n.2.isFinite with
      | some n =>
        obtain ⟨name, x⟩ := n
        obtain ⟨s, hs, hx, hfirst⟩ := find?_numbers_eq_some_iff.mp hfind
        simp only [hfind, Except.error.injEq] at h
        subst h
        exact .number (fun f hf ↦ (resolves_iff hb f).mpr (hresolved f hf)) hs hx hfirst
      | none =>
        simp only [hfind, reduceCtorEq] at h
  · rintro (@⟨i, f, k, hf, hexcludes, hk, hfirst⟩ | @⟨s, name, x, hresolved, hs, hx, hfirst⟩)
    · have hdangling : b.danglingExclusion? = some (f.key, k) :=
        danglingExclusion?_eq_some_iff.mpr ⟨i, f, hf, ⟨rfl, hexcludes, (hunknown k).mpr hk⟩,
          fun j hj g hg ↦ (resolves_iff hb g).mp (hfirst j hj g hg)⟩
      rw [build, hdangling]
    · have hdangling : b.danglingExclusion? = none :=
        danglingExclusion?_eq_none_iff.mpr fun f hf ↦ (resolves_iff hb f).mp (hresolved f hf)
      have hfind : b.draft.numbers.find? (fun n ↦ !n.2.isFinite) = some (name, x) :=
        find?_numbers_eq_some_iff.mpr ⟨s, hs, hx, hfirst⟩
      simp only [build, hdangling, hfind]

/-! ## What was accepted -/

/-- The edits of a sequence that are accepted, each by the state that those before it lead to. -/
def accepted (b : Builder) : List Edit → List Edit
  | [] => []
  | e :: es =>
    match b.apply e with
    | .ok b' => e :: b'.accepted es
    | .error _ => b.accepted es

end Builder

namespace Edit

/-- The filters that an edit brings. -/
@[simp] def filters : Edit → List Filter
  | filter fs => fs
  | _ => []

/-- The facets that an edit brings. -/
@[simp] def facets : Edit → List Facet
  | facet fs => fs
  | _ => []

/-- The criteria that an edit brings. -/
@[simp] def criteria : Edit → List SortCriterion
  | sort cs => cs
  | _ => []

end Edit

namespace Builder

/-- The lists of a draft are those of another with more behind them, as some edits bring it. -/
structure Extends (q q' : Query) (es : List Edit) : Prop where
  filters : q'.filters = q.filters ++ es.flatMap Edit.filters
  facets : q'.facets = q.facets ++ es.flatMap Edit.facets
  sort : q'.sort = q.sort ++ es.flatMap Edit.criteria

/-- An accepted edit puts what it brings behind what there is. -/
theorem extends_apply {b b' : Builder} {e : Edit} (h : b.apply e = .ok b') :
    Extends b.draft b'.draft [e] := by
  cases e with
  | offset n =>
    obtain ⟨-, rfl⟩ := setOffset_eq_ok_iff.mp h
    constructor <;> simp
  | limit n =>
    obtain ⟨-, rfl⟩ := setLimit_eq_ok_iff.mp h
    constructor <;> simp
  | filter fs =>
    obtain ⟨-, rfl⟩ := addFilters_eq_ok_iff.mp h
    constructor <;> simp
  | facet fs =>
    obtain ⟨-, rfl⟩ := addFacets_eq_ok_iff.mp h
    constructor <;> simp
  | _ =>
    cases h
    constructor <;> simp

theorem Extends.cons {q q' q'' : Query} {es : List Edit} (h : Extends q q' [e])
    (h' : Extends q' q'' es) : Extends q q'' (e :: es) := by
  constructor
  · rw [h'.filters, h.filters, List.append_assoc, ← List.flatMap_append]
    rfl
  · rw [h'.facets, h.facets, List.append_assoc, ← List.flatMap_append]
    rfl
  · rw [h'.sort, h.sort, List.append_assoc, ← List.flatMap_append]
    rfl

/-- A run puts what its accepted edits bring behind what there is, in their order. -/
theorem extends_run (b : Builder) (es : List Edit) :
    Extends b.draft (b.run es).draft (b.accepted es) := by
  induction es generalizing b with
  | nil => constructor <;> simp [run, accepted]
  | cons e es ih =>
    have hrun : b.run (e :: es) = (b.attempt e).run es := rfl
    rw [hrun, attempt, accepted]
    cases h : b.apply e with
    | ok b' => exact (extends_apply h).cons (ih b')
    | error v => exact ih b

end Builder

/-! ## Members of a draft by their keys -/

theorem filter?_eq_some_iff {q : Query} (h : q.filters.Pairwise fun f g ↦ ∀ k ∈ f.key, k ∉ g.key)
    {k : String} {f : Filter} :
    q.filter? k = some f ↔ IsOnly q.filters (fun f ↦ f.key = some k) f := by
  rw [filter?, find?_eq_some_iff_isOnly]
  · simp only [beq_iff_eq]
  · refine h.imp fun hkeys hf hg ↦ ?_
    rw [beq_iff_eq] at hf hg
    exact hkeys k hf hg

theorem facet?_eq_some_iff {q : Query} (h : q.facets.Pairwise fun f g ↦ f.key ≠ g.key)
    {k : String} {f : Facet} :
    q.facet? k = some f ↔ IsOnly q.facets (fun f ↦ f.key = k) f := by
  rw [facet?, find?_eq_some_iff_isOnly]
  · simp only [beq_iff_eq]
  · refine h.imp fun hkeys hf hg ↦ ?_
    rw [beq_iff_eq] at hf hg
    exact hkeys (hf.trans hg.symm)

end Query

namespace SelectQuery

/-! ## Queries of a named index -/

namespace Edit

/-- The name that an edit sets. -/
def index? : Edit → Option String
  | index name => some name
  | query _ => none

/-- The change to the rest of the query. -/
def query? : Edit → Option Query.Edit
  | index _ => none
  | query e => some e

end Edit

/-- No index was named, or the name that was given last is empty. -/
def Unnamed (es : List Edit) : Prop := ∀ name ∈ (es.filterMap Edit.index?).getLast?, name = ""

namespace Builder

theorem run_cons (b : Builder) (e : Edit) (es : List Edit) :
    b.run (e :: es) = (b.attempt e).run es := rfl

/-- The index is the one that was named last. -/
theorem index_run (b : Builder) (es : List Edit) :
    (b.run es).index = (es.filterMap Edit.index?).getLast?.or b.index := by
  induction es generalizing b with
  | nil => rfl
  | cons e es ih =>
    rw [run_cons, ih]
    cases e with
    | index name =>
      have hnames : (Edit.index name :: es).filterMap Edit.index? =
          name :: es.filterMap Edit.index? := rfl
      have hindex : (b.attempt (.index name)).index = some name := rfl
      rw [hnames, hindex, List.getLast?_cons]
      cases (es.filterMap Edit.index?).getLast? <;> rfl
    | query e =>
      have hindex : (b.attempt (.query e)).index = b.index := by
        rw [attempt, apply]
        cases b.query.apply e <;> rfl
      rw [hindex]
      rfl

/-- The rest of the query is edited as if there were no index. -/
theorem query_run (b : Builder) (es : List Edit) :
    (b.run es).query = b.query.run (es.filterMap Edit.query?) := by
  induction es generalizing b with
  | nil => rfl
  | cons e es ih =>
    rw [run_cons, ih]
    cases e with
    | index name => rfl
    | query e =>
      have hquery : (b.attempt (.query e)).query = b.query.attempt e := by
        rw [attempt, apply, Query.Builder.attempt]
        cases b.query.apply e <;> rfl
      rw [hquery]
      rfl

variable {b : Builder} {name : String}

/-- The builder has no index, or one without a name. -/
def Unnamed (b : Builder) : Prop := ∀ name ∈ b.index, name = ""

theorem build_of_unnamed (h : b.Unnamed) : b.build = .error .missingIndex := by
  have hfilter : b.index.filter (fun name ↦ !name.isEmpty) = none := by
    rw [Option.filter_eq_none_iff]
    intro name hname
    simp [h name hname]
  rw [build, hfilter]

theorem build_of_index (hindex : b.index = some name) (hname : name ≠ "") :
    b.build = b.query.build.map fun query ↦ { index := name, query } := by
  have hfilter : b.index.filter (fun name ↦ !name.isEmpty) = some name := by
    simp [hindex, hname]
  rw [build, hfilter]

theorem build_outcome (hb : b.query.InStep) :
    (b.build = .error .missingIndex ↔ b.Unnamed) ∧
      (∀ v, b.build = .error v ↔
        b.Unnamed ∧ v = .missingIndex ∨ ¬ b.Unnamed ∧ b.query.build = .error v) ∧
      ∀ q, b.build = .ok q ↔
        ¬ b.Unnamed ∧ b.index = some q.index ∧ b.query.build = .ok q.query := by
  -- a query by itself is never refused for want of an index
  have hquery : b.query.build ≠ .error .missingIndex := by
    rw [ne_eq, Query.Builder.build_eq_error_iff hb]
    rintro ⟨⟩
  by_cases hb : b.Unnamed
  · rw [build_of_unnamed hb]
    simp [hb, eq_comm]
  · have hnamed := hb
    simp only [Unnamed, not_forall] at hnamed
    obtain ⟨name, hindex, hname⟩ := hnamed
    rw [build_of_index hindex hname, Option.mem_def.mp hindex]
    cases h : b.query.build with
    | error v =>
      rw [h] at hquery
      simpa [Except.map, hb] using hquery
    | ok query =>
      simp only [Except.map, hb, reduceCtorEq, not_false_eq_true, Except.ok.injEq,
        Option.some.injEq, true_and, false_and, and_false, or_false, implies_true]
      rintro ⟨index, query'⟩
      rw [SelectQuery.mk.injEq]

end Builder

theorem outcome_run (d : Query.Defaults) (es : List Edit) :
    let inner := (Query.Builder.new d).run (es.filterMap Edit.query?)
    let outcome := ((Builder.new d).run es).build
    (outcome = .error .missingIndex ↔ Unnamed es) ∧
      (∀ v, outcome = .error v ↔
        Unnamed es ∧ v = .missingIndex ∨ ¬ Unnamed es ∧ inner.build = .error v) ∧
      ∀ q, outcome = .ok q ↔ ¬ Unnamed es ∧
        (es.filterMap Edit.index?).getLast? = some q.index ∧ inner.build = .ok q.query := by
  intro inner outcome
  have hindex : ((Builder.new d).run es).index = (es.filterMap Edit.index?).getLast? :=
    (Builder.index_run (.new d) es).trans Option.or_none
  have hquery : ((Builder.new d).run es).query = inner := Builder.query_run (.new d) es
  have hinner : inner.InStep := ((Query.Builder.consistent_new d).run _).inStep
  have houtcome := Builder.build_outcome (hquery ▸ hinner)
  rwa [Builder.Unnamed, hindex, hquery] at houtcome

end SelectQuery

/-- **What building decides.** Whatever edits were made, the lists of a draft are those of the
accepted edits, in their order. The draft itself is what is built, exactly if it is sound; otherwise
it is refused for its first fault. A filter or a facet is found by a key exactly if it is the only
one with that key. A query of a named index is refused for want of an index exactly if none was
named last, whatever the rest is like; otherwise its outcome is that of the rest. -/
theorem building_decided (d : Query.Defaults) (es : List Query.Edit) (ss : List SelectQuery.Edit) :
    let b := (Query.Builder.new d).run es
    let accepted := (Query.Builder.new d).accepted es
    let s := (SelectQuery.Builder.new d).run ss
    let inner := (Query.Builder.new d).run (ss.filterMap SelectQuery.Edit.query?)
    (b.draft.filters = accepted.flatMap Query.Edit.filters ∧
      b.draft.facets = accepted.flatMap Query.Edit.facets ∧
      b.draft.sort = accepted.flatMap Query.Edit.criteria) ∧
    (∀ q, b.build = .ok q ↔ b.draft.Sound ∧ q = b.draft) ∧
    (∀ v, b.build = .error v ↔ b.draft.Refused v) ∧
    (∀ k f, b.draft.filter? k = some f ↔ IsOnly b.draft.filters (fun f ↦ f.key = some k) f) ∧
    (∀ k f, b.draft.facet? k = some f ↔ IsOnly b.draft.facets (fun f ↦ f.key = k) f) ∧
    (s.build = .error .missingIndex ↔ SelectQuery.Unnamed ss) ∧
    (∀ v, s.build = .error v ↔
      SelectQuery.Unnamed ss ∧ v = .missingIndex ∨
      ¬ SelectQuery.Unnamed ss ∧ inner.build = .error v) ∧
    ∀ q, s.build = .ok q ↔
      ¬ SelectQuery.Unnamed ss ∧ (ss.filterMap SelectQuery.Edit.index?).getLast? = some q.index ∧
        inner.build = .ok q.query := by
  intro b accepted s inner
  have hb : b.InStep := ((Query.Builder.consistent_new d).run es).inStep
  have hextends := Query.Builder.extends_run (Query.Builder.new d) es
  refine ⟨⟨hextends.filters, hextends.facets, hextends.sort⟩,
    fun q ↦ Query.Builder.build_eq_ok_iff_sound hb, fun v ↦ Query.Builder.build_eq_error_iff hb,
    fun k f ↦ Query.filter?_eq_some_iff hb.filters_pairwise,
    fun k f ↦ Query.facet?_eq_some_iff hb.facets_pairwise, SelectQuery.outcome_run d ss⟩

end FacetedSearch
