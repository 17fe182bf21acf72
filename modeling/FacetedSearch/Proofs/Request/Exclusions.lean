import FacetedSearch.Proofs.Query.Builder
import FacetedSearch.Proofs.Request.Sections

/-!
# Exclusions of a request

A count may name a filter to be ignored, and the backend looks that filter up among the tags of the
filters. A name that no filter has is not an error there; the count is merely wrong. Building a
query therefore checks the exclusion of every facet. The check does not reach into groups: a query
of a group may have an exclusion of its own, which takes the place of the checked one.

`Query.exclusions_resolve_iff` says that this is the only gap. Exclusions and tags are taken from
the finished request as the backend reads it, so escaping is part of the statement.
-/

namespace FacetedSearch

open LocalParams (valuesIn)

/-- The keys of the filters that the counts of a request ask to ignore. -/
def Request.exclusions (r : Request) : List String := r.counts.flatMap fun p ↦ valuesIn "ex" p.2

/-- The tags of the parameters that were written for keyed filters. -/
def Query.tags (q : Query) (r : Request) : List String :=
  (q.filters.zip (r.values "fq")).flatMap fun fp ↦
    if fp.1.key.isSome then valuesIn "tag" fp.2 else []

namespace Query

variable {q : Query} {b : Backend} {index : String} {r : Request}

/-! ## Tags -/

theorem tag_filterParam {f : Filter} {p : Facet.Param} {k : String} (h : filterParam f = .ok p)
    (hk : f.key = some k) : valuesIn "tag" p.2 = [k] := by
  obtain ⟨text, -, hp⟩ := bind_eq_ok_iff.mp h
  rw [hk] at hp
  cases hp
  have hread : (LocalParams.add {} "tag" k).Readable :=
    LocalParams.readable_empty.add (by decide) k
  have hvalues : (LocalParams.add {} "tag" k).values "tag" = [k] := by simp
  have hparts := LocalParams.parts_ne_nil_of_values (hvalues ▸ List.mem_singleton_self k)
  exact (LocalParams.valuesIn_wrap hread hparts "tag" text).trans hvalues

theorem flatMap_zip_tags {fs : List Filter} {ps : List Facet.Param} (archive : List String)
    (h : List.Forall₂ (fun f p ↦ filterParam f = .ok p) fs ps) :
    ((fs.zip (ps.map Prod.snd ++ archive)).flatMap fun fp ↦
      if fp.1.key.isSome then valuesIn "tag" fp.2 else []) = fs.filterMap Filter.key := by
  induction h with
  | nil => rfl
  | @cons f p fs ps hp _ ih =>
    rw [List.map_cons, List.cons_append, List.zip_cons_cons, List.flatMap_cons, ih,
      List.filterMap_cons]
    cases hk : f.key with
    | none => rfl
    | some k =>
      rw [Option.isSome_some, if_pos rfl, tag_filterParam hp hk]
      rfl

/-- The tags of a request are the keys of the filters. -/
theorem tags_of_requestFor (h : q.requestFor index b = .ok r) : q.tags r = q.filterKeys := by
  obtain ⟨filters, hvalues, hfilters⟩ := values_fq_of_requestFor h
  rw [tags, hvalues, flatMap_zip_tags _ hfilters, filterKeys]

/-! ## Exclusions -/

theorem flatMap_valuesIn_ex {cs : List (String × Option String)} {ps : List Facet.Param}
    (h : List.Forall₂ Facet.Counts cs ps) :
    (ps.flatMap fun p ↦ valuesIn "ex" p.2) = cs.flatMap fun c ↦ c.2.toList := by
  induction h with
  | nil => rfl
  | cons hp _ ih => rw [List.flatMap_cons, List.flatMap_cons, hp.exclusion, ih]

theorem forall_mem_exclusions (h : q.requestFor index b = .ok r) {p : String → Prop} :
    (∀ k ∈ r.exclusions, p k) ↔ ∀ f ∈ q.facets, ∀ c ∈ f.counts, ∀ k ∈ c.2, p k := by
  rw [Request.exclusions, flatMap_valuesIn_ex (counts_of_requestFor h)]
  simp only [List.forall_mem_flatMap, Option.mem_toList, Option.mem_def]

/-- Where the exclusion of a facet is among the keys, only a group can have a count whose exclusion
is not, and only through a query with an exclusion of its own. -/
theorem forall_counts_iff {f : Facet} {keys : List String}
    (hf : ∀ k ∈ f.excludeFilter, k ∈ keys) :
    (∀ c ∈ f.counts, ∀ k ∈ c.2, k ∈ keys) ↔
      ∀ g, f.measure = .queryGroup g → ∀ s ∈ g.queries, ∀ k ∈ s.excludeFilter, k ∈ keys := by
  obtain ⟨key, measure, excludeFilter⟩ := f
  cases measure with
  | queryGroup g =>
    constructor
    · rintro h g ⟨⟩ s hs k hk
      refine h _ (List.mem_map_of_mem hs) k ?_
      rw [Option.mem_def.mp hk]
      rfl
    · intro h c hc k hk
      obtain ⟨s, hs, rfl⟩ := List.mem_map.mp hc
      -- the exclusion of the group stands in for a query that has none of its own
      cases hsub : s.excludeFilter with
      | none =>
        rw [hsub] at hk
        exact hf k hk
      | some l =>
        rw [hsub] at hk
        cases hk
        exact h g rfl s hs k hsub
  | _ =>
    constructor
    · rintro _ g ⟨⟩
    · intro _ c hc k hk
      obtain rfl := List.mem_singleton.mp hc
      exact hf k hk

/-- A key that a filter has is the key of one filter only, and the tag of one parameter only. -/
theorem resolves_iff (hq : q.WellFormed) (h : q.requestFor index b = .ok r) (k : String) :
    (q.filters.countP (fun f ↦ f.key == some k) = 1 ∧ (q.tags r).count k = 1) ↔
      k ∈ q.filterKeys := by
  have hcount : q.filters.countP (fun f ↦ f.key == some k) = q.filterKeys.count k :=
    List.count_filterMap.symm
  rw [tags_of_requestFor h, hcount, and_self, hq.filterKeys_nodup.count]
  split
  · next hk => exact iff_of_true rfl hk
  · next hk => exact iff_of_false Nat.zero_ne_one hk

/-- **Exclusions resolve, except out of groups.** In the request for a built query, every filter
that a count ignores is exactly one filter of the query and carries exactly one tag, if and only if
the queries of groups that have exclusions of their own name filters of the query. -/
theorem exclusions_resolve_iff {d : Defaults} {es : List Edit}
    (hbuild : ((Builder.new d).run es).build = .ok q) (hrender : q.requestFor index b = .ok r) :
    (∀ k ∈ r.exclusions,
      q.filters.countP (fun f ↦ f.key == some k) = 1 ∧ (q.tags r).count k = 1) ↔
    ∀ f ∈ q.facets, ∀ g, f.measure = .queryGroup g →
      ∀ s ∈ g.queries, ∀ k ∈ s.excludeFilter, ∃ f ∈ q.filters, f.key = some k := by
  have hq := Builder.wellFormed_of_run hbuild
  have hmem (k : String) : k ∈ q.filterKeys ↔ ∃ f ∈ q.filters, f.key = some k := List.mem_filterMap
  simp only [resolves_iff hq hrender, forall_mem_exclusions hrender, ← hmem]
  exact forall₂_congr fun f hf ↦ forall_counts_iff (hq.exclusions f hf)

/-- A query of a group that ignores a filter which is not there is built and rendered. -/
theorem exists_dangling_exclusion :
    let sub : QueryCount := { key := "dogs", query := "a:b", excludeFilter := some "nope" }
    let f : Facet := { key := "types", measure := .queryGroup ⟨[sub], List.cons_ne_nil _ _⟩ }
    ∃ q r, ((Builder.new {}).run [.facet [f]]).build = .ok q ∧ q.request {} = .ok r ∧
      ¬ ∀ k ∈ r.exclusions,
        q.filters.countP (fun f ↦ f.key == some k) = 1 ∧ (q.tags r).count k = 1 := by
  intro sub f
  refine ⟨_, _, rfl, rfl, fun h ↦ ?_⟩
  have hresolve := (@exclusions_resolve_iff _ {} _ _ {} [.facet [f]] rfl rfl).mp h
  obtain ⟨g, hg, -⟩ := hresolve f List.mem_cons_self _ rfl sub List.mem_cons_self "nope" rfl
  cases hg

end Query

end FacetedSearch
