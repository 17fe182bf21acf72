import FacetedSearch.Proofs.Query.Builder
import FacetedSearch.Proofs.Request.Sections

/-!
# Keys of counts

The response reports every count under the key that its parameter names, and that key is all there
is to tell one count from another. Keys of facets are checked when facets are added to a query, but
a group does not report anything under its own key. In its place stand the keys of its queries, and
these are not looked at: not against each other, not against the queries of another group, and not
against the facets that are reported under their own key.

`Query.countKeys_nodup_iff` says that this is the only way for two counts to share a key. The keys
are taken from the finished request as the backend reads it. They appear there facet by facet, in
groups and single keys by turns, while the rule treats the two kinds apart; `Facet.counts_perm`
reorders them.
-/

namespace FacetedSearch

open LocalParams (valuesIn)

/-- The keys under which the counts of a request are reported, in order. -/
def Request.countKeys (r : Request) : List String := r.counts.flatMap fun p ↦ valuesIn "key" p.2

namespace Facet

/-- Whether the facet is a group of queries. -/
def isGroup (f : Facet) : Bool :=
  match f.measure with
  | .queryGroup _ => true
  | _ => false

/-- The keys of the queries of a group. -/
def queryKeys (f : Facet) : List String :=
  match f.measure with
  | .queryGroup g => g.queries.map QueryCount.key
  | _ => []

/-- A group is counted under the keys of its queries, any other facet under its own. -/
theorem map_fst_counts (f : Facet) :
    f.counts.map Prod.fst = if f.isGroup then f.queryKeys else [f.key] := by
  obtain ⟨key, measure, excludeFilter⟩ := f
  cases measure with
  | queryGroup g =>
    rw [counts, List.map_map]
    rfl
  | _ => rfl

theorem queryKeys_of_not_isGroup {f : Facet} (h : f.isGroup = false) : f.queryKeys = [] := by
  obtain ⟨key, measure, excludeFilter⟩ := f
  cases measure with
  | queryGroup g => cases h
  | _ => rfl

/-- The keys of all counts are those of the single facets and those of the queries of groups. -/
theorem counts_perm (fs : List Facet) : ((fs.flatMap counts).map Prod.fst).Perm
    ((fs.filter fun f ↦ !f.isGroup).map key ++ fs.flatMap queryKeys) := by
  induction fs with
  | nil => exact .refl _
  | cons f fs ih =>
    rw [List.flatMap_cons, List.map_append, map_fst_counts, List.flatMap_cons]
    cases hf : f.isGroup with
    | true =>
      -- the queries of the group move behind the single facets that follow it
      rw [if_pos rfl, List.filter_cons_of_neg (by simp [hf])]
      exact (ih.append_left f.queryKeys).trans (List.perm_append_comm_assoc _ _ _)
    | false =>
      rw [if_neg Bool.false_ne_true, List.filter_cons_of_pos (by simp [hf]),
        queryKeys_of_not_isGroup hf, List.nil_append]
      exact ih.cons f.key

theorem flatMap_valuesIn_key {cs : List (String × Option String)} {ps : List Param}
    (h : List.Forall₂ Counts cs ps) :
    (ps.flatMap fun p ↦ valuesIn "key" p.2) = cs.map Prod.fst := by
  induction h with
  | nil => rfl
  | cons hp _ ih => rw [List.flatMap_cons, List.map_cons, hp.key, ih, List.singleton_append]

end Facet

namespace Query

variable {q : Query} {b : Backend} {index : String} {r : Request}

/-- **Counts have keys of their own, except in groups.** In the request for a built query no two
counts are reported under the same key, if and only if the queries of all groups have different keys
and none of them has the key of a facet that is no group. -/
theorem countKeys_nodup_iff {d : Defaults} {es : List Edit}
    (hbuild : ((Builder.new d).run es).build = .ok q) (hrender : q.requestFor index b = .ok r) :
    r.countKeys.Nodup ↔ (q.facets.flatMap Facet.queryKeys).Nodup ∧
      ∀ f ∈ q.facets, f.isGroup = false → f.key ∉ q.facets.flatMap Facet.queryKeys := by
  have hsingle : ((q.facets.filter fun f ↦ !f.isGroup).map Facet.key).Nodup :=
    (Builder.wellFormed_of_run hbuild).facetKeys_nodup.sublist (List.filter_sublist.map Facet.key)
  rw [Request.countKeys, Facet.flatMap_valuesIn_key (counts_of_requestFor hrender),
    (Facet.counts_perm q.facets).nodup_iff, List.nodup_append]
  constructor
  · rintro ⟨-, hqueries, hdisjoint⟩
    refine ⟨hqueries, fun f hf hgroup hkey ↦ ?_⟩
    have hmem : f ∈ q.facets.filter fun f ↦ !f.isGroup :=
      List.mem_filter.mpr ⟨hf, by rw [hgroup, Bool.not_false]⟩
    exact hdisjoint f.key (List.mem_map_of_mem hmem) f.key hkey rfl
  · rintro ⟨hqueries, hdisjoint⟩
    refine ⟨hsingle, hqueries, fun k hk l hl hkl ↦ ?_⟩
    obtain ⟨f, hf, rfl⟩ := List.mem_map.mp hk
    obtain ⟨hmem, hgroup⟩ := List.mem_filter.mp hf
    exact hdisjoint f hmem (by simpa using hgroup) (hkl ▸ hl)

/-- Two queries of one group are built and rendered under the same key. -/
theorem exists_shared_countKey :
    let cats : QueryCount := { key := "pets", query := "kind:cat" }
    let dogs : QueryCount := { key := "pets", query := "kind:dog" }
    let f : Facet := { key := "types", measure := .queryGroup ⟨[cats, dogs], List.cons_ne_nil _ _⟩ }
    ∃ q r, ((Builder.new {}).run [.facet [f]]).build = .ok q ∧ q.request {} = .ok r ∧
      ¬ r.countKeys.Nodup := by
  intro cats dogs f
  refine ⟨_, _, rfl, rfl, fun h ↦ ?_⟩
  have hkeys := ((@countKeys_nodup_iff _ {} _ _ {} [.facet [f]] rfl rfl).mp h).1
  exact absurd hkeys (by decide)

end Query

end FacetedSearch
