import FacetedSearch.Query.Builder
import Mathlib.Tactic

/-!
# What builders guarantee

A builder repeats the keys of its draft in two lists of its own. `Builder.Consistent` says that the
lists are right, that no key occurs in them twice, and that the number of results to skip fits into
a signed word. A fresh builder is consistent and every edit keeps it so, whether it is accepted or
refused; hence every state that a sequence of edits leads to is consistent.

`Query.WellFormed` is what this means for the query in the end, together with the two judgments of
`Builder.build`. All that later modules know of a built query is that it is well-formed.
-/

namespace FacetedSearch

namespace Query

/-! ## Clashes -/

theorem firstClash_eq_none_iff {used ks : List String} :
    firstClash used ks = none ↔ ks.Nodup ∧ ∀ k ∈ ks, k ∉ used := by
  induction ks generalizing used with
  | nil => simp [firstClash]
  | cons k ks ih =>
    rw [firstClash]
    split
    · next h => simp [h]
    · next h =>
      rw [ih, List.nodup_cons, List.forall_mem_cons]
      constructor
      · rintro ⟨hks, hnew⟩
        have hk : k ∉ ks := fun hmem ↦ hnew k hmem List.mem_cons_self
        exact ⟨⟨hk, hks⟩, h, fun l hl hused ↦ hnew l hl (List.mem_cons_of_mem k hused)⟩
      · rintro ⟨⟨hk, hks⟩, -, hnew⟩
        refine ⟨hks, fun l hl hused ↦ ?_⟩
        rcases List.mem_cons.mp hused with rfl | hused
        · exact hk hl
        · exact hnew l hl hused

theorem nodup_append_of_firstClash {used ks : List String} (hused : used.Nodup)
    (h : firstClash used ks = none) : (used ++ ks).Nodup := by
  obtain ⟨hks, hnew⟩ := firstClash_eq_none_iff.mp h
  exact List.nodup_append.mpr ⟨hused, hks, fun k hk l hl hkl ↦ hnew l hl (hkl ▸ hk)⟩

/-! ## The invariant -/

/-- The keys of the filters of a query. -/
def filterKeys (q : Query) : List String := q.filters.filterMap Filter.key

/-- The keys of the facets of a query. -/
def facetKeys (q : Query) : List String := q.facets.map Facet.key

namespace Builder

/-- The keys in use are those of the draft and all different, and the offset is a signed number. -/
structure Consistent (b : Builder) : Prop where
  filterKeys_eq : b.filterKeys = b.draft.filterKeys
  facetKeys_eq : b.facetKeys = b.draft.facetKeys
  filterKeys_nodup : b.filterKeys.Nodup
  facetKeys_nodup : b.facetKeys.Nodup
  offset_le : b.draft.offset.toNat ≤ 9223372036854775807

theorem consistent_new (d : Defaults) : (new d).Consistent where
  filterKeys_eq := rfl
  facetKeys_eq := rfl
  filterKeys_nodup := List.nodup_nil
  facetKeys_nodup := List.nodup_nil
  offset_le := Nat.zero_le _

theorem addFilters_eq_ok_iff {b b' : Builder} {fs : List Filter} : b.addFilters fs = .ok b' ↔
    firstClash b.filterKeys (fs.filterMap Filter.key) = none ∧
      { b with draft := { b.draft with filters := b.draft.filters ++ fs },
               filterKeys := b.filterKeys ++ fs.filterMap Filter.key } = b' := by
  rw [addFilters]
  split
  · next k h => simp [h]
  · next h => simp [h]

theorem addFacets_eq_ok_iff {b b' : Builder} {fs : List Facet} : b.addFacets fs = .ok b' ↔
    firstClash b.facetKeys (fs.map Facet.key) = none ∧
      { b with draft := { b.draft with facets := b.draft.facets ++ fs },
               facetKeys := b.facetKeys ++ fs.map Facet.key } = b' := by
  rw [addFacets]
  split
  · next k h => simp [h]
  · next h => simp [h]

theorem setOffset_eq_ok_iff {b b' : Builder} {n : Int64} : b.setOffset n = .ok b' ↔
    ¬ n < 0 ∧ { b with draft := { b.draft with offset := n.toUInt64 } } = b' := by
  rw [setOffset]
  split
  · next h => simp [h]
  · next h => simp [h]

theorem setLimit_eq_ok_iff {b b' : Builder} {n : Int64} : b.setLimit n = .ok b' ↔
    ¬ n < 0 ∧ { b with draft := { b.draft with limit := n.toUInt64 } } = b' := by
  rw [setLimit]
  split
  · next h => simp [h]
  · next h => simp [h]

theorem toNat_toUInt64_le {n : Int64} (h : ¬ n < 0) :
    n.toUInt64.toNat ≤ 9223372036854775807 := by
  rw [Int64.toNat_toUInt64_of_le (Int64.not_lt.mp h)]
  exact Nat.le_of_lt_succ n.toNatClampNeg_lt

variable {b b' : Builder} {e : Edit}

/-- **An accepted edit keeps a builder consistent.** -/
theorem Consistent.apply (hb : b.Consistent) (h : b.apply e = .ok b') : b'.Consistent := by
  cases e with
  | offset n =>
    obtain ⟨hn, rfl⟩ := setOffset_eq_ok_iff.mp h
    exact { hb with offset_le := toNat_toUInt64_le hn }
  | limit n =>
    obtain ⟨-, rfl⟩ := setLimit_eq_ok_iff.mp h
    exact { hb with }
  | filter fs =>
    obtain ⟨hnew, rfl⟩ := addFilters_eq_ok_iff.mp h
    refine { hb with filterKeys_eq := ?_, filterKeys_nodup := ?_ }
    · change b.filterKeys ++ _ = (b.draft.filters ++ fs).filterMap Filter.key
      rw [List.filterMap_append, hb.filterKeys_eq, Query.filterKeys]
    · exact nodup_append_of_firstClash hb.filterKeys_nodup hnew
  | facet fs =>
    obtain ⟨hnew, rfl⟩ := addFacets_eq_ok_iff.mp h
    refine { hb with facetKeys_eq := ?_, facetKeys_nodup := ?_ }
    · change b.facetKeys ++ _ = (b.draft.facets ++ fs).map Facet.key
      rw [List.map_append, hb.facetKeys_eq, Query.facetKeys]
    · exact nodup_append_of_firstClash hb.facetKeys_nodup hnew
  | _ =>
    -- every other edit sets a field that the invariant does not mention
    cases h
    exact { hb with }

/-- A refused edit does not change anything, so every edit keeps a builder consistent. -/
theorem Consistent.attempt (hb : b.Consistent) (e : Edit) : (b.attempt e).Consistent := by
  rw [Builder.attempt]
  cases h : b.apply e with
  | ok b' => exact hb.apply h
  | error v => exact hb

theorem Consistent.run (hb : b.Consistent) (es : List Edit) : (b.run es).Consistent := by
  induction es generalizing b with
  | nil => exact hb
  | cons e es ih => exact ih (hb.attempt e)

end Builder

/-! ## Built queries -/

/-- What is true of a query that was built. -/
structure WellFormed (q : Query) : Prop where
  filterKeys_nodup : q.filterKeys.Nodup
  facetKeys_nodup : q.facetKeys.Nodup
  /-- A facet excludes only a filter of the same query. -/
  exclusions : ∀ f ∈ q.facets, ∀ k ∈ f.excludeFilter, k ∈ q.filterKeys
  finite : ∀ n ∈ q.numbers, n.2.isFinite = true
  offset_le : q.offset.toNat ≤ 9223372036854775807

namespace Builder

variable {b : Builder} {q : Query}

theorem danglingExclusion?_eq_none_iff : b.danglingExclusion? = none ↔
    ∀ f ∈ b.draft.facets, ∀ k ∈ f.excludeFilter, k ∈ b.filterKeys := by
  rw [danglingExclusion?, List.findSome?_eq_none_iff]
  refine forall₂_congr fun f _ ↦ ?_
  cases f.excludeFilter <;> simp

theorem build_eq_ok_iff : b.build = .ok q ↔
    (∀ f ∈ b.draft.facets, ∀ k ∈ f.excludeFilter, k ∈ b.filterKeys) ∧
      (∀ n ∈ b.draft.numbers, n.2.isFinite = true) ∧ b.draft = q := by
  rw [build, ← danglingExclusion?_eq_none_iff]
  cases hdangling : b.danglingExclusion? with
  | some fk => simp
  | none =>
    cases hfind : b.draft.numbers.find? fun n ↦ !n.2.isFinite with
    | some n =>
      have hmem := List.mem_of_find?_eq_some hfind
      have hn : n.2.isFinite = false := by simpa using List.find?_some hfind
      simp only [reduceCtorEq, true_and, false_iff, not_and]
      intro hfinite
      rw [hfinite n hmem] at hn
      cases hn
    | none =>
      have hfinite : ∀ n ∈ b.draft.numbers, n.2.isFinite = true := fun n hn ↦ by
        simpa using List.find?_eq_none.mp hfind n hn
      simp only [Except.ok.injEq, true_and]
      exact (and_iff_right hfinite).symm

/-- A query that is built from a consistent state is well-formed. -/
theorem Consistent.wellFormed (hb : b.Consistent) (h : b.build = .ok q) : q.WellFormed := by
  obtain ⟨hexclusions, hfinite, rfl⟩ := build_eq_ok_iff.mp h
  constructor
  · exact hb.filterKeys_eq ▸ hb.filterKeys_nodup
  · exact hb.facetKeys_eq ▸ hb.facetKeys_nodup
  · exact hb.filterKeys_eq ▸ hexclusions
  · exact hfinite
  · exact hb.offset_le

theorem build_of_wellFormed (hq : q.WellFormed) (hdraft : b.draft = q)
    (hkeys : b.filterKeys = q.filterKeys) : b.build = .ok q := by
  subst hdraft
  exact build_eq_ok_iff.mpr ⟨hkeys ▸ hq.exclusions, hq.finite, rfl⟩

/-- Every query that a sequence of edits leads to is well-formed. -/
theorem wellFormed_of_run {d : Defaults} {es : List Edit} (h : ((new d).run es).build = .ok q) :
    q.WellFormed :=
  ((consistent_new d).run es).wellFormed h

end Builder

end Query

namespace SelectQuery.Builder

/-! ## Queries of a named index -/

variable {b : Builder} {q : SelectQuery}

theorem consistent_attempt (hb : b.query.Consistent) (e : Edit) :
    (b.attempt e).query.Consistent := by
  cases e with
  | index name => exact hb
  | query e =>
    rw [attempt, apply]
    cases h : b.query.apply e with
    | ok b' => exact hb.apply h
    | error v => exact hb

theorem consistent_run (hb : b.query.Consistent) (es : List Edit) :
    (b.run es).query.Consistent := by
  induction es generalizing b with
  | nil => exact hb
  | cons e es ih => exact ih (consistent_attempt hb e)

theorem build_eq_ok_iff : b.build = .ok q ↔
    b.index = some q.index ∧ q.index ≠ "" ∧ b.query.build = .ok q.query := by
  obtain ⟨index, query⟩ := q
  rw [build]
  cases hindex : b.index with
  | none => simp
  | some name =>
    by_cases hname : name = ""
    · subst hname
      have hfilter : (some "").filter (fun name ↦ !name.isEmpty) = none := rfl
      rw [hfilter]
      simp +contextual [← and_assoc]
    · have hfilter : (some name).filter (fun name ↦ !name.isEmpty) = some name := by simp [hname]
      rw [hfilter]
      cases b.query.build with
      | error v => simp [Except.map]
      | ok q =>
        simp only [Except.map, Except.ok.injEq, SelectQuery.mk.injEq, Option.some.injEq]
        refine and_congr_right fun heq ↦ ?_
        rw [← heq]
        exact (and_iff_right hname).symm

theorem wellFormed_of_run {d : Query.Defaults} {es : List Edit}
    (h : ((new d).run es).build = .ok q) : q.index ≠ "" ∧ q.query.WellFormed := by
  obtain ⟨-, hindex, hquery⟩ := build_eq_ok_iff.mp h
  exact ⟨hindex, (consistent_run (Query.Builder.consistent_new d) es).wellFormed hquery⟩

end SelectQuery.Builder

end FacetedSearch
