import FacetedSearch.Query.Builder
import Mathlib.Tactic

/-!
# The numbers of a query

A query may hold a tie breaker, a point from which distances are measured, and four numbers for each
facet that counts by distance. Each of them stands at a `Query.Site`, and the ranks of the sites put
the tie breaker first, then the point, then the facets one after the other.

`Query.numbers` lists the numbers that there are. The list follows the ranks of the sites
(`Query.numbers_eq`), so the first number in it with some property is the one of lowest rank.
-/

namespace FacetedSearch

section Sites

variable {α β : Type} {a : α}

/-- Of values in the order of their ranks, the first with a property is the one of lowest rank. -/
theorem find?_filterMap_eq_some_iff {rank : β → Nat} {sites : List β} {value? : β → Option α}
    {p : α → Bool} (hsites : sites.Pairwise fun s t ↦ rank s < rank t) :
    (sites.filterMap value?).find? p = some a ↔
      ∃ s ∈ sites, value? s = some a ∧ p a = true ∧
        ∀ t ∈ sites, rank t < rank s → ∀ b ∈ value? t, p b = false := by
  induction sites with
  | nil => simp
  | cons s sites ih =>
    obtain ⟨hs, hsites⟩ := List.pairwise_cons.mp hsites
    by_cases hfound : ∃ b, value? s = some b ∧ p b = true
    · -- no site comes before this one, and it comes before all others
      obtain ⟨b, hb, hpb⟩ := hfound
      rw [List.filterMap_cons_some hb, List.find?_cons_of_pos hpb, Option.some.injEq]
      constructor
      · rintro rfl
        refine ⟨s, List.mem_cons_self, hb, hpb, fun t ht hlt ↦ ?_⟩
        rcases List.mem_cons.mp ht with rfl | ht
        · exact absurd hlt (Nat.lt_irrefl _)
        · exact absurd hlt (hs t ht).asymm
      · rintro ⟨t, ht, hta, -, hfirst⟩
        rcases List.mem_cons.mp ht with rfl | ht
        · exact Option.some.inj (hb.symm.trans hta)
        · rw [hfirst s List.mem_cons_self (hs t ht) b hb] at hpb
          cases hpb
    · have hskip : ((s :: sites).filterMap value?).find? p = (sites.filterMap value?).find? p := by
        cases hb : value? s with
        | none => rw [List.filterMap_cons_none hb]
        | some b =>
          rw [List.filterMap_cons_some hb, List.find?_cons_of_neg fun hpb ↦ hfound ⟨b, hb, hpb⟩]
      have hnot : ∀ b ∈ value? s, p b = false := fun b hb ↦ by
        simpa using fun hpb ↦ hfound ⟨b, hb, hpb⟩
      rw [hskip, ih hsites]
      simp only [List.mem_cons, exists_eq_or_imp, forall_eq_or_imp]
      constructor
      · rintro ⟨t, ht, hta, hpa, hfirst⟩
        exact .inr ⟨t, ht, hta, hpa, fun _ ↦ hnot, hfirst⟩
      · rintro (⟨hsa, hpa, -⟩ | ⟨t, ht, hta, hpa, -, hfirst⟩)
        · exact absurd ⟨a, hsa, hpa⟩ hfound
        · exact ⟨t, ht, hta, hpa, hfirst⟩

theorem flatMap_range_getElem? (as : List α) (f : Option α → List β) :
    ((List.range as.length).flatMap fun i ↦ f as[i]?) = as.flatMap fun a ↦ f (some a) := by
  induction as with
  | nil => rfl
  | cons a as ih => simp [List.range_succ_eq_map, List.flatMap_map, ih]

end Sites

namespace Query

/-! ## Sites -/

/-- A part of a facet that counts by distance. -/
inductive Part where
  | longitude
  | latitude
  | nearest
  | farthest
deriving DecidableEq

/-- A place for a number in a query. -/
inductive Site where
  | tie
  | longitude
  | latitude
  /-- A part of the facet at a position. -/
  | facet (position : Nat) (part : Part)
deriving DecidableEq

/-- The place of a part among the parts of its facet. -/
def Part.rank : Part → Nat
  | longitude => 0
  | latitude => 1
  | nearest => 2
  | farthest => 3

/-- The place of a site among all sites. -/
def Site.rank : Site → Nat
  | tie => 0
  | longitude => 1
  | latitude => 2
  | facet i part => 3 + 4 * i + part.rank

/-- The number at a part of a facet, with its name. -/
def partNumber? (f : Facet) (part : Part) : Option (String × Float) :=
  match f.measure with
  | .distance point nearest farthest =>
    match part with
    | .longitude => some (f.key ++ ".point.lng", point.longitude)
    | .latitude => some (f.key ++ ".point.lat", point.latitude)
    | .nearest => some (f.key ++ ".from", nearest)
    | .farthest => some (f.key ++ ".to", farthest)
  | _ => none

/-- The number at a site of a query, with its name. -/
def numberAt? (q : Query) : Site → Option (String × Float)
  | .tie => q.boosting.map fun w ↦ ("boosting.tie", w.tie)
  | .longitude => q.referencePoint.map fun p ↦ ("distanceReferencePoint.lng", p.longitude)
  | .latitude => q.referencePoint.map fun p ↦ ("distanceReferencePoint.lat", p.latitude)
  | .facet i part => q.facets[i]?.bind (partNumber? · part)

/-- The parts in the order of their ranks. -/
def parts : List Part := [.longitude, .latitude, .nearest, .farthest]

/-- The sites at which a query can have a number, in the order of their ranks. -/
def sites (q : Query) : List Site :=
  [.tie, .longitude, .latitude] ++
    (List.range q.facets.length).flatMap fun i ↦ parts.map (.facet i)

theorem Part.rank_lt (part : Part) : part.rank < 4 := by cases part <;> decide

theorem pairwise_sites (q : Query) : q.sites.Pairwise fun s t ↦ s.rank < t.rank := by
  have hparts (i : Nat) : (parts.map (Site.facet i)).Pairwise fun s t ↦ s.rank < t.rank := by
    simp [parts, Site.rank, Part.rank]
  have hfacets (i j : Nat) (hij : i < j) :
      ∀ s ∈ parts.map (Site.facet i), ∀ t ∈ parts.map (Site.facet j), s.rank < t.rank := by
    intro s hs t ht
    obtain ⟨p, -, rfl⟩ := List.mem_map.mp hs
    obtain ⟨p', -, rfl⟩ := List.mem_map.mp ht
    have hp := p.rank_lt
    simp only [Site.rank]
    omega
  have hfirst : ∀ s ∈ [Site.tie, .longitude, .latitude], s.rank < 3 := by decide
  rw [sites, List.pairwise_append]
  refine ⟨by decide, ?_, fun s hs t ht ↦ ?_⟩
  · exact List.pairwise_flatMap.mpr ⟨fun i _ ↦ hparts i, List.pairwise_lt_range.imp (hfacets _ _)⟩
  · obtain ⟨i, -, ht⟩ := List.mem_flatMap.mp ht
    obtain ⟨p, -, rfl⟩ := List.mem_map.mp ht
    have hrank : (Site.facet i p).rank = 3 + 4 * i + p.rank := rfl
    have hs := hfirst s hs
    omega

theorem mem_sites {q : Query} {s : Site} {n : String × Float} (h : q.numberAt? s = some n) :
    s ∈ q.sites := by
  cases s with
  | facet i part =>
    obtain ⟨f, hf, -⟩ := Option.bind_eq_some_iff.mp h
    have hi : i ∈ List.range q.facets.length :=
      List.mem_range.mpr (List.getElem?_eq_some_iff.mp hf).1
    have hpart : part ∈ parts := by cases part <;> decide
    exact List.mem_append_right _ (List.mem_flatMap.mpr ⟨i, hi, List.mem_map_of_mem hpart⟩)
  | _ => exact List.mem_append_left _ (by decide)

theorem facetNumbers_eq (f : Facet) : facetNumbers f = parts.filterMap (partNumber? f) := by
  obtain ⟨key, measure, excluded⟩ := f
  cases measure <;> rfl

theorem numbers_eq (q : Query) : q.numbers = q.sites.filterMap q.numberAt? := by
  have hfacets : ((List.range q.facets.length).flatMap fun i ↦ parts.map (.facet i)).filterMap
      q.numberAt? = q.facets.flatMap facetNumbers := by
    have hposition := flatMap_range_getElem? q.facets fun f ↦
      parts.filterMap fun part ↦ f.bind (partNumber? · part)
    rw [List.filterMap_flatMap, funext facetNumbers_eq]
    simp only [List.filterMap_map]
    exact hposition
  rw [numbers, sites, List.filterMap_append, hfacets]
  refine congrArg (· ++ _) ?_
  simp only [List.filterMap_cons, List.filterMap_nil, numberAt?]
  cases q.boosting <;> cases q.referencePoint <;> rfl

/-- The number that is reported is the one at the first site that has no finite number. -/
theorem find?_numbers_eq_some_iff {q : Query} {n : String × Float} :
    q.numbers.find? (fun n ↦ !n.2.isFinite) = some n ↔
      ∃ s, q.numberAt? s = some n ∧ n.2.isFinite = false ∧
        ∀ t, t.rank < s.rank → ∀ m ∈ q.numberAt? t, m.2.isFinite = true := by
  rw [numbers_eq, find?_filterMap_eq_some_iff q.pairwise_sites]
  simp only [Bool.not_eq_true', Bool.not_eq_false']
  constructor
  · rintro ⟨s, -, hs, hn, hfirst⟩
    exact ⟨s, hs, hn, fun t hlt m hm ↦ hfirst t (mem_sites hm) hlt m hm⟩
  · rintro ⟨s, hs, hn, hfirst⟩
    exact ⟨s, mem_sites hs, hs, hn, fun t _ hlt m hm ↦ hfirst t hlt m hm⟩

end Query

end FacetedSearch
