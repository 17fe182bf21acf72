import FacetedSearch.Proofs.Payload.Edits
import FacetedSearch.Proofs.Payload.Mirrors

/-!
# Restored from a payload

A filter, a facet or a query is restored if its payload is read as itself. What can be in the way is
of two kinds. A payload is refused for a group without operands, a year that is not of four digits,
a number that is not finite or a number of results that is no signed number. And it is read as
something else where the query has no time zone but the defaults have one, or where an instant is
within a leap second that is not the last of its minute.

The refusals come from the walks through the readers, which are about leap seconds at the ends of
minutes. The other instants need no walk: no timestamp denotes them, so nothing that was read has
one, and what has one is not restored, whatever its payload is read as.
-/

namespace FacetedSearch

open Payload

namespace Filter

/-! ## Filters -/

theorem leapsAtMinuteEnd_of_ofPayload {f : Filter} {v : Json} (h : ofPayload v = .ok f) :
    ∀ t ∈ f.instants, t.LeapsAtMinuteEnd := by
  refine ofPayload_induction (fun o k c hc ↦ ?_) (fun k op fs _ hfs ↦ ?_) (fun k f hf ↦ ?_) h
  · rw [instants_test]
    cases c with
    | dateRange r =>
      obtain ⟨-, hlower, hupper, -⟩ := hc
      simp only [Condition.instants, List.mem_append, Option.mem_toList, or_imp, forall_and]
      exact ⟨leapsAtMinuteEnd_of_gives hlower, leapsAtMinuteEnd_of_gives hupper⟩
    | _ => exact List.forall_mem_nil _
  · rw [instants_group]
    exact List.forall_mem_flatMap.mpr hfs
  · rwa [instants_negation]

end Filter

namespace Facet

/-! ## Facets -/

theorem leapsAtMinuteEnd_of_ofPayload {f : Facet} {v : Json} (h : ofPayload v = .ok f) :
    ∀ t ∈ f.measure.instants, t.LeapsAtMinuteEnd := by
  obtain ⟨-, -, -, -, -, hleaps⟩ := of_ofPayload h
  exact hleaps

end Facet

namespace Query

/-! ## Queries -/

/-- Whether a query is what its payload is read as, starting from the given defaults. -/
structure Restorable (d : Defaults) (q : Query) : Prop where
  limit_le : q.limit.toNat ≤ 9223372036854775807
  /-- Every group of filters, at any depth, has an operand. -/
  inhabited : ∀ f ∈ q.filters, ∀ k op, Filter.group k op [] ∉ f.nodes
  filterYears : ∀ f ∈ q.filters, ∀ t ∈ f.instants, 0 ≤ t.date.year ∧ t.date.year ≤ 9999
  facetYears : ∀ f ∈ q.facets, ∀ t ∈ f.measure.instants, 0 ≤ t.date.year ∧ t.date.year ≤ 9999
  /-- A leap second is at the end of a minute. -/
  filterLeaps : ∀ f ∈ q.filters, ∀ t ∈ f.instants, 1000000000 ≤ t.nanosecond → t.second % 60 = 59
  facetLeaps : ∀ f ∈ q.facets, ∀ t ∈ f.measure.instants,
    1000000000 ≤ t.nanosecond → t.second % 60 = 59
  /-- A time zone that is not written is not replaced by a default either. -/
  timeZone : q.timeZone.isSome = true ∨ d.timeZone = none

variable {d : Defaults} {q : Query} {o : Json.Object}

theorem leapsAtMinuteEnd_of_readEdits {b : Builder} (hread : readEdits o (.new d) = .ok b)
    (hbuild : b.build = .ok q) : q.LeapsAtMinuteEnd := by
  obtain ⟨-, -, rfl⟩ := Builder.build_eq_ok_iff.mp hbuild
  have hb := Builder.isReadFrom_of_readEdits hread
  constructor
  · intro f hf
    obtain ⟨v, hv⟩ := mem_of_listOf hb.filters hf
    exact Filter.leapsAtMinuteEnd_of_ofPayload hv
  · intro f hf
    obtain ⟨v, hv⟩ := mem_of_listOf hb.facets hf
    exact Facet.leapsAtMinuteEnd_of_ofPayload hv

/-- A well-formed query is read back exactly if it is restorable. -/
theorem readEdits_builds_iff (ho : ∀ key ≠ "index", o.value? key = Json.Object.value? q.entries key)
    (hq : q.WellFormed) :
    (∃ b, readEdits o (.new d) = .ok b ∧ b.build = .ok q) ↔ q.Restorable d := by
  constructor
  · rintro ⟨b, hb, hbuild⟩
    have hleaps := leapsAtMinuteEnd_of_readEdits hb hbuild
    -- whatever is read is the builder of `restored`, which builds the query with its time zone
    obtain ⟨⟨hlimit, hfilters, hfacets⟩, rfl⟩ := (yields_readEdits d ho hq hleaps).of_ok hb
    rw [build_restored d hq, Except.ok.injEq, withTimeZone_eq_self_iff] at hbuild
    exact ⟨hlimit, fun f hf ↦ (hfilters f hf).1, fun f hf ↦ (hfilters f hf).2, hfacets,
      hleaps.filters, hleaps.facets, hbuild⟩
  · intro h
    have hread := yields_readEdits d ho hq ⟨h.filterLeaps, h.facetLeaps⟩
    refine ⟨restored d q, hread.ok ⟨h.limit_le, fun f hf ↦ ?_, h.facetYears⟩, ?_⟩
    · exact ⟨h.inhabited f hf, h.filterYears f hf⟩
    · rw [build_restored d hq, Except.ok.injEq, withTimeZone_eq_self_iff]
      exact h.timeZone

end Query

end FacetedSearch
