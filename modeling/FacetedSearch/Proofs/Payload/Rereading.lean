import FacetedSearch.Proofs.Payload.Restoring

/-!
# Queries read from payloads

What is read from a payload is not just any query. Its groups have operands and its leap seconds are
at the ends of minutes, since the reader makes no others. A time zone is missing only where the
defaults have none, and a number of results was either read, as a signed number, or is the default.
That is so wherever edits lead from the defaults (`Query.Builder.StartsFrom`).

Of the ways in which a built query may fail to be restored, two are left. One is a default that is
no signed number. The other is a timestamp with a year of four digits whose offset moves it across
the end of the years that can be written; it is read as an instant in the year before `0` or after
`9999`, and what is written for that instant is refused.
-/

namespace FacetedSearch

open Json
open Payload

theorem Filter.groupsInhabited_of_ofPayload {f : Filter} {v : Json} (h : ofPayload v = .ok f) :
    f.GroupsInhabited :=
  ofPayload_induction (fun _ k c _ ↦ groupsInhabited_test k c)
    (fun _ _ _ hne hfs ↦ groupsInhabited_group.mpr ⟨hne, hfs⟩)
    (fun _ _ hf ↦ groupsInhabited_negation.mpr hf) h

namespace Query.Builder

/-- What is true of a builder whose edits started from the given defaults. -/
structure StartsFrom (d : Defaults) (b : Builder) : Prop extends b.Consistent where
  limit_le : b.draft.limit.toNat ≤ 9223372036854775807 ∨ b.draft.limit = d.limit
  timeZone : b.draft.timeZone.isSome = true ∨ d.timeZone = none

variable {d : Defaults} {b b' : Builder}

theorem startsFrom_new (d : Defaults) : (new d).StartsFrom d where
  toConsistent := consistent_new d
  limit_le := .inr rfl
  timeZone := by
    change d.timeZone.isSome = true ∨ d.timeZone = none
    cases d.timeZone <;> simp

theorem StartsFrom.apply {e : Edit} (hb : b.StartsFrom d) (h : b.apply e = .ok b') :
    b'.StartsFrom d := by
  have hconsistent := hb.toConsistent.apply h
  cases e with
  | offset n =>
    obtain ⟨-, rfl⟩ := setOffset_eq_ok_iff.mp h
    exact ⟨hconsistent, hb.limit_le, hb.timeZone⟩
  | limit n =>
    obtain ⟨hn, rfl⟩ := setLimit_eq_ok_iff.mp h
    exact ⟨hconsistent, .inl (toNat_toUInt64_le hn), hb.timeZone⟩
  | filter fs =>
    obtain ⟨-, rfl⟩ := addFilters_eq_ok_iff.mp h
    exact ⟨hconsistent, hb.limit_le, hb.timeZone⟩
  | facet fs =>
    obtain ⟨-, rfl⟩ := addFacets_eq_ok_iff.mp h
    exact ⟨hconsistent, hb.limit_le, hb.timeZone⟩
  | timeZone name =>
    cases h
    exact ⟨hconsistent, hb.limit_le, .inl rfl⟩
  | _ =>
    -- every other edit sets a field that is not mentioned
    cases h
    exact ⟨hconsistent, hb.limit_le, hb.timeZone⟩

theorem StartsFrom.run {es : List Edit} (hb : b.StartsFrom d) : (b.run es).StartsFrom d := by
  induction es generalizing b with
  | nil => exact hb
  | cons e es ih =>
    have hrun : b.run (e :: es) = (b.attempt e).run es := rfl
    rw [hrun, attempt]
    cases h : b.apply e with
    | ok b' => exact ih (hb.apply h)
    | error v => exact ih hb

section Object

variable {o : Object} (h : readEdits o (new d) = .ok b)

include h

theorem startsFrom_of_readEdits : b.StartsFrom d := by
  obtain ⟨es, -, hreaches⟩ := exists_reaches_of_readEdits h
  obtain ⟨rfl, -⟩ := hreaches.run_eq
  exact (startsFrom_new d).run

theorem groupsInhabited_of_readEdits : ∀ f ∈ b.draft.filters, f.GroupsInhabited := by
  intro f hf
  obtain ⟨v, hv⟩ := mem_of_listOf (isReadFrom_of_readEdits h).filters hf
  exact Filter.groupsInhabited_of_ofPayload hv

end Object

/-- **Which of the queries that were read can be read again.** A query that was read from a payload
and built is written as a payload from which the same query is read and built, exactly if its number
of results is a signed number and every timestamp in it has a year of four digits. A number of
results that is no signed number can only be the default. -/
theorem reread_iff {d : Defaults} {v : Json} {b : Builder} {q : Query}
    (hread : ofPayload d v = .ok b) (hbuild : b.build = .ok q) :
    ((∃ b', ofPayload d q.toPayload = .ok b' ∧ b'.build = .ok q) ↔
      q.limit.toNat ≤ 9223372036854775807 ∧
        (∀ f ∈ q.filters, ∀ t ∈ f.instants, 0 ≤ t.date.year ∧ t.date.year ≤ 9999) ∧
        ∀ f ∈ q.facets, ∀ t ∈ f.measure.instants, 0 ≤ t.date.year ∧ t.date.year ≤ 9999) ∧
      (q.limit.toNat ≤ 9223372036854775807 ∨ q.limit = d.limit) := by
  obtain ⟨o, hread⟩ : ∃ o, readEdits o (new d) = .ok b := by
    cases v with
    | object o => exact ⟨o, hread⟩
    | _ => cases hread
  have hb := startsFrom_of_readEdits hread
  have hq := hb.toConsistent.wellFormed hbuild
  have hleaps := leapsAtMinuteEnd_of_readEdits hread hbuild
  obtain ⟨-, -, rfl⟩ := build_eq_ok_iff.mp hbuild
  refine ⟨(readEdits_builds_iff (fun _ _ ↦ rfl) hq).trans ?_, hb.limit_le⟩
  constructor
  · intro h
    exact ⟨h.limit_le, h.filterYears, h.facetYears⟩
  · rintro ⟨hlimit, hfilters, hfacets⟩
    exact ⟨hlimit, groupsInhabited_of_readEdits hread, hfilters, hfacets, hleaps.filters,
      hleaps.facets, hb.timeZone⟩

/-- Two queries that are read and built but not read again. The first hour of the year `0`, in a
zone to the east of Greenwich, lies in the year before; and a default need not be a signed number.
-/
theorem exists_query_not_reread :
    (∃ v b q, ofPayload {} v = .ok b ∧ b.build = .ok q ∧
      ¬ ∃ b', ofPayload {} q.toPayload = .ok b' ∧ b'.build = .ok q) ∧
    ∃ d v b q, ofPayload d v = .ok b ∧ b.build = .ok q ∧ q.limit = d.limit ∧
      ¬ ∃ b', ofPayload d q.toPayload = .ok b' ∧ b'.build = .ok q := by
  constructor
  · let v := Json.object [("filter", .array [.object [("type", .string "absoluteDateRange"),
      ("from", .string "0000-01-01T00:00:00+01:00")]])]
    have hread : ∃ b q, ofPayload {} v = .ok b ∧ b.build = .ok q ∧
        ∃ f ∈ q.filters, ∃ t ∈ f.instants, t.date.year = -1 :=
      ⟨_, _, rfl, rfl, _, List.mem_cons_self, _, List.mem_cons_self, rfl⟩
    obtain ⟨b, q, hb, hq, f, hf, t, ht, hyear⟩ := hread
    refine ⟨v, b, q, hb, hq, fun hreread ↦ ?_⟩
    have hyears := ((reread_iff hb hq).1.mp hreread).2.1 f hf t ht
    omega
  · let d : Defaults := { limit := 9223372036854775808 }
    refine ⟨d, .object [], new d, (new d).draft, rfl, rfl, rfl, fun hreread ↦ ?_⟩
    have hread : ofPayload d (.object []) = .ok (new d) := rfl
    have hbuild : (new d).build = .ok (new d).draft := rfl
    exact absurd ((reread_iff hread hbuild).1.mp hreread).1 (by decide)

end Query.Builder

end FacetedSearch
