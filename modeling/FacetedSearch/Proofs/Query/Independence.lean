import FacetedSearch.Proofs.Query.Builder

/-!
# Independence of edits

Every edit goes through one of thirteen setters, and a builder consists of thirteen parts, one for
each setter. The part of a setter is what its edits read and what they change: the filters and the
keys of filters belong together, as do the facets and their keys, and everything else is a part of
its own. In particular a facet is added without a look at the filters, although it may exclude one.

## Two runs

Two properties of single edits carry everything. An edit leaves the parts of all other setters as
they were (`Builder.part_attempt_of_ne`), and whether it is accepted, and what becomes of its own
part, depends on that part alone (`Builder.map_part_apply`). Hence the part of a setter after a run
is its part after those edits of the run that go through the setter, all others left out, and the
outcomes of these edits are the same in both runs. Two runs that agree on the edits through each
setter, however these are interleaved, therefore end in the same builder.
-/

namespace FacetedSearch.Query

/-! ## Setters and their parts -/

/-- The ways to change a builder. -/
inductive Setter where
  | text
  | language
  | offset
  | limit
  | sort
  | filter
  | facet
  | archive
  | operator
  | timeZone
  | boosting
  | referencePoint
  | explain
deriving DecidableEq

/-- The setter that an edit goes through. -/
def Edit.setter : Edit → Setter
  | .text _ => .text
  | .language _ => .language
  | .offset _ => .offset
  | .limit _ => .limit
  | .sort _ => .sort
  | .filter _ => .filter
  | .facet _ => .facet
  | .archive _ => .archive
  | .operator _ => .operator
  | .timeZone _ => .timeZone
  | .boosting _ => .boosting
  | .referencePoint _ => .referencePoint
  | .explain _ => .explain

/-- What the part of a setter consists of. -/
def Setter.Part : Setter → Type
  | .text => String
  | .language => Language
  | .offset | .limit => UInt64
  | .sort => List SortCriterion
  | .filter => List Filter × List String
  | .facet => List Facet × List String
  | .archive | .explain => Bool
  | .operator => Operator
  | .timeZone => Option String
  | .boosting => Option Boosting
  | .referencePoint => Option GeoPoint

namespace Builder

/-- The part of a builder that belongs to a setter. -/
def part (b : Builder) : (s : Setter) → s.Part
  | .text => b.draft.text
  | .language => b.draft.language
  | .offset => b.draft.offset
  | .limit => b.draft.limit
  | .sort => b.draft.sort
  | .filter => (b.draft.filters, b.filterKeys)
  | .facet => (b.draft.facets, b.facetKeys)
  | .archive => b.draft.archive
  | .operator => b.draft.operator
  | .timeZone => b.draft.timeZone
  | .boosting => b.draft.boosting
  | .referencePoint => b.draft.referencePoint
  | .explain => b.draft.explain

variable {b b' c : Builder} {e : Edit} {s : Setter}

/-- A builder is nothing but its parts. -/
theorem ext_part (h : ∀ s, b.part s = c.part s) : b = c := by
  obtain ⟨draft, filterKeys, facetKeys⟩ := b
  obtain ⟨draft', filterKeys', facetKeys'⟩ := c
  obtain ⟨hfilters, hfilterKeys⟩ := Prod.mk.inj (h .filter)
  obtain ⟨hfacets, hfacetKeys⟩ := Prod.mk.inj (h .facet)
  rw [Builder.mk.injEq, Query.mk.injEq]
  exact ⟨⟨h .text, h .language, h .offset, h .limit, h .sort, hfilters, hfacets, h .archive,
    h .operator, h .timeZone, h .boosting, h .referencePoint, h .explain⟩, hfilterKeys, hfacetKeys⟩

/-! ## Single edits -/

theorem part_apply (h : b.apply e = .ok b') :
    b'.part = Function.update b.part e.setter (b'.part e.setter) := by
  funext s
  cases e with
  | offset n =>
    obtain ⟨-, rfl⟩ := setOffset_eq_ok_iff.mp h
    cases s <;> rfl
  | limit n =>
    obtain ⟨-, rfl⟩ := setLimit_eq_ok_iff.mp h
    cases s <;> rfl
  | filter fs =>
    obtain ⟨-, rfl⟩ := addFilters_eq_ok_iff.mp h
    cases s <;> rfl
  | facet fs =>
    obtain ⟨-, rfl⟩ := addFacets_eq_ok_iff.mp h
    cases s <;> rfl
  | _ =>
    -- every other edit is accepted and sets a single field
    cases h
    cases s <;> rfl

theorem part_apply_of_ne (h : b.apply e = .ok b') (hs : s ≠ e.setter) : b'.part s = b.part s := by
  rw [part_apply h, Function.update_of_ne hs]

/-- An edit, accepted or refused, leaves the parts of the other setters as they were. -/
theorem part_attempt_of_ne (b : Builder) (hs : s ≠ e.setter) : (b.attempt e).part s = b.part s := by
  rw [attempt]
  cases h : b.apply e with
  | ok b' => exact part_apply_of_ne h hs
  | error v => rfl

/-- Whether an edit is accepted, and what becomes of the part of its setter, depends on that part
alone. -/
theorem map_part_apply (h : b.part e.setter = c.part e.setter) :
    (b.apply e).map (·.part e.setter) = (c.apply e).map (·.part e.setter) := by
  cases e with
  | offset n =>
    simp only [apply, setOffset]
    split <;> rfl
  | limit n =>
    simp only [apply, setLimit]
    split <;> rfl
  | sort cs =>
    have hsort : b.draft.sort = c.draft.sort := h
    simp only [apply, Except.map, Edit.setter, part, hsort]
  | filter fs =>
    -- the keys that are taken decide, and they are within the part of the setter
    obtain ⟨hfilters, hkeys⟩ := Prod.mk.inj h
    simp only [apply, addFilters, hkeys]
    split
    · rfl
    · simp only [Except.map, Edit.setter, part, hfilters]
  | facet fs =>
    obtain ⟨hfacets, hkeys⟩ := Prod.mk.inj h
    simp only [apply, addFacets, hkeys]
    split
    · rfl
    · simp only [Except.map, Edit.setter, part, hfacets]
  | _ => rfl

/-- How an edit ends. -/
def outcome (b : Builder) (e : Edit) : Except Violation Unit := (b.apply e).map fun _ ↦ ()

theorem outcome_eq_of_part (h : b.part e.setter = c.part e.setter) : b.outcome e = c.outcome e := by
  have hmap := congrArg (Except.map fun _ ↦ ()) (map_part_apply h)
  rw [outcome, outcome]
  revert hmap
  cases b.apply e <;> cases c.apply e <;> exact id

theorem part_attempt_eq_of_part (h : b.part e.setter = c.part e.setter) :
    (b.attempt e).part e.setter = (c.attempt e).part e.setter := by
  have hmap := map_part_apply h
  rw [attempt, attempt]
  cases hb : b.apply e with
  | ok b' =>
    cases hc : c.apply e with
    | ok c' =>
      rw [hb, hc] at hmap
      exact Except.ok.inj hmap
    | error v =>
      rw [hb, hc] at hmap
      cases hmap
  | error v =>
    cases hc : c.apply e with
    | ok c' =>
      rw [hb, hc] at hmap
      cases hmap
    | error w => exact h

/-! ## Runs -/

/-- The edits of a run, each with the way it ends in the state that those before it lead to. -/
def log (b : Builder) : List Edit → List (Edit × Except Violation Unit)
  | [] => []
  | e :: es => (e, b.outcome e) :: (b.attempt e).log es

/-- **Edits through other setters do not show.** Of two builders with the same part for a setter,
one sees a whole run and the other only the edits through that setter. These edits end in the same
way for both, and so does the part. -/
theorem run_filter_setter (es : List Edit) (h : b.part s = c.part s) :
    (b.log es).filter (fun r ↦ r.1.setter = s) = c.log (es.filter fun e ↦ e.setter = s) ∧
      (b.run es).part s = (c.run (es.filter fun e ↦ e.setter = s)).part s := by
  induction es generalizing b c with
  | nil => exact ⟨rfl, h⟩
  | cons e es ih =>
    by_cases hs : e.setter = s
    · subst hs
      obtain ⟨hlog, hpart⟩ := ih (part_attempt_eq_of_part h)
      rw [log, List.filter_cons_of_pos (by simp), List.filter_cons_of_pos (by simp), log, hlog,
        outcome_eq_of_part h]
      exact ⟨rfl, hpart⟩
    · rw [log, List.filter_cons_of_neg (by simpa using hs),
        List.filter_cons_of_neg (by simpa using hs)]
      exact ih ((part_attempt_of_ne b (Ne.symm hs)).trans h)

/-- The edits through each setter are the same, in the same order. -/
def SameEdits (es es' : List Edit) : Prop :=
  ∀ s, es.filter (fun e ↦ e.setter = s) = es'.filter fun e ↦ e.setter = s

/-- Runs with the same edits through each setter end in the same state. -/
theorem SameEdits.run_eq {es es' : List Edit} (h : SameEdits es es') (b : Builder) :
    b.run es = b.run es' := by
  refine ext_part fun s ↦ ?_
  rw [(run_filter_setter es rfl).2, (run_filter_setter es' rfl).2, h s]

/-- Neighbouring edits through different setters change places. -/
theorem sameEdits_swap {e e' : Edit} (h : e.setter ≠ e'.setter) (before after : List Edit) :
    SameEdits (before ++ e :: e' :: after) (before ++ e' :: e :: after) := by
  intro s
  rw [List.filter_append, List.filter_append]
  refine congrArg (before.filter _ ++ ·) ?_
  by_cases hs : e.setter = s
  · have hs' : ¬ e'.setter = s := fun hs' ↦ h (hs.trans hs'.symm)
    simp [hs, hs']
  · simp [List.filter_cons, hs]

/-- **The order of setters does not matter.** Two runs from the same defaults that have the same
edits through each setter, interleaved in any way and with refused edits among them, agree in how
each of the edits ends, in the builder they lead to, and in what is built from it or why nothing is.
In particular a facet may be added before the filter that it excludes. -/
theorem runs_agree (d : Defaults) {es es' : List Edit} (h : SameEdits es es') :
    (∀ s, ((new d).log es).filter (fun r ↦ r.1.setter = s) =
      ((new d).log es').filter fun r ↦ r.1.setter = s) ∧
    (new d).run es = (new d).run es' ∧
    ((new d).run es).build = ((new d).run es').build ∧
    ∀ before after facets filters,
      ((new d).run (before ++ .facet facets :: .filter filters :: after)).build =
        ((new d).run (before ++ .filter filters :: .facet facets :: after)).build := by
  refine ⟨fun s ↦ ?_, h.run_eq (new d), congrArg build (h.run_eq (new d)),
    fun before after facets filters ↦ congrArg build ?_⟩
  · rw [(run_filter_setter es rfl).1, (run_filter_setter es' rfl).1, h s]
  · have hne : (Edit.facet facets).setter ≠ (Edit.filter filters).setter := Setter.noConfusion
    exact (sameEdits_swap hne before after).run_eq (new d)

/-- A facet comes before the filter that it excludes, and refused edits come in between. -/
theorem runs_agree_facet_first :
    let site : Filter := .test (some "site") .unarchived
    let sites : Facet := { key := "sites", measure := .query "a:b", excludeFilter := some "site" }
    let es : List Edit :=
      [.facet [sites], .limit (-1), .text "cats", .facet [sites], .filter [site], .limit 5]
    let es' : List Edit :=
      [.filter [site], .limit (-1), .limit 5, .facet [sites], .facet [sites], .text "cats"]
    SameEdits es es' ∧ (new {}).run es = (new {}).run es' ∧
      ∃ q, ((new {}).run es).build = .ok q ∧ ((new {}).run es').build = .ok q := by
  intro site sites es es'
  have hsame : SameEdits es es' := fun s ↦ by cases s <;> rfl
  obtain ⟨-, hrun, hbuild, -⟩ := runs_agree {} hsame
  exact ⟨hsame, hrun, _, rfl, hbuild ▸ rfl⟩

end Builder

end FacetedSearch.Query
