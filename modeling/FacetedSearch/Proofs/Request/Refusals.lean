import FacetedSearch.Proofs.DateMath.Faults
import FacetedSearch.Request.Rendering

/-!
# Queries without a request

A built query may still have no request, and this is found only when it is rendered. There are three
reasons: a filter that does not compile, an order by distance without a point to measure from, and a
facet whose range cannot be written. `Query.Unsendable` says which of several reasons is reported;
they go in this order, and among filters and among facets the first one goes before the others.

## Ranges that cannot be counted

A facet is refused for the range it counts, and which periods are written depends on the kind of the
range. Those of a relative range all are, and the gap comes last. The gap of a fixed range is left
out if one of the ends is missing, and then it may be anything.
-/

namespace FacetedSearch

/-! ## What is written for a range -/

namespace Measure

/-- The field of a range that is open at both ends. -/
def openField? : Measure → Option String
  | dateRange r _ => r.openField?
  | relativeRange r _ _ _ => r.openField?
  | _ => none

/-- The periods that are written for a range, in their order. -/
def periods : Measure → List Period
  | dateRange r gap => if r.lower.isSome && r.upper.isSome then gap.toList else []
  | relativeRange r gap _ _ => r.before.toList ++ (r.after.toList ++ gap.toList)
  | _ => []

/-- What a measure is refused for. -/
def Fault (m : Measure) (v : Violation) : Prop := RangeFault m.openField? m.periods v

/-- A fixed range without ends, or with both ends and a gap that has a time; a relative range
without ends, or with a time in one of its periods. -/
def Unwritable : Measure → Prop
  | dateRange r gap =>
    r.lower = none ∧ r.upper = none ∨
      r.lower.isSome = true ∧ r.upper.isSome = true ∧ ∃ p ∈ gap, p.hasTime = true
  | relativeRange r gap _ _ =>
    r.before = none ∧ r.after = none ∨ (∃ p ∈ r.before, p.hasTime = true) ∨
      (∃ p ∈ r.after, p.hasTime = true) ∨ ∃ p ∈ gap, p.hasTime = true
  | _ => False

theorem unwritable_iff (m : Measure) : m.Unwritable ↔ ∃ v, m.Fault v := by
  simp only [Fault, exists_rangeFault_iff]
  cases m with
  | dateRange r gap =>
    obtain ⟨field, lower, upper⟩ := r
    cases lower <;> cases upper <;>
      simp [Unwritable, openField?, DateRange.openField?, periods]
  | relativeRange r gap roundStart roundEnd =>
    simp [Unwritable, openField?, RelativeRange.isSome_openField?_iff, periods, or_and_right,
      exists_or]
  | _ => simp [Unwritable, openField?, periods]

end Measure

/-! ## Facets -/

namespace RelativeRange

variable {r : RelativeRange}

theorem ensureBounded_of_open {field : String} (hopen : r.openField? = some field) :
    r.ensureBounded = .error (.missingDateRangeBound field) := by
  rw [openField?] at hopen
  rw [ensureBounded]
  split at hopen
  · next hends =>
    cases hopen
    exact if_pos hends
  · cases hopen

theorem ensureBounded_of_bounded (bounded : r.openField? = none) : r.ensureBounded = .ok () := by
  rw [openField?] at bounded
  rw [ensureBounded]
  split at bounded
  · cases bounded
  · next hends => exact if_neg hends

theorem failsFor_boundary (period : Option Period) (rounding : Rounding) :
    FailsFor (boundary period rounding) period.toList := by
  cases period with
  | none => exact failsFor_ok _
  | some p => exact (failsFor_offsetText p .minus).bind_pure _

end RelativeRange

namespace Facet

variable {b : Backend} {f : Facet} {v : Violation}

private theorem failsFor_dateRangeParam {r : DateRange} {gap : Option Period}
    (bounded : r.openField? = none) :
    FailsFor (dateRangeParam f r gap) (Measure.periods (.dateRange r gap)) := by
  unfold dateRangeParam
  split
  · next gap lower upper hlower hupper =>
    have hperiods : Measure.periods (.dateRange r (some gap)) = [gap] := by
      simp [Measure.periods, hlower, hupper]
    rw [hperiods]
    exact (failsFor_offsetText gap .plus).bind_pure _
  · next gap _ _ _ hnot =>
    -- with both ends there is no gap, since this is the branch in which one of the three is missing
    have hperiods : Measure.periods (.dateRange r gap) = [] := by
      rw [Measure.periods]
      split
      · next hends =>
        obtain ⟨hlower, hupper⟩ := Bool.and_eq_true_iff.mp hends
        obtain ⟨lower, hlower⟩ := Option.isSome_iff_exists.mp hlower
        obtain ⟨upper, hupper⟩ := Option.isSome_iff_exists.mp hupper
        rcases gap with _ | gap
        · rfl
        · exact (hnot gap lower upper rfl hlower hupper).elim
      · rfl
    rw [hperiods]
    exact (DateRange.failsFor_compile bounded).bind_pure _

private theorem failsFor_relativeRangeParam {r : RelativeRange} {gap : Option Period}
    {roundStart roundEnd : Rounding} (bounded : r.openField? = none) :
    FailsFor (relativeRangeParam f r gap roundStart roundEnd)
      (Measure.periods (.relativeRange r gap roundStart roundEnd)) := by
  have hstart : FailsFor (r.startText roundStart) r.before.toList := by
    rw [RelativeRange.startText, RelativeRange.ensureBounded_of_bounded bounded]
    exact RelativeRange.failsFor_boundary r.before roundStart
  have hstop : FailsFor (r.endText roundEnd) r.after.toList := by
    rw [RelativeRange.endText, RelativeRange.ensureBounded_of_bounded bounded]
    exact RelativeRange.failsFor_boundary r.after roundEnd
  refine hstart.bind fun start ↦ hstop.bind fun stop ↦ ?_
  cases gap with
  | none => exact failsFor_ok _
  | some gap => exact (failsFor_offsetText gap .plus).bind_pure _

theorem failsFor_params (b : Backend) (bounded : f.measure.openField? = none) :
    FailsFor (f.params b) f.measure.periods := by
  rw [params]
  cases hm : f.measure with
  | dateRange r gap =>
    rw [hm] at bounded
    exact (failsFor_dateRangeParam bounded).bind_pure fun p ↦ [p]
  | relativeRange r gap roundStart roundEnd =>
    rw [hm] at bounded
    exact (failsFor_relativeRangeParam bounded).bind_pure fun p ↦ [p]
  | _ => exact failsFor_ok _

private theorem dateRangeParam_of_open {r : DateRange} {gap : Option Period} {field : String}
    (hopen : r.openField? = some field) :
    dateRangeParam f r gap = .error (.missingDateRangeBound field) := by
  unfold dateRangeParam
  split
  · next hlower _ =>
    simp [DateRange.openField?, hlower] at hopen
  · rw [DateRange.compile_of_open field hopen]
    rfl

private theorem relativeRangeParam_of_open {r : RelativeRange} {gap : Option Period}
    {roundStart roundEnd : Rounding} {field : String} (hopen : r.openField? = some field) :
    relativeRangeParam f r gap roundStart roundEnd = .error (.missingDateRangeBound field) := by
  rw [relativeRangeParam, RelativeRange.startText, RelativeRange.ensureBounded_of_open hopen]
  rfl

theorem params_of_open {field : String} (b : Backend) (hopen : f.measure.openField? = some field) :
    f.params b = .error (.missingDateRangeBound field) := by
  rw [params]
  cases hm : f.measure with
  | dateRange r gap =>
    rw [hm] at hopen
    simp only [dateRangeParam_of_open hopen]
    rfl
  | relativeRange r gap roundStart roundEnd =>
    rw [hm] at hopen
    simp only [relativeRangeParam_of_open hopen]
    rfl
  | _ =>
    rw [hm] at hopen
    cases hopen

theorem params_eq_error_iff : f.params b = .error v ↔ f.measure.Fault v :=
  eq_error_iff_rangeFault (fun _ hopen ↦ params_of_open b hopen) (failsFor_params b) v

end Facet

/-! ## Queries -/

namespace Query

open Request (RenderError)

variable {q : Query} {b : Backend} {index : String}

/-- The results are to be sorted by distance, but there is no point to measure it from. -/
def LacksPoint (q : Query) : Prop := q.referencePoint = none ∧ ∃ c ∈ q.sort, c.key = .distance

/-- What is reported of a query that has no request. -/
inductive Unsendable (q : Query) : RenderError → Prop
  | filter {v : Violation} (first : FirstFault q.filters (fun f e ↦ f.compile = .error e) v) :
      Unsendable q (.violation v)
  | sort (filters : ∀ f ∈ q.filters, ∃ text, f.compile = .ok text) (lacks : q.LacksPoint) :
      Unsendable q .missingReferencePoint
  | facet {v : Violation} (filters : ∀ f ∈ q.filters, ∃ text, f.compile = .ok text)
      (sort : ¬ q.LacksPoint) (first : FirstFault q.facets (fun f e ↦ f.measure.Fault e) v) :
      Unsendable q (.violation v)

/-! ### Filters -/

theorem filterParam_eq_error_iff {f : Filter} {v : Violation} :
    filterParam f = .error v ↔ f.compile = .error v := by
  rw [filterParam, bind_eq_error_iff]
  simp [pure, Except.pure]

/-- The filter that hides archived items never fails, so the filters fail as the first of them. -/
theorem filterParams_eq_error_iff {v : Violation} : q.filterParams = .error v ↔
    FirstFault q.filters (fun f e ↦ f.compile = .error e) v := by
  have hsteps : q.filters.mapM filterParam = .error v ↔
      FirstFault q.filters (fun f e ↦ f.compile = .error e) v := by
    simp only [mapM_eq_error_iff, filterParam_eq_error_iff]
  rw [filterParams, bind_eq_error_iff, hsteps]
  refine or_iff_left ?_
  rintro ⟨params, -, hrest⟩
  split at hrest
  · cases hrest
  · cases hrest

theorem exists_filterParams_iff :
    (∃ ps, q.filterParams = .ok ps) ↔ ∀ f ∈ q.filters, ∃ text, f.compile = .ok text := by
  simp only [exists_eq_ok_iff, ne_eq, filterParams_eq_error_iff]
  rw [← not_exists, exists_firstFault_iff]
  push Not
  rfl

/-! ### Order -/

theorem sortField_eq_error_iff {point : Option GeoPoint} {key : SortKey} {e : RenderError} :
    sortField point key = .error e ↔
      (point = none ∧ key = .distance) ∧ e = .missingReferencePoint := by
  cases key with
  | distance =>
    rw [sortField]
    cases point <;> simp [eq_comm]
  | _ => simp [sortField]

/-- What is wrong with a criterion. -/
def SortFault (q : Query) (c : SortCriterion) (e : RenderError) : Prop :=
  (q.referencePoint = none ∧ c.key = .distance) ∧ e = .missingReferencePoint

theorem sortParams_eq_error_iff_firstFault {e : RenderError} :
    q.sortParams = .error e ↔ FirstFault q.sort q.SortFault e := by
  rw [sortParams, bind_eq_error_iff, mapM_eq_error_iff]
  simp only [bind_eq_error_iff, sortField_eq_error_iff, pure, Except.pure, reduceCtorEq,
    and_false, exists_false, or_false]
  refine or_iff_left ?_
  rintro ⟨parts, -, hrest⟩
  split at hrest
  · cases hrest
  · cases hrest

/-- Whichever criterion comes first, the reason is the same for all of them. -/
theorem sortParams_eq_error_iff {e : RenderError} :
    q.sortParams = .error e ↔ q.LacksPoint ∧ e = .missingReferencePoint := by
  rw [sortParams_eq_error_iff_firstFault]
  constructor
  · intro hfirst
    obtain ⟨c, hc, d, ⟨hpoint, hkey⟩, -⟩ := exists_firstFault_iff.mp ⟨e, hfirst⟩
    obtain ⟨-, -, -, ⟨-, he⟩, -⟩ := hfirst
    exact ⟨⟨hpoint, c, hc, hkey⟩, he⟩
  · rintro ⟨⟨hpoint, c, hc, hkey⟩, rfl⟩
    have hfault : ∃ c ∈ q.sort, ∃ d, q.SortFault c d := ⟨c, hc, _, ⟨hpoint, hkey⟩, rfl⟩
    obtain ⟨d, i, c, hc, ⟨hcause, rfl⟩, hfirst⟩ := exists_firstFault_iff.mpr hfault
    exact ⟨i, c, hc, ⟨hcause, rfl⟩, hfirst⟩

theorem exists_sortParams_iff : (∃ ps, q.sortParams = .ok ps) ↔ ¬ q.LacksPoint := by
  simp [exists_eq_ok_iff, sortParams_eq_error_iff]

/-! ### Facets -/

theorem facetParams_eq_error_iff {v : Violation} : q.facetParams b = .error v ↔
    FirstFault q.facets (fun f e ↦ f.measure.Fault e) v := by
  have hsteps : q.facets.mapM (Facet.params b) = .error v ↔
      FirstFault q.facets (fun f e ↦ f.measure.Fault e) v := by
    simp only [mapM_eq_error_iff, Facet.params_eq_error_iff]
  rw [facetParams, ← hsteps]
  split
  · next hempty =>
    rw [List.isEmpty_iff.mp hempty]
    simp [pure, Except.pure]
  · rw [bind_eq_error_iff]
    simp [pure, Except.pure]

/-! ### Requests -/

theorem requestFor_eq_error_iff {e : RenderError} :
    q.requestFor index b = .error e ↔ q.Unsendable e := by
  simp only [requestFor, bind_eq_error_iff, mapError_eq_error_iff, mapError_eq_ok_iff,
    filterParams_eq_error_iff, sortParams_eq_error_iff, facetParams_eq_error_iff]
  constructor
  · rintro (⟨v, hfirst, rfl⟩ | ⟨filters, hfilters, ⟨hlacks, rfl⟩ | ⟨sort, hsort,
      ⟨v, hfirst, rfl⟩ | ⟨_, _, ⟨⟩⟩⟩⟩)
    · exact .filter hfirst
    · exact .sort (exists_filterParams_iff.mp ⟨filters, hfilters⟩) hlacks
    · exact .facet (exists_filterParams_iff.mp ⟨filters, hfilters⟩)
        (exists_sortParams_iff.mp ⟨sort, hsort⟩) hfirst
  · rintro (⟨hfirst⟩ | ⟨hfilters, hlacks⟩ | ⟨hfilters, hsort, hfirst⟩)
    · exact .inl ⟨_, hfirst, rfl⟩
    · obtain ⟨filters, hfilters⟩ := exists_filterParams_iff.mpr hfilters
      exact .inr ⟨filters, hfilters, .inl ⟨hlacks, rfl⟩⟩
    · obtain ⟨filters, hfilters⟩ := exists_filterParams_iff.mpr hfilters
      obtain ⟨sort, hsort⟩ := exists_sortParams_iff.mpr hsort
      exact .inr ⟨filters, hfilters, .inr ⟨sort, hsort, .inl ⟨_, hfirst, rfl⟩⟩⟩

theorem exists_unsendable_iff : (∃ e, q.Unsendable e) ↔
    (∃ f ∈ q.filters, ∃ v, f.compile = .error v) ∨ q.LacksPoint ∨
      ∃ f ∈ q.facets, f.measure.Unwritable := by
  constructor
  · rintro ⟨_, (⟨hfirst⟩ | ⟨-, hlacks⟩ | ⟨-, -, hfirst⟩)⟩
    · exact .inl (exists_firstFault_iff.mp ⟨_, hfirst⟩)
    · exact .inr (.inl hlacks)
    · obtain ⟨f, hf, hfault⟩ := exists_firstFault_iff.mp ⟨_, hfirst⟩
      exact .inr (.inr ⟨f, hf, f.measure.unwritable_iff.mpr hfault⟩)
  · intro h
    by_cases hbad : ∃ f ∈ q.filters, ∃ v, f.compile = .error v
    · obtain ⟨v, hfirst⟩ := exists_firstFault_iff.mpr hbad
      exact ⟨_, .filter hfirst⟩
    have hfilters : ∀ f ∈ q.filters, ∃ text, f.compile = .ok text := fun f hf ↦
      exists_eq_ok_iff.mpr fun v hv ↦ hbad ⟨f, hf, v, hv⟩
    by_cases hlacks : q.LacksPoint
    · exact ⟨_, .sort hfilters hlacks⟩
    obtain ⟨f, hf, hunwritable⟩ := (h.resolve_left hbad).resolve_left hlacks
    have hfault : ∃ f ∈ q.facets, ∃ v, f.measure.Fault v :=
      ⟨f, hf, f.measure.unwritable_iff.mp hunwritable⟩
    obtain ⟨v, hfirst⟩ := exists_firstFault_iff.mpr hfault
    exact ⟨_, .facet hfilters hlacks hfirst⟩

/-- **When a query has no request.** Rendering fails exactly if a filter does not compile, if the
results are to be sorted by a distance that cannot be measured, or if a facet counts a range that
cannot be written. What is reported is the fault of the first such filter; if all filters compile,
the missing point; and otherwise the fault of the first such facet. An index that is named instead
of found by the language makes no difference. -/
theorem refused_iff_unsendable (q : Query) (b : Backend) (index : String) :
    ((∃ e, q.request b = .error e) ↔
      (∃ f ∈ q.filters, ∃ v, f.compile = .error v) ∨
        (q.referencePoint = none ∧ ∃ c ∈ q.sort, c.key = .distance) ∨
        ∃ f ∈ q.facets, f.measure.Unwritable) ∧
    (∀ e, q.request b = .error e ↔ q.Unsendable e) ∧
    ∀ e, SelectQuery.request { index, query := q } b = .error e ↔ q.Unsendable e := by
  refine ⟨?_, fun e ↦ requestFor_eq_error_iff, fun e ↦ requestFor_eq_error_iff⟩
  simp only [request, requestFor_eq_error_iff]
  exact exists_unsendable_iff

end Query

end FacetedSearch
