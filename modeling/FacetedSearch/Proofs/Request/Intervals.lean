import FacetedSearch.Proofs.Filter.Faults
import FacetedSearch.Proofs.Request.Counts
import FacetedSearch.Proofs.Request.Refusals

/-!
# The interval that is counted

One range of dates is written in three ways: as a filter, as the query of a single count, and as a
start and an end between which a gap makes buckets. Counts that are shown beside a filter are only
worth something if the three mean the same interval.

All three come from the two ends of the range. For a fixed range these are its bounds. The ends of a
relative range depend on how they are rounded (`RelativeRange.ends`), and the filter is one choice
of roundings among others (`RelativeRange.compile_eq_ends`): it begins at the beginning of a day,
and it ends at the end of today or, if the range ends before today, at the beginning of a day. The
rounding stands at the very end of a bound, so that no other choice is written the same
(`RelativeRange.rangeText_inj`).
-/

namespace FacetedSearch

open DateMath (now rangeText)
open Facet (Param keyed queryParam rangeParam rangeLocals)

/-! ## The ends of a relative range -/

namespace RelativeRange

variable {r : RelativeRange} {roundStart roundEnd : Rounding}

/-- Both ends of a counted range. -/
def ends (r : RelativeRange) (roundStart roundEnd : Rounding) :
    Except Violation (String × String) := do
  let start ← r.startText roundStart
  let stop ← r.endText roundEnd
  return (start, stop)

/-- How the end of a range is rounded where the range is a filter. -/
def selectedEnd (r : RelativeRange) : Rounding :=
  if r.after = none then .endOfDay else .startOfDay

theorem ends_of_bounded (bounded : r.openField? = none) : r.ends roundStart roundEnd = (do
    let start ← boundary r.before roundStart
    let stop ← boundary r.after roundEnd
    return (start, stop)) := by
  rw [ends, startText, endText, ensureBounded_of_bounded bounded]
  rfl

theorem ends_eq_error_iff {v : Violation} : r.ends roundStart roundEnd = .error v ↔
    RangeFault r.openField? (r.before.toList ++ r.after.toList) v := by
  refine eq_error_iff_rangeFault (fun field hopen ↦ ?_) (fun bounded ↦ ?_) v
  · rw [ends, startText, ensureBounded_of_open hopen]
    rfl
  · rw [ends_of_bounded bounded]
    exact (failsFor_boundary r.before roundStart).bind fun start ↦
      (failsFor_boundary r.after roundEnd).bind_pure _

/-- An end consists of the present, an offset that depends on the period alone, and the rounding. -/
theorem exists_offset_of_boundary {period : Option Period} {rounding : Rounding} {s : String}
    (h : boundary period rounding = .ok s) :
    ∃ offset, ∀ rounding', boundary period rounding' = .ok (now ++ offset ++ rounding'.text) := by
  rcases period with _ | p
  · exact ⟨"", fun _ ↦ rfl⟩
  · obtain ⟨offset, hoffset, -⟩ := bind_eq_ok_iff.mp h
    exact ⟨offset, fun _ ↦ bind_eq_ok_iff.mpr ⟨offset, hoffset, rfl⟩⟩

/-- The rounding of an end is all that the two choices of roundings change. -/
theorem exists_offsets_of_ends {e : String × String} (h : r.ends roundStart roundEnd = .ok e) :
    ∃ before after, ∀ roundStart' roundEnd', r.ends roundStart' roundEnd' =
      .ok (now ++ before ++ roundStart'.text, now ++ after ++ roundEnd'.text) := by
  have bounded : r.openField? = none := by
    rw [Option.eq_none_iff_forall_ne_some]
    intro field hopen
    rw [ends_eq_error_iff.mpr (.unbounded hopen)] at h
    cases h
  rw [ends_of_bounded bounded] at h
  obtain ⟨start, hstart, h⟩ := bind_eq_ok_iff.mp h
  obtain ⟨stop, hstop, -⟩ := bind_eq_ok_iff.mp h
  obtain ⟨before, hbefore⟩ := exists_offset_of_boundary hstart
  obtain ⟨after, hafter⟩ := exists_offset_of_boundary hstop
  refine ⟨before, after, fun roundStart' roundEnd' ↦ ?_⟩
  rw [ends_of_bounded bounded, hbefore, hafter]
  rfl

theorem compile_eq_ends (r : RelativeRange) : r.compile =
    r.ends .startOfDay r.selectedEnd >>= fun e ↦
      pure (rangeText r.field (some e.1) (some e.2)) := by
  obtain ⟨field, _ | before, _ | after⟩ := r
  · rfl
  all_goals
    rw [ends_of_bounded rfl]
    simp only [bind_assoc, pure_bind]
    rfl

/-- Ranges of the same offsets are written differently if one of their roundings is different. -/
theorem rangeText_inj {field start stop : String} {roundStart' roundEnd' : Rounding} :
    rangeText field (some (now ++ start ++ roundStart.text)) (some (now ++ stop ++ roundEnd.text)) =
        rangeText field (some (now ++ start ++ roundStart'.text))
          (some (now ++ stop ++ roundEnd'.text)) ↔
      roundStart = roundStart' ∧ roundEnd = roundEnd' := by
  have hspace (x : Rounding) : ' ' ∉ x.text.toList := by cases x <;> decide
  have hinj {x y : Rounding} (h : x.text.toList = y.text.toList) : x = y := by
    revert h
    cases x <;> cases y <;> decide
  have hto : " TO ".toList = ' ' :: "TO ".toList := rfl
  constructor
  · intro h
    have hchars := congrArg String.toList h
    simp only [rangeText, Option.getD_some, String.toList_append, List.append_assoc,
      List.append_cancel_left_eq, hto, List.cons_append] at hchars
    -- the first rounding ends at the space in front of the second bound
    obtain ⟨hstart, hrest⟩ := Text.append_cons_inj (hspace roundStart) (hspace roundStart') hchars
    rw [List.append_cancel_left_eq, List.append_cancel_left_eq, List.append_cancel_left_eq,
      List.append_cancel_right_eq] at hrest
    exact ⟨hinj hstart, hinj hrest⟩
  · rintro ⟨rfl, rfl⟩
    rfl

end RelativeRange

/-! ## What the backend is asked for -/

namespace Facet

variable {b : Backend} {f : Facet} {key : String} {excludeFilter : Option String}

/-- The backend finds a query in the parameter, with the key and the exclusion of its count. -/
structure CountsQuery (key : String) (excludeFilter : Option String) (query : String)
    (p : Param) : Prop where
  name : p.1 = "facet.query"
  read : LocalParams.read p.2 = some (keyed key excludeFilter, query)

/-- The backend finds a field in the parameter, and in front of it, behind key and exclusion, where
its buckets begin and end and how wide they are. -/
structure CountsBuckets (key : String) (excludeFilter : Option String)
    (field start stop width : String) (p : Param) : Prop where
  name : p.1 = "facet.range"
  read : LocalParams.read p.2 = some
    ((((keyed key excludeFilter).add "facet.range.start" start).add "facet.range.end" stop).add
      "facet.range.gap" width, field)

private theorem parts_ne_nil {p : LocalParams} (hkey : p.values "key" = [key]) : p.parts ≠ [] :=
  LocalParams.parts_ne_nil_of_values (hkey ▸ List.mem_singleton_self key)

theorem countsQuery_queryParam (key : String) (excludeFilter : Option String) (query : String) :
    CountsQuery key excludeFilter query (queryParam key excludeFilter query) :=
  ⟨rfl, LocalParams.read_wrap (readable_keyed key excludeFilter)
    (parts_ne_nil (values_keyed_key key excludeFilter)) query⟩

theorem countsBuckets_rangeParam (f : Facet) (field start stop width : String) :
    CountsBuckets f.key f.excludeFilter field start stop width
      (rangeParam f field start stop width) := by
  have hkey : (rangeLocals f start stop width).values "key" = [f.key] := by simp [rangeLocals]
  exact ⟨rfl, LocalParams.read_wrap (readable_rangeLocals f start stop width) (parts_ne_nil hkey)
    field⟩

/-! ## One count and many buckets -/

/-- The same range of a field, counted as a whole and per bucket of a gap. -/
structure SameInterval (key : String) (excludeFilter : Option String) (field : String)
    (gap : Period) (whole buckets : Except Violation (List Param)) : Prop where
  /-- Only the gap can be refused where the range as a whole is not. -/
  fails_iff : ∀ v, buckets = .error v ↔ whole = .error v ∨
    (∃ ps, whole = .ok ps) ∧ (gap.hours ≠ 0 ∨ gap.minutes ≠ 0 ∨ gap.seconds ≠ 0) ∧
      v = .unsupportedPeriodUnit gap
  /-- The buckets lie between the two ends that the query has. -/
  interval : ∀ ps, buckets = .ok ps → ∃ p q start stop width, ps = [p] ∧ whole = .ok [q] ∧
    CountsBuckets key excludeFilter field start stop width p ∧ gap.addText = .ok width ∧
    CountsQuery key excludeFilter (rangeText field (some start) (some stop)) q

/-- Two ends make one interval, whatever is made of them. -/
theorem sameInterval_of_ends {e : Except Violation (String × String)} {field : String}
    {gap : Period} {whole buckets : Except Violation (List Param)}
    (hwhole : whole = e >>= fun ends ↦
      pure [queryParam f.key f.excludeFilter (rangeText field (some ends.1) (some ends.2))])
    (hbuckets : buckets = e >>= fun ends ↦ gap.addText >>= fun width ↦
      pure [rangeParam f field ends.1 ends.2 width]) :
    SameInterval f.key f.excludeFilter field gap whole buckets := by
  subst hwhole hbuckets
  constructor
  · intro v
    have hwidth : gap.addText = .error v ↔
        (gap.hours ≠ 0 ∨ gap.minutes ≠ 0 ∨ gap.seconds ≠ 0) ∧ v = .unsupportedPeriodUnit gap := by
      rw [Period.addText, Period.offsetText_eq_error_iff, Period.hasTime_iff]
    simp only [bind_eq_error_iff, bind_eq_ok_iff, hwidth]
    -- the width is written last, so it is to blame only where the ends are written
    rcases e with d | ends <;> simp [pure, Except.pure]
  · intro ps h
    obtain ⟨ends, hends, h⟩ := bind_eq_ok_iff.mp h
    obtain ⟨width, hwidth, hps⟩ := bind_eq_ok_iff.mp h
    cases hps
    exact ⟨_, _, ends.1, ends.2, width, rfl, bind_eq_ok_iff.mpr ⟨ends, hends, rfl⟩,
      countsBuckets_rangeParam f field ends.1 ends.2 width, hwidth,
      countsQuery_queryParam f.key f.excludeFilter _⟩

theorem params_relativeRange_none (b : Backend) (key : String) (excludeFilter : Option String)
    (r : RelativeRange) (roundStart roundEnd : Rounding) :
    params b { key, excludeFilter, measure := .relativeRange r none roundStart roundEnd } =
      r.ends roundStart roundEnd >>= fun e ↦
        pure [queryParam key excludeFilter (rangeText r.field (some e.1) (some e.2))] := by
  simp only [params, relativeRangeParam, RelativeRange.ends, bind_assoc, pure_bind]

theorem sameInterval_relativeRange (b : Backend) (key : String) (excludeFilter : Option String)
    (r : RelativeRange) (gap : Period) (roundStart roundEnd : Rounding) :
    SameInterval key excludeFilter r.field gap
      (params b { key, excludeFilter, measure := .relativeRange r none roundStart roundEnd })
      (params b { key, excludeFilter, measure := .relativeRange r gap roundStart roundEnd }) := by
  refine sameInterval_of_ends
    (f := { key, excludeFilter, measure := .relativeRange r gap roundStart roundEnd })
    (params_relativeRange_none b key excludeFilter r roundStart roundEnd) ?_
  simp only [params, relativeRangeParam, RelativeRange.ends, bind_assoc, pure_bind]

theorem params_dateRange_none (b : Backend) (key : String) (excludeFilter : Option String)
    (r : DateRange) : params b { key, excludeFilter, measure := .dateRange r none } =
      (Filter.test none (.dateRange r)).compile >>= fun text ↦
        pure [queryParam key excludeFilter text] := by
  simp only [params, dateRangeParam, bind_assoc, pure_bind, Filter.compile, Condition.compile]

theorem sameInterval_dateRange (b : Backend) (key : String) (excludeFilter : Option String)
    (field : String) (lower upper : Instant) (gap : Period) :
    SameInterval key excludeFilter field gap
      (params b { key, excludeFilter, measure := .dateRange ⟨field, lower, upper⟩ none })
      (params b { key, excludeFilter, measure := .dateRange ⟨field, lower, upper⟩ gap }) := by
  have hcompile : (Filter.test none (.dateRange ⟨field, lower, upper⟩)).compile =
      .ok (rangeText field (some lower.dateMathText) (some upper.dateMathText)) := by
    simp only [Filter.compile, Condition.compile, DateRange.compile, Option.isNone_some,
      Bool.and_self, Bool.false_eq_true, if_false, Option.map_some]
  refine sameInterval_of_ends (e := pure (lower.dateMathText, upper.dateMathText))
    (f := { key, excludeFilter, measure := .dateRange ⟨field, lower, upper⟩ gap }) ?_ ?_
  · rw [params_dateRange_none, hcompile]
    rfl
  · simp only [params, dateRangeParam, bind_assoc, pure_bind]

/-- What a facet counts as a whole is what a filter selects. -/
structure CountsSelected (key : String) (excludeFilter : Option String)
    (selected : Except Violation String) (counted : Except Violation (List Param)) : Prop where
  error_iff : ∀ v, counted = .error v ↔ selected = .error v
  query : ∀ text, selected = .ok text →
    ∃ p, counted = .ok [p] ∧ CountsQuery key excludeFilter text p

theorem countsSelected_dateRange (b : Backend) (key : String) (excludeFilter : Option String)
    (r : DateRange) : CountsSelected key excludeFilter (Filter.test none (.dateRange r)).compile
      (params b { key, excludeFilter, measure := .dateRange r none }) := by
  rw [params_dateRange_none]
  constructor
  · intro v
    rw [bind_eq_error_iff]
    simp [pure, Except.pure]
  · intro text htext
    exact ⟨_, bind_eq_ok_iff.mpr ⟨text, htext, rfl⟩,
      countsQuery_queryParam key excludeFilter text⟩

/-- Without both ends there are no buckets, and the gap is not even looked at. -/
theorem params_dateRange_of_open (b : Backend) (key : String) (excludeFilter : Option String)
    {r : DateRange} (hopen : r.lower = none ∨ r.upper = none) (gap : Period) :
    params b { key, excludeFilter, measure := .dateRange r gap } =
      params b { key, excludeFilter, measure := .dateRange r none } := by
  obtain ⟨field, _ | lower, _ | upper⟩ := r
  · rfl
  · rfl
  · rfl
  · simp at hopen

/-- **A gap makes buckets and leaves the interval alone.** A relative range, and a fixed one with
both ends, is counted per bucket from the same start to the same end as it is counted as a whole,
and a gap with a time is the only new reason to refuse it. A fixed range without one of its ends is
counted as a whole whatever the gap is. The whole of a fixed range is what a filter selects. -/
theorem gap_keeps_interval (b : Backend) (key : String) (excludeFilter : Option String)
    (gap : Period) :
    (∀ (r : RelativeRange) (roundStart roundEnd : Rounding),
      SameInterval key excludeFilter r.field gap
        (params b { key, excludeFilter, measure := .relativeRange r none roundStart roundEnd })
        (params b { key, excludeFilter, measure := .relativeRange r gap roundStart roundEnd })) ∧
    (∀ (field : String) (lower upper : Instant),
      SameInterval key excludeFilter field gap
        (params b { key, excludeFilter, measure := .dateRange ⟨field, lower, upper⟩ none })
        (params b { key, excludeFilter, measure := .dateRange ⟨field, lower, upper⟩ gap })) ∧
    (∀ r : DateRange, r.lower = none ∨ r.upper = none →
      params b { key, excludeFilter, measure := .dateRange r gap } =
        params b { key, excludeFilter, measure := .dateRange r none }) ∧
    ∀ r : DateRange, CountsSelected key excludeFilter (Filter.test none (.dateRange r)).compile
      (params b { key, excludeFilter, measure := .dateRange r none }) :=
  ⟨fun r ↦ sameInterval_relativeRange b key excludeFilter r gap,
    fun field lower upper ↦ sameInterval_dateRange b key excludeFilter field lower upper gap,
    fun _ hopen ↦ params_dateRange_of_open b key excludeFilter hopen gap,
    countsSelected_dateRange b key excludeFilter⟩

/-- A range without an end is counted as a whole even if its gap could not be written. -/
theorem gap_keeps_interval_open_end :
    let r : DateRange := { lower := some ⟨0, 0, by decide⟩ }
    params {} { key := "recent", measure := .dateRange r (some { hours := 1 }) } =
      params {} { key := "recent", measure := .dateRange r none } :=
  (gap_keeps_interval {} "recent" none { hours := 1 }).2.2.1 _ (.inr rfl)

/-- **A relative range is counted as it is selected for one way of rounding its ends only.** A facet
without a gap and a filter of the same range are refused alike, whatever the rounding is. Otherwise
the count is of the items that the filter selects exactly if the range begins at the beginning of a
day and ends as the filter does: at the end of today, or at the beginning of an earlier day. -/
theorem counted_as_selected_iff (b : Backend) (key : String) (excludeFilter : Option String)
    (r : RelativeRange) (roundStart roundEnd : Rounding) :
    let counted :=
      params b { key, excludeFilter, measure := .relativeRange r none roundStart roundEnd }
    let selected := (Filter.test none (.relativeRange r)).compile
    (∀ v, counted = .error v ↔ selected = .error v) ∧
      ∀ text, selected = .ok text → ∃ p query, counted = .ok [p] ∧
        CountsQuery key excludeFilter query p ∧
        (query = text ↔ roundStart = .startOfDay ∧
          roundEnd = if r.after = none then .endOfDay else .startOfDay) := by
  have hcounted := params_relativeRange_none b key excludeFilter r roundStart roundEnd
  have hselected : (Filter.test none (.relativeRange r)).compile = _ := r.compile_eq_ends
  rw [hcounted, hselected]
  constructor
  · intro v
    simp [bind_eq_error_iff, RelativeRange.ends_eq_error_iff, pure, Except.pure]
  · intro text htext
    obtain ⟨e, hends, -⟩ := bind_eq_ok_iff.mp htext
    obtain ⟨before, after, hends⟩ := RelativeRange.exists_offsets_of_ends hends
    rw [hends] at htext ⊢
    cases htext
    exact ⟨_, _, rfl, countsQuery_queryParam key excludeFilter _, RelativeRange.rangeText_inj⟩

end Facet

end FacetedSearch
