import FacetedSearch.DateRange
import FacetedSearch.Proofs.DateMath.Offsets

/-!
# Ranges that cannot be written

Filters select by ranges of dates and facets count them, and both fail for the same two reasons. A
range that is open at both ends is refused whatever else there is to it. Otherwise its periods are
written one after the other, and the first with a time is refused, since only days can be counted.
`RangeFault` says this of the two things that matter about a range: its field, if it is open, and
the periods that are written for it.

That periods are written in an order is `FailsFor`, which is closed under doing one thing after
another.
-/

namespace FacetedSearch

/-! ## Faults -/

/-- The field of a range that is open at both ends. -/
def DateRange.openField? (r : DateRange) : Option String :=
  if r.lower.isNone && r.upper.isNone then some r.field else none

/-- The field of a range that is open at both ends. -/
def RelativeRange.openField? (r : RelativeRange) : Option String :=
  if r.before.isNone && r.after.isNone then some r.field else none

theorem DateRange.isSome_openField?_iff {r : DateRange} :
    r.openField?.isSome = true ↔ r.lower = none ∧ r.upper = none := by
  rw [openField?, Option.isSome_ite, Bool.and_eq_true, Option.isNone_iff_eq_none,
    Option.isNone_iff_eq_none]

theorem RelativeRange.isSome_openField?_iff {r : RelativeRange} :
    r.openField?.isSome = true ↔ r.before = none ∧ r.after = none := by
  rw [openField?, Option.isSome_ite, Bool.and_eq_true, Option.isNone_iff_eq_none,
    Option.isNone_iff_eq_none]

/-- What a range is refused for. -/
inductive RangeFault (openField? : Option String) (periods : List Period) : Violation → Prop
  | unbounded {field : String} (is_open : openField? = some field) :
      RangeFault openField? periods (.missingDateRangeBound field)
  | timed {p : Period} (bounded : openField? = none)
      (first : periods.find? Period.hasTime = some p) :
      RangeFault openField? periods (.unsupportedPeriodUnit p)

theorem exists_rangeFault_iff {openField? : Option String} {periods : List Period} :
    (∃ v, RangeFault openField? periods v) ↔
      openField?.isSome = true ∨ ∃ p ∈ periods, p.hasTime = true := by
  constructor
  · rintro ⟨_, @⟨field, hopen⟩ | @⟨p, -, hfirst⟩⟩
    · exact .inl (Option.isSome_iff_exists.mpr ⟨field, hopen⟩)
    · exact .inr ⟨p, List.mem_of_find?_eq_some hfirst, List.find?_some hfirst⟩
  · intro h
    rcases openField? with _ | field
    · have htimed : (periods.find? Period.hasTime).isSome = true := by
        simpa [List.find?_isSome] using h
      obtain ⟨p, hp⟩ := Option.isSome_iff_exists.mp htimed
      exact ⟨_, .timed rfl hp⟩
    · exact ⟨_, .unbounded rfl⟩

/-! ## Writing periods -/

/-- The result fails exactly if one of the periods has a time, and for the first of these. -/
def FailsFor {α : Type} (r : Except Violation α) (ps : List Period) : Prop :=
  ∀ v, r = .error v ↔ ∃ p, ps.find? Period.hasTime = some p ∧ v = .unsupportedPeriodUnit p

section FailsFor

variable {α β : Type} {r : Except Violation α} {ps ps' : List Period}

theorem failsFor_ok (a : α) : FailsFor (.ok a) [] := by simp [FailsFor]

theorem failsFor_offsetText (p : Period) (sign : DateMath.Sign) :
    FailsFor (p.offsetText sign) [p] := by
  intro v
  rw [Period.offsetText_eq_error_iff]
  by_cases hp : p.hasTime = true <;> simp [hp]

/-- Periods that are written one after the other. -/
theorem FailsFor.bind {k : α → Except Violation β} (h : FailsFor r ps)
    (hk : ∀ a, FailsFor (k a) ps') : FailsFor (r >>= k) (ps ++ ps') := by
  intro v
  rw [bind_eq_error_iff, List.find?_append, h v]
  cases hfirst : ps.find? Period.hasTime with
  | some p =>
    have hnot (a : α) : r ≠ .ok a := by
      rw [(h _).mpr ⟨p, hfirst, rfl⟩]
      simp
    simp [hnot]
  | none =>
    obtain ⟨a, ha⟩ : ∃ a, r = .ok a := exists_eq_ok_iff.mpr fun e he ↦ by
      obtain ⟨p, hp, -⟩ := (h e).mp he
      rw [hfirst] at hp
      cases hp
    simp [ha, hk a v]

theorem FailsFor.bind_pure (h : FailsFor r ps) (f : α → β) :
    FailsFor (r >>= fun a ↦ pure (f a)) ps := by
  have hbind := h.bind fun a ↦ failsFor_ok (f a)
  rwa [List.append_nil] at hbind

/-- What fails for the lack of ends, and otherwise for its periods, fails as the range is at
fault. -/
theorem eq_error_iff_rangeFault {openField? : Option String}
    (hopen : ∀ field ∈ openField?, r = .error (.missingDateRangeBound field))
    (hbounded : openField? = none → FailsFor r ps) (v : Violation) :
    r = .error v ↔ RangeFault openField? ps v := by
  rcases openField? with _ | field
  · rw [hbounded rfl v]
    constructor
    · rintro ⟨p, hp, rfl⟩
      exact .timed rfl hp
    · rintro (⟨⟨⟩⟩ | @⟨p, -, hp⟩)
      exact ⟨p, hp, rfl⟩
  · rw [hopen field rfl, Except.error.injEq]
    constructor
    · rintro rfl
      exact .unbounded rfl
    · rintro (⟨⟨⟩⟩ | ⟨⟨⟩, -⟩)
      rfl

end FailsFor

/-! ## Ranges that are selected -/

namespace DateRange

variable {r : DateRange}

theorem compile_of_open :
    ∀ field ∈ r.openField?, r.compile = .error (.missingDateRangeBound field) := by
  intro field hfield
  rw [openField?] at hfield
  rw [compile]
  split at hfield
  · next hends =>
    cases hfield
    exact if_pos hends
  · cases hfield

theorem failsFor_compile (bounded : r.openField? = none) : FailsFor r.compile [] := by
  rw [openField?] at bounded
  rw [compile]
  split at bounded
  · cases bounded
  · next hends =>
    rw [if_neg hends]
    exact failsFor_ok _

end DateRange

namespace RelativeRange

variable {r : RelativeRange}

theorem compile_of_open :
    ∀ field ∈ r.openField?, r.compile = .error (.missingDateRangeBound field) := by
  intro field hfield
  obtain ⟨range, before, after⟩ := r
  rcases before with _ | before
  · rcases after with _ | after
    · cases hfield
      rfl
    · cases hfield
  · cases hfield

private theorem failsFor_dayStart (p : Period) : FailsFor (dayStart p) [p] :=
  (failsFor_offsetText p .minus).bind_pure _

theorem failsFor_compile (bounded : r.openField? = none) :
    FailsFor r.compile (r.before.toList ++ r.after.toList) := by
  obtain ⟨field, before, after⟩ := r
  rcases before with _ | before
  · rcases after with _ | after
    · cases bounded
    · exact (failsFor_dayStart after).bind_pure _
  · rcases after with _ | after
    · exact (failsFor_dayStart before).bind_pure _
    · exact (failsFor_dayStart before).bind fun _ ↦ (failsFor_dayStart after).bind_pure _

end RelativeRange

end FacetedSearch
