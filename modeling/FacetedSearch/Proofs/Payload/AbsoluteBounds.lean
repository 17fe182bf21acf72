import FacetedSearch.Proofs.Calendar.Universal
import FacetedSearch.Proofs.Payload.Mirrors

/-!
# The bounds of a described range

From a document with the tag `absoluteDateRange` to the text that the backend is asked for. The
document gives its ends as timestamps of any zone, and the range is written with the bounds of these
in universal time. An end that is left out or `null` is open, and everything else in the document,
its key and its field, has no influence on the bounds.

That the bounds of timestamps are the same for the same moment, and follow the order of moments, is
a property of the bounds alone. Together with the first it says that ranges do not depend on the
zone that their ends were given in.
-/

namespace FacetedSearch

open Json
open DateMath (rangeText)

/-- A timestamp and the text of its bound. Any other text that is read as an instant, such as one
with a leap second, has the bound of that instant. -/
def Json.BoundOf (v : Json) (bound : String) : Prop :=
  (∃ t : Rfc3339.Timestamp, v = .string t.text ∧ t.bound = bound) ∨
    ∃ i, InstantOf v i ∧ i.dateMathText = bound

theorem Json.boundOf_iff {v : Json} {bound : String} :
    BoundOf v bound ↔ ∃ i, InstantOf v i ∧ i.dateMathText = bound := by
  constructor
  · rintro (⟨t, rfl, rfl⟩ | h)
    · exact ⟨t.instant, ⟨t.text, rfl, t.read_text⟩, t.dateMathText_instant⟩
    · exact h
  · exact .inr

theorem Json.Object.Gives.exists_instant {o : Object} {key : String} {bound : Option String}
    (h : o.Gives key BoundOf bound) :
    ∃ i : Option Instant, o.Gives key InstantOf i ∧ i.map Instant.dateMathText = bound := by
  cases bound with
  | none => exact ⟨none, h, rfl⟩
  | some bound =>
    obtain ⟨v, hlookup, hv⟩ := h
    obtain ⟨i, hi, hbound⟩ := boundOf_iff.mp hv
    exact ⟨some i, ⟨v, hlookup, hi⟩, congrArg some hbound⟩

theorem DateRange.compile_of_bounded {r : DateRange} (h : r.lower ≠ none ∨ r.upper ≠ none) :
    r.compile = .ok (rangeText r.field (r.lower.map Instant.dateMathText)
      (r.upper.map Instant.dateMathText)) := by
  refine if_neg ?_
  rw [Bool.and_eq_true, Option.isNone_iff_eq_none, Option.isNone_iff_eq_none]
  tauto

namespace Filter

/-- **Ends of a range are written in universal time.** A document with an end is read, and its
filter asks for the range between the bounds of its ends. Bounds depend on the moment of a timestamp
only, and where their years have four digits, a later moment has no smaller text. -/
theorem bounds_in_universal_time :
    (∀ (o : Object) (key field lower upper : Option String),
      o.lookup "type" = some (.string "absoluteDateRange") → o.Gives "key" TextOf key →
      o.Gives "field" TextOf field → o.Gives "from" BoundOf lower → o.Gives "to" BoundOf upper →
      lower ≠ none ∨ upper ≠ none →
      ∃ f, ofPayload (.object o) = .ok f ∧
        f.compile = .ok (rangeText (field.getD Field.dateList) lower upper)) ∧
    (∀ t t' : Rfc3339.Timestamp, t.moment = t'.moment → t.bound = t'.bound) ∧
    ∀ t t' : Rfc3339.Timestamp, t.moment ≤ t'.moment →
      (0 ≤ t.universal.date.year ∧ t.universal.date.year ≤ 9999) →
      (0 ≤ t'.universal.date.year ∧ t'.universal.date.year ≤ 9999) → t.bound ≤ t'.bound := by
  refine ⟨fun o key field lower upper htype hkey hfield hlower hupper hends ↦ ?_,
    fun _ _ ↦ Rfc3339.Timestamp.bound_eq_of_moment_eq,
    fun _ _ ↦ Rfc3339.Timestamp.bound_le_of_moment_le⟩
  obtain ⟨first, hfirst, rfl⟩ := hlower.exists_instant
  obtain ⟨last, hlast, rfl⟩ := hupper.exists_instant
  have hends' : first ≠ none ∨ last ≠ none := by simpa using hends
  have hmirrors : (Condition.dateRange ⟨field.getD Field.dateList, first, last⟩).Mirrors o :=
    ⟨htype, hfirst, hlast, field, hfield, rfl⟩
  refine ⟨test key (.dateRange ⟨field.getD Field.dateList, first, last⟩),
    ofPayload_eq_test_iff.mpr ⟨hkey, hmirrors⟩, ?_⟩
  rw [compile]
  exact DateRange.compile_of_bounded hends'

/-- Half an hour into March, an hour ahead of universal time, it is still the leap day there. -/
theorem bounds_in_universal_time_leap_day :
    ∃ f, ofPayload (.object [("type", .string "absoluteDateRange"),
        ("from", .string "2000-03-01T00:30:00.999+01:00")]) = .ok f ∧
      f.compile = .ok "sp_date_list:[2000-02-29T23:30:00Z TO *]" := by
  let clock : Clock := ⟨⟨2000, 3, 1⟩, 0, 30, by decide, by decide, by decide⟩
  let t : Rfc3339.Timestamp :=
    { clock, year_nonneg := by decide, year_le := by decide, separator := 'T'
      separator_mem := .inl rfl, second := 0, second_lt := by decide, fraction := "999".toList
      fraction_digits := by decide, zone := .ahead '+' 1 0 (.inl rfl) (by decide) (by decide) }
  have htext : t.text = "2000-03-01T00:30:00.999+01:00" := by decide
  have hbound : t.bound = "2000-02-29T23:30:00Z" := by decide +kernel
  exact bounds_in_universal_time.1 _ none none (some _) none rfl (.inl rfl) (.inl rfl)
    ⟨_, rfl, .inl ⟨t, congrArg Json.string htext.symm, hbound⟩⟩ (.inl rfl) (.inl nofun)

end Filter

end FacetedSearch
