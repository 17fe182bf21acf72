import FacetedSearch.Payload.Filter
import FacetedSearch.Proofs.Calendar.Timestamps
import FacetedSearch.Proofs.Payload.Outcome
import FacetedSearch.Proofs.Period.RoundTrip

/-!
# Single values read back

The values that payloads are made of, each with the condition under which it is read back. Texts,
words and periods always are. A timestamp needs a year of four digits. A number needs to be finite,
and for numbers the condition belongs to the key and not to the value: a number that is not finite
is written as `null`, and so its key is missing.

An instant that is within a leap second but not at the end of a minute is no outcome of this kind.
It is read, but as another instant, and so all that is said of instants here is said of those that
`Instant.LeapsAtMinuteEnd` allows. No others are ever read.
-/

namespace FacetedSearch.Payload

open Json

instance : Written Instant.toPayload := ⟨fun _ ↦ rfl⟩

instance : Written Period.toPayload := ⟨fun _ ↦ rfl⟩

instance : Written GeoPoint.toPayload := ⟨fun _ ↦ rfl⟩

theorem readPeriod_string (s : String) : readPeriod (.string s)
    = (Period.parse s).mapError fun e ↦ .malformed [] (.period e) := rfl

theorem readInstant_string (s : String) : readInstant (.string s)
    = (Rfc3339.read s).mapError fun fault ↦ .malformed [] (.timestamp fault) := rfl

theorem readPeriod_toPayload (p : Period) : readPeriod p.toPayload = .ok p := by
  rw [Period.toPayload, readPeriod_string, Period.parse_text]
  rfl

theorem yields_readInstant {t : Instant} (hleap : t.LeapsAtMinuteEnd) :
    Yields (readInstant t.toPayload) t t.HasFourDigitYear := by
  rw [Instant.toPayload, readInstant_string]
  constructor
  · intro h
    rw [Rfc3339.read_text h hleap]
    rfl
  · intro h
    obtain ⟨fault, hfault⟩ := Rfc3339.read_text_of_not h
    rw [hfault]
    exact ⟨_, rfl⟩

theorem readWord_ofWord {α : Type} [Vocabulary α] (a : α) : readWord (ofWord a) = .ok a := by
  change (lookWord (Vocabulary.word a)).mapError _ = _
  rw [lookWord, Vocabulary.ofWord?_word]
  rfl

section Keys

variable {o : Object} {key : String}

theorem yields_optional_instant {x : Option Instant} (hv : o.value? key = x.map Instant.toPayload)
    (hleaps : ∀ t ∈ x, t.LeapsAtMinuteEnd) :
    Yields (optional o key readInstant) x (∀ t ∈ x, t.HasFourDigitYear) :=
  yields_optional hv fun t ht ↦ yields_readInstant (hleaps t ht)

theorem optional_period {x : Option Period} (hv : o.value? key = x.map Period.toPayload) :
    optional o key readPeriod = .ok x :=
  optional_eq_ok hv fun p _ ↦ readPeriod_toPayload p

theorem optional_text {x : Option String} (hv : o.value? key = x.map .string) :
    optional o key readText = .ok x :=
  optional_eq_ok hv fun _ _ ↦ rfl

theorem readRangeField_eq_ok {field : String} (hv : o.value? "field" = some (.string field)) :
    readRangeField o = .ok field := by
  have hread : readText (.string field) = .ok field := rfl
  exact optionalD_eq_ok hv hread _

/-! ## Numbers -/

theorem present?_ofFloat_of_isFinite {x : Float} (h : x.isFinite = true) :
    (ofFloat x).present? = some (.number (.float x h)) := by
  rw [ofFloat, dif_pos h]
  rfl

theorem present?_ofFloat_of_not {x : Float} (h : ¬ x.isFinite = true) :
    (ofFloat x).present? = none := by
  rw [ofFloat, dif_neg h]
  rfl

/-- A number that has to be given is read back if it is finite, and is missing otherwise. -/
theorem yields_required_float {x : Float} (hv : o.value? key = (ofFloat x).present?) :
    Yields (required o key readFloat) x (x.isFinite = true) := by
  constructor
  · intro h
    rw [present?_ofFloat_of_isFinite h] at hv
    exact required_eq_ok hv rfl
  · intro h
    rw [present?_ofFloat_of_not h] at hv
    exact ⟨_, required_eq_error hv⟩

end Keys

theorem yields_readPoint (p : GeoPoint) :
    Yields (readPoint p.toPayload) p
      (p.longitude.isFinite = true ∧ p.latitude.isFinite = true) := by
  have hlng : Object.value? [("lng", ofFloat p.longitude), ("lat", ofFloat p.latitude)] "lng"
      = (ofFloat p.longitude).present? := by simp [Object.value?_cons]
  have hlat : Object.value? [("lng", ofFloat p.longitude), ("lat", ofFloat p.latitude)] "lat"
      = (ofFloat p.latitude).present? := by simp [Object.value?_cons]
  exact (yields_required_float hlng).bind ((yields_required_float hlat).bind_pure _)

end FacetedSearch.Payload
