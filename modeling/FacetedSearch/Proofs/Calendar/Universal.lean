import FacetedSearch.Proofs.Calendar.Carries
import FacetedSearch.Proofs.Calendar.Timestamps
import FacetedSearch.DateMath

/-!
# Local times in universal time

A timestamp gives a local time and how far it is ahead of universal time. The bound that is made
of it shows the local clock moved back by as many minutes, and the seconds without their fraction.
The move carries as the calendar does (`Clock.back`), so that a bound may have another day, month or
year than the timestamp it was read from, and a year that needs a sign.

`Rfc3339.Timestamp` has the timestamps without leap seconds, with the conditions on their parts in
the type. They are read (`Timestamp.read_text`), and what is read is shown as the bound
(`Timestamp.dateMathText_instant`). Bounds are compared through the moments of their timestamps on
the line of time: the same moment has one bound, and the order of moments is that of the texts.
-/

namespace FacetedSearch

open Text (padded padded_append_cons_le length_padded all_isDigit_padded numeralValue
  numeralValue_lt numeralValue_padded)

/-! ## The clock of an instant -/

namespace Instant

/-- Date and minute of an instant. -/
def clock (t : Instant) : Clock :=
  ⟨t.date, t.hour, t.minute, Date.valid_ofDayNumber _, t.hour_lt, t.minute_lt⟩

theorem number_clock (t : Instant) : t.clock.number = t.second / 60 := t.minute_eq

end Instant

namespace Rfc3339

/-! ## Zones -/

/-- The end of a timestamp: a mark for universal time, or a sign with hours and minutes. -/
inductive Zone
  | utc (mark : Char) (mark_mem : mark = 'Z' ∨ mark = 'z')
  | ahead (sign : Char) (hours minutes : Nat)
      (sign_mem : sign = '+' ∨ sign = '-' ∨ sign = '\u2212')
      (hours_lt : hours < 24) (minutes_lt : minutes < 60)

namespace Zone

/-- The characters of a zone. -/
def chars : Zone → List Char
  | utc mark _ => [mark]
  | ahead sign hours minutes _ _ _ => sign :: (padded 2 hours ++ ':' :: padded 2 minutes)

/-- How many minutes the local time is ahead. -/
def offset : Zone → Int
  | utc _ _ => 0
  | ahead sign hours minutes _ _ _ =>
    if sign = '+' then 60 * hours + minutes else -(60 * hours + minutes)

/-- A zone begins with what neither belongs to a fraction nor begins one. -/
theorem exists_chars_eq_cons (z : Zone) :
    ∃ c cs, z.chars = c :: cs ∧ c.isDigit = false ∧ c ≠ '.' := by
  obtain ⟨mark, hmark⟩ | ⟨sign, hours, minutes, hsign, hhours, hminutes⟩ := z
  · refine ⟨mark, [], rfl, ?_⟩
    rcases hmark with rfl | rfl <;> decide
  · refine ⟨sign, _, rfl, ?_⟩
    rcases hsign with rfl | rfl | rfl <;> decide

end Zone

theorem takePair_padded {n : Nat} (hn : n < 100) (cs : List Char) :
    takePair (padded 2 n ++ cs) = .ok (n, cs) := by
  obtain ⟨c, d, hpair⟩ := List.length_eq_two.mp (length_padded (by decide) hn)
  have hdigits := all_isDigit_padded 2 n
  have hvalue := numeralValue_padded 2 n
  rw [hpair] at hdigits hvalue ⊢
  simp only [List.all_cons, List.all_nil, Bool.and_true] at hdigits
  rw [List.cons_append, List.cons_append, List.nil_append, takePair, if_pos hdigits, hvalue]

theorem takeOffset_chars (z : Zone) :
    ∃ o, takeOffset z.chars = .ok (o, []) ∧ o.hours < 24 ∧ o.inMinutes = z.offset := by
  obtain ⟨mark, hmark⟩ | ⟨sign, hours, minutes, hsign, hhours, hminutes⟩ := z
  · exact ⟨⟨false, 0, 0⟩, if_pos hmark, by decide, rfl⟩
  · have hmark : ¬ (sign = 'Z' ∨ sign = 'z') := by
      rcases hsign with rfl | rfl | rfl <;> decide
    have hsize : takeOffsetSize (padded 2 hours ++ ':' :: padded 2 minutes) =
        .ok ((hours, minutes), []) := by
      have hpair := takePair_padded (hminutes.trans (by decide)) []
      rw [List.append_nil] at hpair
      have hlt : ¬ 60 ≤ minutes := by omega
      simp only [takeOffsetSize, takePair_padded (hhours.trans (by decide)), hpair, hlt,
        if_false, bind, Except.bind, pure, Except.pure]
    refine ⟨⟨sign ≠ '+', hours, minutes⟩, ?_, hhours, ?_⟩
    · rw [Zone.chars, takeOffset, if_neg hmark, if_pos hsign, hsize]
      rfl
    · by_cases hplus : sign = '+' <;> simp [Offset.inMinutes, Zone.offset, hplus]

/-! ## Timestamps -/

/-- A timestamp: the local clock, the second with its fraction, the zone, and how it is written. -/
structure Timestamp where
  clock : Clock
  year_nonneg : 0 ≤ clock.date.year
  year_le : clock.date.year ≤ 9999
  /-- What stands between date and time. -/
  separator : Char
  separator_mem : separator = 'T' ∨ separator = 't' ∨ separator = ' '
  second : Nat
  second_lt : second < 60
  /-- The digits behind the point, of any number. Without any there is no point either. -/
  fraction : List Char
  fraction_digits : fraction.all Char.isDigit = true
  zone : Zone

namespace Timestamp

variable (t t' : Timestamp)

/-- The point and the digits of the fraction. -/
def fractionChars : List Char := if t.fraction = [] then [] else '.' :: t.fraction

/-- The timestamp as it is written. -/
def text : String := String.ofList <|
  partsChars t.clock.date.year.toNat t.clock.date.month t.clock.date.day t.separator t.clock.hour
    t.clock.minute t.second (t.fractionChars ++ t.zone.chars)

/-- The clock in universal time. -/
def universal : Clock := t.clock.back t.zone.offset

/-- The bound of date math: universal time to the second. -/
def bound : String :=
  let u := t.universal
  String.ofList <| Instant.yearChars u.date.year ++ '-' :: (padded 2 u.date.month ++ '-' ::
    (padded 2 u.date.day ++ 'T' :: (padded 2 u.hour ++ ':' :: (padded 2 u.minute ++ ':' ::
      (padded 2 t.second ++ ['Z'])))))

/-- The moment in seconds from the beginning of 1970, with the fraction in full. -/
def moment : ℚ :=
  60 * (t.clock.number - t.zone.offset) + t.second +
    numeralValue t.fraction / 10 ^ t.fraction.length

/-! ### Reading -/

theorem takeFraction_chars : takeFraction (t.fractionChars ++ t.zone.chars) =
    .ok (fractionValue t.fraction, t.zone.chars) := by
  obtain ⟨c, cs, hzone, hdigit, hdot⟩ := t.zone.exists_chars_eq_cons
  rw [hzone]
  by_cases h : t.fraction = []
  · have hzero : fractionValue t.fraction = 0 := by rw [h]; decide
    rw [fractionChars, if_pos h, List.nil_append, hzero]
    simp [takeFraction, hdot]
  · rw [fractionChars, if_neg h, List.cons_append]
    refine takeFraction_digits t.fraction_digits h ?_
    rintro c' ⟨⟩
    exact hdigit

/-- The instant that is read. -/
def instant : Instant :=
  Rfc3339.instant t.clock.date t.clock.hour t.clock.minute t.second (fractionValue t.fraction)
    t.zone.offset

/-- A timestamp is read as the instant of its parts. -/
theorem read_text : read t.text = .ok t.instant := by
  have hyear : (t.clock.date.year.toNat : Int) = t.clock.date.year :=
    Int.toNat_of_nonneg t.year_nonneg
  have hdate : (⟨t.clock.date.year.toNat, t.clock.date.month, t.clock.date.day⟩ : Date) =
      t.clock.date := by rw [hyear]
  have hvalid : Date.Valid ⟨t.clock.date.year.toNat, t.clock.date.month, t.clock.date.day⟩ := by
    rw [hdate]
    exact t.clock.valid
  have hyear9999 := t.year_le
  obtain ⟨o, hoffset, hhours, ho⟩ := takeOffset_chars t.zone
  rw [text, read_partsChars (by omega) hvalid t.separator_mem
    ⟨t.clock.hour_lt, t.clock.minute_lt, t.second_lt.le⟩ t.takeFraction_chars hoffset hhours, hdate,
    ho]
  rfl

/-! ### Bounds -/

theorem second_instant : t.instant.second = 60 * t.universal.number + t.second := by
  have hne : t.second ≠ 60 := t.second_lt.ne
  rw [universal, Clock.number_back, Clock.number, instant, Rfc3339.instant, if_neg hne]

/-- The clock of the instant is the local clock moved back. -/
theorem clock_instant : t.instant.clock = t.universal := by
  have hlt := t.second_lt
  apply Clock.eq_of_number_eq
  rw [Instant.number_clock, second_instant]
  omega

theorem secondOfMinute_instant : t.instant.secondOfMinute = t.second := by
  have hlt := t.second_lt
  have hne : t.second ≠ 60 := hlt.ne
  have hsecond := t.second_instant
  have hnanosecond : t.instant.nanosecond < 1000000000 := by
    rw [instant, Rfc3339.instant, if_neg hne]
    exact (fractionValue t.fraction).isLt
  rw [Instant.secondOfMinute, if_neg (by omega)]
  omega

theorem dateMathText_instant : t.instant.dateMathText = t.bound := by
  have hclock := t.clock_instant
  have hdate : t.instant.date = t.universal.date := congrArg Clock.date hclock
  have hhour : t.instant.hour = t.universal.hour := congrArg Clock.hour hclock
  have hminute : t.instant.minute = t.universal.minute := congrArg Clock.minute hclock
  simp only [Instant.dateMathText, Instant.clockChars, hdate, hhour, hminute,
    secondOfMinute_instant, bound, List.append_assoc, List.cons_append]

/-! ### Moments -/

variable {t t'}

/-- A fraction never makes up for a second. -/
theorem le_of_moment_le (h : t.moment ≤ t'.moment) :
    60 * t.universal.number + t.second ≤ 60 * t'.universal.number + t'.second := by
  have hfraction (t : Timestamp) :
      0 ≤ (numeralValue t.fraction / 10 ^ t.fraction.length : ℚ) ∧
        (numeralValue t.fraction / 10 ^ t.fraction.length : ℚ) < 1 := by
    have hlt : (numeralValue t.fraction : ℚ) < 10 ^ t.fraction.length := by
      exact_mod_cast numeralValue_lt t.fraction_digits
    exact ⟨by positivity, (div_lt_one (by positivity)).mpr hlt⟩
  have hlow := (hfraction t).1
  have hhigh := (hfraction t').2
  simp only [moment] at h
  have hlt : 60 * (t.clock.number - t.zone.offset) + t.second <
      60 * (t'.clock.number - t'.zone.offset) + t'.second + 1 := by
    have hrat : (60 * (t.clock.number - t.zone.offset) + t.second : ℚ) <
        60 * (t'.clock.number - t'.zone.offset) + t'.second + 1 := by linarith
    exact_mod_cast hrat
  rw [universal, universal, Clock.number_back, Clock.number_back]
  omega

theorem bound_eq_of_moment_eq (h : t.moment = t'.moment) : t.bound = t'.bound := by
  have hle := le_of_moment_le h.le
  have hge := le_of_moment_le h.ge
  have hlt := t.second_lt
  have hlt' := t'.second_lt
  have hclock : t.universal = t'.universal := Clock.eq_of_number_eq (by omega)
  have hsecond : t.second = t'.second := by
    rw [hclock] at hle hge
    omega
  rw [bound, bound, hclock, hsecond]

theorem bound_le_of_moment_le (h : t.moment ≤ t'.moment)
    (hyear : 0 ≤ t.universal.date.year ∧ t.universal.date.year ≤ 9999)
    (hyear' : 0 ≤ t'.universal.date.year ∧ t'.universal.date.year ≤ 9999) :
    t.bound ≤ t'.bound := by
  have hparts := Clock.before_or_of_number_le t'.second_lt (le_of_moment_le h)
  have hsecond := t.second_lt
  have hsecond' := t'.second_lt
  simp only [String.le_iff_toList_le, bound, String.toList_ofList, Instant.yearChars, hyear, hyear',
    and_self, if_true]
  generalize t.universal = u at hyear hparts ⊢
  generalize t'.universal = u' at hyear' hparts ⊢
  obtain ⟨hmonth, hmonth'⟩ := And.intro u.valid.1.2 u'.valid.1.2
  have hday := u.valid.2.2.trans (Date.daysInMonth_le _ _)
  have hday' := u'.valid.2.2.trans (Date.daysInMonth_le _ _)
  obtain ⟨hhour, hhour'⟩ := And.intro u.hour_lt u'.hour_lt
  obtain ⟨hminute, hminute'⟩ := And.intro u.minute_lt u'.minute_lt
  -- date and time as one comparison, in which a part decides if all parts before it are the same
  have hlex : u.date.year.toNat < u'.date.year.toNat ∨
      u.date.year.toNat = u'.date.year.toNat ∧
        (u.date.month < u'.date.month ∨ u.date.month = u'.date.month ∧
          (u.date.day < u'.date.day ∨ u.date.day = u'.date.day ∧
            (u.hour < u'.hour ∨ u.hour = u'.hour ∧
              (u.minute < u'.minute ∨ u.minute = u'.minute ∧ t.second ≤ t'.second)))) := by
    rcases hparts with hdate | ⟨hdate, hclock⟩
    · rw [Date.Before] at hdate
      omega
    · rw [hdate]
      omega
  refine padded_append_cons_le (by decide) (by omega) (by omega) '-' ?_
  refine hlex.imp_right (And.imp_right fun hlex ↦ ?_)
  refine padded_append_cons_le (by decide) (by omega) (by omega) '-' ?_
  refine hlex.imp_right (And.imp_right fun hlex ↦ ?_)
  refine padded_append_cons_le (by decide) (by omega) (by omega) 'T' ?_
  refine hlex.imp_right (And.imp_right fun hlex ↦ ?_)
  refine padded_append_cons_le (by decide) (by omega) (by omega) ':' ?_
  refine hlex.imp_right (And.imp_right fun hlex ↦ ?_)
  refine padded_append_cons_le (by decide) (by omega) (by omega) ':' ?_
  refine hlex.imp_right (And.imp_right fun hlex ↦ ?_)
  exact padded_append_cons_le (by decide) (by omega) (by omega) 'Z'
    (hlex.lt_or_eq.imp_right fun heq ↦ ⟨heq, le_refl _⟩)

end Timestamp

end Rfc3339

end FacetedSearch
