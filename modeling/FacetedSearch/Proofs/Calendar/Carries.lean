import FacetedSearch.Proofs.Calendar.Date
import Mathlib.Order.Monotone.Basic

/-!
# The calendar as a counter

A clock that is moved by one minute carries: into the hour, the day, the month and the year, with
months of their own lengths and a leap day where the year has one. `Clock.next` and `Clock.previous`
say this in the words of the calendar, without a day number, and moving by any number of minutes is
nothing but repeating them.

The count of days agrees with this. A step to the next date adds one to the day number
(`Date.dayNumber_next`), and an earlier date has a smaller number (`Date.dayNumber_lt_of_before`).
So no two dates of the calendar share a number. Minutes inherit both, and a clock is determined by
its number.
-/

namespace FacetedSearch

namespace Date

variable {d d' : Date}

/-! ## Steps of a day -/

/-- The date after a date. -/
def next (d : Date) : Date :=
  if d.day < daysInMonth d.year d.month then { d with day := d.day + 1 }
  else if d.month < 12 then ⟨d.year, d.month + 1, 1⟩
  else ⟨d.year + 1, 1, 1⟩

/-- The date before a date. -/
def previous (d : Date) : Date :=
  if 1 < d.day then { d with day := d.day - 1 }
  else if 1 < d.month then ⟨d.year, d.month - 1, daysInMonth d.year (d.month - 1)⟩
  else ⟨d.year - 1, 12, 31⟩

theorem one_le_daysInMonth (year : Int) (month : Nat) : 1 ≤ daysInMonth year month := by
  unfold daysInMonth
  split
  · split <;> decide
  all_goals decide

theorem Valid.next (h : d.Valid) : d.next.Valid := by
  obtain ⟨⟨hmonth, hmonth12⟩, hday, hlast⟩ := h
  rw [Date.next]
  split
  · next hlt => exact ⟨⟨hmonth, hmonth12⟩, Nat.le_add_left 1 d.day, hlt⟩
  split
  · next hlt => exact ⟨⟨Nat.le_add_left 1 d.month, hlt⟩, le_refl 1, one_le_daysInMonth _ _⟩
  · exact ⟨⟨le_refl 1, by norm_num⟩, le_refl 1, one_le_daysInMonth _ _⟩

theorem Valid.previous (h : d.Valid) : d.previous.Valid := by
  obtain ⟨⟨hmonth, hmonth12⟩, hday, hlast⟩ := h
  rw [Date.previous]
  split
  · next hlt => exact ⟨⟨hmonth, hmonth12⟩, Nat.le_sub_one_of_lt hlt, (Nat.sub_le _ _).trans hlast⟩
  split
  · next hlt => exact ⟨⟨Nat.le_sub_one_of_lt hlt, (Nat.sub_le _ _).trans hmonth12⟩,
      one_le_daysInMonth _ _, le_refl _⟩
  · exact ⟨⟨by norm_num, le_refl 12⟩, by norm_num, le_refl 31⟩

theorem next_previous (h : d.Valid) : d.previous.next = d := by
  obtain ⟨⟨hmonth, hmonth12⟩, hday, hlast⟩ := h
  obtain ⟨year, month, day⟩ := d
  simp only at *
  by_cases hd : 1 < day
  · have hlt : day - 1 < daysInMonth year month := by omega
    simp only [previous, next, hd, if_true, hlt]
    rw [Nat.sub_add_cancel hday]
  obtain rfl : day = 1 := by omega
  by_cases hm : 1 < month
  · have hlt : month - 1 < 12 := by omega
    simp [previous, next, hm, hlt]
    omega
  · obtain rfl : month = 1 := by omega
    simp [previous, next, daysInMonth]

/-- The first day of a month has the number that its year and month give, and later days add their
distance from it. -/
theorem dayNumber_eq_add (d : Date) :
    d.dayNumber = dayNumber ⟨d.year, d.month, 1⟩ + (d.day : Int) - 1 := by
  simp only [dayNumber]
  omega

theorem dayNumber_month_succ (year : Int) {month : Nat} (h1 : 1 ≤ month) (h12 : month < 12) :
    dayNumber ⟨year, month + 1, 1⟩ = dayNumber ⟨year, month, 1⟩ + daysInMonth year month := by
  -- counted from March, February is the end of a year
  have hyear := daysBeforeYear_succ (year - 1)
  rw [Int.sub_add_cancel] at hyear
  obtain rfl | hne := eq_or_ne month 2
  · cases hleap : isLeapYear year <;>
      simp [dayNumber, daysInMonth, daysBeforeMonth, hleap] at hyear ⊢ <;> omega
  · clear hyear
    interval_cases month <;> simp [dayNumber, daysInMonth, daysBeforeMonth] at hne ⊢ <;> omega

theorem dayNumber_year_succ (year : Int) :
    dayNumber ⟨year + 1, 1, 1⟩ = dayNumber ⟨year, 12, 1⟩ + 31 := by
  simp [dayNumber, daysBeforeMonth]
  omega

theorem dayNumber_next (h : d.Valid) : d.next.dayNumber = d.dayNumber + 1 := by
  obtain ⟨⟨hmonth, hmonth12⟩, hday, hlast⟩ := h
  have hsplit := dayNumber_eq_add d
  rw [next]
  split
  · rw [dayNumber_eq_add, hsplit]
    push_cast
    omega
  split
  · next hlt =>
    rw [dayNumber_month_succ d.year hmonth hlt]
    omega
  · have hm : d.month = 12 := by omega
    have hdays : daysInMonth d.year d.month = 31 := by rw [hm]; rfl
    rw [dayNumber_year_succ]
    rw [hm] at hsplit
    omega

example : next ⟨2000, 2, 28⟩ = ⟨2000, 2, 29⟩ ∧ next ⟨1900, 2, 28⟩ = ⟨1900, 3, 1⟩ := by decide

theorem dayNumber_previous (h : d.Valid) : d.previous.dayNumber = d.dayNumber - 1 := by
  have hnext := dayNumber_next h.previous
  rw [next_previous h] at hnext
  omega

/-! ## The order of dates -/

/-- The order of dates: year, month and day, each deciding only where those before are the same. -/
def Before (d d' : Date) : Prop :=
  d.year < d'.year ∨ d.year = d'.year ∧
    (d.month < d'.month ∨ d.month = d'.month ∧ d.day < d'.day)

theorem before_trichotomy (d d' : Date) : d.Before d' ∨ d = d' ∨ d'.Before d := by
  obtain ⟨year, month, day⟩ := d
  obtain ⟨year', month', day'⟩ := d'
  simp only [Before, mk.injEq]
  omega

/-- The number of the first day of a month, for months that are counted through all years. -/
private def monthNumber (k : Int) : Int := dayNumber ⟨k / 12, (k % 12).toNat + 1, 1⟩

private theorem monthNumber_eq (year : Int) {month : Nat} (h1 : 1 ≤ month) (h12 : month ≤ 12) :
    monthNumber (12 * year + month - 1) = dayNumber ⟨year, month, 1⟩ := by
  have hyear : (12 * year + month - 1) / 12 = year := by omega
  have hmonth : ((12 * year + month - 1) % 12).toNat + 1 = month := by omega
  rw [monthNumber, hyear, hmonth]

private theorem monthNumber_succ (year : Int) {month : Nat} (h1 : 1 ≤ month) (h12 : month ≤ 12) :
    monthNumber (12 * year + month) = dayNumber ⟨year, month, 1⟩ + daysInMonth year month := by
  obtain hlt | rfl : month < 12 ∨ month = 12 := by omega
  · rw [← dayNumber_month_succ year h1 hlt, ← monthNumber_eq year (by omega) (by omega)]
    push_cast
    rw [← add_assoc, add_sub_cancel_right]
  · have hnext := monthNumber_eq (year + 1) (le_refl 1) (by decide)
    have hindex : 12 * (year + 1) + (1 : Nat) - 1 = 12 * year + (12 : Nat) := by omega
    rwa [hindex, dayNumber_year_succ] at hnext

private theorem monthNumber_le {k l : Int} (h : k ≤ l) : monthNumber k ≤ monthNumber l := by
  refine monotone_int_of_le_succ (fun k ↦ ?_) h
  obtain ⟨year, hyear⟩ : ∃ year, year = k / 12 := ⟨_, rfl⟩
  obtain ⟨month, hmonth⟩ : ∃ month : Nat, month = (k % 12).toNat + 1 := ⟨_, rfl⟩
  have hk : k = 12 * year + month - 1 := by omega
  rw [hk, monthNumber_eq year (by omega) (by omega), Int.sub_add_cancel,
    monthNumber_succ year (by omega) (by omega)]
  omega

theorem dayNumber_lt_of_before (h : d.Valid) (h' : d'.Valid) (hlt : d.Before d') :
    d.dayNumber < d'.dayNumber := by
  obtain ⟨⟨h1, h12⟩, hday, hlast⟩ := h
  obtain ⟨⟨h1', h12'⟩, hday', hlast'⟩ := h'
  have hsplit := dayNumber_eq_add d
  have hsplit' := dayNumber_eq_add d'
  by_cases hmonth : 12 * d.year + d.month < 12 * d'.year + d'.month
  · -- the whole of the earlier month lies before the later one
    have hmono := monthNumber_le (Int.le_sub_one_of_lt hmonth)
    rw [monthNumber_succ d.year h1 h12, monthNumber_eq d'.year h1' h12'] at hmono
    omega
  · have hsame : d.year = d'.year ∧ d.month = d'.month ∧ d.day < d'.day := by
      simp only [Before] at hlt
      omega
    obtain ⟨hyear, hmonth, hday⟩ := hsame
    rw [hyear, hmonth] at hsplit
    omega

theorem eq_of_dayNumber_eq (h : d.Valid) (h' : d'.Valid) (heq : d.dayNumber = d'.dayNumber) :
    d = d' := by
  rcases before_trichotomy d d' with hlt | hsame | hgt
  · exact absurd heq (dayNumber_lt_of_before h h' hlt).ne
  · exact hsame
  · exact absurd heq (dayNumber_lt_of_before h' h hgt).ne'

theorem before_of_dayNumber_lt (h : d.Valid) (h' : d'.Valid) (hlt : d.dayNumber < d'.dayNumber) :
    d.Before d' := by
  rcases before_trichotomy d d' with hbefore | hsame | hgt
  · exact hbefore
  · exact absurd (congrArg dayNumber hsame) hlt.ne
  · exact absurd (dayNumber_lt_of_before h' h hgt) hlt.not_gt

end Date

/-! ## Clocks -/

/-- A date of the calendar and a minute of the day. -/
structure Clock where
  date : Date
  hour : Nat
  minute : Nat
  valid : date.Valid
  hour_lt : hour < 24
  minute_lt : minute < 60

namespace Clock

/-- The next minute. -/
def next (c : Clock) : Clock :=
  if h : c.minute + 1 < 60 then { c with minute := c.minute + 1, minute_lt := h }
  else if h : c.hour + 1 < 24 then
    { c with hour := c.hour + 1, minute := 0, hour_lt := h, minute_lt := by decide }
  else ⟨c.date.next, 0, 0, c.valid.next, by decide, by decide⟩

/-- The minute before. -/
def previous (c : Clock) : Clock :=
  if 0 < c.minute then
    { c with minute := c.minute - 1, minute_lt := Nat.sub_lt_of_lt c.minute_lt }
  else if 0 < c.hour then
    { c with hour := c.hour - 1, minute := 59, hour_lt := Nat.sub_lt_of_lt c.hour_lt,
             minute_lt := by decide }
  else ⟨c.date.previous, 23, 59, c.valid.previous, by decide, by decide⟩

/-- The clock some minutes earlier, or later if their number is negative. -/
def back (c : Clock) : Int → Clock
  | .ofNat n => previous^[n] c
  | .negSucc n => next^[n + 1] c

/-- The number of minutes from the beginning of 1970. -/
def number (c : Clock) : Int := 1440 * c.date.dayNumber + 60 * c.hour + c.minute

theorem number_next (c : Clock) : c.next.number = c.number + 1 := by
  have hday := Date.dayNumber_next c.valid
  have hhour := c.hour_lt
  have hminute := c.minute_lt
  rw [next]
  split
  · simp only [number]
    omega
  split
  · simp only [number]
    omega
  · simp only [number, hday]
    omega

theorem number_previous (c : Clock) : c.previous.number = c.number - 1 := by
  have hday := Date.dayNumber_previous c.valid
  rw [previous]
  split
  · simp only [number]
    omega
  split
  · simp only [number]
    omega
  · simp only [number, hday]
    omega

/-- Carrying minute by minute moves the number by as many minutes. -/
theorem number_back (c : Clock) (minutes : Int) : (c.back minutes).number = c.number - minutes := by
  have hprevious (n : Nat) : (previous^[n] c).number = c.number - n := by
    induction n with
    | zero => simp
    | succ n ih =>
      rw [Function.iterate_succ_apply', number_previous, ih]
      omega
  have hnext (n : Nat) : (next^[n] c).number = c.number + n := by
    induction n with
    | zero => simp
    | succ n ih =>
      rw [Function.iterate_succ_apply', number_next, ih]
      omega
  cases minutes with
  | ofNat n => exact hprevious n
  | negSucc n =>
    rw [back, hnext, Int.negSucc_eq]
    omega

theorem eq_of_number_eq {c c' : Clock} (h : c.number = c'.number) : c = c' := by
  obtain ⟨date, hour, minute, valid, hhour, hminute⟩ := c
  obtain ⟨date', hour', minute', valid', hhour', hminute'⟩ := c'
  simp only [number] at h
  have hday : date.dayNumber = date'.dayNumber := by omega
  obtain rfl := Date.eq_of_dayNumber_eq valid valid' hday
  obtain rfl : hour = hour' := by omega
  obtain rfl : minute = minute' := by omega
  rfl

/-- Seconds that come no later are told apart by the first part of date and time that differs. -/
theorem before_or_of_number_le {c c' : Clock} {s s' : Nat} (hs' : s' < 60)
    (h : 60 * c.number + s ≤ 60 * c'.number + s') :
    c.date.Before c'.date ∨ c.date = c'.date ∧ (c.hour < c'.hour ∨ c.hour = c'.hour ∧
      (c.minute < c'.minute ∨ c.minute = c'.minute ∧ s ≤ s')) := by
  have hhour := c.hour_lt
  have hhour' := c'.hour_lt
  have hminute := c.minute_lt
  have hminute' := c'.minute_lt
  simp only [number] at h
  rcases lt_trichotomy c.date.dayNumber c'.date.dayNumber with hlt | heq | hgt
  · exact .inl (Date.before_of_dayNumber_lt c.valid c'.valid hlt)
  · refine .inr ⟨Date.eq_of_dayNumber_eq c.valid c'.valid heq, ?_⟩
    omega
  · omega

end Clock

end FacetedSearch
