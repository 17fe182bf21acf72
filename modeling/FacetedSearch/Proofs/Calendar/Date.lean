import FacetedSearch.Calendar.Date
import Mathlib.Tactic.IntervalCases
import Mathlib.Tactic.NormNum

/-!
# Day numbers and dates

Every day number is the number of exactly the date that is computed from it, and that date is one of
the calendar. Both facts rest on the position of a day within its year, counted from March, so the
computation is first cut in two: the year and the day within it (`exists_ofDayNumber_eq`), and the
month and day of the month behind them (`marchDate`).

## The year of a day

The year within a cycle of four hundred years is a single division by 365, after the leap days
before the day have been taken out. They are taken out by dividing the *day* and not the year, which
is only almost right: the two counts of leap days differ by at most one near the end of a year,
never enough to reach another year. This is where the arithmetic is, and it is done for one century
at a time.
-/

namespace FacetedSearch.Date

/-! ## The year within a cycle -/

/-- Within a century, `q` is the number of leap days as the computation counts them. It lies between
the true numbers for the beginning and for the end of the year that is found. -/
private theorem yearOfCentury_bounds {e r y : Int} (he : 0 ≤ e ∧ e ≤ 3) (hr : 0 ≤ r ∧ r ≤ 36524)
    (hy : y = (r - (24 * e + r) / 1460) / 365) :
    0 ≤ y ∧ y < 100 ∧ 365 * y + y / 4 ≤ r ∧ r < 365 * (y + 1) + (y + 1) / 4 := by
  obtain ⟨q, hq⟩ : ∃ q, q = (24 * e + r) / 1460 := ⟨_, rfl⟩
  rw [← hq] at hy
  have hy100 : 0 ≤ y ∧ y < 100 := by omega
  have hlow : y / 4 ≤ q := by omega
  have hhigh : q ≤ (y + 1) / 4 := by omega
  omega

private theorem daysBeforeYear_century {e g : Int} (he : 0 ≤ e ∧ e ≤ 3) (hg : 0 ≤ g ∧ g < 100) :
    daysBeforeYear (100 * e + g) = 36524 * e + 365 * g + g / 4 := by
  have h4 : (100 * e + g) / 4 = 25 * e + g / 4 := by omega
  have h100 : (100 * e + g) / 100 = e := by omega
  have h400 : (100 * e + g) / 400 = 0 := by omega
  rw [daysBeforeYear, h4, h100, h400]
  omega

/-- The year that is computed for a day of a cycle is the year that the day lies in. -/
theorem yearOfCycle_bounds {d y : Int} (h0 : 0 ≤ d) (h1 : d < 146097)
    (hy : y = (d - d / 1460 + d / 36524 - d / 146096) / 365) :
    0 ≤ y ∧ y < 400 ∧ daysBeforeYear y ≤ d ∧ d < daysBeforeYear (y + 1) := by
  -- the last day of the cycle would be day zero of a fifth century
  obtain ⟨e, he⟩ : ∃ e, e = d / 36524 - d / 146096 := ⟨_, rfl⟩
  obtain ⟨r, hr⟩ : ∃ r, r = d - 36524 * e := ⟨_, rfl⟩
  have he3 : 0 ≤ e ∧ e ≤ 3 := by omega
  have hr' : 0 ≤ r ∧ (r ≤ 36523 ∨ e = 3 ∧ r ≤ 36524) := by omega
  have hq : d / 1460 = 25 * e + (24 * e + r) / 1460 := by omega
  obtain ⟨g, hg⟩ : ∃ g, g = y - 100 * e := ⟨_, rfl⟩
  have hgr : g = (r - (24 * e + r) / 1460) / 365 := by omega
  obtain ⟨hg0, hg100, hlow, hhigh⟩ := yearOfCentury_bounds he3 (by omega) hgr
  obtain rfl : y = 100 * e + g := by omega
  rw [daysBeforeYear_century he3 ⟨hg0, hg100⟩]
  clear hy hq hg hgr he
  refine ⟨by omega, by omega, by omega, ?_⟩
  rw [add_assoc]
  obtain hlt | rfl : g + 1 < 100 ∨ g = 99 := by omega
  · rw [daysBeforeYear_century he3 ⟨by omega, hlt⟩]
    omega
  · unfold daysBeforeYear
    omega

theorem isLeapYear_iff {y : Int} :
    isLeapYear y = true ↔ y % 4 = 0 ∧ (y % 100 ≠ 0 ∨ y % 400 = 0) := by
  simp [isLeapYear]

theorem isLeapYear_add_cycles (y c : Int) : isLeapYear (y + 400 * c) = isLeapYear y := by
  rw [Bool.eq_iff_iff, isLeapYear_iff, isLeapYear_iff]
  omega

theorem daysBeforeYear_add_cycles (y c : Int) :
    daysBeforeYear (y + 400 * c) = daysBeforeYear y + 146097 * c := by
  unfold daysBeforeYear
  omega

theorem daysInMonth_le (year : Int) (month : Nat) : daysInMonth year month ≤ 31 := by
  unfold daysInMonth
  split
  · split <;> decide
  · decide
  · decide
  · decide
  · decide
  · decide

/-- A year from March to February has a leap day at its end if the year in which it ends is a leap
year. -/
theorem daysBeforeYear_succ (y : Int) :
    daysBeforeYear (y + 1) = daysBeforeYear y + 365 + if isLeapYear (y + 1) then 1 else 0 := by
  unfold daysBeforeYear
  split <;> rename_i h <;> rw [isLeapYear_iff] at h <;> omega

/-! ## The date of a day of the year -/

/-- The date of a day, counted from zero, of the year that begins in March. -/
def marchDate (year : Int) (dayOfYear : Nat) : Date :=
  let month := (5 * dayOfYear + 2) / 153
  { year := if month < 10 then year else year + 1
    month := if month < 10 then month + 3 else month - 9
    day := dayOfYear - daysBeforeMonth month + 1 }

theorem dayNumber_marchDate (y : Int) {d : Nat} (hd : d < 366) :
    (marchDate y d).dayNumber = daysBeforeYear y + d - 719468 := by
  have hmonth : daysBeforeMonth ((5 * d + 2) / 153) ≤ d := by
    unfold daysBeforeMonth
    omega
  by_cases h : (5 * d + 2) / 153 < 10
  · simp only [dayNumber, marchDate, h, if_true]
    rw [if_pos (by omega), if_pos (by omega), Nat.add_sub_cancel]
    omega
  · have hm : (5 * d + 2) / 153 - 9 + 9 = (5 * d + 2) / 153 := by omega
    simp only [dayNumber, marchDate, h, if_false]
    rw [if_neg (by omega), if_neg (by omega), hm, Int.add_sub_cancel]
    omega

theorem valid_marchDate (y : Int) {d : Nat} (hd : d < 366)
    (hleap : d = 365 → isLeapYear (y + 1) = true) : (marchDate y d).Valid := by
  obtain ⟨m, hm⟩ : ∃ m, m = (5 * d + 2) / 153 := ⟨_, rfl⟩
  have hm12 : m < 12 := by omega
  simp only [Valid, marchDate, ← hm, daysBeforeMonth]
  obtain hlt | rfl : m < 11 ∨ m = 11 := by omega
  · -- the other months begin and end on fixed days of such a year
    clear hleap
    interval_cases m <;> simp [daysInMonth] <;> omega
  · -- only February depends on the year, which for `marchDate` is the next one
    simp only [daysInMonth]
    by_cases h : isLeapYear (y + 1) = true
    · simp [h]
      omega
    · have hd365 : d ≠ 365 := fun hd365 ↦ h (hleap hd365)
      simp [h]
      omega

/-! ## Day numbers -/

/-- A day number is a year that begins in March and a day of it, and its date is theirs. -/
theorem exists_ofDayNumber_eq (n : Int) : ∃ (y : Int) (d : Nat), d < 366 ∧
    (d = 365 → isLeapYear (y + 1) = true) ∧ n = daysBeforeYear y + d - 719468 ∧
    ofDayNumber n = marchDate y d := by
  -- the cycle of 400 years, the day of the cycle and the year of the cycle
  obtain ⟨c, hc⟩ : ∃ c, c = (n + 719468) / 146097 := ⟨_, rfl⟩
  obtain ⟨r, hr⟩ : ∃ r, r = (n + 719468) % 146097 := ⟨_, rfl⟩
  obtain ⟨y, hy⟩ : ∃ y, y = (r - r / 1460 + r / 36524 - r / 146096) / 365 := ⟨_, rfl⟩
  obtain ⟨hy0, hy400, hlow, hhigh⟩ := yearOfCycle_bounds (by omega) (by omega) hy
  rw [daysBeforeYear_succ] at hhigh
  obtain ⟨d, hd⟩ : ∃ d : Nat, (d : Int) = r - daysBeforeYear y :=
    ⟨_, Int.toNat_of_nonneg (by omega)⟩
  refine ⟨y + 400 * c, d, ?_, fun hd365 ↦ ?_, ?_, ?_⟩
  · split at hhigh <;> omega
  · rw [add_right_comm, isLeapYear_add_cycles]
    by_contra hnot
    rw [if_neg hnot] at hhigh
    omega
  · rw [daysBeforeYear_add_cycles]
    omega
  · have hday : d = (r - (365 * y + y / 4 - y / 100)).toNat := by
      rw [daysBeforeYear] at hd
      omega
    simp only [ofDayNumber, marchDate, ← hc, ← hr, ← hy, ← hday]

theorem dayNumber_ofDayNumber (n : Int) : (ofDayNumber n).dayNumber = n := by
  obtain ⟨y, d, hd, -, hn, hdate⟩ := exists_ofDayNumber_eq n
  rw [hdate, dayNumber_marchDate y hd, hn]

theorem valid_ofDayNumber (n : Int) : (ofDayNumber n).Valid := by
  obtain ⟨y, d, hd, hleap, -, hdate⟩ := exists_ofDayNumber_eq n
  rw [hdate]
  exact valid_marchDate y hd hleap

end FacetedSearch.Date
