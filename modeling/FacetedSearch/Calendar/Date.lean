/-!
# Dates and day numbers

Dates of the Gregorian calendar, extended without limit in both directions, and the count of days
that numbers them. Day zero is 1 January 1970.

## Years that begin in March

Both directions of the conversion count years from 1 March. A leap day is then the last day of its
year, so the number of days before a month does not depend on the year and is the linear expression
`(153 * m + 2) / 5`, where `m` counts months from March. What is left of the calendar is the number
of leap days in the years before, three divisions.
-/

namespace FacetedSearch

/-- A date of the Gregorian calendar. -/
structure Date where
  year : Int
  month : Nat
  day : Nat
deriving DecidableEq

namespace Date

/-- Every fourth year is a leap year, except for three of four centuries. -/
def isLeapYear (year : Int) : Bool :=
  year % 4 == 0 && (year % 100 != 0 || year % 400 == 0)

/-- The length of a month. -/
def daysInMonth (year : Int) : Nat → Nat
  | 2 => if isLeapYear year then 29 else 28
  | 4 | 6 | 9 | 11 => 30
  | _ => 31

/-- Whether the calendar has the date. -/
def Valid (d : Date) : Prop :=
  (1 ≤ d.month ∧ d.month ≤ 12) ∧ 1 ≤ d.day ∧ d.day ≤ daysInMonth d.year d.month

instance (d : Date) : Decidable d.Valid := inferInstanceAs (Decidable (_ ∧ _))

/-- The number of days from year zero, which begins in March, to the beginning of a year. -/
def daysBeforeYear (year : Int) : Int := 365 * year + year / 4 - year / 100 + year / 400

/-- The number of days from the beginning of a year to the beginning of a month, both counted from
March. -/
def daysBeforeMonth (month : Nat) : Nat := (153 * month + 2) / 5

/-- The number of days from 1 January 1970 to the date. -/
def dayNumber (d : Date) : Int :=
  let late := 3 ≤ d.month
  let year := if late then d.year else d.year - 1
  let month := if late then d.month - 3 else d.month + 9
  daysBeforeYear year + daysBeforeMonth month + (d.day : Int) - 719469

/-- The date with a day number. -/
def ofDayNumber (n : Int) : Date :=
  let days := n + 719468
  let cycle := days / 146097
  let dayOfCycle := days % 146097
  let yearOfCycle :=
    (dayOfCycle - dayOfCycle / 1460 + dayOfCycle / 36524 - dayOfCycle / 146096) / 365
  let dayOfYear := (dayOfCycle - (365 * yearOfCycle + yearOfCycle / 4 - yearOfCycle / 100)).toNat
  let month := (5 * dayOfYear + 2) / 153
  let year := yearOfCycle + 400 * cycle
  { year := if month < 10 then year else year + 1
    month := if month < 10 then month + 3 else month - 9
    day := dayOfYear - daysBeforeMonth month + 1 }

example : dayNumber ⟨1970, 1, 1⟩ = 0 ∧ dayNumber ⟨2000, 3, 1⟩ = 11017 := by decide

example : ofDayNumber (-1) = ⟨1969, 12, 31⟩ ∧ ofDayNumber 11016 = ⟨2000, 2, 29⟩ := by decide

end Date

end FacetedSearch
