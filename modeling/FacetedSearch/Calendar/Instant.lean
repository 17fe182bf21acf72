import FacetedSearch.Calendar.Date
import FacetedSearch.Text.Digits

/-!
# Instants

An instant is a second of universal time and the nanoseconds that have passed in it. Seconds are
counted from the beginning of 1970 as if every day had 86400 of them.

## Leap seconds

A leap second has no number of its own in that count. It is told by its nanoseconds, which run from
10⁹ on, and belongs to the second that it follows. Nothing ties it to the last second of a minute:
the nanoseconds of any instant can be set to any number below 2 · 10⁹. Texts show a leap second as
the number after that of its second. At the end of a minute this is `60`; anywhere else it is the
number of the next second, and the text is that of another instant.

Two texts are made from an instant. Date math works to the second and drops the rest; payloads keep
everything, with as many groups of three fraction digits as are needed.
-/

namespace FacetedSearch

/-- An instant of universal time. -/
structure Instant where
  /-- Seconds since the beginning of 1970. -/
  second : Int
  /-- Nanoseconds within the second, from 10⁹ on within the leap second that follows it. -/
  nanosecond : Nat
  nanosecond_lt : nanosecond < 2000000000
deriving DecidableEq

namespace Instant

/-- An instant from its count of seconds and nanoseconds. A leap second is only accepted at the end
of a minute. -/
def ofSeconds? (second : Int) (nanosecond : Nat) : Option Instant :=
  if h : nanosecond < 2000000000 ∧ (1000000000 ≤ nanosecond → second % 60 = 59) then
    some ⟨second, nanosecond, h.1⟩
  else none

/-- The date of an instant. -/
def date (t : Instant) : Date := Date.ofDayNumber (t.second / 86400)

/-- The hour of the day. -/
def hour (t : Instant) : Nat := (t.second % 86400 / 3600).toNat

/-- The minute of the hour. -/
def minute (t : Instant) : Nat := (t.second % 3600 / 60).toNat

/-- The second of the minute as it is shown, one more within a leap second. -/
def secondOfMinute (t : Instant) : Nat :=
  (t.second % 60).toNat + if 1000000000 ≤ t.nanosecond then 1 else 0

/-! ## Texts -/

/-- A year in four digits, and outside of their range with its sign. -/
def yearChars (year : Int) : List Char :=
  if 0 ≤ year ∧ year ≤ 9999 then Text.padded 4 year.toNat
  else (if year < 0 then '-' else '+') :: Text.padded 4 year.natAbs

/-- Date and time to the second, without a zone. -/
def clockChars (t : Instant) : List Char :=
  yearChars t.date.year ++ '-' :: Text.padded 2 t.date.month ++ '-' :: Text.padded 2 t.date.day ++
    'T' :: Text.padded 2 t.hour ++ ':' :: Text.padded 2 t.minute ++
    ':' :: Text.padded 2 t.secondOfMinute

/-- The fraction of the second in as few digits as possible out of none, three, six and nine. -/
def fractionChars (t : Instant) : List Char :=
  let n := t.nanosecond % 1000000000
  if n = 0 then []
  else if n % 1000000 = 0 then '.' :: Text.padded 3 (n / 1000000)
  else if n % 1000 = 0 then '.' :: Text.padded 6 (n / 1000)
  else '.' :: Text.padded 9 n

/-- The instant as an absolute bound of date math. -/
def dateMathText (t : Instant) : String := String.ofList (t.clockChars ++ ['Z'])

/-- The instant in full, as payloads hold it. -/
def text (t : Instant) : String := String.ofList (t.clockChars ++ t.fractionChars ++ ['Z'])

example : (ofSeconds? 1483228799 1500000000).map text = some "2016-12-31T23:59:60.500Z" := by
  decide

end Instant

end FacetedSearch
