import FacetedSearch.Calendar.Instant
import FacetedSearch.Violation
import FacetedSearch.Vocabulary

/-!
# Date math

The backend computes dates relative to the moment at which a query is executed: `NOW-7DAYS/DAY` is
the beginning of the day one week ago. This module holds the pieces of that language which the
library writes. An offset is a sequence of terms, each a sign, a number and a unit; the end of a
bound rounds it to the edge of a day (`Rounding`).

Terms have three units, so a period is expressible if it has no component shorter than a day. Weeks
are counted in days. The sum of both is taken in the natural numbers, where it cannot wrap around.
-/

namespace FacetedSearch

namespace DateMath

/-- The moment of execution. -/
def now : String := "NOW"

/-- Back to the beginning of the day. -/
def startOfDay : String := "/DAY"

/-- Forward to the last second of the day. -/
def endOfDay : String := "/DAY+1DAY-1SECOND"

/-- No bound. -/
def unbounded : String := "*"

/-- The units of a term. -/
inductive DateUnit where
  | years
  | months
  | days
deriving DecidableEq

/-- The name of a unit. -/
def DateUnit.text : DateUnit → String
  | .years => "YEARS"
  | .months => "MONTHS"
  | .days => "DAYS"

/-- A number of units. -/
structure Term where
  amount : Nat
  unit : DateUnit
deriving DecidableEq

/-- The term without its sign. -/
def Term.text (t : Term) : String := toString t.amount ++ t.unit.text

/-- The direction of an offset. -/
inductive Sign where
  | plus
  | minus
deriving DecidableEq

/-- The sign as text. -/
def Sign.text : Sign → String
  | .plus => "+"
  | .minus => "-"

end DateMath

namespace Period

open DateMath

/-- The days of a period, weeks included. -/
def dayCount (p : Period) : Nat := 7 * p.weeks.toNat + p.days.toNat

/-- The period as terms, longest unit first and without those that are zero. The empty period is no
days. -/
def dateTerms (p : Period) : Except Violation (List Term) :=
  if p.hasTime then .error (.unsupportedPeriodUnit p)
  else
    let long : List Term :=
      [⟨p.years.toNat, .years⟩, ⟨p.months.toNat, .months⟩].filter (·.amount != 0)
    .ok (if p.dayCount ≠ 0 ∨ long = [] then long ++ [⟨p.dayCount, .days⟩] else long)

/-- The period as an offset into the past or the future. -/
def offsetText (p : Period) (sign : Sign) : Except Violation String := do
  return String.join ((← p.dateTerms).map fun t ↦ sign.text ++ t.text)

/-- The period as an offset into the past. -/
def subtractText (p : Period) : Except Violation String := p.offsetText .minus

/-- The period as an offset into the future. -/
def addText (p : Period) : Except Violation String := p.offsetText .plus

example : Period.subtractText { years := 1, weeks := 2, days := 3 } = .ok "-1YEARS-17DAYS" := rfl

example : Period.addText {} = .ok "+0DAYS" := rfl

end Period

/-- The edge of a day that a bound is moved to. -/
inductive Rounding where
  | startOfDay
  | startOfPreviousDay
  | endOfDay
  | endOfPreviousDay
deriving DecidableEq

namespace Rounding

instance : Vocabulary Rounding where
  values := [.startOfDay, .startOfPreviousDay, .endOfDay, .endOfPreviousDay]
  word
    | .startOfDay => "START_OF_DAY"
    | .startOfPreviousDay => "START_OF_PREVIOUS_DAY"
    | .endOfDay => "END_OF_DAY"
    | .endOfPreviousDay => "END_OF_PREVIOUS_DAY"
  find?_word r := by cases r <;> rfl

/-- The end of a bound that is rounded this way. -/
def text : Rounding → String
  | .startOfDay => DateMath.startOfDay
  | .startOfPreviousDay => "/DAY-1DAY"
  | .endOfDay => DateMath.endOfDay
  | .endOfPreviousDay => "/DAY-1SECOND"

end Rounding

/-! ## Ranges -/

/-- A query for the values of a field between two bounds, ends included. A bound that is not given
is open. -/
def DateMath.rangeText (field : String) (lower upper : Option String) : String :=
  field ++ ":[" ++ lower.getD unbounded ++ " TO " ++ upper.getD unbounded ++ "]"

end FacetedSearch
