import FacetedSearch.Text.Digits

/-!
# Periods

A period is a length of time in calendar units, `P1Y2M3W4DT5H6M7S`. Its seven components are kept as
they are given: two weeks and fourteen days are different periods, and nothing is carried from one
unit to the next. A period is written with the components that are not zero, and the empty period as
`P0D`.
-/

namespace FacetedSearch

/-- A length of time in calendar units. -/
structure Period where
  years : UInt32 := 0
  months : UInt32 := 0
  weeks : UInt32 := 0
  days : UInt32 := 0
  hours : UInt32 := 0
  minutes : UInt32 := 0
  seconds : UInt32 := 0
deriving DecidableEq

namespace Period

/-! ## Components -/

/-- The units of a period, from the longest to the shortest. -/
inductive Component where
  | years
  | months
  | weeks
  | days
  | hours
  | minutes
  | seconds
deriving DecidableEq

namespace Component

/-- The components of whole days, in the order in which they are written. -/
def ofDate : List Component := [.years, .months, .weeks, .days]

/-- The components of less than a day, in the order in which they are written. -/
def ofTime : List Component := [.hours, .minutes, .seconds]

/-- Whether the unit is shorter than a day. -/
def isTime : Component → Bool
  | .years | .months | .weeks | .days => false
  | .hours | .minutes | .seconds => true

/-- The position of a component in a period, from one. -/
def rank : Component → Nat
  | .years => 1
  | .months => 2
  | .weeks => 3
  | .days => 4
  | .hours => 5
  | .minutes => 6
  | .seconds => 7

/-- The letter behind the number of a component. Months and minutes share theirs. -/
def designator : Component → Char
  | .years => 'Y'
  | .months => 'M'
  | .weeks => 'W'
  | .days => 'D'
  | .hours => 'H'
  | .minutes => 'M'
  | .seconds => 'S'

/-- The component with a letter, among those before or those behind the `T`. -/
def ofDesignator? (inTime : Bool) (c : Char) : Option Component :=
  (if inTime then ofTime else ofDate).find? fun u ↦ u.designator == c

theorem ofDesignator?_designator (u : Component) :
    ofDesignator? u.isTime u.designator = some u := by
  cases u <;> decide

end Component

/-- The number of a component. -/
def get (p : Period) : Component → UInt32
  | .years => p.years
  | .months => p.months
  | .weeks => p.weeks
  | .days => p.days
  | .hours => p.hours
  | .minutes => p.minutes
  | .seconds => p.seconds

/-- The period with one component replaced. -/
def set (p : Period) (n : UInt32) : Component → Period
  | .years => { p with years := n }
  | .months => { p with months := n }
  | .weeks => { p with weeks := n }
  | .days => { p with days := n }
  | .hours => { p with hours := n }
  | .minutes => { p with minutes := n }
  | .seconds => { p with seconds := n }

/-- The empty period. -/
def zero : Period := {}

/-- A period of one component. -/
def only (u : Component) (n : UInt32) : Period := zero.set n u

@[simp] theorem get_set_self (p : Period) (n : UInt32) (u : Component) : (p.set n u).get u = n := by
  cases u <;> rfl

theorem get_set_of_ne (p : Period) (n : UInt32) {u v : Component} (h : v ≠ u) :
    (p.set n u).get v = p.get v := by
  cases u <;> cases v <;> simp_all [set, get]

theorem ext_get {p q : Period} (h : ∀ u, p.get u = q.get u) : p = q := by
  cases p
  cases q
  simpa using ⟨h .years, h .months, h .weeks, h .days, h .hours, h .minutes, h .seconds⟩

/-- Whether no component is set. -/
def isZero (p : Period) : Bool := decide (p = zero)

/-- Whether a component of less than a day is set. -/
def hasTime (p : Period) : Bool := Component.ofTime.any fun u ↦ p.get u != 0

/-! ## Text -/

/-- A component as it is written: nothing if it is zero. -/
def componentChars (p : Period) (u : Component) : List Char :=
  if p.get u = 0 then [] else Text.numeral (p.get u).toNat ++ [u.designator]

/-- The characters of a period. -/
def chars (p : Period) : List Char :=
  if p.isZero then ['P', '0', 'D']
  else 'P' :: Component.ofDate.flatMap p.componentChars ++
    if p.hasTime then 'T' :: Component.ofTime.flatMap p.componentChars else []

/-- The period as text. -/
def text (p : Period) : String := String.ofList p.chars

example : text { weeks := 2, minutes := 5 } = "P2WT5M" ∧ text {} = "P0D" := by decide

end Period

end FacetedSearch
