import FacetedSearch.Period.Basic

/-!
# Reading periods

A period is `P` and then its components, each a number followed by the letter of its unit, longer
units before shorter ones; a `T` separates the days from the hours and must be followed by at least
one component of less than a day. A component may be written with the value zero and with leading
zeros, so a period has many texts, of which `Period.text` is one.

## One pass

The text is read character by character with a `Cursor` that holds what has been read of the period,
the number that waits for its letter, and the last component. The first character that cannot stand
where it does decides which fault is reported, so the order of the tests in `Cursor.step` is part of
what this module promises; what is missing at the end is judged after that.
-/

namespace FacetedSearch.Period

/-- Why a text is no period. -/
inductive Fault where
  | noMarker
  | misplacedTime
  | missingValue
  | valueTooLarge
  | unknownDesignator
  | outOfOrder
  | trailingValue
  | noComponents
  | emptyTime
deriving DecidableEq

/-- The fault as text. -/
def Fault.reason : Fault → String
  | .noMarker => "must start with 'P'"
  | .misplacedTime => "misplaced time designator"
  | .missingValue => "unit designator without a value"
  | .valueTooLarge => "component value is too large"
  | .unknownDesignator => "unknown unit designator"
  | .outOfOrder => "components are out of order"
  | .trailingValue => "trailing value without a unit designator"
  | .noComponents => "no components"
  | .emptyTime => "time designator without a time component"

/-- A text that was to be a period, and why it is none. -/
structure ParseError where
  text : String
  fault : Fault
deriving DecidableEq

/-- The failure as text. -/
def ParseError.message (e : ParseError) : String :=
  "Invalid period '" ++ e.text ++ "': " ++ e.fault.reason

/-- What has been read of a period. -/
structure Cursor where
  period : Period := {}
  /-- The number whose letter has not come yet. -/
  pending : Option Nat := none
  /-- Whether the `T` has been passed. -/
  inTime : Bool := false
  /-- The component read last. -/
  last : Option Component := none
deriving DecidableEq

namespace Cursor

/-- The position of the component read last, zero before the first. -/
def rank (c : Cursor) : Nat := (c.last.map Component.rank).getD 0

/-- The number that waits for its letter is complete. -/
def close (c : Cursor) (n : Nat) (designator : Char) : Except Fault Cursor :=
  if UInt32.size ≤ n then .error .valueTooLarge
  else
    match Component.ofDesignator? c.inTime designator with
    | none => .error .unknownDesignator
    | some u =>
      if u.rank ≤ c.rank then .error .outOfOrder
      else .ok { c with period := c.period.set (UInt32.ofNat n) u, pending := none, last := some u }

/-- Reading one more character. -/
def step (c : Cursor) (ch : Char) : Except Fault Cursor :=
  if ch.isDigit then
    .ok { c with pending := some (10 * c.pending.getD 0 + Text.digitValue ch) }
  else if ch = 'T' then
    if c.inTime || c.pending.isSome then .error .misplacedTime else .ok { c with inTime := true }
  else
    match c.pending with
    | none => .error .missingValue
    | some n => c.close n ch

/-- What has been read, if the text may end here. -/
def finish (c : Cursor) : Except Fault Period :=
  if c.pending.isSome then .error .trailingValue
  else
    match c.last with
    | none => .error .noComponents
    | some u => if c.inTime && !u.isTime then .error .emptyTime else .ok c.period

end Cursor

/-- The period that the characters spell. -/
def parseChars : List Char → Except Fault Period
  | 'P' :: cs => do (← cs.foldlM Cursor.step {}).finish
  | _ => .error .noMarker

/-- The period that a text spells. -/
def parse (s : String) : Except ParseError Period :=
  (parseChars s.toList).mapError fun fault ↦ ⟨s, fault⟩

example : parse "P01Y2WT3M" = .ok { years := 1, weeks := 2, minutes := 3 } := rfl

example : parse "P1DT" = .error ⟨"P1DT", .emptyTime⟩ := rfl

end FacetedSearch.Period
