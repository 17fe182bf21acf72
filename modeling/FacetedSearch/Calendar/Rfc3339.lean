import FacetedSearch.Calendar.Instant

/-!
# Timestamps of RFC 3339

A timestamp is a date, one of `T`, `t` and space, a time with an optional fraction, and the offset
of the local time from universal time. Reading one gives the instant that it denotes.

## Which fault is reported

A timestamp may be wrong in several ways at once, and messages quote only one. Shape is judged from
left to right; whether the numbers make a date is judged as soon as the date is complete, whether
they make a time when the fraction is complete, and whether the offset is less than a day at the
very end. Too short a text is a fault of its own: before anything else if it has less than the
nineteen bytes of date and time, and later wherever the text ends too early.

Second 60 is read in any minute, as the leap second after second 59. Of a fraction the first nine
digits count.
-/

namespace FacetedSearch.Rfc3339

/-- Why a text is no timestamp. -/
inductive Fault where
  /-- The text ends too early. -/
  | tooShort
  /-- A character does not belong where it stands. -/
  | badCharacter
  /-- The numbers are not those of a date, a time or an offset. -/
  | outOfRange
  /-- Something follows the timestamp. -/
  | tooLong
deriving DecidableEq

/-- The fault as text. -/
def Fault.message : Fault → String
  | .tooShort => "premature end of input"
  | .badCharacter => "input contains invalid characters"
  | .outOfRange => "input is out of range"
  | .tooLong => "trailing input"

/-- What is left of the characters behind a given one. -/
def skip (c : Char) : List Char → Option (List Char)
  | d :: cs => if d = c then some cs else none
  | [] => none

/-- The date at the head of a timestamp; whether the calendar has it is not judged. -/
def takeDate (cs : List Char) : Option (Date × List Char) := do
  let (year, cs) ← Text.takeDigits 4 cs
  let cs ← skip '-' cs
  let (month, cs) ← Text.takeDigits 2 cs
  let cs ← skip '-' cs
  let (day, cs) ← Text.takeDigits 2 cs
  return (⟨year, month, day⟩, cs)

/-- Hour, minute and second behind the character that separates date and time. -/
def takeClock : List Char → Option ((Nat × Nat × Nat) × List Char)
  | [] => none
  | c :: cs =>
    if c = 'T' ∨ c = 't' ∨ c = ' ' then do
      let (hour, cs) ← Text.takeDigits 2 cs
      let cs ← skip ':' cs
      let (minute, cs) ← Text.takeDigits 2 cs
      let cs ← skip ':' cs
      let (second, cs) ← Text.takeDigits 2 cs
      return ((hour, minute, second), cs)
    else none

/-- The nanoseconds that the digits of a fraction stand for. Nine digits never reach the bound. -/
def fractionValue (digits : List Char) : Fin 1000000000 :=
  Fin.ofNat 1000000000 (Text.numeralValue (List.rightpad 9 '0' (digits.take 9)))

/-- The fraction of the second, in nanoseconds. -/
def takeFraction : List Char → Except Fault (Fin 1000000000 × List Char)
  | '.' :: cs =>
    let digits := cs.takeWhile Char.isDigit
    if cs.isEmpty then .error .tooShort
    else if digits.isEmpty then .error .badCharacter
    else .ok (fractionValue digits, cs.dropWhile Char.isDigit)
  | cs => .ok (0, cs)

/-- Two digits of an offset. The text ends too early if less than two bytes of it are left, so that
a single character beyond ASCII does not belong there instead. -/
def takePair : List Char → Except Fault (Nat × List Char)
  | c :: d :: cs =>
    if c.isDigit && d.isDigit then .ok (Text.numeralValue [c, d], cs) else .error .badCharacter
  | [c] => .error (if c.utf8Size < 2 then .tooShort else .badCharacter)
  | [] => .error .tooShort

/-- Hours and minutes of an offset, behind its sign. -/
def takeOffsetSize (cs : List Char) : Except Fault ((Nat × Nat) × List Char) := do
  let (hours, cs) ← takePair cs
  match cs with
  | [] => throw .tooShort
  | ':' :: cs =>
    let (minutes, cs) ← takePair cs
    if 60 ≤ minutes then throw .outOfRange
    return ((hours, minutes), cs)
  | _ => throw .badCharacter

/-- An offset from universal time: its sign, hours and minutes. -/
structure Offset where
  negative : Bool
  hours : Nat
  minutes : Nat
deriving DecidableEq

namespace Offset

/-- The offset in minutes. -/
def inMinutes (o : Offset) : Int :=
  let size : Int := 60 * o.hours + o.minutes
  if o.negative then -size else size

end Offset

/-- The offset at the end of a timestamp. The minus sign of mathematics serves as well as the
hyphen. -/
def takeOffset : List Char → Except Fault (Offset × List Char)
  | [] => .error .tooShort
  | c :: cs =>
    if c = 'Z' ∨ c = 'z' then .ok (⟨false, 0, 0⟩, cs)
    else if c = '+' ∨ c = '-' ∨ c = '\u2212' then do
      let ((hours, minutes), cs) ← takeOffsetSize cs
      return (⟨c ≠ '+', hours, minutes⟩, cs)
    else .error .badCharacter

/-- The instant of a local date and time of day at an offset. Second 60 is the leap second. -/
def instant (date : Date) (hour minute second : Nat) (nanosecond : Fin 1000000000)
    (offset : Int) : Instant :=
  let minutes := 1440 * date.dayNumber + 60 * hour + minute - offset
  if second = 60 then
    ⟨60 * minutes + 59, 1000000000 + nanosecond, by omega⟩
  else
    ⟨60 * minutes + second, nanosecond, by omega⟩

/-- The instant that a timestamp denotes. -/
def read (s : String) : Except Fault Instant := do
  if s.utf8ByteSize < 19 then throw .tooShort
  let some (date, cs) := takeDate s.toList | throw .badCharacter
  if ¬ date.Valid then throw .outOfRange
  let some ((hour, minute, second), cs) := takeClock cs | throw .badCharacter
  let (nanosecond, cs) ← takeFraction cs
  if 23 < hour ∨ 59 < minute ∨ 60 < second then throw .outOfRange
  let (offset, cs) ← takeOffset cs
  if !cs.isEmpty then throw .tooLong
  if 24 ≤ offset.hours then throw .outOfRange
  return instant date hour minute second nanosecond offset.inMinutes

end FacetedSearch.Rfc3339
