import FacetedSearch.Text.Digits

/-!
# Reading floats

A float in a text is an optional sign and a decimal with at least one digit on one side of its
optional point, followed by an optional exponent. The words for infinity and for "not a number" are
floats, too, in any mix of cases; callers that need a number refuse them afterwards.
-/

namespace FacetedSearch.Decimal

/-- Positive infinity. -/
def infinity : Float := Float.ofBits 0x7ff0000000000000

/-- The float that stands for no number. -/
def notANumber : Float := Float.ofBits 0x7ff8000000000000

/-- The float nearest to `n · 10^e`, infinite if that is beyond the largest float. -/
def nearest (n : Nat) (e : Int) : Float :=
  OfScientific.ofScientific n (decide (e < 0)) e.natAbs

/-- An exponent, if one is written: the marker, an optional sign and at least one digit. -/
def readExponent? : List Char → Option Int
  | [] => some 0
  | c :: cs => if c = 'e' ∨ c = 'E' then Text.readInt? cs else none

/-- A decimal without sign. -/
def readMagnitude? (cs : List Char) : Option Float :=
  let whole := cs.takeWhile Char.isDigit
  let (fraction, rest) := match cs.dropWhile Char.isDigit with
    | '.' :: ds => (ds.takeWhile Char.isDigit, ds.dropWhile Char.isDigit)
    | ds => ([], ds)
  if whole.isEmpty && fraction.isEmpty then none
  else (readExponent? rest).map fun e ↦
    nearest (Text.numeralValue (whole ++ fraction)) (e - fraction.length)

/-- A float without sign: a word or a decimal. -/
def readUnsigned? (cs : List Char) : Option Float :=
  let lower := cs.map Char.toLower
  if lower = ['i', 'n', 'f'] ∨ lower = ['i', 'n', 'f', 'i', 'n', 'i', 't', 'y'] then some infinity
  else if lower = ['n', 'a', 'n'] then some notANumber
  else readMagnitude? cs

/-- A float with nothing around it. -/
def readFloat? : List Char → Option Float
  | '+' :: cs => readUnsigned? cs
  | '-' :: cs => (readUnsigned? cs).map (-·)
  | cs => readUnsigned? cs

example : readFloat? "-2.5e1".toList = some (-25) := by decide +kernel

example : readFloat? ".5".toList = some 0.5 ∧ readFloat? "5.".toList = some 5 := by decide +kernel

example : ["", ".", "e5", "1e", "+-1", "1 ", "0x1"].all fun s ↦ (readFloat? s.toList).isNone := by
  decide +kernel

end FacetedSearch.Decimal
