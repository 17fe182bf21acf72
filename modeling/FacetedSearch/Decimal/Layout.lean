import FacetedSearch.Decimal.Shortest

/-!
# Layouts of decimals

The digits of a float are chosen by `Decimal.shortest`; where the point goes, whether there is an
exponent, and how whole numbers and the values that are no numbers look is the decision of a
`Layout`. The library writes floats in two places with different decisions: as JSON numerals
(`Layout.literal`), where a float must not look like an integer, and inside parameters of a request
(`Layout.plain`), where there is no exponent however many zeros that takes.
-/

namespace FacetedSearch.Decimal

/-- How floats are written. -/
structure Layout where
  /-- The exponents of the first digit at which a float is written without exponent. -/
  positional : Int → Bool
  /-- Whether a whole number is followed by `.0`. -/
  pointed : Bool
  /-- What to do with a float half way between two decimals of the same length. -/
  tie : Tie

namespace Layout

/-- JSON numerals: positional from `0.00001` up to below `10^16`, a whole number with `.0`, and a
tie to the even digit. -/
def literal : Layout where
  positional e := -5 ≤ e && e ≤ 15
  pointed := true
  tie := .toEven

/-- Parameters: always positional, a whole number without point, and a tie upwards. -/
def plain : Layout where
  positional _ := true
  pointed := false
  tie := .up

/-- What follows the integer part when nothing is left to write. -/
def wholeEnd (l : Layout) : List Char := if l.pointed then ['.', '0'] else []

/-- A decimal with its point in place. -/
def position (l : Layout) (s : Scientific) : List Char :=
  if s.exponent < 0 then
    '0' :: '.' :: List.replicate (-s.exponent - 1).toNat '0' ++ s.digits
  else
    let width := s.exponent.toNat + 1
    let whole := s.digits.take width
    let fraction := s.digits.drop width
    whole ++ List.replicate (width - whole.length) '0' ++
      if fraction.isEmpty then l.wholeEnd else '.' :: fraction

/-- A decimal with an exponent, whose sign is always written. -/
def scientific (s : Scientific) : List Char :=
  let rest := s.digits.drop 1
  s.digits.take 1 ++ (if rest.isEmpty then [] else '.' :: rest) ++
    'e' :: (if s.exponent < 0 then '-' else '+') :: Text.numeral s.exponent.natAbs

/-- A float that is neither zero nor negative, and finite. -/
def magnitude (l : Layout) (x : Float) : List Char :=
  let s := shortest l.tie x
  if l.positional s.exponent then l.position s else scientific s

/-- The sign of a float among its bits. -/
def signBit : Nat := 9223372036854775808

/-- A float as text. The sign is that of its bits, so that a negative zero keeps it. -/
def render (l : Layout) (x : Float) : String :=
  if x.isNaN then "NaN"
  else
    let bits := x.toBits.toNat
    let sign := if signBit ≤ bits then ['-'] else []
    let absolute :=
      if !x.isFinite then ['i', 'n', 'f']
      else if bits % signBit = 0 then '0' :: l.wholeEnd
      else l.magnitude x
    String.ofList (sign ++ absolute)

end Layout

example : Layout.literal.render 1e16 = "1e+16" ∧
    Layout.plain.render 1e16 = "10000000000000000" := by
  decide +kernel

example : Layout.literal.render 100 = "100.0" ∧ Layout.plain.render (-0.0) = "-0" := by
  decide +kernel

example : Layout.literal.render 0.00001 = "0.00001" ∧ Layout.literal.render 1e-7 = "1e-7" := by
  decide +kernel

end FacetedSearch.Decimal
