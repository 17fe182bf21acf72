import FacetedSearch.Text.Digits

/-!
# Shortest decimals of floats

A float is written with the fewest significant digits that read back as the same float, and among
those with the digits nearest to it. Everything here is exact arithmetic on natural numbers. A
finite float is `m · 2^q`, and the numbers that round to it form an interval whose ends are known
exactly; the interval contains its ends if and only if `m` is even.

## Two neighbours on each grid

For one significant digit, then two, and so on, the decimals with that many digits form a grid
around the float. If the interval holds any point of the grid then it holds one of the two points
next to the float, so these two are all that is ever tried. Seventeen digits always suffice. If both
points qualify then the nearer one is taken; a float exactly half way between them is the only case
that the layout has to decide (`Tie`).
-/

namespace FacetedSearch.Decimal

/-- What to do with a float that lies half way between two decimals of the same length. -/
inductive Tie where
  /-- Take the one whose last digit is even. -/
  | toEven
  /-- Take the larger one. -/
  | up
deriving DecidableEq

/-- A positive decimal `d.ddd · 10^exponent`, as its digits from the first that is not zero to the
last that is not zero. -/
structure Scientific where
  digits : List Char
  exponent : Int
deriving DecidableEq

/-- A positive float as fractions with a common denominator: itself, and the ends of the interval of
the numbers that round to it. -/
structure Interval where
  low : Nat
  value : Nat
  high : Nat
  denominator : Nat
  /-- Whether the ends of the interval round to the float, too. -/
  closed : Bool

namespace Interval

/-- The smallest mantissa of a float that is not subnormal. -/
def leastNormal : Nat := 4503599627370496

/-- The float `m · 2^q`. Below a power of two the floats lie twice as dense, so if `m` is the
smallest mantissa of its exponent (`narrow`) then the lower half of the interval is half as wide. -/
def ofDyadic (m : Nat) (q : Int) (narrow : Bool) : Interval :=
  let scale := Nat.pow 2 (q - 2).toNat
  { low := (4 * m - if narrow then 1 else 2) * scale
    value := 4 * m * scale
    high := (4 * m + 2) * scale
    denominator := Nat.pow 2 (2 - q).toNat
    closed := m % 2 == 0 }

/-- The interval of a positive finite float, read off its bits. -/
def ofFloat (x : Float) : Interval :=
  let bits := x.toBits.toNat
  let biased : Nat := bits / leastNormal % 2048
  let fraction : Nat := bits % leastNormal
  if biased = 0 then ofDyadic fraction (-1074) false
  else ofDyadic (leastNormal + fraction) ((biased : Int) - 1075) (fraction == 0 && biased != 1)

/-- The exponent of the first significant digit: the largest `e` with `10^e` at most the float. -/
def leadingExponent (r : Interval) : Int :=
  if r.denominator ≤ r.value then
    (Text.numeral (r.value / r.denominator)).length - 1
  else
    let e := (Text.numeral (r.denominator / r.value)).length
    if r.denominator ≤ Nat.pow 10 (e - 1) * r.value then 1 - e else -e

/-- Whether the decimal `n · 10^scale` rounds to the float. -/
def holds (r : Interval) (n : Nat) (scale : Int) : Bool :=
  let point := n * Nat.pow 10 scale.toNat * r.denominator
  let down := Nat.pow 10 (-scale).toNat
  if r.closed then r.low * down ≤ point && point ≤ r.high * down
  else r.low * down < point && point < r.high * down

/-- The best multiple of `10^scale` that rounds to the float, if one does. -/
def onGrid (r : Interval) (tie : Tie) (scale : Int) : Option Nat :=
  let unit := Nat.pow 10 scale.toNat * r.denominator
  let value := r.value * Nat.pow 10 (-scale).toNat
  let n := value / unit
  match r.holds n scale, r.holds (n + 1) scale with
  | false, false => none
  | true, false => some n
  | false, true => some (n + 1)
  | true, true =>
    match compare (2 * (value % unit)) unit with
    | .lt => some n
    | .gt => some (n + 1)
    | .eq => if tie = .up ∨ n % 2 = 1 then some (n + 1) else some n

/-- The best decimal with the fewest digits. -/
def shortest (r : Interval) (tie : Tie) : Scientific :=
  let lead := r.leadingExponent
  let grid := (List.range 17).findSome? fun (k : Nat) ↦
    (r.onGrid tie (lead - k)).map fun n ↦ (n, lead - (k : Int))
  match grid with
  | none => ⟨['0'], 0⟩
  | some (n, scale) =>
    let digits := Text.numeral n
    ⟨(digits.reverse.dropWhile (· == '0')).reverse, scale + digits.length - 1⟩

end Interval

/-- The shortest decimal of a positive finite float. -/
def shortest (tie : Tie) (x : Float) : Scientific := (Interval.ofFloat x).shortest tie

example : shortest .toEven 0.1 = ⟨['1'], -1⟩ := by decide +kernel

example : shortest .toEven 1234.5 = ⟨['1', '2', '3', '4', '5'], 3⟩ := by decide +kernel

example : shortest .toEven 5e-324 = ⟨['5'], -324⟩ := by decide +kernel

end FacetedSearch.Decimal
