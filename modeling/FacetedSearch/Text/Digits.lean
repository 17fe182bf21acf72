/-!
# Decimal numerals

Numbers reach this library as runs of ASCII digits, and leave it the same way. A digit of another
script is an ordinary character here: `Char.isDigit` is the ASCII class, which is the one that all
the grammars of this library name.
-/

namespace FacetedSearch.Text

/-- The value of an ASCII digit; of no meaning for another character. -/
def digitValue (c : Char) : Nat := c.toNat - '0'.toNat

/-- The number that a run of digits denotes. Leading zeros add nothing, and no digits are zero. -/
def numeralValue (cs : List Char) : Nat := Nat.ofDigitChars 10 cs 0

/-- Whether the characters are a non-empty run of digits. -/
def isNumeral (cs : List Char) : Bool := !cs.isEmpty && cs.all Char.isDigit

/-- The decimal digits of a number, without leading zeros. -/
def numeral (n : Nat) : List Char := Nat.toDigits 10 n

/-- The decimal digits of a number, filled up with leading zeros to a least width. -/
def padded (width n : Nat) : List Char := List.leftpad width '0' (numeral n)

/-- Exactly `n` digits at the head of the characters: their value and what follows them. -/
def takeDigits (n : Nat) (cs : List Char) : Option (Nat × List Char) :=
  let head := cs.take n
  if head.length = n ∧ head.all Char.isDigit then some (numeralValue head, cs.drop n) else none

/-- An integer written as an optional sign and at least one digit, with nothing around it. -/
def readInt? : List Char → Option Int
  | '+' :: cs => if isNumeral cs then some (numeralValue cs) else none
  | '-' :: cs => if isNumeral cs then some (-(numeralValue cs : Int)) else none
  | cs => if isNumeral cs then some (numeralValue cs) else none

@[simp] theorem numeralValue_numeral (n : Nat) : numeralValue (numeral n) = n :=
  Nat.ofDigitChars_toDigits (by decide) (by decide)

theorem isNumeral_numeral (n : Nat) : isNumeral (numeral n) = true := by
  simp only [isNumeral, numeral, Bool.and_eq_true, List.all_eq_true]
  exact ⟨by simp [Nat.toDigits_ne_nil], fun c hc ↦
    Nat.isDigit_of_mem_toDigits (by decide) (by decide) hc⟩

example : readInt? "-007".toList = some (-7) := by decide

example : readInt? "+".toList = none ∧ readInt? "".toList = none ∧ readInt? "1 ".toList = none := by
  decide

end FacetedSearch.Text
