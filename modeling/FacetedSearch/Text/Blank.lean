/-!
# Blank characters

The Unicode property `White_Space` decides two things in this library: what is cut off around a
text that holds a number or a search phrase, and which values of a local parameter have to be
quoted. Both must agree with the backend on characters far outside ASCII, such as the ideographic
space, so the property is kept as the table of its ranges and not as a list of the usual suspects.
-/

namespace FacetedSearch.Text

/-- The code points with the property `White_Space`, as closed ranges in ascending order. -/
def blankRanges : List (Nat × Nat) :=
  [(0x0009, 0x000d), (0x0020, 0x0020), (0x0085, 0x0085), (0x00a0, 0x00a0), (0x1680, 0x1680),
    (0x2000, 0x200a), (0x2028, 0x2029), (0x202f, 0x202f), (0x205f, 0x205f), (0x3000, 0x3000)]

/-- Whether a character has the property `White_Space`. -/
def isBlank (c : Char) : Bool :=
  blankRanges.any fun r ↦ r.1 ≤ c.toNat && c.toNat ≤ r.2

/-- The characters without the blank ones at either end. -/
def trimChars (cs : List Char) : List Char :=
  ((cs.dropWhile isBlank).reverse.dropWhile isBlank).reverse

/-- A text without the blank characters at either end. -/
def trim (s : String) : String := String.ofList (trimChars s.toList)

/-- The table covers every ASCII blank. -/
example : [' ', '\t', '\n', '\r', '\x0b', '\x0c'].all isBlank = true := by decide

/-- The property has twenty-five members. -/
example : (blankRanges.map fun r ↦ r.2 + 1 - r.1).sum = 25 := by decide

end FacetedSearch.Text
