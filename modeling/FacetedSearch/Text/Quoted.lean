import FacetedSearch.Text.Printable

/-!
# Quoted texts in messages

A message that repeats a text puts it between quotation marks and writes every character that could
be mistaken as an escape: the quotation mark and the backslash behind a backslash, the usual control
characters by their letters, and everything that is not printable by its code point.
-/

namespace FacetedSearch.Text

/-- The hexadecimal digits of a code point. -/
def hexadecimal (n : Nat) : List Char := Nat.toDigits 16 n

/-- One character of a quoted text. -/
def escape (c : Char) : List Char :=
  if c = '\x00' then ['\\', '0']
  else if c = '\t' then ['\\', 't']
  else if c = '\r' then ['\\', 'r']
  else if c = '\n' then ['\\', 'n']
  else if c = '"' ∨ c = '\\' then ['\\', c]
  else if isPrintable c then [c]
  else ['\\', 'u', '\x7b'] ++ hexadecimal c.toNat ++ ['\x7d']

/-- A text between quotation marks, in printable characters only. -/
def quoted (s : String) : String :=
  String.ofList ('"' :: s.toList.flatMap escape ++ ['"'])

example : (quoted "a\"\n\u200b").toList = "\"a\\\"\\n\\u\x7b200b\x7d\"".toList := by decide +kernel

end FacetedSearch.Text
