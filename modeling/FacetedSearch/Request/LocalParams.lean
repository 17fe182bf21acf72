import FacetedSearch.Text.Blank

/-!
# Local parameters

Parameters of a part of a query stand in front of it between braces, as in `!key=sites ex=site`.
They are separated by spaces, so a value has to be quoted if it could be taken for something else:
if it is empty, if it contains a blank, or if it contains a character with a meaning here. Between
quotes only the quote and the backslash are escaped.

Lists are values, too, with a comma between their items. A comma or a backslash inside an item is
escaped before the list is quoted as a whole, so the two escapings do not mix.
-/

namespace FacetedSearch

/-- Local parameters: the name of a parser, and named values in order. -/
structure LocalParams where
  parser : Option String := none
  pairs : List (String × String) := []
deriving DecidableEq

namespace LocalParams

/-- The characters that have a meaning within local parameters. -/
def specials : List Char := ['\x7d', '\'', '"', ',', '\\']

/-- Whether a value has to be quoted. -/
def needsQuotes (value : List Char) : Bool :=
  value.isEmpty || value.any fun c ↦ Text.isBlank c || specials.contains c

/-- A character between quotes. -/
def escapeQuoted (c : Char) : List Char := if c = '\'' ∨ c = '\\' then ['\\', c] else [c]

/-- A value, quoted if it has to be. -/
def quoteChars (value : List Char) : List Char :=
  if needsQuotes value then '\'' :: value.flatMap escapeQuoted ++ ['\''] else value

/-- A value, quoted if it has to be. -/
def quote (value : String) : String := String.ofList (quoteChars value.toList)

/-- A character of an item of a list. -/
def escapeItem (c : Char) : List Char := if c = '\\' ∨ c = ',' then ['\\', c] else [c]

/-- Several items as one value. -/
def joinItems (items : List String) : String :=
  ",".intercalate (items.map fun s ↦ String.ofList (s.toList.flatMap escapeItem))

/-- The parameters with one more pair. -/
def add (p : LocalParams) (name value : String) : LocalParams :=
  { p with pairs := p.pairs ++ [(name, value)] }

/-- The parameters with one more pair, if there is a value. -/
def add? (p : LocalParams) (name : String) : Option String → LocalParams
  | some value => p.add name value
  | none => p

/-- The parts between the braces. -/
def parts (p : LocalParams) : List String :=
  p.parser.toList ++ p.pairs.map fun nv ↦ nv.1 ++ "=" ++ quote nv.2

/-- The parameters in front of a query. Without any, the query stays as it is. -/
def wrap (p : LocalParams) (body : String) : String :=
  if p.parts.isEmpty then body else "\x7b!" ++ " ".intercalate p.parts ++ "\x7d" ++ body

example : (wrap { pairs := [("key", "a b"), ("ex", "site")] } "x").toList =
    "\x7b!key='a b' ex=site\x7dx".toList := by decide

end LocalParams

end FacetedSearch
