import FacetedSearch.Vocabulary

/-!
# Sort criteria

Results are sorted by a list of criteria, the first of which is the primary one. A criterion is
something to compare items by, and a direction.
-/

namespace FacetedSearch

/-- Whether small values come first or last. -/
inductive Direction where
  | ascending
  | descending
deriving DecidableEq, Inhabited

namespace Direction

instance : Vocabulary Direction where
  values := [.ascending, .descending]
  word
    | .ascending => "ASC"
    | .descending => "DESC"
  find?_word d := by cases d <;> rfl

/-- The direction in the grammar of the backend. -/
def text : Direction → String
  | .ascending => "asc"
  | .descending => "desc"

end Direction

/-- What items are compared by. -/
inductive SortKey where
  | field (name : String)
  /-- The primary date of the item. -/
  | date
  /-- The title, letter by letter. -/
  | name
  /-- The title, with the numbers in it compared as numbers. -/
  | natural
  /-- The relevance. -/
  | score
  /-- The distance from the reference point of the query. -/
  | distance
deriving DecidableEq

/-- A criterion to sort by. -/
structure SortCriterion where
  key : SortKey
  direction : Direction := .ascending
deriving DecidableEq

end FacetedSearch
