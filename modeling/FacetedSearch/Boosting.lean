/-!
# Boosting

Weights that move some of the results up. All but one of the parts are expressions of the backend
and are handed on as they are. The tie breaker blends the best field of an item with its other
fields, from `0` for the best alone to `1` for the sum; it weighs nothing by itself, so boosting
that consists of a tie breaker alone is empty.
-/

namespace FacetedSearch

/-- Weights for the ranking of results. -/
structure Boosting where
  /-- Fields with their weights. -/
  queryFields : List String := []
  /-- Fields with their weights if the search phrase occurs in them as a whole. -/
  phraseFields : List String := []
  /-- Queries whose matches score higher. -/
  boostQueries : List String := []
  /-- Functions that are added to the score. -/
  boostFunctions : List String := []
  tie : Float := 0
deriving DecidableEq

/-- Whether nothing is weighted. -/
def Boosting.isEmpty (b : Boosting) : Bool :=
  b.queryFields.isEmpty && b.phraseFields.isEmpty && b.boostQueries.isEmpty &&
    b.boostFunctions.isEmpty

end FacetedSearch
