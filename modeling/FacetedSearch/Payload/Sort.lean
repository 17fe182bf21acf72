import FacetedSearch.Payload.Reading
import FacetedSearch.Sort

/-!
# Payloads of sort criteria

A criterion is an object whose `type` names what to compare by. The direction is ascending if it is
not given, and is always written.
-/

namespace FacetedSearch

namespace SortKey

/-- The kinds of criterion that payloads distinguish. -/
inductive Tag where
  | field
  | date
  | name
  | natural
  | score
  | distance
deriving DecidableEq

namespace Tag

instance : Vocabulary Tag where
  values := [field, date, name, natural, score, distance]
  word
    | field => "customField"
    | date => "date"
    | name => "name"
    | natural => "natural"
    | score => "score"
    | distance => "spatialDist"
  find?_word t := by cases t <;> rfl

end Tag

/-- The kind of a criterion. -/
def tag : SortKey → Tag
  | field _ => .field
  | date => .date
  | name => .name
  | natural => .natural
  | score => .score
  | distance => .distance

end SortKey

namespace Payload

/-- What to compare by, for a kind of criterion. -/
def readSortKey (o : Json.Object) : SortKey.Tag → Reading SortKey
  | .field => .field <$> required o "field" readText
  | .date => .ok .date
  | .name => .ok .name
  | .natural => .ok .natural
  | .score => .ok .score
  | .distance => .ok .distance

end Payload

namespace SortCriterion

open Payload

/-- The kind of a criterion. -/
def tag (c : SortCriterion) : SortKey.Tag := c.key.tag

/-- The criterion as a payload. -/
def toPayload (c : SortCriterion) : Json :=
  .object (("type", .ofWord c.tag) :: ("direction", .ofWord c.direction) ::
    match c.key with
    | .field name => [("field", .string name)]
    | _ => [])

/-- The criterion that a payload describes. -/
def ofPayload : Json → Reading SortCriterion :=
  readObject fun o ↦ do
    let key ← readSortKey o (← readTag .sort o)
    return { key, direction := ← optionalD o "direction" readWord Direction.ascending }

end SortCriterion

end FacetedSearch
