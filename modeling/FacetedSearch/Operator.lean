import FacetedSearch.Vocabulary

/-!
# Boolean operators

The same two operators join the operands of a filter and, as the default operator of a query, the
terms of its search phrase.
-/

namespace FacetedSearch

/-- How several conditions are joined. -/
inductive Operator where
  | and
  | or
deriving DecidableEq

namespace Operator

instance : Vocabulary Operator where
  values := [.and, .or]
  word
    | .and => "AND"
    | .or => "OR"
  find?_word op := by cases op <;> rfl

/-- The operator in the grammar of the backend. -/
def text (op : Operator) : String := Vocabulary.word op

end Operator

end FacetedSearch
