/-!
# Words for the values of a finite type

Several small types of this library are written as one fixed word per value: the direction of a
sort, the operator that joins terms, the kinds of filter and facet. `Vocabulary` says which values
a type has and which word each is written as. Reading a word is then searching the values, so that
a word is read exactly where it is written, and an error message can list the words in order.

That the search finds the value it should is the law of the class: no value is missing from the
list, and no two values have the same word.
-/

namespace FacetedSearch

/-- A type whose values are each written as one word. -/
class Vocabulary (α : Type) where
  /-- All values, in the order in which they are listed to a reader. -/
  values : List α
  /-- The word that a value is written as. -/
  word : α → String
  /-- The first value with the word of a value is that value. -/
  find?_word (a : α) : (values.find? fun b ↦ word b == word a) = some a

namespace Vocabulary

variable {α : Type} [Vocabulary α]

/-- The value that a word stands for. -/
def ofWord? (w : String) : Option α := values.find? fun a ↦ word a == w

/-- All words of the type. -/
def words (α : Type) [Vocabulary α] : List String := (values : List α).map word

@[simp] theorem ofWord?_word (a : α) : ofWord? (word a) = some a := find?_word a

theorem word_of_ofWord? {w : String} {a : α} (h : ofWord? w = some a) : word a = w := by
  simpa using List.find?_some h

theorem ofWord?_eq_none_iff {w : String} : (ofWord? w : Option α) = none ↔ w ∉ words α := by
  simp [ofWord?, words]

end Vocabulary

end FacetedSearch
