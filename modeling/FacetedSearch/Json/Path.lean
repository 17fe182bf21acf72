import FacetedSearch.Json.Basic

/-!
# Places inside a JSON document

A reader that gives up says where. A place is the list of steps that leads from the whole document
to the value in question, each step a key of an object or an index of a list. Keeping the steps
apart, and joining them to a text only when a message is written, means that a place can be followed
again (`Json.at?`), and that a place inside a part becomes a place inside the whole by putting the
part's own steps in front.
-/

namespace FacetedSearch.Json

/-- One step into a document. -/
inductive Step where
  | key (name : String)
  | index (position : Nat)
deriving DecidableEq

/-- The way from a document to a value inside it. -/
abbrev Path := List Step

/-- The value one step inside another, if there is one. -/
def step? : Json → Step → Option Json
  | .object o, .key k => o.lookup k
  | .array items, .index i => items[i]?
  | _, _ => none

/-- The value at a place, if the document has that place. -/
def at? : Json → Path → Option Json
  | v, [] => some v
  | v, s :: p => (v.step? s).bind (·.at? p)

@[simp] theorem at?_nil (v : Json) : v.at? [] = some v := by cases v <;> rfl

theorem at?_cons (v : Json) (s : Step) (p : Path) :
    v.at? (s :: p) = (v.step? s).bind (·.at? p) := by
  cases v <;> rfl

namespace Path

/-- How a step is written behind others. -/
def stepText : Step → String
  | .key k => "." ++ k
  | .index i => "[" ++ toString i ++ "]"

/-- A place as text: keys joined by points, indices in brackets, and `$` for the document itself. -/
def text : Path → String
  | [] => "$"
  | .key k :: p => k ++ String.join (p.map stepText)
  | .index i :: p => String.join ((.index i :: p).map stepText)

example : text [.key "facets", .index 2, .key "key"] = "facets[2].key" := by decide

end Path

end FacetedSearch.Json
