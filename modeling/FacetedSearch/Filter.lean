import FacetedSearch.DateRange

/-!
# Filters

A filter narrows the result of a query without affecting the order of what is found. It is a tree:
conditions at the leaves, and above them groups joined by an operator and negations. Every node may
have a key, by which a facet can ask for the filter to be ignored while it counts.

## What the type rules out

A test of a field has at least one term, which is a proof field of `FieldTest`. A group may be empty
all the same. Groups are also built where the operands are known only later, and an empty group is
then refused when the filter is compiled, so `Filter.allOf` and `Filter.anyOf` check what the
constructor `group` does not.
-/

namespace FacetedSearch

/-! ## Conditions -/

/-- A test of one field for any of some terms. -/
structure FieldTest where
  field : String
  terms : List String
  terms_ne_nil : terms ≠ []
  /-- Whether the items that pass are removed instead. -/
  excluded : Bool := false
deriving DecidableEq

namespace FieldTest

/-- A test of a field, if there is a term. -/
def of (field : String) (terms : List String) : Except Violation FieldTest :=
  if h : terms = [] then .error (.emptyTerms field) else .ok { field, terms, terms_ne_nil := h }

/-- A test of a specialized field. -/
def specialized (s : Specialization) (terms : List String) : Except Violation FieldTest :=
  of s.field terms

/-- The test that removes the items that pass. -/
def exclude (t : FieldTest) : FieldTest := { t with excluded := true }

/-- The specialization of the field, if it has one. -/
def specialization? (t : FieldTest) : Option Specialization := Specialization.ofField? t.field

/-- The test in the grammar of the backend. A single term stands alone, several are grouped. -/
def compile (t : FieldTest) : String :=
  (if t.excluded then "-" else "") ++ t.field ++ ":" ++
    match t.terms with
    | [term] => term
    | terms => "(" ++ " ".intercalate terms ++ ")"

end FieldTest

/-- A condition on a single item. -/
inductive Condition where
  | field (test : FieldTest)
  /-- A query in the grammar of the backend, taken as it is. -/
  | raw (query : String)
  /-- The item is not archived. -/
  | unarchived
  | dateRange (range : DateRange)
  | relativeRange (range : RelativeRange)
deriving DecidableEq

namespace Condition

/-- The condition in the grammar of the backend. -/
def compile : Condition → Except Violation String
  | field t => .ok t.compile
  | raw q => .ok q
  | unarchived => .ok ("-" ++ Field.archive ++ ":true")
  | dateRange r => r.compile
  | relativeRange r => r.compile

end Condition

/-! ## Trees -/

/-- A tree of conditions, with an optional key at every node. -/
inductive Filter where
  | test (key : Option String) (condition : Condition)
  | group (key : Option String) (operator : Operator) (operands : List Filter)
  | negation (key : Option String) (operand : Filter)

namespace Filter

/-- The key of the topmost node. -/
def key : Filter → Option String
  | test k _ | group k _ _ | negation k _ => k

/-- The filter with another key, or none, at its topmost node. -/
def withKey? (key : Option String) : Filter → Filter
  | test _ c => test key c
  | group _ op fs => group key op fs
  | negation _ f => negation key f

/-- The filter with a key at its topmost node. -/
def withKey (key : String) (f : Filter) : Filter := f.withKey? (some key)

@[simp] theorem key_withKey? (key : Option String) (f : Filter) : (f.withKey? key).key = key := by
  cases f <;> rfl

/-- A test of one field for any of some terms. -/
def field (name : String) (terms : List String) : Except Violation Filter :=
  (FieldTest.of name terms).map fun t ↦ test none (.field t)

/-- A group with at least one operand. -/
def join (op : Operator) (operands : List Filter) : Except Violation Filter :=
  if operands.isEmpty then .error (.emptyOperands op) else .ok (group none op operands)

/-- The items that pass all of the filters, of which there is at least one. -/
def allOf (operands : List Filter) : Except Violation Filter := join .and operands

/-- The items that pass one of the filters, of which there is at least one. -/
def anyOf (operands : List Filter) : Except Violation Filter := join .or operands

/-- The items that do not pass the filter. -/
def without (operand : Filter) : Filter := negation none operand

/-- A query in the grammar of the backend. -/
def rawQuery (query : String) : Filter := test none (.raw query)

/-- The items that are not archived. -/
def unarchived : Filter := test none .unarchived

/-- One filter or several joined by an operator. A single one stays as it is. -/
def combine (op : Operator) (first : Filter) : List Filter → Filter
  | [] => first
  | rest => group none op (first :: rest)

/-! ## Compilation -/

mutual

/-- The filter in the grammar of the backend. The first node, from left to right, that has no text
is reported. -/
def compile : Filter → Except Violation String
  | test _ c => c.compile
  | group _ op fs =>
    if fs.isEmpty then .error (.emptyOperands op)
    else do return "(" ++ (" " ++ op.text ++ " ").intercalate (← compileAll fs) ++ ")"
  | negation _ f => do return "NOT " ++ (← f.compile)

/-- The texts of several filters. -/
def compileAll : List Filter → Except Violation (List String)
  | [] => .ok []
  | f :: fs => do
    let text ← f.compile
    return text :: (← compileAll fs)

end

theorem compileAll_eq_mapM (fs : List Filter) : compileAll fs = fs.mapM compile := by
  induction fs with
  | nil => rfl
  | cons f fs ih => rw [compileAll, List.mapM_cons, ih]

/-! ## Equality -/

mutual

/-- Whether two filters are the same tree. -/
def same : Filter → Filter → Bool
  | test k c, test l d => decide (k = l) && decide (c = d)
  | group k op fs, group l op' gs => decide (k = l) && decide (op = op') && sameAll fs gs
  | negation k f, negation l g => decide (k = l) && same f g
  | _, _ => false

/-- Whether two lists of filters are the same trees. -/
def sameAll : List Filter → List Filter → Bool
  | [], [] => true
  | f :: fs, g :: gs => same f g && sameAll fs gs
  | _, _ => false

end

mutual

theorem same_iff_eq : (f g : Filter) → (same f g = true ↔ f = g)
  | test _ _, test _ _ => by simp [same]
  | group _ _ fs, group _ _ gs => by simp [same, sameAll_iff_eq fs gs, and_assoc]
  | negation _ f, negation _ g => by simp [same, same_iff_eq f g]
  | test _ _, group _ _ _ => by simp [same]
  | test _ _, negation _ _ => by simp [same]
  | group _ _ _, test _ _ => by simp [same]
  | group _ _ _, negation _ _ => by simp [same]
  | negation _ _, test _ _ => by simp [same]
  | negation _ _, group _ _ _ => by simp [same]

theorem sameAll_iff_eq : (fs gs : List Filter) → (sameAll fs gs = true ↔ fs = gs)
  | [], [] => by simp [sameAll]
  | f :: fs, g :: gs => by simp [sameAll, same_iff_eq f g, sameAll_iff_eq fs gs]
  | [], _ :: _ => by simp [sameAll]
  | _ :: _, [] => by simp [sameAll]

end

instance : DecidableEq Filter := fun f g ↦ decidable_of_iff _ (same_iff_eq f g)

end Filter

end FacetedSearch
