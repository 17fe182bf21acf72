import FacetedSearch.Proofs.DateMath.Offsets
import FacetedSearch.Proofs.Filter.Nodes
import FacetedSearch.Text.Blank

/-!
# Filters that no text tells apart

Compilation forgets a little: keys are not written, a group of one operand is written without its
operator, a timestamp without the fraction of its second, and a period only by the three numbers of
its offset. `Filter.Alike` relates the filters that differ in nothing else.

That the text forgets no more can only hold where it is written by the library. A raw query is
anything at all, and names and terms go into the text as they are. `Filter.Clean` asks that there
are no raw queries and that names and terms are words: not empty, and without the characters by
which the grammar tells its parts apart.
-/

namespace FacetedSearch

/-! ## Clean filters -/

/-- A character that neither divides words nor groups them. -/
def isWordChar (c : Char) : Bool := !(Text.isBlank c || ['(', ')', '[', ']'].contains c)

/-- A character of a field name. -/
def isFieldChar (c : Char) : Bool := isWordChar c && c != ':'

/-- A name that can be told from what stands around it. A sign in front would negate the test. -/
structure IsFieldName (name : String) : Prop where
  ne_empty : name ≠ ""
  head?_ne : name.toList.head? ≠ some '-'
  isFieldChar : ∀ c ∈ name.toList, isFieldChar c = true

/-- A term that can be told from what stands around it. -/
structure IsTerm (term : String) : Prop where
  ne_empty : term ≠ ""
  isWordChar : ∀ c ∈ term.toList, isWordChar c = true

/-- The condition is written in words. -/
def Condition.Clean : Condition → Prop
  | field t => IsFieldName t.field ∧ ∀ term ∈ t.terms, IsTerm term
  | dateRange r => IsFieldName r.field
  | relativeRange r => IsFieldName r.field
  | raw _ | unarchived => False

/-- All conditions of the filter, at any depth, are written in words. -/
def Filter.Clean (f : Filter) : Prop := ∀ k c, Filter.test k c ∈ f.nodes → c.Clean

/-! ## Alike filters -/

/-- The conditions differ in nothing that is written. -/
def Condition.Alike : Condition → Condition → Prop
  | field t, field u => t = u
  | raw s, raw t => s = t
  | unarchived, unarchived => True
  | dateRange r, dateRange r' => r.field = r'.field ∧
    r.lower.map Instant.dateMathText = r'.lower.map Instant.dateMathText ∧
      r.upper.map Instant.dateMathText = r'.upper.map Instant.dateMathText
  | relativeRange r, relativeRange r' => r.field = r'.field ∧
    Option.Rel Period.SameDays r.before r'.before ∧ Option.Rel Period.SameDays r.after r'.after
  | _, _ => False

namespace Filter

mutual

/-- The filters are the same tree, up to keys, the operators of groups of one operand, and what
conditions do not show. -/
def Alike : Filter → Filter → Prop
  | test _ c, test _ d => c.Alike d
  | group _ op fs, group _ op' gs => (fs.length = 1 ∨ op = op') ∧ AlikeAll fs gs
  | negation _ f, negation _ g => Alike f g
  | _, _ => False

/-- The same for the members of two lists. -/
def AlikeAll : List Filter → List Filter → Prop
  | [], [] => True
  | f :: fs, g :: gs => Alike f g ∧ AlikeAll fs gs
  | _, _ => False

end

theorem alikeAll_iff_forall₂ {fs gs : List Filter} : AlikeAll fs gs ↔ List.Forall₂ Alike fs gs := by
  induction fs generalizing gs with
  | nil => cases gs <;> simp [AlikeAll]
  | cons f fs ih => cases gs <;> simp [AlikeAll, ih]

@[simp] theorem clean_test {k : Option String} {c : Condition} : (test k c).Clean ↔ c.Clean := by
  simp [Clean, nodes]

@[simp] theorem clean_group {k : Option String} {op : Operator} {fs : List Filter} :
    (group k op fs).Clean ↔ ∀ f ∈ fs, f.Clean := by
  simp only [Clean, nodes, nodesOfAll_eq_flatMap, List.mem_cons, List.mem_flatMap, reduceCtorEq,
    false_or]
  constructor
  · intro h f hf l c hc
    exact h l c ⟨f, hf, hc⟩
  · rintro h l c ⟨f, hf, hc⟩
    exact h f hf l c hc

@[simp] theorem clean_negation {k : Option String} {f : Filter} :
    (negation k f).Clean ↔ f.Clean := by
  simp [Clean, nodes]

end Filter

end FacetedSearch
