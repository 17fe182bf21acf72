import FacetedSearch.Filter
import Mathlib.Tactic

/-!
# Nodes of filters

What holds everywhere in a filter is a statement about its nodes, and they are listed here: the
filter itself, its operands, their operands, and so on. Membership of this list is all that later
modules use, through one equation for each way to make a filter.

`Filter.induction` is the induction over trees that goes with it. It gives the case of a group the
property for each operand, which the recursor of the type only has for the list of operands.
-/

namespace FacetedSearch

/-- The timestamps of a condition. -/
def Condition.instants : Condition → List Instant
  | dateRange r => r.lower.toList ++ r.upper.toList
  | _ => []

namespace Filter

/-- A property of all filters, from that of the operands to that of the node above them. -/
@[elab_as_elim]
theorem induction {motive : Filter → Prop} (test : ∀ k c, motive (test k c))
    (group : ∀ k op fs, (∀ f ∈ fs, motive f) → motive (group k op fs))
    (negation : ∀ k f, motive f → motive (negation k f)) (f : Filter) : motive f :=
  @Filter.rec motive (fun fs ↦ ∀ f ∈ fs, motive f) test group negation
    (fun _ h ↦ absurd h List.not_mem_nil)
    (fun _ _ hf hfs g hg ↦ (List.mem_cons.mp hg).elim (fun h ↦ h ▸ hf) (hfs g)) f

mutual

/-- The nodes of a filter, the topmost one first. -/
def nodes : Filter → List Filter
  | test k c => [test k c]
  | group k op fs => group k op fs :: nodesOfAll fs
  | negation k f => negation k f :: f.nodes

/-- The nodes of several filters. -/
def nodesOfAll : List Filter → List Filter
  | [] => []
  | f :: fs => f.nodes ++ nodesOfAll fs

end

theorem nodesOfAll_eq_flatMap (fs : List Filter) : nodesOfAll fs = fs.flatMap nodes := by
  induction fs with
  | nil => rfl
  | cons f fs ih => rw [nodesOfAll, List.flatMap_cons, ih]

/-- The timestamps of a filter, at any depth. -/
def instants (f : Filter) : List Instant :=
  f.nodes.flatMap fun
    | test _ c => c.instants
    | _ => []

@[simp] theorem instants_test (k : Option String) (c : Condition) :
    (test k c).instants = c.instants := by
  simp [instants, nodes]

@[simp] theorem instants_group (k : Option String) (op : Operator) (fs : List Filter) :
    (group k op fs).instants = fs.flatMap instants := by
  simp only [instants, nodes, nodesOfAll_eq_flatMap, List.flatMap_cons, List.nil_append,
    List.flatMap_assoc]
  rfl

@[simp] theorem instants_negation (k : Option String) (f : Filter) :
    (negation k f).instants = f.instants := by
  simp [instants, nodes]

/-- Whether every group in a filter, at any depth, has an operand. -/
def GroupsInhabited (f : Filter) : Prop := ∀ k op, group k op [] ∉ f.nodes

@[simp] theorem groupsInhabited_test (k : Option String) (c : Condition) :
    (test k c).GroupsInhabited := by
  simp [GroupsInhabited, nodes]

theorem groupsInhabited_group {k : Option String} {op : Operator} {fs : List Filter} :
    (group k op fs).GroupsInhabited ↔ fs ≠ [] ∧ ∀ f ∈ fs, f.GroupsInhabited := by
  simp only [GroupsInhabited, nodes, nodesOfAll_eq_flatMap, List.mem_cons, List.mem_flatMap,
    group.injEq, not_or, not_exists, not_and]
  constructor
  · intro h
    exact ⟨fun hfs ↦ (h k op).1 rfl rfl hfs.symm, fun f hf l op' ↦ (h l op').2 f hf⟩
  · intro h l op'
    exact ⟨fun _ _ hfs ↦ h.1 hfs.symm, fun f hf ↦ h.2 f hf l op'⟩

@[simp] theorem groupsInhabited_negation {k : Option String} {f : Filter} :
    (negation k f).GroupsInhabited ↔ f.GroupsInhabited := by
  simp [GroupsInhabited, nodes]

end Filter

end FacetedSearch
