import FacetedSearch.Proofs.DateMath.Faults
import FacetedSearch.Proofs.Filter.Nodes

/-!
# Filters that do not compile

A filter without a text has a node that is at fault by itself. This is either a group without
operands, or a test of a range that cannot be written. Nodes are visited from left to right, a group
before its operands, which is the order of `Filter.nodes`. So the fault of a filter is that of the
first of its nodes that has one, however deep that node is.
-/

namespace FacetedSearch

namespace Condition

/-- The field of a range that is open at both ends. -/
def openField? : Condition → Option String
  | dateRange r => r.openField?
  | relativeRange r => r.openField?
  | _ => none

/-- The periods that are written for a condition, in their order. -/
def periods : Condition → List Period
  | relativeRange r => r.before.toList ++ r.after.toList
  | _ => []

/-- Only ranges can be at fault. -/
theorem compile_eq_error_iff {c : Condition} {v : Violation} :
    c.compile = .error v ↔ RangeFault c.openField? c.periods v := by
  refine eq_error_iff_rangeFault (fun field hopen ↦ ?_) (fun bounded ↦ ?_) v
  · cases c with
    | dateRange r => exact DateRange.compile_of_open field hopen
    | relativeRange r => exact RelativeRange.compile_of_open field hopen
    | _ => cases hopen
  · cases c with
    | dateRange r => exact DateRange.failsFor_compile bounded
    | relativeRange r => exact RelativeRange.failsFor_compile bounded
    | _ => exact failsFor_ok _

end Condition

namespace Filter

/-- What a node is refused for by itself, whatever is below it. -/
inductive Fault : Filter → Violation → Prop
  | range {k : Option String} {c : Condition} {v : Violation}
      (fault : RangeFault c.openField? c.periods v) : Fault (test k c) v
  | empty {k : Option String} {op : Operator} : Fault (group k op []) (.emptyOperands op)

theorem fault_test_iff {k : Option String} {c : Condition} {v : Violation} :
    Fault (test k c) v ↔ RangeFault c.openField? c.periods v := by
  constructor
  · rintro ⟨h⟩
    exact h
  · exact .range

theorem fault_group_nil_iff {k : Option String} {op : Operator} {v : Violation} :
    Fault (group k op []) v ↔ v = .emptyOperands op := by
  constructor
  · rintro ⟨⟩
    rfl
  · rintro rfl
    exact .empty

theorem not_fault_group {k : Option String} {op : Operator} {f : Filter} {fs : List Filter}
    {v : Violation} : ¬ Fault (group k op (f :: fs)) v := nofun

theorem not_fault_negation {k : Option String} {f : Filter} {v : Violation} :
    ¬ Fault (negation k f) v := nofun

/-- A filter fails as the first of its nodes that is at fault. -/
theorem compile_eq_error_iff {f : Filter} {v : Violation} :
    f.compile = .error v ↔ FirstFault f.nodes Fault v := by
  induction f using Filter.induction generalizing v with
  | test k c =>
    simp [nodes, firstFault_cons, compile, fault_test_iff, Condition.compile_eq_error_iff]
  | group k op fs ih =>
    rcases fs with _ | ⟨f, fs⟩
    · simp [nodes, nodesOfAll, firstFault_cons, compile, fault_group_nil_iff, eq_comm]
    · have hoperands : (f :: fs).mapM compile = .error v ↔
          FirstFault ((f :: fs).flatMap nodes) Fault v := by
        rw [mapM_eq_error_iff]
        exact firstFault_flatMap fun g hg d ↦ ih g hg
      rw [nodes, firstFault_cons, nodesOfAll_eq_flatMap, ← hoperands, compile, compileAll_eq_mapM]
      simp [bind_eq_error_iff, not_fault_group, pure, Except.pure]
  | negation k f ih =>
    rw [nodes, firstFault_cons, ← ih, compile, bind_eq_error_iff]
    simp [not_fault_negation, pure, Except.pure]

end Filter

end FacetedSearch
