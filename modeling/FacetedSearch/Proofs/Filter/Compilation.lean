import FacetedSearch.Proofs.Filter.Faults

/-!
# The outcome of compilation

Whether a filter compiles is decided node by node. `Writable` says what is asked of a node, with no
regard to what is above or below it, and a filter compiles exactly if all of its nodes are writable.

Compilation is also compositional: the outcome for a node is a function of the outcomes for its
operands (`compile_group`). Two things follow that users rely on when they rearrange filters. Keys
do not matter, at whatever depth they are (`compile_withoutKeys`). And an operand may be replaced by
any other with the same outcome. Where the operand stands is a `Context`, a filter with a hole, and
the places of a filter are exactly its nodes (`mem_nodes_iff`).
-/

namespace FacetedSearch

/-! ## Nodes that can be written -/

namespace Condition

/-- What is asked of a condition: an end for a range, and whole days for the periods of a relative
one. -/
def Writable : Condition → Prop
  | dateRange r => r.lower.isSome ∨ r.upper.isSome
  | relativeRange r =>
    (r.before.isSome ∨ r.after.isSome) ∧
      ∀ p, r.before = some p ∨ r.after = some p → p.hours = 0 ∧ p.minutes = 0 ∧ p.seconds = 0
  | _ => True

theorem exists_rangeFault_iff_not_writable {c : Condition} :
    (∃ v, RangeFault c.openField? c.periods v) ↔ ¬ c.Writable := by
  rw [exists_rangeFault_iff]
  rcases c with t | q | _ | r | r
  case dateRange =>
    simp [Writable, openField?, periods, DateRange.isSome_openField?_iff]
  case relativeRange =>
    have hends : ¬ (r.before.isSome ∨ r.after.isSome) ↔ r.before = none ∧ r.after = none := by
      simp
    have hdays : (∀ p, r.before = some p ∨ r.after = some p →
        p.hours = 0 ∧ p.minutes = 0 ∧ p.seconds = 0) ↔
          ¬ ∃ p ∈ r.before.toList ++ r.after.toList, p.hasTime = true := by
      simp [Period.hasTime_iff]
    rw [Writable, not_and_or, hends, hdays, not_not, openField?, periods,
      RelativeRange.isSome_openField?_iff]
  all_goals simp [Writable, openField?, periods]

end Condition

namespace Filter

variable {f g h : Filter}

/-- What is asked of a node by itself, whatever is below it. -/
def Writable : Filter → Prop
  | test _ c => c.Writable
  | group _ _ fs => fs ≠ []
  | negation _ _ => True

theorem exists_fault_iff : (∃ v, Fault f v) ↔ ¬ f.Writable := by
  rcases f with ⟨k, c⟩ | ⟨k, op, _ | ⟨f, fs⟩⟩ | ⟨k, f⟩
  · simp only [fault_test_iff, Condition.exists_rangeFault_iff_not_writable, Writable]
  · simp [fault_group_nil_iff, Writable]
  · simp [not_fault_group, Writable]
  · simp [not_fault_negation, Writable]

theorem exists_compile_eq_ok_iff : (∃ s, f.compile = .ok s) ↔ ∀ g ∈ f.nodes, g.Writable := by
  have hfault : (∃ v, f.compile = .error v) ↔ ∃ g ∈ f.nodes, ¬ g.Writable := by
    simp only [compile_eq_error_iff, exists_firstFault_iff, exists_fault_iff]
  rw [exists_eq_ok_iff, ← not_exists, hfault]
  push Not
  rfl

/-! ## Compilation by parts -/

/-- The outcome for a group, from those of its operands. -/
def joinOutcomes (op : Operator) (outcomes : List (Except Violation String)) :
    Except Violation String :=
  if outcomes.isEmpty then .error (.emptyOperands op)
  else do return "(" ++ (" " ++ op.text ++ " ").intercalate (← outcomes.mapM id) ++ ")"

theorem compile_group (k : Option String) (op : Operator) (fs : List Filter) :
    (group k op fs).compile = joinOutcomes op (fs.map compile) := by
  rw [compile, compileAll_eq_mapM, joinOutcomes, List.isEmpty_map, List.mapM_map]
  rfl

/-! ## Keys -/

mutual

/-- The filter without the keys of its nodes. -/
def withoutKeys : Filter → Filter
  | test _ c => test none c
  | group _ op fs => group none op (withoutKeysAll fs)
  | negation _ f => negation none f.withoutKeys

/-- Several filters without the keys of their nodes. -/
def withoutKeysAll : List Filter → List Filter
  | [] => []
  | f :: fs => f.withoutKeys :: withoutKeysAll fs

end

theorem withoutKeysAll_eq_map (fs : List Filter) : withoutKeysAll fs = fs.map withoutKeys := by
  induction fs with
  | nil => rfl
  | cons f fs ih => rw [withoutKeysAll, List.map_cons, ih]

theorem compile_withoutKeys (f : Filter) : f.withoutKeys.compile = f.compile := by
  induction f using Filter.induction with
  | test k c => rfl
  | group k op fs ih =>
    rw [withoutKeys, compile_group, compile_group, withoutKeysAll_eq_map, List.map_map]
    exact congrArg _ (List.map_congr_left ih)
  | negation k f ih => rw [withoutKeys, compile, ih, compile]

/-! ## Places in a filter -/

/-- A filter with a hole in place of one of its nodes. -/
inductive Context where
  | hole
  | group (key : Option String) (operator : Operator) (before : List Filter) (inner : Context)
      (behind : List Filter)
  | negation (key : Option String) (inner : Context)

/-- The filter with another one in the hole. -/
def Context.fill (g : Filter) : Context → Filter
  | hole => g
  | group k op before C behind => .group k op (before ++ C.fill g :: behind)
  | negation k C => .negation k (C.fill g)

theorem self_mem_nodes (f : Filter) : f ∈ f.nodes := by
  cases f <;> simp [nodes]

/-- The nodes of a filter are what stands in the hole of its contexts. -/
theorem mem_nodes_iff : g ∈ f.nodes ↔ ∃ C : Context, C.fill g = f := by
  constructor
  · induction f using Filter.induction with
    | test k c =>
      intro hg
      exact ⟨.hole, List.mem_singleton.mp hg⟩
    | group k op fs ih =>
      intro hg
      rw [nodes, nodesOfAll_eq_flatMap, List.mem_cons, List.mem_flatMap] at hg
      rcases hg with rfl | ⟨f, hf, hg⟩
      · exact ⟨.hole, rfl⟩
      · obtain ⟨C, hC⟩ := ih f hf hg
        -- the other operands stand on either side of the hole
        obtain ⟨before, behind, rfl⟩ := List.append_of_mem hf
        exact ⟨.group k op before C behind, by rw [Context.fill, hC]⟩
    | negation k f ih =>
      intro hg
      rcases List.mem_cons.mp hg with rfl | hg
      · exact ⟨.hole, rfl⟩
      · obtain ⟨C, hC⟩ := ih hg
        exact ⟨.negation k C, by rw [Context.fill, hC]⟩
  · rintro ⟨C, rfl⟩
    induction C with
    | hole => exact self_mem_nodes g
    | group k op before C behind ih =>
      rw [Context.fill, nodes, nodesOfAll_eq_flatMap, List.mem_cons, List.mem_flatMap]
      exact .inr ⟨C.fill g, by simp, ih⟩
    | negation k C ih =>
      rw [Context.fill, nodes]
      exact List.mem_cons_of_mem _ ih

/-- What stands in the hole only matters by its outcome. -/
theorem Context.compile_fill_congr (C : Context) (hgh : g.compile = h.compile) :
    (C.fill g).compile = (C.fill h).compile := by
  induction C with
  | hole => exact hgh
  | group k op before C behind ih =>
    rw [fill, fill, compile_group, compile_group, List.map_append, List.map_append, List.map_cons,
      List.map_cons, ih]
  | negation k C ih => rw [fill, fill, compile, compile, ih]

/-- **The outcome of compilation.** A filter has a text exactly if each of its nodes is writable,
and otherwise fails as the first of them that is at fault. Filters that are the same up to keys have
the same outcome, and so has a filter in which a node is replaced by one with the same outcome. -/
theorem compile_decided (f : Filter) :
    ((∃ s, f.compile = .ok s) ↔ ∀ g ∈ f.nodes, g.Writable) ∧
    (∀ v, f.compile = .error v ↔ FirstFault f.nodes Fault v) ∧
    (∀ g : Filter, g.withoutKeys = f.withoutKeys → g.compile = f.compile) ∧
    (∀ g, g ∈ f.nodes ↔ ∃ C : Context, C.fill g = f) ∧
    ∀ (C : Context) (g h : Filter), C.fill g = f → h.compile = g.compile →
      (C.fill h).compile = f.compile := by
  refine ⟨exists_compile_eq_ok_iff, fun v ↦ compile_eq_error_iff, fun g hg ↦ ?_,
    fun g ↦ mem_nodes_iff, ?_⟩
  · rw [← compile_withoutKeys g, hg, compile_withoutKeys]
  · rintro C g h rfl hgh
    exact C.compile_fill_congr hgh

end Filter

end FacetedSearch
