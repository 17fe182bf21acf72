import FacetedSearch.Proofs.Filter.Nodes
import FacetedSearch.Proofs.Payload.Values

/-!
# Written filters read back

A filter whose leap seconds are at the ends of minutes is restored from its payload if every group
in it has an operand and every timestamp in it has a year of four digits. If not, its payload is
refused, so that such a filter is never restored as another one.

The proof goes by induction on the tree. The case of a test is the only one with a table in it: the
tag that is written for a test of a field must lead the reader back to the same field, whether the
field has a tag of its own or not.
-/

namespace FacetedSearch

open Json.Object (value? value?_cons)
open Payload

namespace Condition

/-! ## Tests -/

theorem readFieldTest_eq_ok {o : Json.Object} {t : FieldTest}
    (hterms : o.value? "terms" = some (.ofStrings t.terms))
    (hexclude : o.value? "exclude" = some (.bool t.excluded)) :
    readFieldTest o t.field = .ok t := by
  have hof : FieldTest.of t.field t.terms = .ok { t with excluded := false } :=
    dif_neg t.terms_ne_nil
  have hread : readBool (.bool t.excluded) = .ok t.excluded := rfl
  rw [readFieldTest, required_eq_ok hterms (readList_readTerm t.terms), ok_bind, hof, checked_ok,
    ok_bind, optionalD_eq_ok hexclude hread]
  obtain ⟨field, terms, hne, excluded⟩ := t
  cases excluded <;> rfl

section Entries

variable {o : Json.Object}

private theorem readCondition_field {t : FieldTest}
    (ho : ∀ key ∉ ["type", "key"], o.value? key = value? (field t).entries key) :
    readCondition o (field t).tag = .ok (field t) := by
  have hterms : o.value? "terms" = some (.ofStrings t.terms) := by
    rw [ho _ (by decide)]
    simp [entries, value?_cons, Json.ofStrings]
  have hexclude : o.value? "exclude" = some (.bool t.excluded) := by
    rw [ho _ (by decide)]
    simp [entries, value?_cons]
  have hread := readFieldTest_eq_ok hterms hexclude
  cases hs : t.specialization? with
  | some s =>
    have hfield : s.field = t.field := Specialization.field_of_ofField? hs
    have htag : (field t).tag = .specialized s := by simp [tag, hs]
    rw [htag, readCondition, hfield, hread]
    rfl
  | none =>
    have hfield : o.value? "field" = some (.string t.field) := by
      rw [ho _ (by decide)]
      simp [entries, value?_cons, hs]
    have htag : (field t).tag = .field := by simp [tag, hs]
    have htext : readText (.string t.field) = .ok t.field := rfl
    rw [htag, readCondition, required_eq_ok hfield htext, ok_bind, hread]
    rfl

private theorem readCondition_raw {q : String}
    (ho : ∀ key ∉ ["type", "key"], o.value? key = value? (raw q).entries key) :
    readCondition o .raw = .ok (raw q) := by
  have hquery : o.value? "query" = some (.string q) := by
    rw [ho _ (by decide)]
    simp [entries, value?_cons]
  have htext : readText (.string q) = .ok q := rfl
  rw [readCondition, required_eq_ok hquery htext]
  rfl

private theorem yields_readCondition_dateRange {r : DateRange}
    (ho : ∀ key ∉ ["type", "key"], o.value? key = value? (dateRange r).entries key)
    (hlower : ∀ t ∈ r.lower, t.LeapsAtMinuteEnd) (hupper : ∀ t ∈ r.upper, t.LeapsAtMinuteEnd) :
    Yields (readCondition o .dateRange) (dateRange r)
      ((∀ t ∈ r.lower, t.HasFourDigitYear) ∧ ∀ t ∈ r.upper, t.HasFourDigitYear) := by
  have hfield : o.value? "field" = some (.string r.field) := by
    rw [ho _ (by decide)]
    simp [entries, value?_cons]
  have hfrom : o.value? "from" = r.lower.map Instant.toPayload := by
    rw [ho _ (by decide)]
    simp [entries, value?_cons]
  have hto : o.value? "to" = r.upper.map Instant.toPayload := by
    rw [ho _ (by decide)]
    simp [entries, value?_cons]
  rw [readCondition]
  refine ((yields_optional_instant hfrom hlower).bind ((yields_optional_instant hto hupper).bind
    ((Yields.of_eq_ok (readRangeField_eq_ok hfield)).bind_pure _))).congr ?_
  rw [and_true]

private theorem readCondition_relativeRange {r : RelativeRange}
    (ho : ∀ key ∉ ["type", "key"], o.value? key = value? (relativeRange r).entries key) :
    readCondition o .relativeRange = .ok (relativeRange r) := by
  have hfield : o.value? "field" = some (.string r.field) := by
    rw [ho _ (by decide)]
    simp [entries, value?_cons]
  have hbefore : o.value? "before" = r.before.map Period.toPayload := by
    rw [ho _ (by decide)]
    simp [entries, value?_cons]
  have hafter : o.value? "after" = r.after.map Period.toPayload := by
    rw [ho _ (by decide)]
    simp [entries, value?_cons]
  rw [readCondition, optional_period hbefore, ok_bind, optional_period hafter, ok_bind,
    readRangeField_eq_ok hfield]
  rfl

theorem yields_readCondition {c : Condition} (hc : ∀ t ∈ c.instants, t.LeapsAtMinuteEnd)
    (ho : ∀ key ∉ ["type", "key"], o.value? key = value? c.entries key) :
    Yields (readCondition o c.tag) c (∀ t ∈ c.instants, t.HasFourDigitYear) := by
  cases c with
  | field t => exact (Yields.of_eq_ok (readCondition_field ho)).congr (by simp [instants])
  | raw q => exact (Yields.of_eq_ok (readCondition_raw ho)).congr (by simp [instants])
  | unarchived => exact (Yields.of_eq_ok rfl).congr (by simp [instants])
  | dateRange r =>
    simp only [instants, List.mem_append, Option.mem_toList, or_imp, forall_and] at hc ⊢
    exact yields_readCondition_dateRange ho hc.1 hc.2
  | relativeRange r =>
    exact (Yields.of_eq_ok (readCondition_relativeRange ho)).congr (by simp [instants])

end Entries

theorem key_notMem_entries (c : Condition) : "key" ∉ c.entries.map Prod.fst := by
  cases c with
  | field t => cases h : t.specialization? <;> simp [entries, h]
  | raw q => simp [entries]
  | unarchived => simp [entries]
  | dateRange r =>
    cases h : r.lower <;> cases h' : r.upper <;> simp [entries, Json.Object.optionalEntry, h, h']
  | relativeRange r =>
    cases h : r.before <;> cases h' : r.after <;> simp [entries, Json.Object.optionalEntry, h, h']

end Condition

namespace Filter

/-! ## Nodes -/

/-- A node of a kind without its key, from an object that describes it. -/
def readNode (o : Json.Object) : Tag → Reading Filter
  | .test t => test none <$> readCondition o t
  | .group op => do checked (join op (← required o "filters" (readList ofPayload)))
  | .negation => without <$> required o "filter" ofPayload

theorem ofPayload_eq_readNode (o : Json.Object) : ofPayload (.object o) = (do
    let filter ← readNode o (← readTag .filter o)
    return filter.withKey? (← optional o "key" readText)) := by
  rw [ofPayload_object]
  congr
  funext tag
  cases tag with
  | test t => rfl
  | group op => simp only [readNode, bind_assoc]
  | negation => rfl

section Node

variable (k : Option String) (tag : Tag) {entries : Json.Object}

/-- The entries of a node. -/
private def nodeEntries (entries : Json.Object) : Json.Object :=
  ("type", .ofWord tag) :: (entries ++ Json.Object.optionalEntry "key" (k.map .string))

private theorem value?_nodeEntries {key : String} (h : key ∉ ["type", "key"]) :
    value? (nodeEntries k tag entries) key = value? entries key := by
  rw [List.mem_cons, not_or] at h
  rw [nodeEntries, value?_cons, if_neg h.1]
  exact Json.Object.value?_append_of_notMem_right fun hmem ↦
    h.2 (Json.Object.map_fst_optionalEntry_subset _ _ hmem)

private theorem yields_ofPayload_node {f : Filter} {p : Prop} (hkey : "key" ∉ entries.map Prod.fst)
    (hf : Yields (readNode (nodeEntries k tag entries) tag) f p) :
    Yields (ofPayload (node k tag entries)) (f.withKey? k) p := by
  have htype : value? (nodeEntries k tag entries) "type" = some (.ofWord tag) := by
    rw [nodeEntries, value?_cons, if_pos rfl]
    rfl
  have hkey' : value? (nodeEntries k tag entries) "key" = k.map .string := by
    rw [nodeEntries, value?_cons, if_neg (by decide),
      Json.Object.value?_append_of_notMem_left hkey, Json.Object.value?_written, if_pos rfl]
  change Yields (ofPayload (.object (nodeEntries k tag entries))) _ _
  rw [ofPayload_eq_readNode, readTag_eq_ok htype, ok_bind]
  refine (hf.bind ((Yields.of_eq_ok (optional_text hkey')).bind_pure _)).congr ?_
  exact and_iff_left trivial

end Node

/-! ## Trees -/

/-- A group is only made with operands, whatever has been written. -/
theorem yields_join (op : Operator) (fs : List Filter) :
    Yields (checked (join op fs)) (group none op fs) (fs ≠ []) := by
  cases fs with
  | nil => exact (Yields.of_eq_error rfl).congr (by simp)
  | cons f fs => exact (Yields.of_eq_ok rfl).congr (by simp)

/-- A filter is read back exactly if its groups are inhabited and its years have four digits. -/
theorem yields_ofPayload {f : Filter} (hf : ∀ t ∈ f.instants, t.LeapsAtMinuteEnd) :
    Yields (ofPayload f.toPayload) f
      (f.GroupsInhabited ∧ ∀ t ∈ f.instants, t.HasFourDigitYear) := by
  induction f using Filter.induction with
  | test k c =>
    rw [instants_test] at hf
    have hcondition := Condition.yields_readCondition hf fun key ↦
      value?_nodeEntries k (.test c.tag)
    rw [toPayload]
    have hnode := yields_ofPayload_node k (.test c.tag) c.key_notMem_entries
      (hcondition.map (test none))
    exact hnode.congr
      (by simp)
  | group k op fs ih =>
    have hfilters : value? (nodeEntries k (.group op) [("filters", .array (fs.map toPayload))])
        "filters" = some (.array (fs.map toPayload)) := by
      rw [value?_nodeEntries k _ (by decide), value?_cons, if_pos rfl]
      rfl
    rw [instants_group, List.forall_mem_flatMap] at hf
    have hoperands := yields_readList fun g hg ↦ ih g hg (hf g hg)
    rw [toPayload, toPayloads_eq_map]
    -- the operands are read before the group is judged, so a group without any is refused last
    refine (yields_ofPayload_node k (.group op) (by simp)
      ((yields_required hfilters hoperands).bind (yields_join op fs))).congr ?_
    simp only [groupsInhabited_group, instants_group, List.forall_mem_flatMap, forall_and]
    tauto
  | negation k f ih =>
    have hfilter : value? (nodeEntries k .negation [("filter", f.toPayload)]) "filter"
        = some f.toPayload := by
      rw [value?_nodeEntries k _ (by decide), value?_cons, if_pos rfl]
      cases f <;> rfl
    rw [instants_negation] at hf
    rw [toPayload]
    exact (yields_ofPayload_node k .negation (by simp)
      ((yields_required hfilter (ih hf)).map without)).congr (by simp)

end Filter

end FacetedSearch
