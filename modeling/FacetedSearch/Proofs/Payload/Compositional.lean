import FacetedSearch.Proofs.Payload.Mirrors
import FacetedSearch.Proofs.Payload.Positions
import FacetedSearch.Proofs.Query.Atomicity

/-!
# Reading is compositional

Lists are read item by item, up to the first item that is refused. So a document that has a list
fails as that item does alone, at the place of the item, and otherwise gives the items as they are
read alone (`Payload.ReadsEach`). What remains for the document is the rule that it has for the list
as a whole: a group has an operand, and the keys of a query are distinct (`Payload.AddsBatch`).

With the independence of positions this is what makes a part that was tried out alone one that can
be trusted within any document.
-/

namespace FacetedSearch

open Json

namespace Payload

/-! ## Lists -/

/-- A document is read through the list it has under a key. -/
structure ReadsEach {α β : Type} (read : Json → Reading α) (key : String) (vs : List Json)
    (whole : Reading β) (Finishes : List α → Reading β → Prop) : Prop where
  /-- The first item that is refused alone is the error, at its place in the list. -/
  refused : ∀ (i : Nat) (v : Json) (e : ReadError), vs[i]? = some v → read v = .error e →
    (∀ j < i, ∀ w, vs[j]? = some w → ∃ a, read w = .ok a) →
    ∃ e', whole = .error e' ∧ e'.located = e.located.rebase (itemPlace key i)
  /-- Items that are all read alone are handed on as they are, in their order. -/
  accepted : ∀ as, List.Forall₂ (fun v a ↦ read v = .ok a) vs as → Finishes as whole

section Lists

variable {α β : Type} {read : Json → Reading α}

theorem readItems_eq_error {n i : Nat} {vs : List Json} {v : Json} {e : ReadError}
    (hv : vs[i]? = some v) (he : read v = .error e)
    (hfirst : ∀ j < i, ∀ w, vs[j]? = some w → ∃ a, read w = .ok a) :
    readItems read n vs = .error (e.under (.index (n + i))) := by
  induction vs generalizing n i with
  | nil => cases hv
  | cons w vs ih =>
    cases i with
    | zero =>
      cases hv
      rw [readItems, he]
      rfl
    | succ i =>
      obtain ⟨a, ha⟩ := hfirst 0 i.succ_pos w rfl
      have hrest := @ih (n + 1) i hv fun j hj ↦ hfirst (j + 1) (Nat.succ_lt_succ hj)
      rw [readItems, ha, hrest, Nat.add_right_comm]
      rfl

/-- A reading that begins with a list depends on the items through what they are read as. -/
theorem ReadsObjects.readsEach (h : ReadsObjects read) {key : String} (hkey : Path.IsPlainKey key)
    {vs : List Json} {whole : Reading β} {k : List α → Reading β}
    (hwhole : whole = within (.key key) (readList read (.array vs)) >>= k)
    {Finishes : List α → Reading β → Prop} (hk : ∀ as, Finishes as (k as)) :
    ReadsEach read key vs whole Finishes where
  refused i v e hv he hfirst := by
    have hitems := @readItems_eq_error _ read 0 i vs v e hv he hfirst
    rw [Nat.zero_add] at hitems
    refine ⟨(e.under (.index i)).under (.key key), ?_, ?_⟩
    · rw [hwhole, readList, hitems]
      rfl
    · -- the key of a document stands alone, and the index makes it another place than the document
      rw [← ReadError.placed_root (ReadError.anchored_under_key hkey _),
        ReadError.placed_under_key, ReadError.placed_under_index, childPlace, if_pos rfl,
        ReadError.placed_of_ne (itemPlace_ne_root key i) (h.anchored he)]
  accepted as has := by
    have hitems : readList read (.array vs) = .ok as :=
      (readItems_eq_ok_iff (R := fun v a ↦ read v = .ok a) fun _ _ ↦ Iff.rfl).mpr has
    rw [hwhole, hitems]
    exact hk as

end Lists

/-! ## Queries with one list -/

section Queries

variable {o : Object} {key : String}

theorem listOf_eq_nil {α : Type} (h : o.value? key = none) (read : Json → Reading α) :
    listOf o key read = .ok [] := by
  rw [listOf, optional, h]
  rfl

theorem listOf_eq_within {α : Type} {v : Json} (h : o.value? key = some v)
    (read : Json → Reading α) : listOf o key read = within (.key key) (readList read v) := by
  rw [listOf, optional, h]
  dsimp only
  cases readList read v <;> rfl

/-- The keys that are read behind the lists. -/
def settingKeys : List String :=
  ["archive", "defaultQueryOperator", "timeZone", "boosting", "distanceReferencePoint", "explain"]

theorem readSettings_eq_self (h : ∀ key ∈ settingKeys, o.value? key = none) (b : Query.Builder) :
    readSettings o b = .ok b := by
  simp only [settingKeys, List.forall_mem_cons] at h
  obtain ⟨harchive, hoperator, htimeZone, hboosting, hpoint, hexplain, -⟩ := h
  simp only [readSettings, editOf_eq_self harchive, editOf_eq_self hoperator,
    editOf_eq_self htimeZone, editOf_eq_self hboosting, editOf_eq_self hpoint,
    editOf_eq_self hexplain, ok_bind]

theorem readEdits_eq_readLists (h : ∀ key ∉ ["sort", "filter", "facets"], o.value? key = none)
    (b : Query.Builder) : readEdits o b = readLists o b := by
  have hpage : readPage o b = .ok b := by
    simp only [readPage, editOf_eq_self (h "text" (by decide)),
      editOf_eq_self (h "lang" (by decide)), editOf_eq_self (h "offset" (by decide)),
      editOf_eq_self (h "limit" (by decide)), ok_bind]
  have hother : ∀ key ∈ settingKeys, key ∉ ["sort", "filter", "facets"] := by decide
  have hsettings := readSettings_eq_self fun key hkey ↦ h key (hother key hkey)
  rw [readEdits_eq, hpage, ok_bind]
  simp only [hsettings]
  exact bind_pure _

end Queries

section OneList

variable (d : Query.Defaults) {key : String} (vs : List Json)

/-- A query that has one list is read as its lists are, of which the others are empty. -/
theorem ofPayload_eq_readLists (hkey : key ∈ ["sort", "filter", "facets"]) :
    Query.Builder.ofPayload d (.object [(key, .array vs)]) =
      readLists [(key, .array vs)] (.new d) := by
  refine readEdits_eq_readLists (fun key' h ↦ Object.value?_cons_of_ne _ _ ?_) _
  rintro rfl
  exact h hkey

theorem ofPayload_sort : Query.Builder.ofPayload d (.object [("sort", .array vs)]) =
    within (.key "sort") (readList SortCriterion.ofPayload (.array vs)) >>= fun cs ↦
      checked ((Query.Builder.new d).apply (.sort cs)) := by
  rw [ofPayload_eq_readLists d vs (by decide), readLists, listOf_eq_within (v := .array vs) rfl,
    listOf_eq_nil (by rfl), listOf_eq_nil (by rfl)]
  rfl

theorem ofPayload_filter : Query.Builder.ofPayload d (.object [("filter", .array vs)]) =
    within (.key "filter") (readList Filter.ofPayload (.array vs)) >>= fun fs ↦
      checked ((Query.Builder.new d).apply (.filter fs)) := by
  have hsort : (Query.Builder.new d).apply (.sort []) = .ok (.new d) := rfl
  have hfacet (b : Query.Builder) : b.apply (.facet []) = .ok b := by
    simp [Query.Builder.apply, Query.Builder.addFacets, Query.firstClash]
  rw [ofPayload_eq_readLists d vs (by decide), readLists, listOf_eq_nil (by rfl),
    listOf_eq_within (v := .array vs) rfl, listOf_eq_nil (by rfl)]
  simp only [ok_bind, hsort, hfacet, checked_ok]
  exact congrArg _ (funext fun fs ↦ bind_pure _)

theorem ofPayload_facets : Query.Builder.ofPayload d (.object [("facets", .array vs)]) =
    within (.key "facets") (readList Facet.ofPayload (.array vs)) >>= fun fs ↦
      checked ((Query.Builder.new d).apply (.facet fs)) := by
  rw [ofPayload_eq_readLists d vs (by decide), readLists, listOf_eq_nil (by rfl),
    listOf_eq_nil (by rfl), listOf_eq_within (v := .array vs) rfl]
  rfl

theorem ofPayload_select (hkey : key ≠ "index") :
    SelectQuery.Builder.ofPayload d (.object [(key, .array vs)]) =
      (Query.Builder.ofPayload d (.object [(key, .array vs)])).map fun query ↦ { query } := by
  have hindex : optional [(key, .array vs)] "index" readText = .ok none := by
    rw [optional, Object.value?_cons_of_ne _ _ hkey.symm]
    rfl
  rw [SelectQuery.Builder.ofPayload, Query.Builder.ofPayload, readObject, readObject, hindex]
  cases readEdits [(key, .array vs)] (.new d) <;> rfl

end OneList

/-! ## Lists as a whole -/

/-- A batch is taken if its keys are distinct, and otherwise refused for the first key that occurred
before. -/
structure AddsBatch (keys : List String) (refusal : String → Violation) (added : Query.Builder)
    (whole : Reading Query.Builder) : Prop where
  distinct : keys.Nodup → whole = .ok added
  shared : ¬ keys.Nodup →
    ∃ k, Query.IsFirstClash [] keys k ∧ whole = .error (.violation (refusal k))

theorem addsBatch_of_firstClash {keys : List String} {refusal : String → Violation}
    {added : Query.Builder} {whole : Reading Query.Builder}
    (hclash : ∀ k, Query.firstClash [] keys = some k → whole = .error (.violation (refusal k)))
    (hnone : Query.firstClash [] keys = none → whole = .ok added) :
    AddsBatch keys refusal added whole where
  distinct hnodup := hnone (Query.firstClash_eq_none_iff.mpr ⟨hnodup, by simp⟩)
  shared hshared := by
    cases h : Query.firstClash [] keys with
    | some k => exact ⟨k, Query.firstClash_eq_some_iff.mp h, hclash k h⟩
    | none => exact absurd (Query.firstClash_eq_none_iff.mp h).1 hshared

theorem addsBatch_filters (d : Query.Defaults) (fs : List Filter) :
    AddsBatch (fs.filterMap Filter.key) .duplicateFilterKey
      { Query.Builder.new d with
        draft := { (Query.Builder.new d).draft with filters := fs }
        filterKeys := fs.filterMap Filter.key }
      (checked ((Query.Builder.new d).apply (.filter fs))) := by
  have hkeys : (Query.Builder.new d).filterKeys = [] := rfl
  refine addsBatch_of_firstClash (fun k h ↦ ?_) fun h ↦ ?_
  · rw [Query.Builder.apply, Query.Builder.addFilters, hkeys, h]
    rfl
  · rw [Query.Builder.apply, Query.Builder.addFilters, hkeys, h]
    rfl

theorem addsBatch_facets (d : Query.Defaults) (fs : List Facet) :
    AddsBatch (fs.map Facet.key) .duplicateFacetKey
      { Query.Builder.new d with
        draft := { (Query.Builder.new d).draft with facets := fs }
        facetKeys := fs.map Facet.key }
      (checked ((Query.Builder.new d).apply (.facet fs))) := by
  have hkeys : (Query.Builder.new d).facetKeys = [] := rfl
  refine addsBatch_of_firstClash (fun k h ↦ ?_) fun h ↦ ?_
  · rw [Query.Builder.apply, Query.Builder.addFacets, hkeys, h]
    rfl
  · rw [Query.Builder.apply, Query.Builder.addFacets, hkeys, h]
    rfl

theorem readsEach_group {op : Operator} {o : Object} {vs : List Json}
    (htype : o.lookup "type" = some (.string (Filter.groupTag op)))
    (hfilters : o.lookup "filters" = some (.array vs)) (hkey : o.Lacks "key") :
    ReadsEach Filter.ofPayload "filters" vs (Filter.ofPayload (.object o)) fun fs whole ↦
      whole = if fs = [] then .error (.violation (.emptyOperands op))
        else .ok (.group none op fs) := by
  have htag : (readTag .filter o : Reading Filter.Tag) = .ok (.group op) := by
    rw [readTag_eq_ok_iff, htype]
    cases op <;> rfl
  have hoperands : required o "filters" (readList Filter.ofPayload) =
      within (.key "filters") (readList Filter.ofPayload (.array vs)) := by
    rw [required, Object.value?_eq_some_iff.mpr ⟨hfilters, by simp⟩]
  have hnone : optional o "key" readText = .ok none := by
    rw [optional, Object.value?_eq_none_iff.mpr hkey]
  refine readsObjects_filter.readsEach (by decide)
    (k := fun fs ↦ checked (Filter.join op fs) >>= fun f ↦ pure (f.withKey? none)) ?_ ?_
  · rw [Filter.ofPayload_object, htag, hoperands, hnone]
    simp only [ok_bind]
  · intro fs
    cases fs <;> rfl

/-- **Reading is compositional.** Filters, facets and criteria are read at every place as they are
alone. A group, and a query with one list, is refused as the first of its members is that is refused
alone, at the place of that member. Otherwise its members are the values read alone, unless a group
has none, or the filters or facets of a query share a key. A query that could have an index is read
as one that could not. -/
theorem reading_compositional :
    (PositionIndependent Filter.readAt Filter.ofPayload ∧
      PositionIndependent Facet.readAt Facet.ofPayload ∧
      PositionIndependent SortCriterion.readAt SortCriterion.ofPayload) ∧
    (∀ (op : Operator) (o : Object) (vs : List Json),
      o.lookup "type" = some (.string (Filter.groupTag op)) →
      o.lookup "filters" = some (.array vs) → o.Lacks "key" →
      ReadsEach Filter.ofPayload "filters" vs (Filter.ofPayload (.object o)) fun fs whole ↦
        whole = if fs = [] then .error (.violation (.emptyOperands op))
          else .ok (.group none op fs)) ∧
    (∀ (d : Query.Defaults) (vs : List Json),
      ReadsEach SortCriterion.ofPayload "sort" vs
        (Query.Builder.ofPayload d (.object [("sort", .array vs)])) (fun cs whole ↦
          whole = .ok { Query.Builder.new d with
            draft := { (Query.Builder.new d).draft with sort := cs } }) ∧
      ReadsEach Filter.ofPayload "filter" vs
        (Query.Builder.ofPayload d (.object [("filter", .array vs)])) (fun fs ↦
          AddsBatch (fs.filterMap Filter.key) .duplicateFilterKey
            { Query.Builder.new d with
              draft := { (Query.Builder.new d).draft with filters := fs }
              filterKeys := fs.filterMap Filter.key }) ∧
      ReadsEach Facet.ofPayload "facets" vs
        (Query.Builder.ofPayload d (.object [("facets", .array vs)])) (fun fs ↦
          AddsBatch (fs.map Facet.key) .duplicateFacetKey
            { Query.Builder.new d with
              draft := { (Query.Builder.new d).draft with facets := fs }
              facetKeys := fs.map Facet.key })) ∧
    ∀ (d : Query.Defaults) (key : String) (vs : List Json), key ≠ "index" →
      SelectQuery.Builder.ofPayload d (.object [(key, .array vs)]) =
        (Query.Builder.ofPayload d (.object [(key, .array vs)])).map fun query ↦ { query } := by
  refine ⟨⟨readsObjects_filter.positionIndependent Filter.readAt_eq,
    readsObjects_facet.positionIndependent Facet.readAt_eq,
    readsObjects_sort.positionIndependent SortCriterion.readAt_eq⟩,
    fun op o vs ↦ readsEach_group, fun d vs ↦ ⟨?_, ?_, ?_⟩, fun d key vs ↦ ofPayload_select d vs⟩
  · exact readsObjects_sort.readsEach (by decide) (ofPayload_sort d vs) fun cs ↦ rfl
  · exact readsObjects_filter.readsEach (by decide) (ofPayload_filter d vs) (addsBatch_filters d)
  · exact readsObjects_facet.readsEach (by decide) (ofPayload_facets d vs) (addsBatch_facets d)

/-- A negation without its operand, read as the first member of a group and alone. -/
theorem reading_compositional_negation :
    Filter.readAt "filters[0]" (.object [("type", .string "not")]) =
      .error (.malformed "filters[0].filter" .missing) := by
  have hindependent := reading_compositional.1.1
  rw [hindependent.elsewhere "filters[0]" (by decide), hindependent.alone]
  decide

end Payload

end FacetedSearch
