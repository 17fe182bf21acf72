import FacetedSearch.Payload.Query
import FacetedSearch.Proofs.Payload.Facet
import FacetedSearch.Proofs.Query.Builder

/-!
# Written queries read back

A built query is written as a payload, and the payload is read into a builder that starts from
defaults of its own. What comes out is the query again up to one thing: a time zone that the query
does not have is left out of the payload, so the default takes its place.

Here the leap seconds of a query are all at the ends of minutes. Reading fails for what filters and
facets cannot express, and for a number of results that is no signed number. Such a number never
comes from an edit, but a default may be that large. Everything else that could fail is excluded by
`Query.WellFormed`: the keys are added again without a clash, the exclusions find their filters, and
the numbers are finite.

The reader is a long sequence of edits. It is taken apart into three runs, `readPage`, `readLists`
and `readSettings`, each of which is described for an arbitrary builder.
-/

namespace FacetedSearch

open Json.Object (value? value?_cons)
open Payload

/-! ## Single parts -/

theorem SortCriterion.ofPayload_toPayload (c : SortCriterion) : ofPayload c.toPayload = .ok c := by
  obtain ⟨key, direction⟩ := c
  cases key <;> cases direction <;> rfl

namespace Payload

instance : Json.Written Boosting.toPayload := ⟨fun _ ↦ rfl⟩

/-- Weights are read back if their tie breaker is finite. Another one would be read as zero. -/
theorem readBoosting_toPayload {w : Boosting} (h : w.tie.isFinite = true) :
    readBoosting w.toPayload = .ok w := by
  obtain ⟨queryFields, phraseFields, boostQueries, boostFunctions, tie⟩ := w
  let o : Json.Object := [("queryFields", .ofStrings queryFields),
    ("phraseFields", .ofStrings phraseFields), ("boostQueries", .ofStrings boostQueries),
    ("boostFunctions", .ofStrings boostFunctions), ("tie", .ofFloat tie)]
  have hqueryFields : o.value? "queryFields" = some (.ofStrings queryFields) := by
    simp [o, value?_cons, Json.ofStrings]
  have hphraseFields : o.value? "phraseFields" = some (.ofStrings phraseFields) := by
    simp [o, value?_cons, Json.ofStrings]
  have hboostQueries : o.value? "boostQueries" = some (.ofStrings boostQueries) := by
    simp [o, value?_cons, Json.ofStrings]
  have hboostFunctions : o.value? "boostFunctions" = some (.ofStrings boostFunctions) := by
    simp [o, value?_cons, Json.ofStrings]
  have htie : o.value? "tie" = some (.number (.float tie h)) := by
    simp [o, value?_cons, present?_ofFloat_of_isFinite h]
  have hread : readFloat (.number (.float tie h)) = .ok tie := rfl
  rw [Boosting.toPayload, readBoosting, readObject, listOf_readTerm hqueryFields, ok_bind,
    listOf_readTerm hphraseFields, ok_bind, listOf_readTerm hboostQueries, ok_bind,
    listOf_readTerm hboostFunctions, ok_bind, optionalD_eq_ok htie hread]
  rfl

/-! ## Numbers of results -/

theorem readInteger_countPayload (n : UInt64) : readInteger (Query.countPayload n) =
    match int64? n.toNat with
    | some i => .ok i
    | none => .error (unexpected .integer (Query.countPayload n)) := rfl

theorem ofInt_toNat (n : UInt64) : Int64.ofInt n.toNat = n.toInt64 := by
  rw [Int64.ofInt_eq_ofNat, ← UInt64.toInt64_ofNat', UInt64.ofNat_toNat]

theorem yields_readInteger (n : UInt64) : Yields (readInteger (Query.countPayload n)) n.toInt64
    (n.toNat ≤ 9223372036854775807) := by
  have hmin : Int64.minValue.toInt = -9223372036854775808 := rfl
  have hmax : Int64.maxValue.toInt = 9223372036854775807 := rfl
  rw [readInteger_countPayload]
  constructor
  · intro h
    rw [int64?, if_pos (by omega), ofInt_toNat]
  · intro h
    rw [int64?, if_neg (by omega)]
    exact ⟨_, rfl⟩

theorem not_toInt64_lt {n : UInt64} (h : n.toNat ≤ 9223372036854775807) : ¬ n.toInt64 < 0 := by
  have hint : n.toInt64.toInt = n.toNat := by
    rw [← ofInt_toNat]
    exact Int64.toInt_ofInt_of_le (by omega) (by omega)
  rw [Int64.not_lt, Int64.le_iff_toInt_le, hint]
  exact Int.natCast_nonneg _

/-! ## Edits -/

section Edits

variable {α : Type} {o : Json.Object} {key : String} {read : Json → Reading α}
  {edit : α → Query.Edit} {b b' : Query.Builder} {p : Prop}

/-- An edit is made if its value is read back. It has to be accepted only in that case. -/
theorem yields_editOf {v : Json} {a : α} (hv : o.value? key = some v) (h : Yields (read v) a p)
    (hedit : p → b.apply (edit a) = .ok b') : Yields (editOf o key read edit b) b' p := by
  have hread := yields_optional_some hv h
  rw [editOf]
  constructor
  · intro hp
    rw [hread.ok hp, ok_bind]
    change checked (b.apply (edit a)) = _
    rw [hedit hp, checked_ok]
  · intro hp
    obtain ⟨e, he⟩ := hread.error hp
    rw [he]
    exact ⟨e, rfl⟩

theorem editOf_eq_ok {v : Json} {a : α} (hv : o.value? key = some v) (h : read v = .ok a)
    (hedit : b.apply (edit a) = .ok b') : editOf o key read edit b = .ok b' :=
  (yields_editOf hv (.of_eq_ok h) fun _ ↦ hedit).ok trivial

theorem editOf_eq_self (hv : o.value? key = none) : editOf o key read edit b = .ok b := by
  rw [editOf, Payload.optional, hv]
  rfl

theorem editOf_map {write : α → Json} {x : Option α} {f : α → Query.Builder}
    (hv : o.value? key = x.map write) (hread : ∀ a ∈ x, read (write a) = .ok a)
    (hedit : ∀ a, b.apply (edit a) = .ok (f a)) : editOf o key read edit b = .ok (x.elim b f) := by
  cases x with
  | none => exact editOf_eq_self hv
  | some a => exact editOf_eq_ok hv (hread a rfl) (hedit a)

end Edits

section Runs

variable (o : Json.Object) (b : Query.Builder)

/-- The edits for the phrase and the page. -/
def readPage : Reading Query.Builder := do
  let b ← editOf o "text" readText .text b
  let b ← editOf o "lang" readLanguage .language b
  let b ← editOf o "offset" readInteger .offset b
  editOf o "limit" readInteger .limit b

/-- The edits for criteria, filters and facets. -/
def readLists : Reading Query.Builder := do
  let sort ← listOf o "sort" SortCriterion.ofPayload
  let filters ← listOf o "filter" Filter.ofPayload
  let facets ← listOf o "facets" Facet.ofPayload
  let b ← checked (b.apply (.sort sort))
  let b ← checked (b.apply (.filter filters))
  checked (b.apply (.facet facets))

/-- The edits for everything else. -/
def readSettings : Reading Query.Builder := do
  let b ← editOf o "archive" readBool .archive b
  let b ← editOf o "defaultQueryOperator" readWord .operator b
  let b ← editOf o "timeZone" readText .timeZone b
  let b ← editOf o "boosting" readBoosting .boosting b
  let b ← editOf o "distanceReferencePoint" readPoint .referencePoint b
  editOf o "explain" readBool .explain b

theorem readEdits_eq : readEdits o b = (do
    let b ← readPage o b
    let b ← readLists o b
    readSettings o b) := by
  simp only [readEdits, readPage, readLists, readSettings, bind_assoc]

end Runs

end Payload

namespace Query

/-! ## Well-formed queries -/

/-- Whether the leap seconds of a query are all at the ends of minutes. -/
structure LeapsAtMinuteEnd (q : Query) : Prop where
  filters : ∀ f ∈ q.filters, ∀ t ∈ f.instants, t.LeapsAtMinuteEnd
  facets : ∀ f ∈ q.facets, ∀ t ∈ f.measure.instants, t.LeapsAtMinuteEnd

section WellFormed

variable {q : Query}

theorem WellFormed.facet_finite (hq : q.WellFormed) {f : Facet} (hf : f ∈ q.facets) :
    f.IsFinite := fun n hn ↦
  hq.finite n (List.mem_append_right _ (List.mem_flatMap.mpr ⟨f, hf, hn⟩))

theorem WellFormed.tie_finite (hq : q.WellFormed) {w : Boosting} (hw : q.boosting = some w) :
    w.tie.isFinite = true :=
  hq.finite ("boosting.tie", w.tie) (by simp [numbers, hw])

theorem WellFormed.point_finite (hq : q.WellFormed) {p : GeoPoint}
    (hp : q.referencePoint = some p) : p.longitude.isFinite = true ∧ p.latitude.isFinite = true :=
  ⟨hq.finite ("distanceReferencePoint.lng", p.longitude) (by simp [numbers, hp]),
    hq.finite ("distanceReferencePoint.lat", p.latitude) (by simp [numbers, hp])⟩

end WellFormed

section Runs

variable {q : Query} {o : Json.Object} {b : Builder}

theorem apply_offset {n : UInt64} (h : n.toNat ≤ 9223372036854775807) :
    b.apply (.offset n.toInt64) = .ok { b with draft := { b.draft with offset := n } } :=
  Builder.setOffset_eq_ok_iff.mpr ⟨not_toInt64_lt h, rfl⟩

theorem apply_limit {n : UInt64} (h : n.toNat ≤ 9223372036854775807) :
    b.apply (.limit n.toInt64) = .ok { b with draft := { b.draft with limit := n } } :=
  Builder.setLimit_eq_ok_iff.mpr ⟨not_toInt64_lt h, rfl⟩

theorem yields_readPage (ho : ∀ key ≠ "index", o.value? key = value? q.entries key)
    (hoffset : q.offset.toNat ≤ 9223372036854775807) :
    Yields (readPage o b)
      { b with draft := { b.draft with text := q.text, language := q.language,
                                       offset := q.offset, limit := q.limit } }
      (q.limit.toNat ≤ 9223372036854775807) := by
  have htext : o.value? "text" = some (.string q.text) := by
    rw [ho _ (by decide)]
    simp [entries, value?_cons]
  have hlang : o.value? "lang" = some (.string q.language.code) := by
    rw [ho _ (by decide)]
    simp [entries, value?_cons]
  have hoffset? : o.value? "offset" = some (countPayload q.offset) := by
    rw [ho _ (by decide)]
    simp [entries, value?_cons, countPayload]
  have hlimit? : o.value? "limit" = some (countPayload q.limit) := by
    rw [ho _ (by decide)]
    simp [entries, value?_cons, countPayload]
  have hreadText : readText (.string q.text) = .ok q.text := rfl
  have hreadLanguage : readLanguage (.string q.language.code) = .ok q.language := rfl
  rw [readPage, editOf_eq_ok htext hreadText rfl, ok_bind, editOf_eq_ok hlang hreadLanguage rfl,
    ok_bind, editOf_eq_ok hoffset? ((yields_readInteger _).ok hoffset) (apply_offset hoffset),
    ok_bind]
  exact yields_editOf hlimit? (yields_readInteger q.limit) apply_limit

/-- The lists of a well-formed query can be added to a builder without filters and facets. -/
theorem yields_readLists (ho : ∀ key ≠ "index", o.value? key = value? q.entries key)
    (hq : q.WellFormed) (hleaps : q.LeapsAtMinuteEnd) (hfilters : b.filterKeys = [])
    (hfacets : b.facetKeys = []) :
    Yields (readLists o b)
      { draft := { b.draft with sort := b.draft.sort ++ q.sort,
                                filters := b.draft.filters ++ q.filters,
                                facets := b.draft.facets ++ q.facets },
        filterKeys := q.filterKeys, facetKeys := q.facetKeys }
      ((∀ f ∈ q.filters, f.GroupsInhabited ∧ ∀ t ∈ f.instants, t.HasFourDigitYear) ∧
        ∀ f ∈ q.facets, ∀ t ∈ f.measure.instants, t.HasFourDigitYear) := by
  have hsort? : o.value? "sort" = some (.array (q.sort.map SortCriterion.toPayload)) := by
    rw [ho _ (by decide)]
    simp [entries, value?_cons]
  have hfilter? : o.value? "filter" = some (.array (q.filters.map Filter.toPayload)) := by
    rw [ho _ (by decide)]
    simp [entries, value?_cons]
  have hfacets? : o.value? "facets" = some (.array (q.facets.map Facet.toPayload)) := by
    rw [ho _ (by decide)]
    simp [entries, value?_cons]
  have hsort : listOf o "sort" SortCriterion.ofPayload = .ok q.sort :=
    (yields_listOf hsort? fun c _ ↦ .of_eq_ok c.ofPayload_toPayload).ok fun _ _ ↦ trivial
  obtain ⟨draft, filterKeys, facetKeys⟩ := b
  obtain rfl : filterKeys = [] := hfilters
  obtain rfl : facetKeys = [] := hfacets
  -- the builder has no keys yet, so only keys within the query could clash
  have hclash {keys : List String} (hkeys : keys.Nodup) : firstClash [] keys = none :=
    firstClash_eq_none_iff.mpr ⟨hkeys, fun _ _ ↦ List.not_mem_nil⟩
  have haddFilters (draft : Query) : Builder.apply { draft } (.filter q.filters) = .ok _ :=
    Builder.addFilters_eq_ok_iff.mpr ⟨hclash hq.filterKeys_nodup, rfl⟩
  have haddFacets (draft : Query) (filterKeys : List String) :
      Builder.apply { draft, filterKeys } (.facet q.facets) = .ok _ :=
    Builder.addFacets_eq_ok_iff.mpr ⟨hclash hq.facetKeys_nodup, rfl⟩
  have hreadFilters := yields_listOf hfilter? fun f hf ↦
    Filter.yields_ofPayload (hleaps.filters f hf)
  have hreadFacets := yields_listOf hfacets? fun f hf ↦ Facet.yields_ofPayload (hleaps.facets f hf)
  -- criteria are read in any case, only filters and facets can be refused
  rw [readLists, hsort, ok_bind]
  refine (hreadFilters.bind (hreadFacets.bind (.of_eq_ok ?_))).congr ?_
  · have hsortEdit : Builder.apply { draft } (.sort q.sort) = .ok _ := rfl
    rw [hsortEdit, checked_ok, ok_bind, haddFilters, checked_ok, ok_bind]
    dsimp only
    rw [List.nil_append, haddFacets, checked_ok]
    rfl
  · rw [and_true]
    refine and_congr_right fun _ ↦ forall₂_congr fun f hf ↦ ?_
    exact and_iff_left (hq.facet_finite hf)

theorem editOf_timeZone (ho : ∀ key ≠ "index", o.value? key = value? q.entries key) :
    editOf o "timeZone" readText .timeZone b =
      .ok { b with draft := { b.draft with timeZone := q.timeZone.or b.draft.timeZone } } := by
  have hzone : o.value? "timeZone" = q.timeZone.map .string := by
    rw [ho _ (by decide)]
    simp [entries, value?_cons]
  rw [editOf_map hzone (fun _ _ ↦ rfl) fun _ ↦ rfl]
  cases q.timeZone <;> rfl

theorem editOf_boosting (ho : ∀ key ≠ "index", o.value? key = value? q.entries key)
    (hq : q.WellFormed) : editOf o "boosting" readBoosting .boosting b =
      .ok { b with draft := { b.draft with boosting := q.boosting.or b.draft.boosting } } := by
  have hboosting : o.value? "boosting" = q.boosting.map Boosting.toPayload := by
    rw [ho _ (by decide)]
    simp [entries, value?_cons]
  rw [editOf_map hboosting (fun w hw ↦ readBoosting_toPayload (hq.tie_finite hw)) fun _ ↦ rfl]
  cases q.boosting <;> rfl

theorem editOf_referencePoint (ho : ∀ key ≠ "index", o.value? key = value? q.entries key)
    (hq : q.WellFormed) : editOf o "distanceReferencePoint" readPoint .referencePoint b =
      .ok { b with draft := { b.draft with
        referencePoint := q.referencePoint.or b.draft.referencePoint } } := by
  have hpoint : o.value? "distanceReferencePoint" = q.referencePoint.map GeoPoint.toPayload := by
    rw [ho _ (by decide)]
    simp [entries, value?_cons]
  rw [editOf_map hpoint (fun p hp ↦ (yields_readPoint p).ok (hq.point_finite hp)) fun _ ↦ rfl]
  cases q.referencePoint <;> rfl

/-- A setting that the query does not have stays as the builder has it. -/
theorem readSettings_eq_ok (ho : ∀ key ≠ "index", o.value? key = value? q.entries key)
    (hq : q.WellFormed) :
    readSettings o b = .ok { b with draft := { b.draft with
      archive := q.archive, operator := q.operator, timeZone := q.timeZone.or b.draft.timeZone,
      boosting := q.boosting.or b.draft.boosting,
      referencePoint := q.referencePoint.or b.draft.referencePoint, explain := q.explain } } := by
  have harchive : o.value? "archive" = some (.bool q.archive) := by
    rw [ho _ (by decide)]
    simp [entries, value?_cons]
  have hoperator : o.value? "defaultQueryOperator" = some (.ofWord q.operator) := by
    rw [ho _ (by decide)]
    simp [entries, value?_cons, Json.ofWord]
  have hexplain : o.value? "explain" = some (.bool q.explain) := by
    rw [ho _ (by decide)]
    simp [entries, value?_cons]
  have hreadBool (v : Bool) : readBool (.bool v) = .ok v := rfl
  rw [readSettings, editOf_eq_ok harchive (hreadBool _) rfl, ok_bind,
    editOf_eq_ok hoperator (readWord_ofWord q.operator) rfl, ok_bind, editOf_timeZone ho, ok_bind,
    editOf_boosting ho hq, ok_bind, editOf_referencePoint ho hq, ok_bind]
  exact editOf_eq_ok hexplain (hreadBool _) rfl

end Runs

/-! ## Queries -/

section Reading

variable {q : Query} {o : Json.Object} (d : Defaults)

/-- The builder that the payload of a query is read into. -/
def restored (q : Query) : Builder where
  draft := { q with timeZone := q.timeZone.or d.timeZone }
  filterKeys := q.filterKeys
  facetKeys := q.facetKeys

theorem yields_readEdits (ho : ∀ key ≠ "index", o.value? key = value? q.entries key)
    (hq : q.WellFormed) (hleaps : q.LeapsAtMinuteEnd) :
    Yields (readEdits o (.new d)) (restored d q)
      (q.limit.toNat ≤ 9223372036854775807 ∧
        (∀ f ∈ q.filters, f.GroupsInhabited ∧ ∀ t ∈ f.instants, t.HasFourDigitYear) ∧
          ∀ f ∈ q.facets, ∀ t ∈ f.measure.instants, t.HasFourDigitYear) := by
  rw [readEdits_eq]
  refine ((yields_readPage ho hq.offset_le).bind
    ((yields_readLists ho hq hleaps rfl rfl).bind (.of_eq_ok ?_))).congr (by rw [and_true])
  rw [readSettings_eq_ok ho hq]
  simp only [Builder.new, List.nil_append, Option.or_none]
  rfl

/-- The builder gives the query, with a time zone if it had none and there is a default. -/
theorem build_restored (hq : q.WellFormed) :
    (restored d q).build = .ok { q with timeZone := q.timeZone.or d.timeZone } := by
  have hq' : WellFormed { q with timeZone := q.timeZone.or d.timeZone } :=
    ⟨hq.filterKeys_nodup, hq.facetKeys_nodup, hq.exclusions, hq.finite, hq.offset_le⟩
  exact Builder.build_of_wellFormed hq' rfl rfl

theorem withTimeZone_eq_self_iff :
    { q with timeZone := q.timeZone.or d.timeZone } = q ↔
      (q.timeZone.isSome = true ∨ d.timeZone = none) := by
  obtain ⟨_, _, _, _, _, _, _, _, _, timeZone, _, _, _⟩ := q
  cases timeZone <;> simp

end Reading

end Query

end FacetedSearch
