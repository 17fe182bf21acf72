import FacetedSearch.Proofs.Payload.Edits

/-!
# Batches and single calls

Filters and facets are added in batches, and a batch is refused as a whole. How a list of them is
divided into batches makes no difference to whether all of it is taken: one batch is accepted
exactly if the batches that it is divided into are accepted one after the other, and it is refused
for the key for which the first refused one of these is (`Builder.SplitsInto`). What differs is only
what a refusal leaves behind. The single batch leaves nothing, and of the divided one all that came
before the refusal stays.

The reason is in the scan for clashes. Within a batch it remembers the keys that it has seen,
between batches the builder does, and the scan asks of remembered keys only whether a key is one of
them (`firstClash_append`).
-/

namespace FacetedSearch.Query

/-! ## Scans -/

/-- The scan asks of the keys in use only which they are. -/
theorem firstClash_congr {used used' : List String} (h : ∀ k, k ∈ used ↔ k ∈ used')
    (ks : List String) : firstClash used ks = firstClash used' ks := by
  induction ks generalizing used used' with
  | nil => rfl
  | cons k ks ih =>
    have hcons : ∀ l, l ∈ k :: used ↔ l ∈ k :: used' := fun l ↦ by
      rw [List.mem_cons, List.mem_cons, h]
    rw [firstClash, firstClash, ih hcons]
    simp only [h]

/-- The first clash of two batches in a row is that of the first one, or else that of the second
one when the keys of the first are in use. -/
theorem firstClash_append (used ks ls : List String) : firstClash used (ks ++ ls) =
    (firstClash used ks).or (firstClash (used ++ ks) ls) := by
  induction ks generalizing used with
  | nil => rw [List.nil_append, List.append_nil, firstClash, Option.none_or]
  | cons k ks ih =>
    have hmem : ∀ l, l ∈ k :: used ++ ks ↔ l ∈ used ++ k :: ks := fun l ↦ by
      simp only [List.cons_append, List.mem_cons, List.mem_append]
      tauto
    rw [List.cons_append, firstClash, firstClash, ih, firstClash_congr hmem]
    split <;> rfl

namespace Builder

variable {b b' : Builder} {es : List Edit} {v : Violation}

/-! ## The first refusal -/

/-- The edits are made one after the other up to one that is refused, and the refusal is this. -/
def FirstRefusal (b : Builder) (es : List Edit) (v : Violation) : Prop :=
  ∃ accepted refused rest b', es = accepted ++ refused :: rest ∧ b.Reaches accepted b' ∧
    b'.apply refused = .error v

theorem not_firstRefusal_nil : ¬ b.FirstRefusal [] v := by
  rintro ⟨accepted, refused, rest, b', hes, -⟩
  cases accepted <;> cases hes

theorem firstRefusal_cons {e : Edit} : b.FirstRefusal (e :: es) v ↔
    b.apply e = .error v ∨ ∃ b', b.apply e = .ok b' ∧ b'.FirstRefusal es v := by
  constructor
  · rintro ⟨_ | ⟨e', accepted⟩, refused, rest, b', hes, hreaches, hrefused⟩
    · cases hes
      cases hreaches
      exact .inl hrefused
    · cases hes
      obtain ⟨b₁, he, hreaches⟩ := reaches_cons.mp hreaches
      exact .inr ⟨b₁, he, accepted, refused, rest, b', rfl, hreaches, hrefused⟩
  · rintro (he | ⟨b₁, he, accepted, refused, rest, b', rfl, hreaches, hrefused⟩)
    · exact ⟨[], e, es, b, rfl, reaches_nil b, he⟩
    · exact ⟨e :: accepted, refused, rest, b', rfl, reaches_cons.mpr ⟨b₁, he, hreaches⟩, hrefused⟩

/-- A sequence of edits that is broken off at a refusal ends with the first one. -/
theorem foldlM_apply_eq_error_iff : es.foldlM apply b = .error v ↔ b.FirstRefusal es v := by
  induction es generalizing b with
  | nil => exact iff_of_false (by rintro ⟨⟩) not_firstRefusal_nil
  | cons e es ih =>
    rw [List.foldlM_cons, bind_eq_error_iff, firstRefusal_cons]
    simp only [ih]

/-! ## Divided batches -/

/-- Edits with a list, for which it does not matter how the list is divided. -/
structure Divides {α : Type} (edit : List α → Edit) : Prop where
  apply_nil : ∀ b : Builder, b.apply (edit []) = .ok b
  apply_append : ∀ (b : Builder) (as bs : List α),
    b.apply (edit (as ++ bs)) = b.apply (edit as) >>= fun b' ↦ b'.apply (edit bs)

theorem divides_sort : Divides .sort where
  apply_nil b := by rw [apply, List.append_nil]
  apply_append b cs ds := by
    rw [apply, ← List.append_assoc]
    rfl

theorem divides_filter : Divides .filter where
  apply_nil b := by
    rw [apply, addFilters, List.filterMap_nil, firstClash, List.append_nil, List.append_nil]
  apply_append b fs gs := by
    rw [apply, addFilters, List.filterMap_append, firstClash_append, apply, addFilters]
    cases firstClash b.filterKeys (fs.filterMap Filter.key) with
    | some k => rfl
    | none =>
      rw [Option.none_or, ← List.append_assoc, ← List.append_assoc]
      rfl

theorem divides_facet : Divides .facet where
  apply_nil b := by
    rw [apply, addFacets, List.map_nil, firstClash, List.append_nil, List.append_nil]
  apply_append b fs gs := by
    rw [apply, addFacets, List.map_append, firstClash_append, apply, addFacets]
    cases firstClash b.facetKeys (fs.map Facet.key) with
    | some k => rfl
    | none =>
      rw [Option.none_or, ← List.append_assoc, ← List.append_assoc]
      rfl

section Divides

variable {α : Type} {edit : List α → Edit}

/-- A batch does what any number of batches do that it is divided into. -/
theorem Divides.apply_flatten (h : Divides edit) (b : Builder) (ass : List (List α)) :
    b.apply (edit ass.flatten) = (ass.map edit).foldlM apply b := by
  induction ass generalizing b with
  | nil => exact h.apply_nil b
  | cons as ass ih =>
    rw [List.flatten_cons, h.apply_append, List.map_cons, List.foldlM_cons]
    exact congrArg _ (funext ih)

end Divides

/-- A batch and the calls that it is split into. They are accepted together and lead to the same
builder, and they are refused together, for the same key. -/
structure SplitsInto (b : Builder) (refusal : String → Violation) (batch : Edit)
    (calls : List Edit) : Prop where
  /-- The batch is accepted exactly if the calls all are, one after the other. -/
  accepted_iff : ∀ b', b.apply batch = .ok b' ↔ b.Reaches calls b'
  /-- It is refused for the reason of the first call that is refused. -/
  refused_iff : ∀ v, b.apply batch = .error v ↔ b.FirstRefusal calls v
  /-- The reason is a key. -/
  refusal_of_error : ∀ v, b.apply batch = .error v → ∃ k, v = refusal k

theorem SplitsInto.of_apply_eq {refusal : String → Violation} {batch : Edit} {calls : List Edit}
    (h : b.apply batch = calls.foldlM apply b)
    (hrefusal : ∀ v, b.apply batch = .error v → ∃ k, v = refusal k) :
    b.SplitsInto refusal batch calls where
  accepted_iff b' := by rw [h, Reaches]
  refused_iff v := by rw [h, foldlM_apply_eq_error_iff]
  refusal_of_error := hrefusal

/-- An edit that divides splits in every way, in particular into one call for each member. -/
theorem Divides.splitsInto {α : Type} {edit : List α → Edit} {refusal : String → Violation}
    (h : Divides edit)
    (hrefusal : ∀ (b : Builder) as v, b.apply (edit as) = .error v → ∃ k, v = refusal k)
    (b : Builder) :
    (∀ as bs, b.SplitsInto refusal (edit (as ++ bs)) [edit as, edit bs]) ∧
      (∀ ass : List (List α), b.SplitsInto refusal (edit ass.flatten) (ass.map edit)) ∧
      ∀ as, b.SplitsInto refusal (edit as) (as.map fun a ↦ edit [a]) := by
  have hparts (ass : List (List α)) : b.SplitsInto refusal (edit ass.flatten) (ass.map edit) :=
    .of_apply_eq (h.apply_flatten b ass) (hrefusal b _)
  refine ⟨fun as bs ↦ ?_, hparts, fun as ↦ ?_⟩
  · simpa using hparts [as, bs]
  · have hsingles := hparts (as.map fun a ↦ [a])
    rwa [List.map_map, ← List.flatMap_def, List.flatMap_singleton'] at hsingles

theorem addFilters_eq_error {fs : List Filter} (h : b.addFilters fs = .error v) :
    ∃ k, v = .duplicateFilterKey k := by
  rw [addFilters] at h
  split at h
  · next k _ =>
    cases h
    exact ⟨k, rfl⟩
  · cases h

theorem addFacets_eq_error {fs : List Facet} (h : b.addFacets fs = .error v) :
    ∃ k, v = .duplicateFacetKey k := by
  rw [addFacets] at h
  split at h
  · next k _ =>
    cases h
    exact ⟨k, rfl⟩
  · cases h

/-- **One batch is many calls.** In every state, filters are added in one batch exactly if they are
added in two batches one after the other, or in any number of them, or one by one, and then the
state that is reached is the same. Otherwise the batch is refused for the key for which the first
refused call is. The same is true of facets. -/
theorem batches_split (b : Builder) :
    ((∀ fs gs, b.SplitsInto .duplicateFilterKey (.filter (fs ++ gs)) [.filter fs, .filter gs]) ∧
      (∀ fss : List (List Filter),
        b.SplitsInto .duplicateFilterKey (.filter fss.flatten) (fss.map .filter)) ∧
      ∀ fs, b.SplitsInto .duplicateFilterKey (.filter fs) (fs.map fun f ↦ .filter [f])) ∧
    (∀ fs gs, b.SplitsInto .duplicateFacetKey (.facet (fs ++ gs)) [.facet fs, .facet gs]) ∧
      (∀ fss : List (List Facet),
        b.SplitsInto .duplicateFacetKey (.facet fss.flatten) (fss.map .facet)) ∧
      ∀ fs, b.SplitsInto .duplicateFacetKey (.facet fs) (fs.map fun f ↦ .facet [f]) :=
  ⟨divides_filter.splitsInto (fun _ _ _ ↦ addFilters_eq_error) b,
    divides_facet.splitsInto (fun _ _ _ ↦ addFacets_eq_error) b⟩

end Builder

end FacetedSearch.Query
