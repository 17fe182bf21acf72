import FacetedSearch.Proofs.Query.Builder

/-!
# Refused edits

`Builder.apply` gives back a new builder or refuses, so it cannot leave a builder half changed. That
is a fact about its type and says little about edits which are carried out in place: there a batch
is first looked through key by key, then its members are appended one by one, each together with its
key, and a fault at any point would leave behind whatever was changed before it.

`Builder.steps` spells these edits out as procedures on a builder, with all their intermediate
states, and `Builder.carryOut_steps` says that nothing of them is ever seen: a procedure either does
what `Builder.apply` does or fails with the builder as it was.

## Clashes

A batch is refused if one of its keys is in use or stands in it twice, and the message names the
first key at which that shows. `IsClash` and `IsFirstClash` say this by positions in the batch,
without the scan that finds them.
-/

namespace FacetedSearch.Query

/-! ## Positions of clashes -/

/-- The key at a position is in use, or occurs in the batch before that position. -/
def IsClash (used ks : List String) (i : Nat) : Prop :=
  ∃ k, ks[i]? = some k ∧ (k ∈ used ∨ k ∈ ks.take i)

/-- The key is the one at the first position with a clash. -/
def IsFirstClash (used ks : List String) (k : String) : Prop :=
  ∃ i, ks[i]? = some k ∧ IsClash used ks i ∧ ∀ j < i, ¬ IsClash used ks j

section Clashes

variable {used ks : List String} {k l : String}

theorem isClash_cons_zero : IsClash used (k :: ks) 0 ↔ k ∈ used := by
  simp [IsClash]

/-- Behind the first key of a batch, that key counts as one in use. -/
theorem isClash_cons_succ {i : Nat} :
    IsClash used (k :: ks) (i + 1) ↔ IsClash (k :: used) ks i := by
  simp only [IsClash, List.getElem?_cons_succ, List.take_succ_cons, List.mem_cons]
  refine exists_congr fun l ↦ and_congr_right fun _ ↦ ?_
  rw [or_left_comm, or_assoc]

theorem isFirstClash_cons_of_mem (hk : k ∈ used) : IsFirstClash used (k :: ks) l ↔ l = k := by
  constructor
  · rintro ⟨i, hl, -, hfirst⟩
    cases i with
    | zero => exact (Option.some.inj hl).symm
    | succ i => exact absurd (isClash_cons_zero.mpr hk) (hfirst 0 i.succ_pos)
  · rintro rfl
    exact ⟨0, rfl, isClash_cons_zero.mpr hk, fun j hj ↦ absurd hj j.not_lt_zero⟩

theorem isFirstClash_cons_of_notMem (hk : k ∉ used) :
    IsFirstClash used (k :: ks) l ↔ IsFirstClash (k :: used) ks l := by
  constructor
  · rintro ⟨i, hl, hclash, hfirst⟩
    cases i with
    | zero => exact absurd (isClash_cons_zero.mp hclash) hk
    | succ i =>
      exact ⟨i, hl, isClash_cons_succ.mp hclash, fun j hj hj' ↦
        hfirst (j + 1) (Nat.succ_lt_succ hj) (isClash_cons_succ.mpr hj')⟩
  · rintro ⟨i, hl, hclash, hfirst⟩
    refine ⟨i + 1, hl, isClash_cons_succ.mpr hclash, fun j hj hj' ↦ ?_⟩
    cases j with
    | zero => exact hk (isClash_cons_zero.mp hj')
    | succ j => exact hfirst j (Nat.lt_of_succ_lt_succ hj) (isClash_cons_succ.mp hj')

/-- The scan reports the first clash. -/
theorem firstClash_eq_some_iff : firstClash used ks = some k ↔ IsFirstClash used ks k := by
  induction ks generalizing used with
  | nil => simp [firstClash, IsFirstClash]
  | cons l ks ih =>
    rw [firstClash]
    split
    · next hl =>
      rw [isFirstClash_cons_of_mem hl, Option.some.injEq, eq_comm]
    · next hl => rw [ih, isFirstClash_cons_of_notMem hl]

theorem not_isClash_of_firstClash (h : firstClash used ks = none) (i : Nat) :
    ¬ IsClash used ks i := by
  induction ks generalizing used i with
  | nil => simp [IsClash]
  | cons l ks ih =>
    rw [firstClash] at h
    split at h
    · cases h
    · next hl =>
      cases i with
      | zero => exact fun hclash ↦ hl (isClash_cons_zero.mp hclash)
      | succ i => exact fun hclash ↦ ih h i (isClash_cons_succ.mp hclash)

end Clashes

namespace Builder

/-! ## Edits as procedures -/

/-- A procedure that changes a builder in place. If it fails, what it has changed so far stays
changed. -/
abbrev Procedure := ExceptT Violation (StateM Builder)

/-- How a procedure ends, and the builder that it leaves behind. -/
def carryOut (b : Builder) (p : Procedure Unit) : Except Violation Unit × Builder :=
  Id.run (p.run.run b)

/-- Looks through the keys of a batch and fails at the first one that is in use or was seen before
in the batch. -/
def checkKeys (inUse : Builder → List String) (refusal : String → Violation) :
    List String → List String → Procedure Unit
  | _, [] => pure ()
  | seen, k :: ks => do
    if k ∈ inUse (← get) ∨ k ∈ seen then throw (refusal k)
    checkKeys inUse refusal (k :: seen) ks

/-- Takes note of the key of a filter, if it has one, and appends the filter. -/
def pushFilter (f : Filter) : Procedure Unit := do
  if let some k := f.key then
    modify fun b ↦ { b with filterKeys := b.filterKeys ++ [k] }
  modify fun b ↦ { b with draft := { b.draft with filters := b.draft.filters ++ [f] } }

/-- Takes note of the key of a facet and appends the facet. -/
def pushFacet (f : Facet) : Procedure Unit := do
  modify fun b ↦ { b with facetKeys := b.facetKeys ++ [f.key] }
  modify fun b ↦ { b with draft := { b.draft with facets := b.draft.facets ++ [f] } }

/-- The steps of an edit. -/
def steps : Edit → Procedure Unit
  | .text s => modify fun b ↦ { b with draft := { b.draft with text := s } }
  | .language l => modify fun b ↦ { b with draft := { b.draft with language := l } }
  | .offset n => do
    if n < 0 then throw (.negativeOffset n.toInt)
    modify fun b ↦ { b with draft := { b.draft with offset := n.toUInt64 } }
  | .limit n => do
    if n < 0 then throw (.negativeLimit n.toInt)
    modify fun b ↦ { b with draft := { b.draft with limit := n.toUInt64 } }
  | .sort cs => modify fun b ↦ { b with draft := { b.draft with sort := b.draft.sort ++ cs } }
  | .filter fs => do
    checkKeys filterKeys .duplicateFilterKey [] (fs.filterMap Filter.key)
    fs.forM pushFilter
  | .facet fs => do
    checkKeys facetKeys .duplicateFacetKey [] (fs.map Facet.key)
    fs.forM pushFacet
  | .archive included => modify fun b ↦ { b with draft := { b.draft with archive := included } }
  | .operator op => modify fun b ↦ { b with draft := { b.draft with operator := op } }
  | .timeZone name => modify fun b ↦ { b with draft := { b.draft with timeZone := some name } }
  | .boosting w => modify fun b ↦ { b with draft := { b.draft with boosting := some w } }
  | .referencePoint p =>
    modify fun b ↦ { b with draft := { b.draft with referencePoint := some p } }
  | .explain wanted => modify fun b ↦ { b with draft := { b.draft with explain := wanted } }

/-- The builder after a sequence of edits in place, whether or not some of them fail. -/
def carryOutAll (b : Builder) (es : List Edit) : Builder :=
  es.foldl (fun b e ↦ (b.carryOut (steps e)).2) b

section CarryOut

variable {b b' : Builder} {p p' : Procedure Unit} {v : Violation}

theorem carryOut_seq (b : Builder) (p p' : Procedure Unit) :
    b.carryOut (do p; p') =
      match b.carryOut p with
      | (.ok (), b') => b'.carryOut p'
      | (.error v, b') => (.error v, b') := by
  change Id.run (ExceptT.bindCont (fun _ ↦ p') (b.carryOut p).1 (b.carryOut p).2) = _
  rcases b.carryOut p with ⟨_ | _, b'⟩ <;> rfl

theorem carryOut_if_throw {c : Prop} [Decidable c] (b : Builder) (v : Violation)
    (p : Procedure Unit) :
    b.carryOut (do
      if c then throw v
      p) = if c then (.error v, b) else b.carryOut p := by
  split <;> rfl

/-- The keys of a batch are looked through without a change, up to the first clash. -/
theorem carryOut_checkKeys (b : Builder) (inUse : Builder → List String)
    (refusal : String → Violation) (seen ks : List String) :
    b.carryOut (checkKeys inUse refusal seen ks) =
      match firstClash (seen ++ inUse b) ks with
      | some k => (.error (refusal k), b)
      | none => (.ok (), b) := by
  induction ks generalizing seen with
  | nil => rfl
  | cons k ks ih =>
    -- the scan counts the keys that it has seen among those in use
    have hmem : k ∈ inUse b ∨ k ∈ seen ↔ k ∈ seen ++ inUse b := by rw [List.mem_append, or_comm]
    have hstep : b.carryOut (checkKeys inUse refusal seen (k :: ks)) =
        if k ∈ inUse b ∨ k ∈ seen then (.error (refusal k), b)
        else b.carryOut (checkKeys inUse refusal (k :: seen) ks) :=
      carryOut_if_throw b (refusal k) _
    rw [hstep, firstClash]
    simp only [hmem]
    split
    · rfl
    · exact ih (k :: seen)

theorem carryOut_pushFilter (b : Builder) (f : Filter) :
    b.carryOut (pushFilter f) = (.ok (), { b with
      draft := { b.draft with filters := b.draft.filters ++ [f] }
      filterKeys := b.filterKeys ++ f.key.toList }) := by
  rw [pushFilter]
  cases f.key with
  | none =>
    rw [Option.toList_none, List.append_nil]
    rfl
  | some k => rfl

theorem carryOut_pushFacet (b : Builder) (f : Facet) :
    b.carryOut (pushFacet f) = (.ok (), { b with
      draft := { b.draft with facets := b.draft.facets ++ [f] }
      facetKeys := b.facetKeys ++ [f.key] }) := rfl

theorem carryOut_forM_cons {α : Type} (b : Builder) (g : α → Procedure Unit) (a : α)
    (as : List α) : b.carryOut ((a :: as).forM g) =
      match b.carryOut (g a) with
      | (.ok (), b') => b'.carryOut (as.forM g)
      | (.error v, b') => (.error v, b') := carryOut_seq b (g a) (as.forM g)

theorem carryOut_forM_pushFilter (b : Builder) (fs : List Filter) :
    b.carryOut (fs.forM pushFilter) = (.ok (), { b with
      draft := { b.draft with filters := b.draft.filters ++ fs }
      filterKeys := b.filterKeys ++ fs.filterMap Filter.key }) := by
  induction fs generalizing b with
  | nil =>
    rw [List.append_nil, List.filterMap_nil, List.append_nil]
    rfl
  | cons f fs ih =>
    rw [carryOut_forM_cons, carryOut_pushFilter]
    dsimp only
    rw [ih]
    have hkeys : f.key.toList ++ fs.filterMap Filter.key = (f :: fs).filterMap Filter.key := by
      rw [List.filterMap_cons]
      cases f.key <;> rfl
    simp only [List.append_assoc, hkeys, List.singleton_append]

theorem carryOut_forM_pushFacet (b : Builder) (fs : List Facet) :
    b.carryOut (fs.forM pushFacet) = (.ok (), { b with
      draft := { b.draft with facets := b.draft.facets ++ fs }
      facetKeys := b.facetKeys ++ fs.map Facet.key }) := by
  induction fs generalizing b with
  | nil =>
    rw [List.append_nil, List.map_nil, List.append_nil]
    rfl
  | cons f fs ih =>
    rw [carryOut_forM_cons, carryOut_pushFacet]
    dsimp only
    rw [ih]
    simp only [List.append_assoc, List.singleton_append, List.map_cons]

/-- **Refused edits change nothing.** An edit in place does what `Builder.apply` does, or fails with
the same violation and leaves the builder as it was. -/
theorem carryOut_steps (b : Builder) (e : Edit) :
    b.carryOut (steps e) =
      match b.apply e with
      | .ok b' => (.ok (), b')
      | .error v => (.error v, b) := by
  cases e with
  | offset n =>
    rw [apply, setOffset, steps, carryOut_if_throw]
    split <;> rfl
  | limit n =>
    rw [apply, setLimit, steps, carryOut_if_throw]
    split <;> rfl
  | filter fs =>
    -- all keys are checked before the first filter is pushed
    rw [apply, addFilters, steps, carryOut_seq, carryOut_checkKeys, List.nil_append]
    cases firstClash b.filterKeys (fs.filterMap Filter.key) with
    | none => exact carryOut_forM_pushFilter b fs
    | some k => rfl
  | facet fs =>
    rw [apply, addFacets, steps, carryOut_seq, carryOut_checkKeys, List.nil_append]
    cases firstClash b.facetKeys (fs.map Facet.key) with
    | none => exact carryOut_forM_pushFacet b fs
    | some k => rfl
  | _ => rfl

theorem carryOutAll_eq_run (b : Builder) (es : List Edit) : b.carryOutAll es = b.run es := by
  have hattempt (b : Builder) (e : Edit) : (b.carryOut (steps e)).2 = b.attempt e := by
    rw [carryOut_steps, attempt]
    cases b.apply e <;> rfl
  simp only [carryOutAll, run, hattempt]

end CarryOut

/-! ## What every state guarantees -/

/-- The keys in use are those of the draft, and no two of its filters or facets share one. -/
structure InStep (b : Builder) : Prop where
  mem_filterKeys_iff : ∀ k, k ∈ b.filterKeys ↔ ∃ f ∈ b.draft.filters, f.key = some k
  filters_pairwise : b.draft.filters.Pairwise fun f g ↦ ∀ k ∈ f.key, k ∉ g.key
  mem_facetKeys_iff : ∀ k, k ∈ b.facetKeys ↔ ∃ f ∈ b.draft.facets, f.key = k
  facets_pairwise : b.draft.facets.Pairwise fun f g ↦ f.key ≠ g.key

theorem Consistent.inStep {b : Builder} (hb : b.Consistent) : b.InStep where
  mem_filterKeys_iff k := by rw [hb.filterKeys_eq, Query.filterKeys, List.mem_filterMap]
  filters_pairwise := by
    have h := hb.filterKeys_eq ▸ hb.filterKeys_nodup
    rw [Query.filterKeys, List.Nodup, List.pairwise_filterMap] at h
    exact h.imp fun hne k hk hk' ↦ hne k hk k hk' rfl
  mem_facetKeys_iff k := by rw [hb.facetKeys_eq, Query.facetKeys, List.mem_map]
  facets_pairwise := by
    have h := hb.facetKeys_eq ▸ hb.facetKeys_nodup
    rwa [Query.facetKeys, List.Nodup, List.pairwise_map] at h

/-- The outcome of adding a batch with the keys `ks`. It is refused exactly if there is a clash,
then for the first one and with the builder as it was; otherwise the builder becomes `added`. -/
structure AllOrNothing (used ks : List String) (refusal : String → Violation) (b added : Builder)
    (outcome : Except Violation Unit × Builder) : Prop where
  fails_iff : (∃ v, outcome.1 = .error v) ↔ ∃ i, IsClash used ks i
  refused : ∀ k, IsFirstClash used ks k → outcome = (.error (refusal k), b)
  accepted : (∀ i, ¬ IsClash used ks i) → outcome = (.ok (), added)

/-- A batch that is refused where the scan finds a clash is added as a whole or not at all. -/
theorem allOrNothing_of_firstClash {used ks : List String} {refusal : String → Violation}
    {b added : Builder} {outcome : Except Violation Unit × Builder}
    (h : outcome = match firstClash used ks with
      | some k => (.error (refusal k), b)
      | none => (.ok (), added)) : AllOrNothing used ks refusal b added outcome := by
  subst h
  cases hscan : firstClash used ks with
  | none =>
    have hnone := not_isClash_of_firstClash hscan
    constructor
    · exact ⟨fun ⟨v, hv⟩ ↦ absurd hv (by simp), fun ⟨i, hi⟩ ↦ absurd hi (hnone i)⟩
    · exact fun k ⟨i, _, hi, _⟩ ↦ absurd hi (hnone i)
    · exact fun _ ↦ rfl
  | some k =>
    obtain ⟨i, -, hi, -⟩ := firstClash_eq_some_iff.mp hscan
    constructor
    · exact iff_of_true ⟨_, rfl⟩ ⟨i, hi⟩
    · intro l hl
      rw [← firstClash_eq_some_iff, hscan, Option.some.injEq] at hl
      rw [hl]
    · exact fun hnone ↦ absurd hi (hnone i)

theorem allOrNothing_filter (b : Builder) (fs : List Filter) :
    AllOrNothing b.filterKeys (fs.filterMap Filter.key) .duplicateFilterKey b
      { b with
        draft := { b.draft with filters := b.draft.filters ++ fs }
        filterKeys := b.filterKeys ++ fs.filterMap Filter.key }
      (b.carryOut (steps (.filter fs))) := by
  refine allOrNothing_of_firstClash ?_
  rw [carryOut_steps, apply, addFilters]
  cases firstClash b.filterKeys (fs.filterMap Filter.key) <;> rfl

theorem allOrNothing_facet (b : Builder) (fs : List Facet) :
    AllOrNothing b.facetKeys (fs.map Facet.key) .duplicateFacetKey b
      { b with
        draft := { b.draft with facets := b.draft.facets ++ fs }
        facetKeys := b.facetKeys ++ fs.map Facet.key }
      (b.carryOut (steps (.facet fs))) := by
  refine allOrNothing_of_firstClash ?_
  rw [carryOut_steps, apply, addFacets]
  cases firstClash b.facetKeys (fs.map Facet.key) <;> rfl

/-- **Keys stay in step, and edits are all or nothing.** Whatever edits were made before, in place
or not, and whichever of them failed, the keys in use are those of the draft and no two members
share one. A batch of filters or facets is then added as a whole, in order, or refused for the first
key that is not new; a count is set unless it is negative; and what is refused leaves the builder as
it was. -/
theorem edits_all_or_nothing (d : Defaults) (es : List Edit) :
    let b := (new d).run es
    (new d).carryOutAll es = b ∧
      (∀ e, b.carryOut (steps e) =
        match b.apply e with
        | .ok b' => (.ok (), b')
        | .error v => (.error v, b)) ∧
      b.InStep ∧
      (∀ fs, AllOrNothing b.filterKeys (fs.filterMap Filter.key) .duplicateFilterKey b
        { b with
          draft := { b.draft with filters := b.draft.filters ++ fs }
          filterKeys := b.filterKeys ++ fs.filterMap Filter.key }
        (b.carryOut (steps (.filter fs)))) ∧
      (∀ fs, AllOrNothing b.facetKeys (fs.map Facet.key) .duplicateFacetKey b
        { b with
          draft := { b.draft with facets := b.draft.facets ++ fs }
          facetKeys := b.facetKeys ++ fs.map Facet.key }
        (b.carryOut (steps (.facet fs)))) ∧
      (∀ n, b.carryOut (steps (.offset n)) =
        if n < 0 then (.error (.negativeOffset n.toInt), b)
        else (.ok (), { b with draft := { b.draft with offset := n.toUInt64 } })) ∧
      ∀ n, b.carryOut (steps (.limit n)) =
        if n < 0 then (.error (.negativeLimit n.toInt), b)
        else (.ok (), { b with draft := { b.draft with limit := n.toUInt64 } }) := by
  intro b
  have hb : b.Consistent := (consistent_new d).run es
  exact ⟨carryOutAll_eq_run (new d) es, carryOut_steps b, hb.inStep, allOrNothing_filter b,
    allOrNothing_facet b, fun n ↦ carryOut_if_throw b (.negativeOffset n.toInt) _,
    fun n ↦ carryOut_if_throw b (.negativeLimit n.toInt) _⟩

end Builder

end FacetedSearch.Query
