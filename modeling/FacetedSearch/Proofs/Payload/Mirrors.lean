import FacetedSearch.Proofs.Payload.Acceptance
import FacetedSearch.Proofs.Payload.Filter

/-!
# Documents and the filters they describe

`Filter.Mirrors` says node by node which filter a document describes: the keys that a node of each
kind has, and what their values stand for. It does not mention a reader, and it follows the filter
and not the document, so that a document may have further keys, and may say the same in several
ways. A key that is `null` is not there, a number among the terms stands for its numeral, and
whether a test excludes may be said by a word.

A filter is read from a document exactly if it mirrors the document (`Filter.ofPayload_eq_ok_iff`).
This holds for every document, also for those that no filter would be written as.
-/

namespace FacetedSearch

open Json
open Payload

/-! ## Mirrors -/

/-- The field of a test is told by the tag, or by name. -/
def FieldTest.NamedBy (t : FieldTest) (o : Object) : Prop :=
  (∃ s : Specialization, o.lookup "type" = some (.string s.tag) ∧ t.field = s.field) ∨
    o.lookup "type" = some (.string "field") ∧ o.lookup "field" = some (.string t.field)

/-- The condition that an object describes. -/
def Condition.Mirrors (o : Object) : Condition → Prop
  | field t =>
    t.NamedBy o ∧
      (∃ items, o.lookup "terms" = some (.array items) ∧ List.Forall₂ TermOf items t.terms) ∧
      ∃ excluded, o.Gives "exclude" TruthOf excluded ∧ t.excluded = excluded.getD false
  | raw q => o.lookup "type" = some (.string "query") ∧ o.lookup "query" = some (.string q)
  | unarchived => o.lookup "type" = some (.string "archive")
  | dateRange r =>
    o.lookup "type" = some (.string "absoluteDateRange") ∧ o.Gives "from" InstantOf r.lower ∧
      o.Gives "to" InstantOf r.upper ∧
      ∃ field, o.Gives "field" TextOf field ∧ r.field = field.getD Field.dateList
  | relativeRange r =>
    o.lookup "type" = some (.string "relativeDateRange") ∧ o.Gives "before" PeriodOf r.before ∧
      o.Gives "after" PeriodOf r.after ∧
      ∃ field, o.Gives "field" TextOf field ∧ r.field = field.getD Field.dateList

namespace Filter

/-- The tag of a group. -/
def groupTag : Operator → String
  | .and => "and"
  | .or => "or"

mutual

/-- The filter that a document describes, node by node. -/
def Mirrors : Filter → Json → Prop
  | test k c, .object o => Object.Gives o "key" TextOf k ∧ c.Mirrors o
  | group k op fs, .object o =>
    Object.Gives o "key" TextOf k ∧ o.lookup "type" = some (.string (groupTag op)) ∧ fs ≠ [] ∧
      ∃ items, o.lookup "filters" = some (.array items) ∧ AllMirror fs items
  | negation k f, .object o =>
    Object.Gives o "key" TextOf k ∧ o.lookup "type" = some (.string "not") ∧
      ∃ v, o.lookup "filter" = some v ∧ f.Mirrors v
  | _, _ => False

/-- The filters that documents describe one by one. -/
def AllMirror : List Filter → List Json → Prop
  | [], [] => True
  | f :: fs, v :: vs => f.Mirrors v ∧ AllMirror fs vs
  | _, _ => False

end

end Filter

/-! ## Reading conditions -/

theorem FieldTest.of_eq_ok_iff {field : String} {terms : List String} {t : FieldTest} :
    FieldTest.of field terms = .ok t ↔ t.field = field ∧ t.terms = terms ∧ t.excluded = false := by
  obtain ⟨field', terms', hne, excluded⟩ := t
  rw [FieldTest.of]
  split
  · next h =>
    refine iff_of_false ?_ ?_
    · rintro ⟨⟩
    · rintro ⟨-, rfl, -⟩
      exact hne h
  · next h => simp [eq_comm]

section Conditions

variable {o : Object}

theorem exclude_eq_ok_iff {b : Bool} : optionalD o "exclude" readBool false = .ok b ↔
    ∃ excluded, o.Gives "exclude" TruthOf excluded ∧ excluded.getD false = b :=
  optionalD_eq_ok_iff (fun _ _ ↦ readBool_eq_ok_iff) (by simp [TruthOf])

theorem readFieldTest_eq_ok_iff {field : String} {t : FieldTest} :
    readFieldTest o field = .ok t ↔ t.field = field ∧
      (∃ items, o.lookup "terms" = some (.array items) ∧ List.Forall₂ TermOf items t.terms) ∧
      ∃ excluded, o.Gives "exclude" TruthOf excluded ∧ t.excluded = excluded.getD false := by
  simp only [readFieldTest, bind_eq_ok_iff, checked_eq_ok_iff,
    FieldTest.of_eq_ok_iff, exclude_eq_ok_iff, pure_eq_ok_iff,
    required_list_eq_ok_iff fun _ _ ↦ readTerm_eq_ok_iff]
  constructor
  · rintro ⟨_, hterms, test, ⟨rfl, rfl, hnot⟩, _, ⟨excluded, hexcluded, rfl⟩, rfl⟩
    cases h : excluded.getD false with
    | false => exact ⟨rfl, hterms, excluded, hexcluded, hnot.trans h.symm⟩
    | true => exact ⟨rfl, hterms, excluded, hexcluded, h.symm⟩
  · rintro ⟨rfl, hterms, excluded, hexcluded, ht⟩
    refine ⟨_, hterms, { t with excluded := false }, ⟨rfl, rfl, rfl⟩, _, ⟨excluded, hexcluded, rfl⟩,
      ?_⟩
    rw [← ht]
    obtain ⟨_, _, _, excluded'⟩ := t
    cases excluded' <;> rfl

theorem readRangeField_eq_ok_iff {field : String} : readRangeField o = .ok field ↔
    ∃ x, o.Gives "field" TextOf x ∧ field = x.getD Field.dateList := by
  rw [readRangeField, optionalD_eq_ok_iff (fun _ _ ↦ readText_eq_ok_iff) (by simp [TextOf])]
  simp only [eq_comm]

theorem readCondition_dateRange_eq_ok_iff {c : Condition} :
    readCondition o .dateRange = .ok c ↔ ∃ r, c = .dateRange r ∧ o.Gives "from" InstantOf r.lower ∧
      o.Gives "to" InstantOf r.upper ∧
      ∃ field, o.Gives "field" TextOf field ∧ r.field = field.getD Field.dateList := by
  simp only [readCondition, bind_eq_ok_iff, pure_eq_ok_iff, optional_instant_eq_ok_iff,
    readRangeField_eq_ok_iff]
  constructor
  · rintro ⟨lower, hlower, upper, hupper, field, hfield, rfl⟩
    exact ⟨_, rfl, hlower, hupper, hfield⟩
  · rintro ⟨r, rfl, hlower, hupper, hfield⟩
    exact ⟨_, hlower, _, hupper, _, hfield, rfl⟩

theorem readCondition_relativeRange_eq_ok_iff {c : Condition} :
    readCondition o .relativeRange = .ok c ↔
      ∃ r, c = .relativeRange r ∧ o.Gives "before" PeriodOf r.before ∧
        o.Gives "after" PeriodOf r.after ∧
        ∃ field, o.Gives "field" TextOf field ∧ r.field = field.getD Field.dateList := by
  simp only [readCondition, bind_eq_ok_iff, pure_eq_ok_iff, optional_period_eq_ok_iff,
    readRangeField_eq_ok_iff]
  constructor
  · rintro ⟨before, hbefore, after, hafter, field, hfield, rfl⟩
    exact ⟨_, rfl, hbefore, hafter, hfield⟩
  · rintro ⟨r, rfl, hbefore, hafter, hfield⟩
    exact ⟨_, hbefore, _, hafter, _, hfield, rfl⟩

/-- A condition is read for a tag of the object exactly if it mirrors the object. -/
theorem exists_readCondition_iff {c : Condition} :
    (∃ t, o.lookup "type" = some (.string (Vocabulary.word (Filter.Tag.test t))) ∧
      readCondition o t = .ok c) ↔ c.Mirrors o := by
  constructor
  · rintro ⟨t, htype, hread⟩
    cases t with
    | specialized s =>
      obtain ⟨test, htest, rfl⟩ := map_eq_ok_iff.mp hread
      obtain ⟨hfield, hrest⟩ := readFieldTest_eq_ok_iff.mp htest
      exact ⟨.inl ⟨s, htype, hfield⟩, hrest⟩
    | field =>
      obtain ⟨field, hfield, hread⟩ := bind_eq_ok_iff.mp hread
      obtain ⟨test, htest, hc⟩ := bind_eq_ok_iff.mp hread
      obtain rfl := pure_eq_ok_iff.mp hc
      obtain ⟨rfl, hrest⟩ := readFieldTest_eq_ok_iff.mp htest
      exact ⟨.inr ⟨htype, required_text_eq_ok_iff.mp hfield⟩, hrest⟩
    | raw =>
      obtain ⟨q, hq, rfl⟩ := map_eq_ok_iff.mp hread
      exact ⟨htype, required_text_eq_ok_iff.mp hq⟩
    | unarchived =>
      cases hread
      exact htype
    | dateRange =>
      obtain ⟨r, rfl, hr⟩ := readCondition_dateRange_eq_ok_iff.mp hread
      exact ⟨htype, hr⟩
    | relativeRange =>
      obtain ⟨r, rfl, hr⟩ := readCondition_relativeRange_eq_ok_iff.mp hread
      exact ⟨htype, hr⟩
  · intro hc
    -- a test of a field is read under the tag of the field or under the general one
    cases c with
    | field test =>
      obtain ⟨⟨s, htype, hfield⟩ | ⟨htype, hfield⟩, hrest⟩ := hc
      · exact ⟨.specialized s, htype,
          map_eq_ok_iff.mpr ⟨test, readFieldTest_eq_ok_iff.mpr ⟨hfield, hrest⟩, rfl⟩⟩
      · refine ⟨.field, htype, bind_eq_ok_iff.mpr ⟨_, required_text_eq_ok_iff.mpr hfield, ?_⟩⟩
        exact bind_eq_ok_iff.mpr ⟨test, readFieldTest_eq_ok_iff.mpr ⟨rfl, hrest⟩, rfl⟩
    | raw q =>
      obtain ⟨htype, hquery⟩ := hc
      exact ⟨.raw, htype, map_eq_ok_iff.mpr ⟨q, required_text_eq_ok_iff.mpr hquery, rfl⟩⟩
    | unarchived => exact ⟨.unarchived, hc, rfl⟩
    | dateRange r =>
      obtain ⟨htype, hr⟩ := hc
      exact ⟨.dateRange, htype, readCondition_dateRange_eq_ok_iff.mpr ⟨r, rfl, hr⟩⟩
    | relativeRange r =>
      obtain ⟨htype, hr⟩ := hc
      exact ⟨.relativeRange, htype, readCondition_relativeRange_eq_ok_iff.mpr ⟨r, rfl, hr⟩⟩

end Conditions

/-! ## Reading trees -/

namespace Filter

section Nodes

variable {o : Object} {tag : Tag}

theorem join_eq_ok_iff {op : Operator} {fs : List Filter} {f : Filter} :
    join op fs = .ok f ↔ fs ≠ [] ∧ group none op fs = f := by
  cases fs <;> simp [join]

theorem readNode_eq_ok_iff {f : Filter} : readNode o tag = .ok f ↔
    match tag, f with
    | .test t, .test none c => readCondition o t = .ok c
    | .group op, .group none op' fs =>
      op = op' ∧ fs ≠ [] ∧ required o "filters" (readList ofPayload) = .ok fs
    | .negation, .negation none g => required o "filter" ofPayload = .ok g
    | _, _ => False := by
  cases tag with
  | test t =>
    rw [readNode, map_eq_ok_iff]
    rcases f with ⟨_ | k, c⟩ | ⟨k, op, fs⟩ | ⟨k, g⟩ <;> simp
  | group op =>
    simp only [readNode, bind_eq_ok_iff, checked_eq_ok_iff, join_eq_ok_iff]
    rcases f with ⟨k, c⟩ | ⟨_ | k, op', fs⟩ | ⟨k, g⟩ <;> simp [and_comm, and_assoc]
  | negation =>
    rw [readNode, map_eq_ok_iff]
    rcases f with ⟨k, c⟩ | ⟨k, op, fs⟩ | ⟨_ | k, g⟩ <;> simp [without]

/-- The key is set only when the rest of a node has been read. -/
theorem key_of_readNode {f : Filter} (h : readNode o tag = .ok f) : f.key = none := by
  rw [readNode_eq_ok_iff] at h
  split at h
  · rfl
  · rfl
  · rfl
  · cases h

theorem ofPayload_object_eq_ok_iff {f : Filter} : ofPayload (.object o) = .ok f ↔
    o.Gives "key" TextOf f.key ∧ ∃ tag, o.lookup "type" = some (.string (Vocabulary.word tag)) ∧
      readNode o tag = .ok (f.withKey? none) := by
  simp only [ofPayload_eq_readNode, bind_eq_ok_iff, readTag_eq_ok_iff, optional_text_eq_ok_iff,
    pure_eq_ok_iff]
  constructor
  · rintro ⟨tag, htype, g, hg, k, hk, rfl⟩
    have hkey := key_of_readNode hg
    have hg' : (g.withKey? k).withKey? none = g := by
      cases g <;> cases hkey <;> rfl
    exact ⟨by rwa [key_withKey?], tag, htype, by rwa [hg']⟩
  · rintro ⟨hk, tag, htype, hg⟩
    have hf : (f.withKey? none).withKey? f.key = f := by cases f <;> rfl
    exact ⟨tag, htype, _, hg, f.key, hk, hf⟩

theorem Tag.exists_iff {p : Tag → Prop} :
    (∃ tag, p tag) ↔ (∃ t, p (.test t)) ∨ (∃ op, p (.group op)) ∨ p .negation := by
  constructor
  · rintro ⟨t | op | _, h⟩
    · exact .inl ⟨t, h⟩
    · exact .inr (.inl ⟨op, h⟩)
    · exact .inr (.inr h)
  · rintro (⟨t, h⟩ | ⟨op, h⟩ | h)
    · exact ⟨_, h⟩
    · exact ⟨_, h⟩
    · exact ⟨_, h⟩

theorem ofPayload_eq_test_iff {k : Option String} {c : Condition} :
    ofPayload (.object o) = .ok (test k c) ↔ o.Gives "key" TextOf k ∧ c.Mirrors o := by
  rw [ofPayload_object_eq_ok_iff, ← exists_readCondition_iff]
  simp [Tag.exists_iff, readNode_eq_ok_iff, withKey?, key]

theorem ofPayload_eq_group_iff {k : Option String} {op : Operator} {fs : List Filter} :
    ofPayload (.object o) = .ok (group k op fs) ↔ o.Gives "key" TextOf k ∧
      o.lookup "type" = some (.string (groupTag op)) ∧ fs ≠ [] ∧
        ∃ items, o.lookup "filters" = some (.array items) ∧
          List.Forall₂ (fun v f ↦ ofPayload v = .ok f) items fs := by
  have hword : Vocabulary.word (Tag.group op) = groupTag op := by cases op <;> rfl
  rw [ofPayload_object_eq_ok_iff, ← required_list_eq_ok_iff fun _ _ ↦ Iff.rfl, ← hword]
  simp [Tag.exists_iff, readNode_eq_ok_iff, withKey?, key]

theorem ofPayload_eq_negation_iff {k : Option String} {f : Filter} :
    ofPayload (.object o) = .ok (negation k f) ↔ o.Gives "key" TextOf k ∧
      o.lookup "type" = some (.string "not") ∧
        ∃ v, o.lookup "filter" = some v ∧ ofPayload v = .ok f := by
  have hnull (f : Filter) : ¬ ofPayload .null = .ok f := by rintro ⟨⟩
  have hword : Vocabulary.word Tag.negation = "not" := rfl
  rw [ofPayload_object_eq_ok_iff, ← required_eq_ok_iff (fun _ _ ↦ Iff.rfl) hnull]
  simp [Tag.exists_iff, readNode_eq_ok_iff, withKey?, key, hword]

end Nodes

theorem exists_object_of_ofPayload {f : Filter} {v : Json} (h : ofPayload v = .ok f) :
    ∃ o, v = .object o := by
  cases v with
  | object o => exact ⟨o, rfl⟩
  | _ => cases h

/-- What is true of all filters that are read, from what they have in common with their payloads. -/
@[elab_as_elim]
theorem ofPayload_induction {motive : Filter → Prop}
    (test : ∀ o k c, c.Mirrors o → motive (test k c))
    (group : ∀ k op fs, fs ≠ [] → (∀ f ∈ fs, motive f) → motive (group k op fs))
    (negation : ∀ k f, motive f → motive (negation k f)) {f : Filter} {v : Json}
    (h : ofPayload v = .ok f) : motive f := by
  induction f using Filter.induction generalizing v with
  | test k c =>
    obtain ⟨o, rfl⟩ := exists_object_of_ofPayload h
    exact test o k c (ofPayload_eq_test_iff.mp h).2
  | group k op fs ih =>
    obtain ⟨o, rfl⟩ := exists_object_of_ofPayload h
    obtain ⟨-, -, hne, items, -, hitems⟩ := ofPayload_eq_group_iff.mp h
    refine group k op fs hne fun f hf ↦ ?_
    -- an operand was read from some item, and which one does not matter
    obtain ⟨w, hw⟩ := exists_forall₂_iff.mp ⟨items, hitems.flip⟩ f hf
    exact ih f hf hw
  | negation k f ih =>
    obtain ⟨o, rfl⟩ := exists_object_of_ofPayload h
    obtain ⟨-, -, w, -, hw⟩ := ofPayload_eq_negation_iff.mp h
    exact negation k f (ih hw)

private theorem forall₂_iff_allMirror {fs : List Filter} {items : List Json}
    (h : ∀ f ∈ fs, ∀ v, ofPayload v = .ok f ↔ f.Mirrors v) :
    List.Forall₂ (fun v f ↦ ofPayload v = .ok f) items fs ↔ AllMirror fs items := by
  induction fs generalizing items with
  | nil => cases items <;> simp [AllMirror]
  | cons f fs ih =>
    have htail := fun items ↦ @ih items fun g hg ↦ h g (List.mem_cons_of_mem f hg)
    cases items with
    | nil => simp [AllMirror]
    | cons v vs => simp [AllMirror, h f List.mem_cons_self v, htail vs]

/-- A filter is read from a document exactly if it mirrors the document. -/
theorem ofPayload_eq_ok_iff {f : Filter} {v : Json} : ofPayload v = .ok f ↔ f.Mirrors v := by
  induction f using Filter.induction generalizing v with
  | test k c =>
    cases v with
    | object o => exact ofPayload_eq_test_iff
    | _ => exact iff_of_false (by rintro ⟨⟩) (by simp [Mirrors])
  | group k op fs ih =>
    cases v with
    | object o =>
      have hitems (items : List Json) := @forall₂_iff_allMirror fs items fun f hf v ↦ ih f hf
      rw [ofPayload_eq_group_iff, Mirrors]
      simp only [hitems]
    | _ => exact iff_of_false (by rintro ⟨⟩) (by simp [Mirrors])
  | negation k f ih =>
    cases v with
    | object o =>
      rw [ofPayload_eq_negation_iff, Mirrors]
      simp only [ih]
    | _ => exact iff_of_false (by rintro ⟨⟩) (by simp [Mirrors])

end Filter

end FacetedSearch
