import FacetedSearch.Proofs.Payload.Mirrors

/-!
# The language of filters

Which documents are filters. `Filter.ValidPayload` is the grammar: the least property of documents
that has a clause for every tag, and in the clauses of `and`, `or` and `not` asks the same of the
operands. Like the description of a filter by a document, it does not mention a reader.

Both directions are inductions on trees, but not on the same one. That a document is valid if it was
read goes by induction on the filter, and that a valid document can be read by induction on its
validity.
-/

namespace FacetedSearch

open Json
open Payload

/-! ## Documents -/

namespace Json

/-- Any text. -/
def IsText (v : Json) : Prop := ∃ s, v = .string s

/-- At least one term, each a text or a number. -/
def AreTerms (v : Json) : Prop :=
  ∃ items, v = .array items ∧ items ≠ [] ∧
    ∀ w ∈ items, IsText w ∨ ∃ n : Number, w = .number n

/-- A truth value, or the name of one. -/
def IsTruth (v : Json) : Prop := (∃ b, v = .bool b) ∨ v = .string "true" ∨ v = .string "false"

/-- The text of a timestamp. -/
def IsTimestamp (v : Json) : Prop := ∃ s t, v = .string s ∧ Rfc3339.read s = .ok t

/-- The text of a period. -/
def IsPeriod (v : Json) : Prop := ∃ s p, v = .string s ∧ Period.parse s = .ok p

/-- The object has a value of a form under a key. -/
def Object.Has (o : Object) (key : String) (form : Json → Prop) : Prop :=
  ∃ v, o.lookup key = some v ∧ form v

/-- The same for a key that may be left out, or be `null`. -/
def Object.MayHave (o : Object) (key : String) (form : Json → Prop) : Prop :=
  o.lookup key = none ∨ o.lookup key = some .null ∨ o.Has key form

end Json

namespace Filter

/-- A document that is a filter. -/
inductive ValidPayload : Json → Prop
  | specialized {o : Object} (s : Specialization) (key : o.MayHave "key" IsText)
      (type : o.lookup "type" = some (.string s.tag)) (terms : o.Has "terms" AreTerms)
      (exclude : o.MayHave "exclude" IsTruth) : ValidPayload (.object o)
  | field {o : Object} (key : o.MayHave "key" IsText)
      (type : o.lookup "type" = some (.string "field")) (terms : o.Has "terms" AreTerms)
      (exclude : o.MayHave "exclude" IsTruth) (field : o.Has "field" IsText) :
      ValidPayload (.object o)
  | group {o : Object} {items : List Json} (key : o.MayHave "key" IsText)
      (type : o.lookup "type" = some (.string "and") ∨ o.lookup "type" = some (.string "or"))
      (filters : o.lookup "filters" = some (.array items)) (items_ne_nil : items ≠ [])
      (operands : ∀ v ∈ items, ValidPayload v) : ValidPayload (.object o)
  | negation {o : Object} {v : Json} (key : o.MayHave "key" IsText)
      (type : o.lookup "type" = some (.string "not")) (filter : o.lookup "filter" = some v)
      (operand : ValidPayload v) : ValidPayload (.object o)
  | query {o : Object} (key : o.MayHave "key" IsText)
      (type : o.lookup "type" = some (.string "query")) (query : o.Has "query" IsText) :
      ValidPayload (.object o)
  | archive {o : Object} (key : o.MayHave "key" IsText)
      (type : o.lookup "type" = some (.string "archive")) : ValidPayload (.object o)
  | absoluteDateRange {o : Object} (key : o.MayHave "key" IsText)
      (type : o.lookup "type" = some (.string "absoluteDateRange"))
      (lower : o.MayHave "from" IsTimestamp) (upper : o.MayHave "to" IsTimestamp)
      (field : o.MayHave "field" IsText) : ValidPayload (.object o)
  | relativeDateRange {o : Object} (key : o.MayHave "key" IsText)
      (type : o.lookup "type" = some (.string "relativeDateRange"))
      (before : o.MayHave "before" IsPeriod) (after : o.MayHave "after" IsPeriod)
      (field : o.MayHave "field" IsText) : ValidPayload (.object o)

end Filter

/-! ## Forms and what they stand for -/

section Forms

variable {α : Type} {o : Object} {key : String} {R : Json → α → Prop} {form : Json → Prop}

theorem Json.Object.Gives.mayHave {x : Option α} (h : o.Gives key R x)
    (hform : ∀ v a, R v a → form v) : o.MayHave key form := by
  cases x with
  | none => exact or_assoc.mp (.inl h)
  | some a =>
    obtain ⟨v, hv, ha⟩ := h
    exact .inr (.inr ⟨v, hv, hform v a ha⟩)

theorem Json.Object.MayHave.exists_gives (h : o.MayHave key form)
    (hform : ∀ v, form v → ∃ a, R v a) : ∃ x, o.Gives key R x := by
  rcases h with hnone | hnull | ⟨v, hv, hvform⟩
  · exact ⟨none, .inl hnone⟩
  · exact ⟨none, .inr hnull⟩
  · obtain ⟨a, ha⟩ := hform v hvform
    exact ⟨some a, v, hv, ha⟩

theorem isTruth_iff {v : Json} : IsTruth v ↔ ∃ b, TruthOf v b := by
  constructor
  · rintro (⟨b, rfl⟩ | rfl | rfl)
    · exact ⟨b, .inl rfl⟩
    · exact ⟨true, .inr rfl⟩
    · exact ⟨false, .inr rfl⟩
  · rintro ⟨b, rfl | rfl⟩
    · exact .inl ⟨b, rfl⟩
    · cases b
      · exact .inr (.inr rfl)
      · exact .inr (.inl rfl)

theorem isTimestamp_iff {v : Json} : IsTimestamp v ↔ ∃ t, InstantOf v t := exists_comm

theorem isPeriod_iff {v : Json} : IsPeriod v ↔ ∃ p, PeriodOf v p := exists_comm

theorem isTerm_iff {v : Json} : (IsText v ∨ ∃ n : Number, v = .number n) ↔ ∃ s, TermOf v s := by
  constructor
  · rintro (⟨s, rfl⟩ | ⟨n, rfl⟩)
    · exact ⟨s, .inl rfl⟩
    · exact ⟨n.text, .inr ⟨n, rfl, rfl⟩⟩
  · rintro ⟨s, rfl | ⟨n, rfl, -⟩⟩
    · exact .inl ⟨s, rfl⟩
    · exact .inr ⟨n, rfl⟩

theorem areTerms_iff {v : Json} :
    AreTerms v ↔ ∃ items, v = .array items ∧ ∃ terms ≠ [], List.Forall₂ TermOf items terms := by
  simp only [AreTerms, isTerm_iff, ← exists_forall₂_iff]
  refine exists_congr fun items ↦ and_congr_right fun _ ↦ ?_
  constructor
  · rintro ⟨hne, terms, hterms⟩
    refine ⟨terms, ?_, hterms⟩
    rintro rfl
    cases hterms
    exact hne rfl
  · rintro ⟨terms, hne, hterms⟩
    refine ⟨?_, terms, hterms⟩
    rintro rfl
    cases hterms
    exact hne rfl

end Forms

section Clauses

variable {o : Object}

theorem exists_fieldTest (hterms : o.Has "terms" AreTerms) (hexclude : o.MayHave "exclude" IsTruth)
    (field : String) : ∃ t : FieldTest, t.field = field ∧
      (∃ items, o.lookup "terms" = some (.array items) ∧ List.Forall₂ TermOf items t.terms) ∧
      ∃ excluded, o.Gives "exclude" TruthOf excluded ∧ t.excluded = excluded.getD false := by
  obtain ⟨v, hlookup, hv⟩ := hterms
  obtain ⟨items, rfl, terms, hne, hitems⟩ := areTerms_iff.mp hv
  obtain ⟨excluded, hexcluded⟩ := hexclude.exists_gives fun _ ↦ isTruth_iff.mp
  exact ⟨⟨field, terms, hne, excluded.getD false⟩, rfl, ⟨items, hlookup, hitems⟩, excluded,
    hexcluded, rfl⟩

theorem Condition.Mirrors.validPayload {c : Condition} (hkey : o.MayHave "key" IsText)
    (h : c.Mirrors o) : Filter.ValidPayload (.object o) := by
  have htext (v : Json) (s : String) (h : TextOf v s) : IsText v := ⟨s, h⟩
  cases c with
  | field t =>
    obtain ⟨htype, ⟨items, hlookup, hitems⟩, excluded, hexcluded, -⟩ := h
    have hterms : o.Has "terms" AreTerms :=
      ⟨_, hlookup, areTerms_iff.mpr ⟨items, rfl, t.terms, t.terms_ne_nil, hitems⟩⟩
    have hexclude : o.MayHave "exclude" IsTruth :=
      hexcluded.mayHave fun v b hv ↦ isTruth_iff.mpr ⟨b, hv⟩
    rcases htype with ⟨s, htype, -⟩ | ⟨htype, hfield⟩
    · exact .specialized s hkey htype hterms hexclude
    · exact .field hkey htype hterms hexclude ⟨_, hfield, _, rfl⟩
  | raw q =>
    obtain ⟨htype, hquery⟩ := h
    exact .query hkey htype ⟨_, hquery, q, rfl⟩
  | unarchived => exact .archive hkey h
  | dateRange r =>
    obtain ⟨htype, hlower, hupper, field, hfield, -⟩ := h
    have hinstant (v : Json) (t : Instant) (h : InstantOf v t) : IsTimestamp v :=
      isTimestamp_iff.mpr ⟨t, h⟩
    exact .absoluteDateRange hkey htype (hlower.mayHave hinstant) (hupper.mayHave hinstant)
      (hfield.mayHave htext)
  | relativeRange r =>
    obtain ⟨htype, hbefore, hafter, field, hfield, -⟩ := h
    have hperiod (v : Json) (p : Period) (h : PeriodOf v p) : IsPeriod v :=
      isPeriod_iff.mpr ⟨p, h⟩
    exact .relativeDateRange hkey htype (hbefore.mayHave hperiod) (hafter.mayHave hperiod)
      (hfield.mayHave htext)

end Clauses

namespace Filter

/-! ## Valid documents -/

/-- What has been read was valid. The induction is on the filter, since an operand of a group is
found from its place among the filters read. -/
theorem validPayload_of_ofPayload {f : Filter} {v : Json} (h : ofPayload v = .ok f) :
    ValidPayload v := by
  have htext (v : Json) (s : String) (h : TextOf v s) : IsText v := ⟨s, h⟩
  induction f using Filter.induction generalizing v with
  | test k c =>
    obtain ⟨o, rfl⟩ := exists_object_of_ofPayload h
    obtain ⟨hkey, hc⟩ := ofPayload_eq_test_iff.mp h
    exact hc.validPayload (hkey.mayHave htext)
  | group k op fs ih =>
    obtain ⟨o, rfl⟩ := exists_object_of_ofPayload h
    obtain ⟨hkey, htype, hne, items, hlookup, hitems⟩ := ofPayload_eq_group_iff.mp h
    have htag :
        o.lookup "type" = some (.string "and") ∨ o.lookup "type" = some (.string "or") := by
      cases op
      · exact .inl htype
      · exact .inr htype
    have hlength := hitems.length_eq
    refine .group (hkey.mayHave htext) htag hlookup ?_ fun w hw ↦ ?_
    · rintro rfl
      exact hne (List.length_eq_zero_iff.mp hlength.symm)
    · obtain ⟨i, hi, rfl⟩ := List.getElem_of_mem hw
      have hfs : i < fs.length := hlength ▸ hi
      exact ih _ (List.getElem_mem hfs) (hitems.get hi hfs)
  | negation k f ih =>
    obtain ⟨o, rfl⟩ := exists_object_of_ofPayload h
    obtain ⟨hkey, htype, w, hlookup, hw⟩ := ofPayload_eq_negation_iff.mp h
    exact .negation (hkey.mayHave htext) htype hlookup (ih hw)

theorem exists_ofPayload_test {o : Object} {c : Condition} (hkey : o.MayHave "key" IsText)
    (hc : c.Mirrors o) : ∃ f, ofPayload (.object o) = .ok f := by
  obtain ⟨k, hk⟩ := hkey.exists_gives (R := TextOf) fun _ ↦ id
  exact ⟨_, ofPayload_eq_test_iff.mpr ⟨hk, hc⟩⟩

theorem ValidPayload.exists_ofPayload {v : Json} (h : ValidPayload v) :
    ∃ f, ofPayload v = .ok f := by
  have htext {o : Object} {key : String} (h : o.MayHave key IsText) : ∃ x, o.Gives key TextOf x :=
    h.exists_gives fun _ ↦ id
  induction h with
  | specialized s key type terms exclude =>
    obtain ⟨t, hfield, hrest⟩ := exists_fieldTest terms exclude s.field
    have hc : (Condition.field t).Mirrors _ := ⟨.inl ⟨s, type, hfield⟩, hrest⟩
    exact exists_ofPayload_test key hc
  | field key type terms exclude field =>
    obtain ⟨v, hlookup, name, rfl⟩ := field
    obtain ⟨t, rfl, hrest⟩ := exists_fieldTest terms exclude name
    have hc : (Condition.field t).Mirrors _ := ⟨.inr ⟨type, hlookup⟩, hrest⟩
    exact exists_ofPayload_test key hc
  | @group o items key type filters items_ne_nil operands ih =>
    obtain ⟨k, hk⟩ := htext key
    obtain ⟨fs, hfs⟩ := exists_forall₂_iff.mpr ih
    have htag : ∃ op, o.lookup "type" = some (.string (groupTag op)) := by
      rcases type with htype | htype
      · exact ⟨.and, htype⟩
      · exact ⟨.or, htype⟩
    obtain ⟨op, htype⟩ := htag
    refine ⟨.group k op fs, ofPayload_eq_group_iff.mpr ⟨hk, htype, ?_, items, filters, hfs⟩⟩
    rintro rfl
    cases hfs
    exact items_ne_nil rfl
  | negation key type filter operand ih =>
    obtain ⟨k, hk⟩ := htext key
    obtain ⟨f, hf⟩ := ih
    exact ⟨.negation k f, ofPayload_eq_negation_iff.mpr ⟨hk, type, _, filter, hf⟩⟩
  | query key type query =>
    obtain ⟨v, hlookup, q, rfl⟩ := query
    have hc : (Condition.raw q).Mirrors _ := ⟨type, hlookup⟩
    exact exists_ofPayload_test key hc
  | archive key type =>
    have hc : Condition.unarchived.Mirrors _ := type
    exact exists_ofPayload_test key hc
  | absoluteDateRange key type lower upper field =>
    obtain ⟨lower, hlower⟩ := lower.exists_gives fun _ ↦ isTimestamp_iff.mp
    obtain ⟨upper, hupper⟩ := upper.exists_gives fun _ ↦ isTimestamp_iff.mp
    obtain ⟨name, hname⟩ := htext field
    have hc : (Condition.dateRange ⟨name.getD Field.dateList, lower, upper⟩).Mirrors _ :=
      ⟨type, hlower, hupper, name, hname, rfl⟩
    exact exists_ofPayload_test key hc
  | relativeDateRange key type before after field =>
    obtain ⟨before, hbefore⟩ := before.exists_gives fun _ ↦ isPeriod_iff.mp
    obtain ⟨after, hafter⟩ := after.exists_gives fun _ ↦ isPeriod_iff.mp
    obtain ⟨name, hname⟩ := htext field
    have hc : (Condition.relativeRange ⟨name.getD Field.dateList, before, after⟩).Mirrors _ :=
      ⟨type, hbefore, hafter, name, hname, rfl⟩
    exact exists_ofPayload_test key hc

/-- **The reader accepts exactly its language**, and reads each document as the filter that mirrors
it. -/
theorem reads_exactly_valid (v : Json) :
    ((∃ f, ofPayload v = .ok f) ↔ ValidPayload v) ∧ ∀ f, ofPayload v = .ok f ↔ f.Mirrors v :=
  ⟨⟨fun ⟨_, hf⟩ ↦ validPayload_of_ofPayload hf, ValidPayload.exists_ofPayload⟩,
    fun _ ↦ ofPayload_eq_ok_iff⟩

end Filter

end FacetedSearch
