import FacetedSearch.Proofs.Query.Batches
import FacetedSearch.Proofs.Query.Independence

/-!
# Keys that are left out

A payload has a key for each setter of a builder, and the value under the key becomes one edit
through that setter. So what a key does is confined to the part of its setter: if a payload is read,
then the same payload without the key is read as well, into a builder that has the defaults in that
part and agrees in all others.

## Two readings side by side

The reader is compared with one that goes through the setters and makes the edit of each in turn,
`readParts`. The two differ in which of several faults they report, because lists are read before
anything is added, but they accept the same payloads and read them alike
(`readEdits_eq_ok_iff`). What is left is an induction along the setters, with the two builders as
its state: they agree but for one part, and in the builder of the shorter payload this part is still
what it was in the beginning.
-/

namespace FacetedSearch

open Json
open Payload

/-! ## Objects without a key -/

namespace Json.Object

/-- The entries under other keys. -/
def without (o : Object) (key : String) : Object := o.filter fun e ↦ e.1 ≠ key

theorem value?_without_self (o : Object) (key : String) : (o.without key).value? key = none := by
  have hkey : key ∉ (o.without key).map Prod.fst := by
    rw [List.mem_map]
    rintro ⟨e, he, rfl⟩
    simpa using (List.mem_filter.mp he).2
  exact value?_eq_none_of_notMem hkey

theorem value?_without_of_ne {key key' : String} (h : key' ≠ key) (o : Object) :
    (o.without key).value? key' = o.value? key' := by
  induction o with
  | nil => rfl
  | cons e o ih =>
    obtain ⟨k, v⟩ := e
    rw [without, List.filter_cons]
    split
    · rw [value?_cons, value?_cons, ← without, ih]
    · next hk =>
      obtain rfl : k = key := by simpa using hk
      rw [← without, ih, value?_cons, if_neg h]

end Json.Object

namespace Query

/-! ## Setters and their keys -/

/-- The key of a setter is the word for it in payloads. The setters are in the order in which their
edits are made. -/
instance : Vocabulary Setter where
  values := [.text, .language, .offset, .limit, .sort, .filter, .facet, .archive, .operator,
    .timeZone, .boosting, .referencePoint, .explain]
  word
    | .text => "text"
    | .language => "lang"
    | .offset => "offset"
    | .limit => "limit"
    | .sort => "sort"
    | .filter => "filter"
    | .facet => "facets"
    | .archive => "archive"
    | .operator => "defaultQueryOperator"
    | .timeZone => "timeZone"
    | .boosting => "boosting"
    | .referencePoint => "distanceReferencePoint"
    | .explain => "explain"
  find?_word s := by cases s <;> rfl

namespace Setter

/-- The key under which payloads give the part of a setter. -/
def key (s : Setter) : String := Vocabulary.word s

theorem key_injective : Function.Injective key := by
  intro s t h
  have hs := Vocabulary.ofWord?_word s
  rw [← key, h, key, Vocabulary.ofWord?_word] at hs
  exact (Option.some.inj hs).symm

/-- The edit that a value under the key of a setter stands for. -/
def readEdit : Setter → Json → Reading Edit
  | text, v => .text <$> readText v
  | language, v => .language <$> readLanguage v
  | offset, v => .offset <$> readInteger v
  | limit, v => .limit <$> readInteger v
  | sort, v => .sort <$> readList SortCriterion.ofPayload v
  | filter, v => .filter <$> readList Filter.ofPayload v
  | facet, v => .facet <$> readList Facet.ofPayload v
  | archive, v => .archive <$> readBool v
  | operator, v => .operator <$> readWord v
  | timeZone, v => .timeZone <$> readText v
  | boosting, v => .boosting <$> readBoosting v
  | referencePoint, v => .referencePoint <$> readPoint v
  | explain, v => .explain <$> readBool v

/-- The setters of the phrase and the page. -/
def forPage : List Setter := [.text, .language, .offset, .limit]

/-- The setters of lists. -/
def forLists : List Setter := [.sort, .filter, .facet]

/-- All other setters. -/
def forSettings : List Setter :=
  [.archive, .operator, .timeZone, .boosting, .referencePoint, .explain]

theorem values_eq :
    (Vocabulary.values : List Setter) = forPage ++ (forLists ++ forSettings) := rfl

theorem setter_of_readEdit {s : Setter} {v : Json} {e : Edit} (h : s.readEdit v = .ok e) :
    e.setter = s := by
  cases s <;> obtain ⟨a, -, rfl⟩ := map_eq_ok_iff.mp h <;> rfl

end Setter

namespace Builder

variable {o : Object} {b b' c : Builder} {s t : Setter}

/-! ## One setter after the other -/

/-- The edit for a setter, if the object has the key. -/
def readPart (o : Object) (b : Builder) (s : Setter) : Reading Builder :=
  editOf o s.key s.readEdit id b

/-- The edits for some setters, in order. -/
def readParts (o : Object) (b : Builder) (ss : List Setter) : Reading Builder :=
  ss.foldlM (readPart o) b

theorem editOf_eq_readPart {α : Type} {read : Json → Reading α} {edit : α → Edit}
    (h : s.readEdit = fun v ↦ edit <$> read v) (o : Object) (b : Builder) :
    editOf o s.key read edit b = readPart o b s := by
  rw [readPart, h, editOf, editOf, Payload.optional, Payload.optional]
  cases o.value? s.key with
  | none => rfl
  | some v =>
    dsimp only
    cases read v <;> rfl

theorem readPage_eq (o : Object) (b : Builder) :
    readPage o b = readParts o b Setter.forPage := by
  simp only [readParts, Setter.forPage, List.foldlM_cons, List.foldlM_nil, bind_pure,
    ← editOf_eq_readPart (s := .text) rfl, ← editOf_eq_readPart (s := .language) rfl,
    ← editOf_eq_readPart (s := .offset) rfl, ← editOf_eq_readPart (s := .limit) rfl]
  rfl

theorem readSettings_eq (o : Object) (b : Builder) :
    readSettings o b = readParts o b Setter.forSettings := by
  simp only [readParts, Setter.forSettings, List.foldlM_cons, List.foldlM_nil, bind_pure,
    ← editOf_eq_readPart (s := .archive) rfl, ← editOf_eq_readPart (s := .operator) rfl,
    ← editOf_eq_readPart (s := .timeZone) rfl, ← editOf_eq_readPart (s := .boosting) rfl,
    ← editOf_eq_readPart (s := .referencePoint) rfl, ← editOf_eq_readPart (s := .explain) rfl]
  rfl

/-- An absent list is an empty one, and an empty one changes nothing. -/
theorem readPart_list_eq_ok_iff {α : Type} {read : Json → Reading α} {edit : List α → Edit}
    (hedit : Divides edit) (h : s.readEdit = fun v ↦ edit <$> readList read v) :
    readPart o b s = .ok b' ↔
      ∃ as, listOf o s.key read = .ok as ∧ b.apply (edit as) = .ok b' := by
  rw [← editOf_eq_readPart h, editOf, listOf]
  simp only [bind_eq_ok_iff, pure_eq_ok_iff]
  constructor
  · rintro ⟨_ | as, hread, hb'⟩
    · obtain rfl := pure_eq_ok_iff.mp hb'
      exact ⟨[], ⟨none, hread, rfl⟩, hedit.apply_nil b⟩
    · exact ⟨as, ⟨some as, hread, rfl⟩, checked_eq_ok_iff.mp hb'⟩
  · rintro ⟨_, ⟨_ | as, hread, rfl⟩, hb'⟩
    · obtain rfl := Except.ok.inj ((hedit.apply_nil b).symm.trans hb')
      exact ⟨none, hread, rfl⟩
    · exact ⟨some as, hread, checked_eq_ok_iff.mpr hb'⟩

theorem readLists_eq_ok_iff :
    readLists o b = .ok b' ↔ readParts o b Setter.forLists = .ok b' := by
  simp only [readLists, readParts, Setter.forLists, List.foldlM_cons, List.foldlM_nil, bind_pure,
    bind_eq_ok_iff, checked_eq_ok_iff, readPart_list_eq_ok_iff (s := .sort) divides_sort rfl,
    readPart_list_eq_ok_iff (s := .filter) divides_filter rfl,
    readPart_list_eq_ok_iff (s := .facet) divides_facet rfl]
  constructor
  · rintro ⟨cs, hcs, fs, hfs, gs, hgs, b₁, hsort, b₂, hfilter, hfacet⟩
    exact ⟨b₁, ⟨cs, hcs, hsort⟩, b₂, ⟨fs, hfs, hfilter⟩, gs, hgs, hfacet⟩
  · rintro ⟨b₁, ⟨cs, hcs, hsort⟩, b₂, ⟨fs, hfs, hfilter⟩, gs, hgs, hfacet⟩
    exact ⟨cs, hcs, fs, hfs, gs, hgs, b₁, hsort, b₂, hfilter, hfacet⟩

theorem readParts_append (ss ts : List Setter) :
    readParts o b (ss ++ ts) = readParts o b ss >>= fun b' ↦ readParts o b' ts := by
  simp only [readParts, List.foldlM_append]

theorem readEdits_eq_ok_iff :
    readEdits o b = .ok b' ↔ readParts o b Vocabulary.values = .ok b' := by
  simp only [readEdits_eq, Setter.values_eq, readParts_append, ← readPage_eq, ← readSettings_eq,
    bind_eq_ok_iff, readLists_eq_ok_iff]

/-! ## Agreement but for one part -/

/-- What the step for a setter does: nothing without its key, and otherwise one edit through it. -/
theorem readPart_eq_ok_iff : readPart o b s = .ok b' ↔
    o.value? s.key = none ∧ b' = b ∨
      ∃ v e, o.value? s.key = some v ∧ s.readEdit v = .ok e ∧ b.apply e = .ok b' := by
  rw [readPart, editOf, Payload.optional]
  cases o.value? s.key with
  | none =>
    simp only [ok_bind, pure_eq_ok_iff]
    simp [eq_comm]
  | some v =>
    simp only [bind_eq_ok_iff, map_eq_ok_iff, within_eq_ok_iff]
    constructor
    · rintro ⟨_, ⟨e, he, rfl⟩, hb'⟩
      exact .inr ⟨v, e, rfl, he, checked_eq_ok_iff.mp hb'⟩
    · rintro (⟨⟨⟩, -⟩ | ⟨_, e, ⟨⟩, he, hb'⟩)
      exact ⟨some e, ⟨e, he, rfl⟩, checked_eq_ok_iff.mpr hb'⟩

/-- An edit that is accepted by one builder is accepted by every builder with the same part for its
setter, and does the same to it. -/
theorem exists_apply_of_part {e : Edit} (h : b.part e.setter = c.part e.setter)
    (hb : b.apply e = .ok b') :
    ∃ c', c.apply e = .ok c' ∧ c'.part e.setter = b'.part e.setter := by
  have hmap := map_part_apply h
  rw [hb] at hmap
  cases hc : c.apply e with
  | ok c' =>
    rw [hc] at hmap
    exact ⟨c', rfl, (Except.ok.inj hmap).symm⟩
  | error v =>
    rw [hc] at hmap
    cases hmap

/-- The builders have the same parts but for that of a setter. -/
def AgreeBut (s : Setter) (b c : Builder) : Prop := ∀ t, t ≠ s → b.part t = c.part t

/-- One step with the payload and with the payload without a key. -/
theorem readPart_without (hbc : AgreeBut s b c) (h : readPart o b t = .ok b') :
    ∃ c', readPart (o.without s.key) c t = .ok c' ∧ AgreeBut s b' c' ∧
      c'.part s = c.part s := by
  by_cases hts : t = s
  · -- the key is gone, and the edit that it stood for shows in no other part
    subst hts
    refine ⟨c, readPart_eq_ok_iff.mpr (.inl ⟨Object.value?_without_self o _, rfl⟩), ?_, rfl⟩
    intro u hu
    rcases readPart_eq_ok_iff.mp h with ⟨-, rfl⟩ | ⟨v, e, -, he, hb'⟩
    · exact hbc u hu
    · rw [part_apply_of_ne hb' (Setter.setter_of_readEdit he ▸ hu), hbc u hu]
  · have hvalue : (o.without s.key).value? t.key = o.value? t.key :=
      Object.value?_without_of_ne (fun hkey ↦ hts (Setter.key_injective hkey)) o
    rcases readPart_eq_ok_iff.mp h with ⟨hnone, rfl⟩ | ⟨v, e, hv, he, hb'⟩
    · exact ⟨c, readPart_eq_ok_iff.mpr (.inl ⟨hvalue.trans hnone, rfl⟩), hbc, rfl⟩
    · obtain rfl := Setter.setter_of_readEdit he
      -- whether the edit is accepted depends on a part that both builders share
      obtain ⟨c', hc', hpart⟩ := exists_apply_of_part (hbc _ hts) hb'
      refine ⟨c', readPart_eq_ok_iff.mpr (.inr ⟨v, e, hvalue.trans hv, he, hc'⟩), fun u hu ↦ ?_,
        part_apply_of_ne hc' (Ne.symm hts)⟩
      by_cases hue : u = e.setter
      · rw [hue, hpart]
      · rw [part_apply_of_ne hb' hue, part_apply_of_ne hc' hue, hbc u hu]

theorem readParts_without {ss : List Setter} (hbc : AgreeBut s b c)
    (h : readParts o b ss = .ok b') :
    ∃ c', readParts (o.without s.key) c ss = .ok c' ∧ AgreeBut s b' c' ∧
      c'.part s = c.part s := by
  induction ss generalizing b c with
  | nil =>
    cases h
    exact ⟨c, rfl, hbc, rfl⟩
  | cons t ss ih =>
    obtain ⟨b₁, hb₁, h⟩ := bind_eq_ok_iff.mp h
    obtain ⟨c₁, hc₁, hagree, hpart⟩ := readPart_without hbc hb₁
    obtain ⟨c', hc', hagree', hpart'⟩ := ih hagree h
    exact ⟨c', bind_eq_ok_iff.mpr ⟨c₁, hc₁, hc'⟩, hagree', hpart'.trans hpart⟩

/-- **A key only sets its own part.** If a payload is read, so is the payload without the key of a
setter. The part of that setter then is the default, and all other parts are the same. -/
theorem omitted_key_leaves_default (d : Defaults) {o : Object} {b : Builder}
    (h : ofPayload d (.object o) = .ok b) (s : Setter) :
    ∃ b', ofPayload d (.object (o.without s.key)) = .ok b' ∧
      (∀ t, t ≠ s → b'.part t = b.part t) ∧ b'.part s = (new d).part s := by
  have hagree : AgreeBut s (new d) (new d) := fun _ _ ↦ rfl
  obtain ⟨b', hb', hothers, hown⟩ := readParts_without hagree (readEdits_eq_ok_iff.mp h)
  exact ⟨b', readEdits_eq_ok_iff.mpr hb', fun t ht ↦ (hothers t ht).symm, hown⟩

/-- A facet stays without the filter that it excludes, and a limit that is left out is the
default. -/
theorem omitted_key_leaves_default_sites :
    let d : Defaults := { limit := 25, timeZone := some "UTC" }
    let o : Object :=
      [("filter", .array [.object [("type", .string "archive"), ("key", .string "site")]]),
        ("facets", .array [.object [("type", .string "query"), ("key", .string "cats"),
          ("query", .string "a:b"), ("excludeFilter", .string "site")]]),
        ("limit", .string " 5 "), ("timeZone", .string "CET")]
    ∃ b, ofPayload d (.object o) = .ok b ∧
      (∃ b', ofPayload d (.object (o.without "filter")) = .ok b' ∧
        b'.part .facet = b.part .facet ∧ b'.part .filter = ([], [])) ∧
      ∃ b', ofPayload d (.object (o.without "limit")) = .ok b' ∧
        b'.part .timeZone = some "CET" ∧ b'.part .limit = (25 : UInt64) := by
  intro d o
  have hread : (fun b : Builder ↦ b.draft.timeZone) <$> ofPayload d (.object o) =
      .ok (some "CET") := by decide
  obtain ⟨b, hb, hzone⟩ := map_eq_ok_iff.mp hread
  obtain ⟨b₁, hb₁, hothers₁, hown₁⟩ := omitted_key_leaves_default d hb .filter
  obtain ⟨b₂, hb₂, hothers₂, hown₂⟩ := omitted_key_leaves_default d hb .limit
  exact ⟨b, hb, ⟨b₁, hb₁, hothers₁ .facet Setter.noConfusion, hown₁⟩,
    b₂, hb₂, (hothers₂ .timeZone Setter.noConfusion).trans hzone, hown₂⟩

end Builder

end Query

end FacetedSearch
