import FacetedSearch.Proofs.Payload.Acceptance
import FacetedSearch.Proofs.Payload.Query
import Mathlib.Logic.Relation

/-!
# Entries that are ignored

What a reader asks an object for is settled by the kind of the object, and for tagged objects by the
tag. An entry under any other key is never looked at, and one whose value is `null` counts as not
there. So such entries can be put into the objects of a payload, or taken out of them, and neither a
value nor an error that is read from the payload shows it.

## Tables of keys

`ObjectKind.contents` lists the keys for every kind of object, each with what is under it: a value
that a single reader takes as a whole, or further objects that are visited. An edit of a payload
(`Adds`) is an entry that goes into one of the objects that are reached along these tables.

A reader is a function of what is under the keys of its table, and where there are objects it is a
function of what is read from them (`ObjectKind.readsAlike_of_alike`). With that the theorem is an
induction on the way to the object that is edited.
-/

namespace FacetedSearch

open Json

namespace Payload

/-! ## What is looked at -/

/-- The kinds of object that have keys of their own. -/
inductive ObjectKind where
  | query
  | selectQuery
  | filter
  | facet
  | sort
  | boosting
  | point
deriving DecidableEq

/-- What is under a key: a value that is taken as a whole, an object or a list of objects. -/
inductive Content where
  | value
  | object (kind : ObjectKind)
  | list (kind : ObjectKind)
deriving DecidableEq

/-- The keys that a reader asks for, each with what is under it. -/
abbrev Contents := List (String × Content)

/-- Keys with nothing but values under them. -/
def values (keys : List String) : Contents := keys.map fun key ↦ (key, .value)

end Payload

open Payload

/-- The keys of a condition. -/
def Condition.Tag.keys : Condition.Tag → List String
  | specialized _ => ["terms", "exclude"]
  | field => ["field", "terms", "exclude"]
  | raw => ["query"]
  | unarchived => []
  | dateRange => ["field", "from", "to"]
  | relativeRange => ["field", "before", "after"]

/-- The keys of a filter that depend on its tag. -/
def Filter.Tag.contents : Filter.Tag → Contents
  | test t => values t.keys
  | group _ => [("filters", .list .filter)]
  | negation => [("filter", .object .filter)]

/-- The keys of a facet that is no group. -/
def Measure.Tag.contents : Measure.Tag → Contents
  | specialized _ => values ["key", "terms"]
  | field => values ["key", "field", "terms"]
  | query => values ["key", "query"]
  | dateRange => values ["key", "field", "from", "to", "gap"]
  | relativeRange => values ["key", "field", "before", "after", "gap", "roundStart", "roundEnd"]
  | distance => ("point", .object .point) :: values ["key", "from", "to"]

/-- The keys of a facet that depend on its tag. The queries of a group are facets. -/
def Facet.Tag.contents : Facet.Tag → Contents
  | single t => t.contents
  | queryGroup => [("queries", .list .facet), ("key", .value)]

/-- The keys of a criterion that depend on its tag. -/
def SortKey.Tag.keys : SortKey.Tag → List String
  | field => ["field"]
  | date | name | natural | score | distance => []

namespace Payload

/-- The variant that an object is tagged with, if the tag is known. -/
def tag? (α : Type) [Vocabulary α] (o : Object) : Option α :=
  match o.value? "type" with
  | some (.string w) => Vocabulary.ofWord? w
  | _ => none

/-- The keys of a query. -/
def queryContents : Contents :=
  values ["text", "lang", "offset", "limit", "archive", "defaultQueryOperator", "timeZone",
      "explain"] ++
    [("sort", .list .sort), ("filter", .list .filter), ("facets", .list .facet),
      ("boosting", .object .boosting), ("distanceReferencePoint", .object .point)]

/-- The keys of an object of a kind. Without a known tag there are none but the tag. -/
def ObjectKind.contents : ObjectKind → Object → Contents
  | query, _ => queryContents
  | selectQuery, _ => ("index", .value) :: queryContents
  | filter, o => ("type", .value) ::
      (tag? Filter.Tag o).elim [] fun t ↦ ("key", .value) :: t.contents
  | facet, o => ("type", .value) ::
      (tag? Facet.Tag o).elim [] fun t ↦ ("excludeFilter", .value) :: t.contents
  | sort, o => ("type", .value) ::
      (tag? SortKey.Tag o).elim [] fun t ↦ ("direction", .value) :: values t.keys
  | boosting, _ => values ["queryFields", "phraseFields", "boostQueries", "boostFunctions", "tie"]
  | point, _ => values ["lng", "lat"]

theorem ObjectKind.nodup_contents (kind : ObjectKind) (o : Object) :
    ((kind.contents o).map Prod.fst).Nodup := by
  cases kind with
  | query | selectQuery | boosting | point => simp [contents, queryContents, values]
  | filter =>
    rw [contents]
    cases tag? Filter.Tag o with
    | none => simp
    | some t =>
      cases t with
      | test c => cases c <;> simp [Filter.Tag.contents, Condition.Tag.keys, values]
      | group | negation => simp [Filter.Tag.contents]
  | facet =>
    rw [contents]
    cases tag? Facet.Tag o with
    | none => simp
    | some t =>
      cases t with
      | single m => cases m <;> simp [Facet.Tag.contents, Measure.Tag.contents, values]
      | queryGroup => simp [Facet.Tag.contents]
  | sort =>
    rw [contents]
    cases tag? SortKey.Tag o with
    | none => simp
    | some t => cases t <;> simp [SortKey.Tag.keys, values]

/-! ## Ignored entries -/

/-- The second value is the first one with one more entry in an object that is visited. The entry
is `null` or under a key that nothing asks for. -/
inductive Adds : ObjectKind → Json → Json → Prop
  /-- The entry goes into the object itself. -/
  | entry {kind : ObjectKind} (front back : Object) {key : String} {v : Json}
      (hnew : key ∉ (front ++ back).map Prod.fst)
      (hignored : v = .null ∨ key ∉ (kind.contents (front ++ back)).map Prod.fst) :
      Adds kind (.object (front ++ back)) (.object (front ++ (key, v) :: back))
  /-- It goes into the object under a key. -/
  | part {kind inner : ObjectKind} (front back : Object) {key : String} {v w : Json}
      (hfirst : key ∉ front.map Prod.fst)
      (hkey : (key, .object inner) ∈ kind.contents (front ++ (key, v) :: back))
      (h : Adds inner v w) :
      Adds kind (.object (front ++ (key, v) :: back)) (.object (front ++ (key, w) :: back))
  /-- It goes into one of the objects under a key. -/
  | item {kind inner : ObjectKind} (front back : Object) {key : String} (vs ws : List Json)
      {v w : Json} (hfirst : key ∉ front.map Prod.fst)
      (hkey : (key, .list inner) ∈
        kind.contents (front ++ (key, .array (vs ++ v :: ws)) :: back))
      (h : Adds inner v w) :
      Adds kind (.object (front ++ (key, .array (vs ++ v :: ws)) :: back))
        (.object (front ++ (key, .array (vs ++ w :: ws)) :: back))

theorem Adds.isObject {kind : ObjectKind} {v w : Json} (h : Adds kind v w) :
    ∃ o o', v = .object o ∧ w = .object o' := by
  cases h <;> exact ⟨_, _, rfl, rfl⟩

/-! ## Reading alike -/

/-- The same is read from two values where an object of a kind is expected. -/
def ObjectKind.ReadsAlike : ObjectKind → Json → Json → Prop
  | query, v, w => ∀ d, Query.Builder.ofPayload d v = Query.Builder.ofPayload d w
  | selectQuery, v, w => ∀ d, SelectQuery.Builder.ofPayload d v = SelectQuery.Builder.ofPayload d w
  | filter, v, w => Filter.ofPayload v = Filter.ofPayload w
  | facet, v, w => Facet.ofPayload v = Facet.ofPayload w
  | sort, v, w => SortCriterion.ofPayload v = SortCriterion.ofPayload w
  | boosting, v, w => readBoosting v = readBoosting w
  | point, v, w => readPoint v = readPoint w

theorem ObjectKind.readsAlike_equivalence (kind : ObjectKind) :
    Equivalence kind.ReadsAlike where
  refl v := by cases kind <;> first | rfl | exact fun _ ↦ rfl
  symm h := by cases kind <;> first | exact Eq.symm h | exact fun d ↦ (h d).symm
  trans h h' := by cases kind <;> first | exact Eq.trans h h' | exact fun d ↦ (h d).trans (h' d)

/-- The same is read from two values under a key. -/
def Content.Alike : Content → Json → Json → Prop
  | value, v, w => v = w
  | object kind, v, w => kind.ReadsAlike v w
  | list kind, v, w => v = w ∨ ∃ vs ws, v = .array vs ∧ w = .array ws ∧
      List.Forall₂ kind.ReadsAlike vs ws

theorem Content.alike_refl (c : Content) (v : Json) : c.Alike v v := by
  cases c with
  | value => rfl
  | object kind => exact kind.readsAlike_equivalence.refl v
  | list kind => exact .inl rfl

/-! ## Asking two objects for a key -/

section Keys

variable {α : Type} {o o' : Object} {key : String} {read : Json → Reading α}

/-- Two objects both have nothing under a key, or they have values there that are related. -/
def AlikeAt (R : Json → Json → Prop) (key : String) (o o' : Object) : Prop :=
  o.value? key = none ∧ o'.value? key = none ∨
    ∃ v w, o.value? key = some v ∧ o'.value? key = some w ∧ R v w

theorem AlikeAt.imp {R S : Json → Json → Prop} (hRS : ∀ v w, R v w → S v w)
    (h : AlikeAt R key o o') : AlikeAt S key o o' :=
  h.imp_right fun ⟨v, w, hv, hw, hR⟩ ↦ ⟨v, w, hv, hw, hRS v w hR⟩

theorem alikeAt_of_value?_eq {R : Json → Json → Prop} (hR : ∀ v, R v v)
    (h : o.value? key = o'.value? key) : AlikeAt R key o o' := by
  rw [AlikeAt, h]
  cases o'.value? key with
  | none => exact .inl ⟨rfl, rfl⟩
  | some v => exact .inr ⟨v, v, rfl, rfl, hR v⟩

/-- A reader has the same answer to what is under a key of two objects. -/
abbrev AgreeAt (read : Json → Reading α) : String → Object → Object → Prop :=
  AlikeAt fun v w ↦ read v = read w

theorem AgreeAt.of_eq (h : o.value? key = o'.value? key) : AgreeAt read key o o' :=
  alikeAt_of_value?_eq (fun _ ↦ rfl) h

theorem optional_congr (h : AgreeAt read key o o') :
    optional o key read = optional o' key read := by
  rw [optional, optional]
  rcases h with ⟨hv, hw⟩ | ⟨v, w, hv, hw, hread⟩
  · rw [hv, hw]
  · simp only [hv, hw, hread]

theorem required_congr (h : AgreeAt read key o o') :
    required o key read = required o' key read := by
  rw [required, required]
  rcases h with ⟨hv, hw⟩ | ⟨v, w, hv, hw, hread⟩
  · rw [hv, hw]
  · simp only [hv, hw, hread]

theorem optionalD_congr (h : AgreeAt read key o o') (default : α) :
    optionalD o key read default = optionalD o' key read default := by
  rw [optionalD, optional_congr h, optionalD]

theorem listOf_congr (h : AgreeAt (readList read) key o o') :
    listOf o key read = listOf o' key read := by
  rw [listOf, optional_congr h, listOf]

theorem editOf_congr (h : AgreeAt read key o o') (edit : α → Query.Edit) (b : Query.Builder) :
    editOf o key read edit b = editOf o' key read edit b := by
  rw [editOf, optional_congr h, editOf]

theorem readItems_congr {vs ws : List Json} (h : List.Forall₂ (fun v w ↦ read v = read w) vs ws)
    (i : Nat) : readItems read i vs = readItems read i ws := by
  induction h generalizing i with
  | nil => rfl
  | cons hitem _ ih => rw [readItems, readItems, hitem, ih]

end Keys

/-! ## Tables of keys -/

/-- The same is read from two objects under the keys of a table. -/
def Contents.Alike (cs : Contents) (o o' : Object) : Prop :=
  ∀ e ∈ cs, AlikeAt e.2.Alike e.1 o o'

section Contents

variable {α : Type} {o o' : Object} {key : String} {read : Json → Reading α} {cs : Contents}
  {kind : ObjectKind}

theorem Contents.alike_cons {c : Content} :
    Contents.Alike ((key, c) :: cs) o o' ↔ AlikeAt c.Alike key o o' ∧ cs.Alike o o' :=
  List.forall_mem_cons

theorem value?_eq_of_alikeAt (h : AlikeAt Content.value.Alike key o o') :
    o.value? key = o'.value? key := by
  rcases h with ⟨hv, hw⟩ | ⟨v, w, hv, hw, rfl⟩
  · rw [hv, hw]
  · rw [hv, hw]

/-- Under keys for values, objects that are read alike are the same. -/
theorem Contents.Alike.value?_eq {keys : List String} (h : (values keys).Alike o o') :
    ∀ key ∈ keys, o.value? key = o'.value? key :=
  fun key hkey ↦ value?_eq_of_alikeAt (h (key, .value) (List.mem_map_of_mem hkey))

/-- Under a key for objects, they differ in nothing that a reader of such objects can tell. -/
theorem agreeAt_of_object (h : AlikeAt (Content.object kind).Alike key o o')
    (hread : ∀ v w, kind.ReadsAlike v w → read v = read w) : AgreeAt read key o o' :=
  AlikeAt.imp hread h

/-- Neither do they under a key for lists of objects. -/
theorem agreeAt_of_list (h : AlikeAt (Content.list kind).Alike key o o')
    (hread : ∀ v w, kind.ReadsAlike v w → read v = read w) :
    AgreeAt (readList read) key o o' := by
  refine AlikeAt.imp (fun v w hvw ↦ ?_) h
  rcases hvw with rfl | ⟨vs, ws, rfl, rfl, hitems⟩
  · rfl
  · exact readItems_congr (hitems.imp hread) 0

end Contents

/-! ## Objects of each kind -/

section Objects

variable {o o' : Object}

theorem readTag_congr {α : Type} [Vocabulary α] (family : Family)
    (h : o.value? "type" = o'.value? "type") :
    (readTag family o : Reading α) = readTag family o' := by
  rw [readTag, h, readTag]

theorem tag?_of_readTag {α : Type} [Vocabulary α] {family : Family} {a : α}
    (h : readTag family o = .ok a) : tag? α o = some a := by
  have hvalue : o.value? "type" = some (.string (Vocabulary.word a)) :=
    Object.value?_eq_some_iff.mpr ⟨readTag_eq_ok_iff.mp h, nofun⟩
  rw [tag?, hvalue]
  exact Vocabulary.ofWord?_word a

/-- A tagged object is read alike if it is once the tag is known. The table behind the tag then is
the one that the tag has. -/
theorem tagged_congr {α β : Type} [Vocabulary α] {family : Family} {table : α → Contents}
    {k k' : α → Reading β}
    (h : Contents.Alike (("type", .value) :: (tag? α o).elim [] table) o o')
    (hk : ∀ a, (table a).Alike o o' → k a = k' a) :
    readTag family o >>= k = readTag family o' >>= k' := by
  obtain ⟨htype, htable⟩ := Contents.alike_cons.mp h
  rw [← readTag_congr family (value?_eq_of_alikeAt htype)]
  cases htag : (readTag family o : Reading α) with
  | error e => rfl
  | ok a =>
    rw [tag?_of_readTag htag] at htable
    exact hk a htable

theorem readPoint_congr (h : (ObjectKind.point.contents o).Alike o o') :
    readPoint (.object o) = readPoint (.object o') := by
  have hvalues := h.value?_eq
  rw [readPoint, readObject, required_congr (.of_eq (hvalues "lng" (by decide))),
    required_congr (.of_eq (hvalues "lat" (by decide))), readObject]

theorem readBoosting_congr (h : (ObjectKind.boosting.contents o).Alike o o') :
    readBoosting (.object o) = readBoosting (.object o') := by
  have hvalues := h.value?_eq
  rw [readBoosting, readObject, listOf_congr (.of_eq (hvalues "queryFields" (by decide))),
    listOf_congr (.of_eq (hvalues "phraseFields" (by decide))),
    listOf_congr (.of_eq (hvalues "boostQueries" (by decide))),
    listOf_congr (.of_eq (hvalues "boostFunctions" (by decide))),
    optionalD_congr (.of_eq (hvalues "tie" (by decide))), readObject]

theorem readRangeField_congr (h : o.value? "field" = o'.value? "field") :
    readRangeField o = readRangeField o' := by
  rw [readRangeField, optionalD_congr (.of_eq h), readRangeField]

theorem readFieldTest_congr (hterms : o.value? "terms" = o'.value? "terms")
    (hexclude : o.value? "exclude" = o'.value? "exclude") (field : String) :
    readFieldTest o field = readFieldTest o' field := by
  rw [readFieldTest, required_congr (.of_eq hterms), optionalD_congr (.of_eq hexclude),
    readFieldTest]

theorem readCondition_congr {t : Condition.Tag}
    (h : ∀ key ∈ t.keys, o.value? key = o'.value? key) :
    readCondition o t = readCondition o' t := by
  cases t with
  | specialized s =>
    simp only [Condition.Tag.keys, List.forall_mem_cons] at h
    obtain ⟨hterms, hexclude, -⟩ := h
    rw [readCondition, readFieldTest_congr hterms hexclude, readCondition]
  | field =>
    simp only [Condition.Tag.keys, List.forall_mem_cons] at h
    obtain ⟨hfield, hterms, hexclude, -⟩ := h
    simp only [readCondition, required_congr (.of_eq hfield),
      readFieldTest_congr hterms hexclude]
  | raw => rw [readCondition, required_congr (.of_eq (h "query" (by decide))), readCondition]
  | unarchived => rfl
  | dateRange =>
    simp only [Condition.Tag.keys, List.forall_mem_cons] at h
    obtain ⟨hfield, hfrom, hto, -⟩ := h
    rw [readCondition, optional_congr (.of_eq hfrom), optional_congr (.of_eq hto),
      readRangeField_congr hfield, readCondition]
  | relativeRange =>
    simp only [Condition.Tag.keys, List.forall_mem_cons] at h
    obtain ⟨hfield, hbefore, hafter, -⟩ := h
    rw [readCondition, optional_congr (.of_eq hbefore), optional_congr (.of_eq hafter),
      readRangeField_congr hfield, readCondition]

theorem filter_readNode_congr {t : Filter.Tag} (h : t.contents.Alike o o') :
    Filter.readNode o t = Filter.readNode o' t := by
  cases t with
  | test t => rw [Filter.readNode, readCondition_congr h.value?_eq, Filter.readNode]
  | group op =>
    have hfilters := agreeAt_of_list (h _ List.mem_cons_self) fun _ _ ↦ id
    rw [Filter.readNode, required_congr hfilters, Filter.readNode]
  | negation =>
    have hfilter := agreeAt_of_object (h _ List.mem_cons_self) fun _ _ ↦ id
    rw [Filter.readNode, required_congr hfilter, Filter.readNode]

theorem filter_ofPayload_congr (h : (ObjectKind.filter.contents o).Alike o o') :
    Filter.ofPayload (.object o) = Filter.ofPayload (.object o') := by
  rw [Filter.ofPayload_eq_readNode, Filter.ofPayload_eq_readNode]
  refine tagged_congr h fun t ht ↦ ?_
  obtain ⟨hkey, ht⟩ := Contents.alike_cons.mp ht
  rw [filter_readNode_congr ht, optional_congr (.of_eq (value?_eq_of_alikeAt hkey))]

theorem readFieldCount_congr (hkey : o.value? "key" = o'.value? "key")
    (hterms : o.value? "terms" = o'.value? "terms") (field : String) :
    readFieldCount o field = readFieldCount o' field := by
  rw [readFieldCount, required_congr (.of_eq hkey), listOf_congr (.of_eq hterms), readFieldCount]

theorem readSingle_congr {t : Measure.Tag} (h : t.contents.Alike o o') :
    readSingle o t = readSingle o' t := by
  -- a reader asks under the keys of its table only, and looks into none but the point
  cases t with
  | specialized s =>
    have hvalues := h.value?_eq
    rw [readSingle, readFieldCount_congr (hvalues "key" (by decide)) (hvalues "terms" (by decide)),
      readSingle]
  | field =>
    have hvalues := h.value?_eq
    simp only [readSingle, required_congr (.of_eq (hvalues "field" (by decide))),
      readFieldCount_congr (hvalues "key" (by decide)) (hvalues "terms" (by decide))]
  | query =>
    have hvalues := h.value?_eq
    rw [readSingle, required_congr (.of_eq (hvalues "key" (by decide))),
      required_congr (.of_eq (hvalues "query" (by decide))), readSingle]
  | dateRange =>
    have hvalues := h.value?_eq
    rw [readSingle, required_congr (.of_eq (hvalues "key" (by decide))),
      optional_congr (.of_eq (hvalues "from" (by decide))),
      optional_congr (.of_eq (hvalues "to" (by decide))),
      optional_congr (.of_eq (hvalues "gap" (by decide))),
      readRangeField_congr (hvalues "field" (by decide)), readSingle]
  | relativeRange =>
    have hvalues := h.value?_eq
    rw [readSingle, required_congr (.of_eq (hvalues "key" (by decide))),
      optional_congr (.of_eq (hvalues "before" (by decide))),
      optional_congr (.of_eq (hvalues "after" (by decide))),
      optional_congr (.of_eq (hvalues "gap" (by decide))),
      optionalD_congr (.of_eq (hvalues "roundStart" (by decide))),
      optionalD_congr (.of_eq (hvalues "roundEnd" (by decide))),
      readRangeField_congr (hvalues "field" (by decide)), readSingle]
  | distance =>
    obtain ⟨hpoint, hvalues⟩ := Contents.alike_cons.mp h
    have hvalues := Contents.Alike.value?_eq hvalues
    rw [readSingle, required_congr (agreeAt_of_object hpoint fun _ _ ↦ id),
      required_congr (.of_eq (hvalues "key" (by decide))),
      required_congr (.of_eq (hvalues "from" (by decide))),
      required_congr (.of_eq (hvalues "to" (by decide))), readSingle]

theorem facet_readNode_congr {t : Facet.Tag} (h : t.contents.Alike o o') :
    Facet.readNode o t = Facet.readNode o' t := by
  cases t with
  | single t => exact readSingle_congr h
  | queryGroup =>
    obtain ⟨hqueries, hkey⟩ := Contents.alike_cons.mp h
    obtain ⟨hkey, -⟩ := Contents.alike_cons.mp hkey
    have hqueries : AgreeAt (readList Facet.readQuery) "queries" o o' :=
      agreeAt_of_list hqueries fun v w (hvw : Facet.ofPayload v = Facet.ofPayload w) ↦ by
        rw [Facet.readQuery, hvw, Facet.readQuery]
    rw [Facet.readNode, required_congr hqueries,
      required_congr (.of_eq (value?_eq_of_alikeAt hkey)), Facet.readNode]

theorem facet_ofPayload_congr (h : (ObjectKind.facet.contents o).Alike o o') :
    Facet.ofPayload (.object o) = Facet.ofPayload (.object o') := by
  rw [Facet.ofPayload_eq_readNode, Facet.ofPayload_eq_readNode]
  refine tagged_congr h fun t ht ↦ ?_
  obtain ⟨hexclude, ht⟩ := Contents.alike_cons.mp ht
  rw [facet_readNode_congr ht, optional_congr (.of_eq (value?_eq_of_alikeAt hexclude))]

theorem readSortKey_congr {t : SortKey.Tag} (h : ∀ key ∈ t.keys, o.value? key = o'.value? key) :
    readSortKey o t = readSortKey o' t := by
  cases t with
  | field => rw [readSortKey, required_congr (.of_eq (h "field" (by decide))), readSortKey]
  | _ => rfl

theorem sort_ofPayload_congr (h : (ObjectKind.sort.contents o).Alike o o') :
    SortCriterion.ofPayload (.object o) = SortCriterion.ofPayload (.object o') := by
  rw [SortCriterion.ofPayload, readObject, readObject]
  refine tagged_congr h fun t ht ↦ ?_
  obtain ⟨hdirection, ht⟩ := Contents.alike_cons.mp ht
  rw [readSortKey_congr ht.value?_eq,
    optionalD_congr (.of_eq (value?_eq_of_alikeAt hdirection))]

theorem readEdits_congr (h : queryContents.Alike o o') (b : Query.Builder) :
    readEdits o b = readEdits o' b := by
  obtain ⟨hvalues, hparts⟩ := List.forall_mem_append.mp h
  have hvalues := Contents.Alike.value?_eq hvalues
  obtain ⟨hsort, hparts⟩ := Contents.alike_cons.mp hparts
  obtain ⟨hfilter, hparts⟩ := Contents.alike_cons.mp hparts
  obtain ⟨hfacets, hparts⟩ := Contents.alike_cons.mp hparts
  obtain ⟨hboosting, hparts⟩ := Contents.alike_cons.mp hparts
  obtain ⟨hpoint, -⟩ := Contents.alike_cons.mp hparts
  simp only [readEdits, editOf_congr (.of_eq (hvalues "text" (by decide))),
    editOf_congr (.of_eq (hvalues "lang" (by decide))),
    editOf_congr (.of_eq (hvalues "offset" (by decide))),
    editOf_congr (.of_eq (hvalues "limit" (by decide))),
    listOf_congr (agreeAt_of_list hsort fun _ _ ↦ id),
    listOf_congr (agreeAt_of_list hfilter fun _ _ ↦ id),
    listOf_congr (agreeAt_of_list hfacets fun _ _ ↦ id),
    editOf_congr (.of_eq (hvalues "archive" (by decide))),
    editOf_congr (.of_eq (hvalues "defaultQueryOperator" (by decide))),
    editOf_congr (.of_eq (hvalues "timeZone" (by decide))),
    editOf_congr (agreeAt_of_object hboosting fun _ _ ↦ id),
    editOf_congr (agreeAt_of_object hpoint fun _ _ ↦ id),
    editOf_congr (.of_eq (hvalues "explain" (by decide)))]

/-- An object is read from what is under the keys of its table. -/
theorem ObjectKind.readsAlike_of_alike {kind : ObjectKind} (h : (kind.contents o).Alike o o') :
    kind.ReadsAlike (.object o) (.object o') := by
  cases kind with
  | query => exact fun d ↦ readEdits_congr h (.new d)
  | selectQuery =>
    intro d
    obtain ⟨hindex, hquery⟩ := Contents.alike_cons.mp h
    rw [SelectQuery.Builder.ofPayload, readObject,
      optional_congr (.of_eq (value?_eq_of_alikeAt hindex)), readEdits_congr hquery, readObject]
  | filter => exact filter_ofPayload_congr h
  | facet => exact facet_ofPayload_congr h
  | sort => exact sort_ofPayload_congr h
  | boosting => exact readBoosting_congr h
  | point => exact readPoint_congr h

end Objects

/-! ## Edits do not show -/

section Adds

variable {kind inner : ObjectKind} {front back : Object} {key : String} {v w : Json}

theorem value?_append_cons_of_ne {key' : String} (h : key' ≠ key) :
    Object.value? (front ++ (key, v) :: back) key' = Object.value? (front ++ back) key' := by
  induction front with
  | nil => exact Object.value?_cons_of_ne v back h
  | cons e front ih =>
    rw [List.cons_append, List.cons_append, Object.value?_cons, Object.value?_cons, ih]

theorem value?_append_cons_self (h : key ∉ front.map Prod.fst) :
    Object.value? (front ++ (key, v) :: back) key = v.present? := by
  rw [Object.value?_append_of_notMem_left h, Object.value?_cons, if_pos rfl]

/-- Where there was nothing, a `null` is nothing, too. -/
theorem alike_insert {cs : Contents} (hnew : key ∉ (front ++ back).map Prod.fst)
    (hignored : v = .null ∨ key ∉ cs.map Prod.fst) :
    cs.Alike (front ++ back) (front ++ (key, v) :: back) := by
  intro e he
  refine alikeAt_of_value?_eq e.2.alike_refl ?_
  by_cases hkey : e.1 = key
  · obtain rfl : v = .null := hignored.resolve_right fun hnot ↦
      hnot (hkey ▸ List.mem_map_of_mem he)
    have hfront : key ∉ front.map Prod.fst := fun hmem ↦
      hnew (by rw [List.map_append]; exact List.mem_append_left _ hmem)
    rw [hkey, Object.value?_eq_none_of_notMem hnew, value?_append_cons_self hfront]
    rfl
  · rw [value?_append_cons_of_ne hkey]

/-- A change under a key shows under no other key. -/
theorem alike_replace {cs : Contents} {c : Content} (hcs : (cs.map Prod.fst).Nodup)
    (hkey : (key, c) ∈ cs) (hfirst : key ∉ front.map Prod.fst) (hv : v.present? = some v)
    (hw : w.present? = some w) (h : c.Alike v w) :
    cs.Alike (front ++ (key, v) :: back) (front ++ (key, w) :: back) := by
  intro e he
  by_cases hek : e.1 = key
  · obtain rfl : e = (key, c) := List.inj_on_of_nodup_map hcs he hkey hek
    exact .inr ⟨v, w, by rw [value?_append_cons_self hfirst, hv],
      by rw [value?_append_cons_self hfirst, hw], h⟩
  · refine alikeAt_of_value?_eq e.2.alike_refl ?_
    rw [value?_append_cons_of_ne hek, value?_append_cons_of_ne hek]

/-- One more entry that is ignored changes nothing, by induction on the way to its object. -/
theorem Adds.readsAlike (h : Adds kind v w) : kind.ReadsAlike v w := by
  induction h with
  | entry front back hnew hignored =>
    exact ObjectKind.readsAlike_of_alike (alike_insert hnew hignored)
  | part front back hfirst hkey h ih =>
    obtain ⟨o, o', rfl, rfl⟩ := h.isObject
    exact ObjectKind.readsAlike_of_alike
      (alike_replace (ObjectKind.nodup_contents _ _) hkey hfirst rfl rfl ih)
  | @item _ inner front back _ vs ws v w hfirst hkey h ih =>
    have hrefl (us : List Json) : List.Forall₂ inner.ReadsAlike us us :=
      List.forall₂_same.mpr fun u _ ↦ inner.readsAlike_equivalence.refl u
    have hitems : List.Forall₂ inner.ReadsAlike (vs ++ v :: ws) (vs ++ w :: ws) :=
      List.rel_append (hrefl vs) (.cons ih (hrefl ws))
    exact ObjectKind.readsAlike_of_alike (alike_replace (ObjectKind.nodup_contents _ _) hkey hfirst
      rfl rfl (.inr ⟨_, _, rfl, rfl, hitems⟩))

/-- Neither do any number of entries that are put in and taken out. -/
theorem readsAlike_of_eqvGen (h : Relation.EqvGen (Adds kind) v w) : kind.ReadsAlike v w :=
  (kind.readsAlike_equivalence.eqvGen_iff).mp (h.mono fun _ _ ↦ Adds.readsAlike)

end Adds

/-- **Entries that nothing asks for are invisible.** Entries that are `null` or under a key that is
not read can be put into the objects of a payload, and taken out of them, at any depth: what is read
from the payload is the same, or it is refused with the same error at the same place. -/
theorem ignored_entries_invisible :
    (∀ v w, Relation.EqvGen (Adds .filter) v w → Filter.ofPayload v = Filter.ofPayload w) ∧
    (∀ v w, Relation.EqvGen (Adds .facet) v w → Facet.ofPayload v = Facet.ofPayload w) ∧
    (∀ v w, Relation.EqvGen (Adds .sort) v w →
      SortCriterion.ofPayload v = SortCriterion.ofPayload w) ∧
    (∀ d v w, Relation.EqvGen (Adds .query) v w →
      Query.Builder.ofPayload d v = Query.Builder.ofPayload d w) ∧
    ∀ d v w, Relation.EqvGen (Adds .selectQuery) v w →
      SelectQuery.Builder.ofPayload d v = SelectQuery.Builder.ofPayload d w :=
  ⟨fun _ _ ↦ readsAlike_of_eqvGen, fun _ _ ↦ readsAlike_of_eqvGen, fun _ _ ↦ readsAlike_of_eqvGen,
    fun d _ _ h ↦ readsAlike_of_eqvGen h d, fun d _ _ h ↦ readsAlike_of_eqvGen h d⟩

/-- A query of a group that lacks its text is blamed for this also if it has a `null` there, and
whatever stands beside it in the group. A point may have a height. -/
theorem ignored_entries_invisible_group :
    let query : Object := [("type", .string "query"), ("key", .string "a")]
    let group (query : Object) : Object := [("type", .string "multiQuery"), ("key", .string "g"),
      ("queries", .array [.object query])]
    let point : Object := [("lng", .string "8.5"), ("lat", .string "50")]
    let located (point : Object) : Json := .object [("distanceReferencePoint", .object point)]
    Facet.ofPayload (.object (group query ++ [("terms", .string "b")])) =
      Facet.ofPayload (.object (group (query ++ [("query", .null)]))) ∧
    Facet.ofPayload (.object (group (query ++ [("query", .null)]))) =
      .error (.malformed [.key "queries", .index 0, .key "query"] .missing) ∧
    ∀ d, Query.Builder.ofPayload d (located point) =
      Query.Builder.ofPayload d (located (("height", .string "high") :: point)) := by
  intro query group point located
  have hterms : Adds .facet (.object (group query))
      (.object (group query ++ [("terms", .string "b")])) :=
    .entry (group query) [] (by decide) (.inr (by decide))
  have hquery : Adds .facet (.object query) (.object (query ++ [("query", .null)])) :=
    .entry query [] (by decide) (.inl rfl)
  have hgroup : Adds .facet (.object (group query))
      (.object (group (query ++ [("query", .null)]))) :=
    .item [("type", .string "multiQuery"), ("key", .string "g")] [] [] [] (by decide) (by decide)
      hquery
  have hpoint : Adds .point (.object point) (.object (("height", .string "high") :: point)) :=
    .entry [] point (by decide) (.inr (by decide))
  have hlocated : Adds .query (located point) (located (("height", .string "high") :: point)) :=
    .part [] [] (by decide) (by decide) hpoint
  exact ⟨ignored_entries_invisible.2.1 _ _ (.trans _ _ _ (.symm _ _ (.rel _ _ hterms))
    (.rel _ _ hgroup)), rfl, fun d ↦ ignored_entries_invisible.2.2.2.1 d _ _ (.rel _ _ hlocated)⟩

end Payload

end FacetedSearch
