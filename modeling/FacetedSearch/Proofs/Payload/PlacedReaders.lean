import FacetedSearch.Proofs.Payload.Placed

/-!
# Filters, facets and sort criteria at a place

The readers of `Placed` put together as the relative ones are. Each part agrees with its relative
counterpart because what it is made of does, so that the proofs are the definitions over again. Only
the operands of filters and the queries of groups call for an induction, which follows the three
functions that each of these readers consists of.
-/

namespace FacetedSearch

open Json
open Payload

/-! ## Conditions -/

namespace Payload

section Conditions

variable (place : String) (o : Object)

/-- A text under a key that must be there. -/
def requiredTextAt (key : String) : PlacedReading String :=
  requiredAt place o key (valueAt · readText)

/-- A text under a key that may be absent. -/
def optionalTextAt (key : String) : PlacedReading (Option String) :=
  optionalAt place o key (valueAt · readText)

/-- A timestamp under a key that may be absent. -/
def optionalInstantAt (key : String) : PlacedReading (Option Instant) :=
  optionalAt place o key (valueAt · readInstant)

/-- A period under a key that may be absent. -/
def optionalPeriodAt (key : String) : PlacedReading (Option Period) :=
  optionalAt place o key (valueAt · readPeriod)

/-- A number under a key that must be there. -/
def requiredFloatAt (key : String) : PlacedReading Float :=
  requiredAt place o key (valueAt · readFloat)

/-- A test of the given field. -/
def readFieldTestAt (field : String) : PlacedReading FieldTest := do
  let terms ← requiredAt place o "terms" (listAt · (valueAt · readTerm))
  let test ← checkedAt (FieldTest.of field terms)
  let excluded ← optionalDAt place o "exclude" (valueAt · readBool) false
  return if excluded then test.exclude else test

/-- The field that a range of dates tests. -/
def readRangeFieldAt : PlacedReading String :=
  optionalDAt place o "field" (valueAt · readText) Field.dateList

/-- A condition of a kind. -/
def readConditionAt : Condition.Tag → PlacedReading Condition
  | .specialized s => .field <$> readFieldTestAt place o s.field
  | .field => do return .field (← readFieldTestAt place o (← requiredTextAt place o "field"))
  | .raw => .raw <$> requiredTextAt place o "query"
  | .dateRange => do
    let lower ← optionalInstantAt place o "from"
    let upper ← optionalInstantAt place o "to"
    return .dateRange { field := ← readRangeFieldAt place o, lower, upper }
  | .relativeRange => do
    let before ← optionalPeriodAt place o "before"
    let after ← optionalPeriodAt place o "after"
    return .relativeRange { field := ← readRangeFieldAt place o, before, after }
  | .unarchived => .ok .unarchived

variable {place o}

theorem requiredTextAt_eq (key : String) :
    requiredTextAt place o key = placed place (required o key readText) :=
  refusesWhole_readText.agrees.requiredAt

theorem optionalTextAt_eq (key : String) :
    optionalTextAt place o key = placed place (optional o key readText) :=
  refusesWhole_readText.agrees.optionalAt

theorem optionalInstantAt_eq (key : String) :
    optionalInstantAt place o key = placed place (optional o key readInstant) :=
  refusesWhole_readInstant.agrees.optionalAt

theorem optionalPeriodAt_eq (key : String) :
    optionalPeriodAt place o key = placed place (optional o key readPeriod) :=
  refusesWhole_readPeriod.agrees.optionalAt

theorem requiredFloatAt_eq (key : String) :
    requiredFloatAt place o key = placed place (required o key readFloat) :=
  refusesWhole_readFloat.agrees.requiredAt

theorem readFieldTestAt_eq (field : String) :
    readFieldTestAt place o field = placed place (readFieldTest o field) := by
  simp only [readFieldTestAt, readFieldTest, placed_bind, placed_checked, placed_pure,
    refusesWhole_readTerm.agrees.listAt.requiredAt, refusesWhole_readBool.agrees.optionalDAt]

theorem readRangeFieldAt_eq : readRangeFieldAt place o = placed place (readRangeField o) :=
  refusesWhole_readText.agrees.optionalDAt Field.dateList

theorem readConditionAt_eq (t : Condition.Tag) :
    readConditionAt place o t = placed place (readCondition o t) := by
  cases t with
  | specialized s => simp only [readConditionAt, readCondition, placed_map, readFieldTestAt_eq]
  | field =>
    simp only [readConditionAt, readCondition, placed_bind, placed_pure, requiredTextAt_eq,
      readFieldTestAt_eq]
  | raw => simp only [readConditionAt, readCondition, placed_map, requiredTextAt_eq]
  | unarchived => rfl
  | dateRange =>
    simp only [readConditionAt, readCondition, placed_bind, placed_pure, optionalInstantAt_eq,
      readRangeFieldAt_eq]
  | relativeRange =>
    simp only [readConditionAt, readCondition, placed_bind, placed_pure, optionalPeriodAt_eq,
      readRangeFieldAt_eq]

end Conditions

end Payload

/-! ## Filters -/

namespace Filter

mutual

/-- The filter that a value at a place describes. -/
def readAt (place : String) : Json → PlacedReading Filter
  | .object o => do
    let tag : Tag ← tagAt place o .filter
    let filter : Filter ← match tag with
      | .test t => test none <$> readConditionAt place o t
      | .group op => do checkedAt (join op (← readOperandsAt place o))
      | .negation => without <$> readOperandAt place o
    return filter.withKey? (← optionalTextAt place o "key")
  | v => .error (unexpectedAt place .object v)

/-- The filter under the key `filter` of the object at a place. -/
def readOperandAt (place : String) : Json.Object → PlacedReading Filter
  | [] => .error (.malformed (childPlace place "filter") .missing)
  | (key, v) :: o =>
    if key = "filter" then
      match v with
      | .null => .error (.malformed (childPlace place "filter") .missing)
      | v => readAt (childPlace place "filter") v
    else readOperandAt place o

/-- The filters under the key `filters` of the object at a place. -/
def readOperandsAt (place : String) : Json.Object → PlacedReading (List Filter)
  | [] => .error (.malformed (childPlace place "filters") .missing)
  | (key, v) :: o =>
    if key = "filters" then
      match v with
      | .null => .error (.malformed (childPlace place "filters") .missing)
      | .array items => readEachAt (childPlace place "filters") 0 items
      | v => .error (unexpectedAt (childPlace place "filters") .list v)
    else readOperandsAt place o

/-- The filters of the list at a place, from a position on. -/
def readEachAt (place : String) : Nat → List Json → PlacedReading (List Filter)
  | _, [] => .ok []
  | i, v :: vs => do
    let filter ← readAt (itemPlace place i) v
    return filter :: (← readEachAt place (i + 1) vs)
termination_by structural _ vs => vs

end

mutual

theorem readAt_eq (place : String) : (v : Json) → readAt place v = placed place (ofPayload v)
  | .object o => by
    have hoperand := readOperandAt_eq place o
    have hoperands := readOperandsAt_eq place o
    rw [readAt, ofPayload, placed_bind, tagAt_eq]
    refine congrArg _ (funext fun tag ↦ ?_)
    cases tag <;> simp only [placed_bind, placed_map, placed_pure, placed_checked, hoperand,
      hoperands, optionalTextAt_eq, readConditionAt_eq]
  | .null => rfl
  | .bool _ => rfl
  | .number _ => rfl
  | .string _ => rfl
  | .array _ => rfl

private theorem readOperandAt_eq (place : String) :
    (o : Json.Object) → readOperandAt place o = placed place (readOperand o)
  | [] => rfl
  | (key, v) :: o => by
    have hvalue := readAt_eq (childPlace place "filter") v
    have hrest := readOperandAt_eq place o
    rw [readOperandAt.eq_def, readOperand.eq_def]
    by_cases h : key = "filter"
    · cases v with
      | null => simp only [h, if_true]; rfl
      | _ => simp only [h, if_true, placed_within_key, hvalue]
    · simp only [h, if_false, hrest]

private theorem readOperandsAt_eq (place : String) :
    (o : Json.Object) → readOperandsAt place o = placed place (readOperands o)
  | [] => rfl
  | (key, v) :: o => by
    have hrest := readOperandsAt_eq place o
    rw [readOperandsAt.eq_def, readOperands.eq_def]
    by_cases h : key = "filters"
    · cases v with
      | array items =>
        have hitems := readEachAt_eq (childPlace place "filters") 0 items
        simp only [h, if_true, placed_within_key, hitems]
      | _ => simp only [h, if_true, within_error]; rfl
    · simp only [h, if_false, hrest]

private theorem readEachAt_eq (place : String) (i : Nat) :
    (vs : List Json) → readEachAt place i vs = placed place (readEach i vs)
  | [] => rfl
  | v :: vs => by
    have hvalue := readAt_eq (itemPlace place i) v
    have hrest := readEachAt_eq place (i + 1) vs
    rw [readEachAt, readEach]
    simp only [placed_bind, placed_within_index, placed_pure, hvalue, hrest]
termination_by structural vs => vs

end

end Filter

/-! ## Facets -/

namespace Payload

section Counts

variable (place : String) (o : Object)

/-- The count of a field. -/
def readFieldCountAt (field : String) : PlacedReading Facet := do
  let key ← requiredTextAt place o "key"
  return { key, measure := .field field (← listOfAt place o "terms" (valueAt · readTerm)) }

/-- A point. -/
def readPointAt : Json → PlacedReading GeoPoint :=
  objectAt place fun place o ↦ do
    let longitude ← requiredFloatAt place o "lng"
    let latitude ← requiredFloatAt place o "lat"
    return { longitude, latitude }

/-- A word of a vocabulary, or what stands for it. -/
def wordDAt {α : Type} [Vocabulary α] (key : String) (default : α) : PlacedReading α :=
  optionalDAt place o key (valueAt · readWord) default

/-- A facet that is no group, without its exclusion. -/
def readSingleAt : Measure.Tag → PlacedReading Facet
  | .specialized s => readFieldCountAt place o s.field
  | .field => do readFieldCountAt place o (← requiredTextAt place o "field")
  | .query => do
    let key ← requiredTextAt place o "key"
    return { key, measure := .query (← requiredTextAt place o "query") }
  | .dateRange => do
    let key ← requiredTextAt place o "key"
    let lower ← optionalInstantAt place o "from"
    let upper ← optionalInstantAt place o "to"
    let gap ← optionalPeriodAt place o "gap"
    return { key, measure := .dateRange { field := ← readRangeFieldAt place o, lower, upper } gap }
  | .relativeRange => do
    let key ← requiredTextAt place o "key"
    let before ← optionalPeriodAt place o "before"
    let after ← optionalPeriodAt place o "after"
    let gap ← optionalPeriodAt place o "gap"
    let roundStart ← wordDAt place o "roundStart" Rounding.startOfDay
    let roundEnd ← wordDAt place o "roundEnd" Rounding.endOfDay
    let range : RelativeRange := { field := ← readRangeFieldAt place o, before, after }
    return { key, measure := .relativeRange range gap roundStart roundEnd }
  | .distance => do
    let point ← requiredAt place o "point" readPointAt
    let key ← requiredTextAt place o "key"
    let nearest ← requiredFloatAt place o "from"
    let farthest ← requiredFloatAt place o "to"
    return { key, measure := .distance point nearest farthest }

/-- The facet at a place as one query of a group. -/
def asQueryAt (f : Facet) : PlacedReading QueryCount :=
  match f.measure with
  | .query query => .ok { key := f.key, query, excludeFilter := f.excludeFilter }
  | _ => .error (.malformed place .notAQuery)

variable {place o}

theorem readFieldCountAt_eq (field : String) :
    readFieldCountAt place o field = placed place (readFieldCount o field) := by
  simp only [readFieldCountAt, readFieldCount, placed_bind, placed_pure, requiredTextAt_eq,
    refusesWhole_readTerm.agrees.listOfAt]

theorem agrees_readPointAt : Agrees readPointAt readPoint := by
  intro place v
  cases v with
  | object o =>
    simp only [readPointAt, readPoint, objectAt, readObject, placed_bind, placed_pure,
      requiredFloatAt_eq]
  | _ => rfl

theorem wordDAt_eq {α : Type} [Vocabulary α] (key : String) (default : α) :
    wordDAt place o key default = placed place (optionalD o key readWord default) :=
  refusesWhole_readWord.agrees.optionalDAt default

theorem readSingleAt_eq (t : Measure.Tag) :
    readSingleAt place o t = placed place (readSingle o t) := by
  cases t <;> simp only [readSingleAt, readSingle, placed_bind, placed_pure, requiredTextAt_eq,
    optionalInstantAt_eq, optionalPeriodAt_eq, requiredFloatAt_eq, readRangeFieldAt_eq,
    readFieldCountAt_eq, wordDAt_eq, agrees_readPointAt.requiredAt]

theorem asQueryAt_eq (f : Facet) : asQueryAt place f = placed place (asQuery f) := by
  obtain ⟨key, measure, excludeFilter⟩ := f
  cases measure <;> rfl

end Counts

end Payload

namespace Facet

mutual

/-- The facet that a value at a place describes. -/
def readAt (place : String) : Json → PlacedReading Facet
  | .object o => do
    let tag : Tag ← tagAt place o .facet
    let facet : Facet ← match tag with
      | .single t => readSingleAt place o t
      | .queryGroup => do
        let queries ← readQueriesAt place o
        let key ← requiredTextAt place o "key"
        checkedAt (queryGroup key queries)
    return { facet with excludeFilter := ← optionalTextAt place o "excludeFilter" }
  | v => .error (unexpectedAt place .object v)

/-- The queries under the key `queries` of the object at a place. -/
def readQueriesAt (place : String) : Json.Object → PlacedReading (List QueryCount)
  | [] => .error (.malformed (childPlace place "queries") .missing)
  | (key, v) :: o =>
    if key = "queries" then
      match v with
      | .null => .error (.malformed (childPlace place "queries") .missing)
      | .array items => readEachQueryAt (childPlace place "queries") 0 items
      | v => .error (unexpectedAt (childPlace place "queries") .list v)
    else readQueriesAt place o

/-- The queries of the list at a place, from a position on. -/
def readEachQueryAt (place : String) : Nat → List Json → PlacedReading (List QueryCount)
  | _, [] => .ok []
  | i, v :: vs => do
    let query ← do asQueryAt (itemPlace place i) (← readAt (itemPlace place i) v)
    return query :: (← readEachQueryAt place (i + 1) vs)
termination_by structural _ vs => vs

end

mutual

theorem readAt_eq (place : String) : (v : Json) → readAt place v = placed place (ofPayload v)
  | .object o => by
    have hqueries := readQueriesAt_eq place o
    rw [readAt, ofPayload, placed_bind, tagAt_eq]
    refine congrArg _ (funext fun tag ↦ ?_)
    cases tag <;> simp only [placed_bind, placed_pure, placed_checked, hqueries, readSingleAt_eq,
      requiredTextAt_eq, optionalTextAt_eq]
  | .null => rfl
  | .bool _ => rfl
  | .number _ => rfl
  | .string _ => rfl
  | .array _ => rfl

private theorem readQueriesAt_eq (place : String) :
    (o : Json.Object) → readQueriesAt place o = placed place (readQueries o)
  | [] => rfl
  | (key, v) :: o => by
    have hrest := readQueriesAt_eq place o
    rw [readQueriesAt.eq_def, readQueries.eq_def]
    by_cases h : key = "queries"
    · cases v with
      | array items =>
        have hitems := readEachQueryAt_eq (childPlace place "queries") 0 items
        simp only [h, if_true, placed_within_key, hitems]
      | _ => simp only [h, if_true, within_error]; rfl
    · simp only [h, if_false, hrest]

private theorem readEachQueryAt_eq (place : String) (i : Nat) :
    (vs : List Json) → readEachQueryAt place i vs = placed place (readEachQuery i vs)
  | [] => rfl
  | v :: vs => by
    have hvalue := readAt_eq (itemPlace place i) v
    have hrest := readEachQueryAt_eq place (i + 1) vs
    rw [readEachQueryAt, readEachQuery]
    simp only [placed_bind, placed_within_index, placed_pure, asQueryAt_eq, hvalue, hrest,
      bind_assoc]
termination_by structural vs => vs

end

end Facet

/-! ## Sort criteria -/

namespace Payload

/-- What to compare by, for a kind of criterion. -/
def readSortKeyAt (place : String) (o : Object) : SortKey.Tag → PlacedReading SortKey
  | .field => .field <$> requiredTextAt place o "field"
  | .date => .ok .date
  | .name => .ok .name
  | .natural => .ok .natural
  | .score => .ok .score
  | .distance => .ok .distance

theorem readSortKeyAt_eq {place : String} {o : Object} (t : SortKey.Tag) :
    readSortKeyAt place o t = placed place (readSortKey o t) := by
  cases t with
  | field => simp only [readSortKeyAt, readSortKey, placed_map, requiredTextAt_eq]
  | _ => rfl

end Payload

namespace SortCriterion

/-- The criterion that a value at a place describes. -/
def readAt (place : String) : Json → PlacedReading SortCriterion :=
  objectAt place fun place o ↦ do
    let key ← readSortKeyAt place o (← tagAt place o .sort)
    return { key, direction := ← wordDAt place o "direction" Direction.ascending }

theorem readAt_eq (place : String) (v : Json) : readAt place v = placed place (ofPayload v) := by
  cases v with
  | object o =>
    simp only [readAt, ofPayload, objectAt, readObject, placed_bind, placed_pure, tagAt_eq,
      readSortKeyAt_eq, wordDAt_eq]
  | _ => rfl

end SortCriterion

end FacetedSearch
