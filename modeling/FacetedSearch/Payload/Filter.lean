import FacetedSearch.Filter
import FacetedSearch.Payload.Reading

/-!
# Payloads of filters

A filter is an object whose `type` names the kind of its topmost node. Tests of a specialized field
are tagged by the specialization and leave out the name of the field; this is also the form in which
they are written, so that reading a written filter restores it.

Reading follows the tree of the payload. The operands are reached through the keys `filter` and
`filters`, and the two functions that look them up are part of the recursion; `readOperand_eq` and
`readOperands_eq` say that they are the ordinary ways to ask for a key.
-/

namespace FacetedSearch

/-- The kinds of condition that payloads distinguish. -/
inductive Condition.Tag where
  | specialized (s : Specialization)
  | field
  | raw
  | unarchived
  | dateRange
  | relativeRange
deriving DecidableEq

namespace Filter

/-- The kinds of filter that payloads distinguish. -/
inductive Tag where
  | test (condition : Condition.Tag)
  | group (operator : Operator)
  | negation
deriving DecidableEq

namespace Tag

instance : Vocabulary Tag where
  values :=
    Vocabulary.values.map (fun s ↦ test (.specialized s)) ++
      [test .field, test .raw, test .unarchived, test .dateRange, test .relativeRange,
        group .and, group .or, negation]
  word
    | test (.specialized s) => s.tag
    | test .field => "field"
    | test .raw => "query"
    | test .unarchived => "archive"
    | test .dateRange => "absoluteDateRange"
    | test .relativeRange => "relativeDateRange"
    | group .and => "and"
    | group .or => "or"
    | negation => "not"
  find?_word t := by
    rcases t with (s | _) | op | _
    · cases s <;> rfl
    · rfl
    · rfl
    · rfl
    · rfl
    · rfl
    · cases op <;> rfl
    · rfl

end Tag

end Filter

/-! ## Writing -/

/-- An instant as a payload. -/
def Instant.toPayload (t : Instant) : Json := .string t.text

/-- A period as a payload. -/
def Period.toPayload (p : Period) : Json := .string p.text

namespace Condition

open Json.Object (optionalEntry)

/-- The kind of a condition. -/
def tag : Condition → Tag
  | field t => (t.specialization?.map Tag.specialized).getD .field
  | raw _ => .raw
  | unarchived => .unarchived
  | dateRange _ => .dateRange
  | relativeRange _ => .relativeRange

/-- The entries that describe a condition. -/
def entries : Condition → Json.Object
  | field t =>
    [("terms", .ofStrings t.terms), ("exclude", .bool t.excluded)] ++
      if t.specialization?.isNone then [("field", .string t.field)] else []
  | raw q => [("query", .string q)]
  | unarchived => []
  | dateRange r =>
    ("field", .string r.field) ::
      (optionalEntry "from" (r.lower.map Instant.toPayload) ++
        optionalEntry "to" (r.upper.map Instant.toPayload))
  | relativeRange r =>
    ("field", .string r.field) ::
      (optionalEntry "before" (r.before.map Period.toPayload) ++
        optionalEntry "after" (r.after.map Period.toPayload))

end Condition

namespace Filter

/-- The kind of the topmost node. -/
def tag : Filter → Tag
  | test _ c => .test c.tag
  | group _ op _ => .group op
  | negation _ _ => .negation

/-- A node as a payload, given the entries that describe it. -/
def node (key : Option String) (tag : Tag) (entries : Json.Object) : Json :=
  .object (("type", .ofWord tag) :: entries ++ Json.Object.optionalEntry "key" (key.map .string))

mutual

/-- The filter as a payload. -/
def toPayload : Filter → Json
  | test k c => node k (.test c.tag) c.entries
  | group k op fs => node k (.group op) [("filters", .array (toPayloads fs))]
  | negation k f => node k .negation [("filter", f.toPayload)]

/-- Several filters as payloads. -/
def toPayloads : List Filter → List Json
  | [] => []
  | f :: fs => f.toPayload :: toPayloads fs

end

theorem toPayloads_eq_map (fs : List Filter) : toPayloads fs = fs.map toPayload := by
  induction fs with
  | nil => rfl
  | cons f fs ih => rw [toPayloads, List.map_cons, ih]

end Filter

/-! ## Reading -/

namespace Payload

/-- A test of the given field, from its terms and whether it excludes. -/
def readFieldTest (o : Json.Object) (field : String) : Reading FieldTest := do
  let terms ← required o "terms" (readList readTerm)
  let test ← checked (FieldTest.of field terms)
  let excluded ← optionalD o "exclude" readBool false
  return if excluded then test.exclude else test

/-- The field that a range of dates tests. -/
def readRangeField (o : Json.Object) : Reading String := optionalD o "field" readText Field.dateList

/-- A condition of a kind. -/
def readCondition (o : Json.Object) : Condition.Tag → Reading Condition
  | .specialized s => .field <$> readFieldTest o s.field
  | .field => do return .field (← readFieldTest o (← required o "field" readText))
  | .raw => .raw <$> required o "query" readText
  | .dateRange => do
    let lower ← optional o "from" readInstant
    let upper ← optional o "to" readInstant
    return .dateRange { field := ← readRangeField o, lower, upper }
  | .relativeRange => do
    let before ← optional o "before" readPeriod
    let after ← optional o "after" readPeriod
    return .relativeRange { field := ← readRangeField o, before, after }
  | .unarchived => .ok .unarchived

end Payload

namespace Filter

open Payload

mutual

/-- The filter that a payload describes. -/
def ofPayload : Json → Reading Filter
  | .object o => do
    let tag : Tag ← readTag .filter o
    let filter : Filter ← match tag with
      | .test t => test none <$> readCondition o t
      | .group op => do checked (join op (← readOperands o))
      | .negation => without <$> readOperand o
    return filter.withKey? (← optional o "key" readText)
  | v => .error (unexpected .object v)

/-- The filter under the key `filter`. -/
def readOperand : Json.Object → Reading Filter
  | [] => .error (.malformed [.key "filter"] .missing)
  | (key, v) :: o =>
    if key = "filter" then
      match v with
      | .null => .error (.malformed [.key "filter"] .missing)
      | v => within (.key "filter") (ofPayload v)
    else readOperand o

/-- The filters under the key `filters`. -/
def readOperands : Json.Object → Reading (List Filter)
  | [] => .error (.malformed [.key "filters"] .missing)
  | (key, v) :: o =>
    if key = "filters" then
      match v with
      | .null => .error (.malformed [.key "filters"] .missing)
      | .array items => within (.key "filters") (readEach 0 items)
      | v => within (.key "filters") (.error (unexpected .list v))
    else readOperands o

/-- The filters of a list from a position on. -/
def readEach : Nat → List Json → Reading (List Filter)
  | _, [] => .ok []
  | i, v :: vs => do
    let filter ← within (.index i) (ofPayload v)
    return filter :: (← readEach (i + 1) vs)
termination_by structural _ vs => vs

end

theorem readEach_eq (i : Nat) (vs : List Json) : readEach i vs = readItems ofPayload i vs := by
  induction vs generalizing i with
  | nil => rfl
  | cons v vs ih => rw [readEach, readItems]; simp only [ih]

theorem readOperand_eq (o : Json.Object) : readOperand o = required o "filter" ofPayload := by
  induction o with
  | nil => rfl
  | cons e o ih =>
    obtain ⟨key, v⟩ := e
    by_cases h : key = "filter"
    · subst h
      cases v <;> simp [readOperand, required, Json.Object.value?]
    · rw [required, Json.Object.value?_cons_of_ne v o (Ne.symm h), ← required, ← ih]
      cases v <;> simp [readOperand, h]

theorem readOperands_eq (o : Json.Object) :
    readOperands o = required o "filters" (readList ofPayload) := by
  induction o with
  | nil => rfl
  | cons e o ih =>
    obtain ⟨key, v⟩ := e
    by_cases h : key = "filters"
    · subst h
      cases v <;> simp [readOperands, required, Json.Object.value?, readList, readEach_eq]
    · rw [required, Json.Object.value?_cons_of_ne v o (Ne.symm h), ← required, ← ih]
      cases v <;> simp [readOperands, h]

/-- The reader of an object in terms of the ways to ask for a key. -/
theorem ofPayload_object (o : Json.Object) : ofPayload (.object o) = (do
    let tag : Tag ← readTag .filter o
    let filter : Filter ← match tag with
      | .test t => test none <$> readCondition o t
      | .group op => do checked (join op (← required o "filters" (readList ofPayload)))
      | .negation => without <$> required o "filter" ofPayload
    return filter.withKey? (← optional o "key" readText)) := by
  rw [ofPayload, readOperand_eq, readOperands_eq]

end Filter

end FacetedSearch
