import FacetedSearch.Decimal.Reading
import FacetedSearch.GeoPoint
import FacetedSearch.Payload.Error
import FacetedSearch.Text.Blank

/-!
# Reading the parts of a payload

Readers of single values, and the ways in which an object asks for the values of its keys. A value
reader takes a JSON value and gives a value of the model; an object asks for a key that may be
absent (`optional`), that must be there (`required`), or that holds a list (`listOf`). A `null` is
always the same as an absent key.

Payloads come from forms and query strings as well as from programs, so several readers take a
string that holds what they ask for: a truth value, an integer or a number. Lists of terms take
numbers, which become their numerals.
-/

namespace FacetedSearch.Payload

open Json

/-- The error that a value is not what was asked for. -/
def unexpected (e : Expected) (v : Json) : ReadError := .malformed [] (.unexpected e v.kind)

/-! ## Values -/

/-- A text. -/
def readText : Json → Reading String
  | .string s => .ok s
  | v => .error (unexpected .string v)

/-- A term, which is a text or a number. -/
def readTerm : Json → Reading String
  | .string s => .ok s
  | .number n => .ok n.text
  | v => .error (unexpected .string v)

/-- A truth value, possibly as a word. -/
def readBool : Json → Reading Bool
  | .bool b => .ok b
  | v@(.string s) =>
    if s = "true" then .ok true
    else if s = "false" then .ok false
    else .error (unexpected .boolean v)
  | v => .error (unexpected .boolean v)

/-- An integer of 64 bits, if the integer is one. -/
def int64? (n : Int) : Option Int64 :=
  if Int64.minValue.toInt ≤ n ∧ n ≤ Int64.maxValue.toInt then some (Int64.ofInt n) else none

/-- An integer of 64 bits, possibly within a text. -/
def readInteger : Json → Reading Int64
  | v@(.number (.int n _)) =>
    match int64? n with
    | some i => .ok i
    | none => .error (unexpected .integer v)
  | v@(.string s) =>
    match (Text.readInt? (Text.trimChars s.toList)).bind int64? with
    | some i => .ok i
    | none => .error (unexpected .integer v)
  | v => .error (unexpected .integer v)

/-- A number, possibly within a text. -/
def readFloat : Json → Reading Float
  | .number n => .ok n.toFloat
  | v@(.string s) =>
    match (Decimal.readFloat? (Text.trimChars s.toList)).filter Float.isFinite with
    | some x => .ok x
    | none => .error (unexpected .finiteNumber v)
  | v => .error (unexpected .number v)

/-- A timestamp. -/
def readInstant (v : Json) : Reading Instant := do
  (Rfc3339.read (← readText v)).mapError fun fault ↦ .malformed [] (.timestamp fault)

/-- A period. -/
def readPeriod (v : Json) : Reading Period := do
  (Period.parse (← readText v)).mapError fun e ↦ .malformed [] (.period e)

/-- A word of a vocabulary. -/
def readWord {α : Type} [Vocabulary α] (v : Json) : Reading α :=
  (decodeWord v).mapError fun e ↦ .malformed [] (.undecodable e)

/-! ## Lists -/

/-- The items of a list from a position on. -/
def readItems {α : Type} (read : Json → Reading α) : Nat → List Json → Reading (List α)
  | _, [] => .ok []
  | i, v :: vs => do
    let a ← within (.index i) (read v)
    return a :: (← readItems read (i + 1) vs)

/-- A list of values that are read one by one. -/
def readList {α : Type} (read : Json → Reading α) : Json → Reading (List α)
  | .array items => readItems read 0 items
  | v => .error (unexpected .list v)

/-! ## Keys of objects -/

/-- An object, whose keys the given reader asks for. -/
def readObject {α : Type} (read : Object → Reading α) : Json → Reading α
  | .object o => read o
  | v => .error (unexpected .object v)

section Keys

variable {α : Type}

/-- The value of a key that may be absent. -/
def optional (o : Object) (key : String) (read : Json → Reading α) : Reading (Option α) :=
  match o.value? key with
  | none => .ok none
  | some v => some <$> within (.key key) (read v)

/-- The value of a key that must be there. -/
def required (o : Object) (key : String) (read : Json → Reading α) : Reading α :=
  match o.value? key with
  | none => .error (.malformed [.key key] .missing)
  | some v => within (.key key) (read v)

/-- The list of a key. An absent key holds the empty list. -/
def listOf (o : Object) (key : String) (read : Json → Reading α) : Reading (List α) := do
  return (← optional o key (readList read)).getD []

/-- The value of a key, or what stands for it if it is absent. -/
def optionalD (o : Object) (key : String) (read : Json → Reading α) (default : α) : Reading α := do
  return (← optional o key read).getD default

/-- The variant of a tagged object, from the word under `type`. -/
def readTag [Vocabulary α] (family : Family) (o : Object) : Reading α :=
  match o.value? "type" with
  | none => .error (.unknownVariant family none [])
  | some (.string w) =>
    match Vocabulary.ofWord? w with
    | some a => .ok a
    | none => .error (.unknownVariant family (some w) [])
  | some v => .error ((unexpected .string v).under (.key "type"))

end Keys

/-- A point, as an object of its two numbers. -/
def readPoint : Json → Reading GeoPoint :=
  readObject fun o ↦ do
    let longitude ← required o "lng" readFloat
    let latitude ← required o "lat" readFloat
    return { longitude, latitude }

end FacetedSearch.Payload

namespace FacetedSearch

/-- The point as a payload. -/
def GeoPoint.toPayload (p : GeoPoint) : Json :=
  .object [("lng", .ofFloat p.longitude), ("lat", .ofFloat p.latitude)]

end FacetedSearch
