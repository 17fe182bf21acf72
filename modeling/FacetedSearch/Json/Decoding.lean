import FacetedSearch.Json.Basic
import FacetedSearch.Text.Quoted
import FacetedSearch.Vocabulary

/-!
# Decoding words and records

Words of a `Vocabulary` and records of settings are decoded by rules of their own, which are looser
than those for payloads and report failures without a place.

* A word is a string, or an object whose single key is the word and whose value is `null`.
* A record is an object, in which unknown keys are ignored and absent ones keep their defaults, or
  a list that gives the fields in order and may stop early.

The fields of an object are decoded in the order of their keys, not of their declaration, so that
of two bad fields the one with the smaller key is reported.
-/

namespace FacetedSearch.Json

/-- Why a value could not be decoded. What was found is kept as the phrase that describes it. -/
inductive DecodeError where
  /-- A word that the vocabulary does not have. -/
  | unknownWord (found : String) (known : List String)
  /-- A value of a kind that is never right here. -/
  | wrongType (found expected : String)
  /-- A value of the right kind that is out of bounds. -/
  | wrongValue (found expected : String)
  /-- A list with more items than the record has fields. -/
  | tooLong (length : Nat)
  /-- A value that has none of the forms of a type. -/
  | noForm (typeName : String)
deriving DecidableEq

namespace DecodeError

/-- A word between grave accents. -/
def ticked (w : String) : String := "`" ++ w ++ "`"

/-- The choice that a reader of the message has. -/
def choice : List String → String
  | [] => "no word"
  | [a] => ticked a
  | [a, b] => ticked a ++ " or " ++ ticked b
  | ws => "one of " ++ ", ".intercalate (ws.map ticked)

/-- The failure as text. -/
def message : DecodeError → String
  | unknownWord w ws => "unknown variant " ++ ticked w ++ ", expected " ++ choice ws
  | wrongType found expected => "invalid type: " ++ found ++ ", expected " ++ expected
  | wrongValue found expected => "invalid value: " ++ found ++ ", expected " ++ expected
  | tooLong n => "invalid length " ++ toString n ++ ", expected fewer elements in array"
  | noForm t => "data did not match any variant of untagged enum " ++ t

end DecodeError

/-- A value as the phrase that stands for it in a message. -/
def describe : Json → String
  | .null => "null"
  | .bool b => "boolean " ++ DecodeError.ticked (if b then "true" else "false")
  | .number n@(.int ..) => "integer " ++ DecodeError.ticked n.text
  | .number n@(.float ..) => "floating point " ++ DecodeError.ticked n.text
  | .string s => "string " ++ Text.quoted s
  | .array _ => "sequence"
  | .object _ => "map"

/-! ## Words -/

section Words

variable {α : Type} [Vocabulary α]

/-- The value that a word stands for, or a failure that lists the words there are. -/
def lookWord (w : String) : Except DecodeError α :=
  match Vocabulary.ofWord? w with
  | some a => .ok a
  | none => .error (.unknownWord w (Vocabulary.words α))

/-- A word, either plain or as the only key of an object. -/
def decodeWord : Json → Except DecodeError α
  | .string w => lookWord w
  | .object [(w, v)] => do
    let a ← lookWord w
    match v with
    | .null => return a
    | v => throw (.wrongType v.describe "unit")
  | .object _ => .error (.wrongValue "map" "map with a single key")
  | v => .error (.wrongType v.describe "string or map")

/-- A value of a vocabulary as a JSON string. -/
def ofWord (a : α) : Json := .string (Vocabulary.word a)

end Words

/-! ## Fields of records -/

/-- An integer between bounds, under the name of its type. -/
def decodeInt (low high : Int) (typeName : String) : Json → Except DecodeError Int
  | v@(.number (.int n _)) =>
    if low ≤ n ∧ n ≤ high then .ok n else .error (.wrongValue v.describe typeName)
  | v => .error (.wrongType v.describe typeName)

/-- A text. -/
def decodeText : Json → Except DecodeError String
  | .string s => .ok s
  | v => .error (.wrongType v.describe "a string")

/-- A text or `null`. -/
def decodeText? : Json → Except DecodeError (Option String)
  | .null => .ok none
  | v => some <$> decodeText v

/-- One field of a record: its key, and how its value changes the record. -/
structure Field (σ : Type) where
  key : String
  decode : σ → Json → Except DecodeError σ

/-- A field that is decoded on its own and then put into the record. -/
def Field.of {σ β : Type} (key : String) (decode : Json → Except DecodeError β)
    (put : σ → β → σ) : Field σ :=
  ⟨key, fun s v ↦ put s <$> decode v⟩

/-- A record, starting from its defaults. -/
def decodeRecord {σ : Type} (typeName : String) (fields : List (Field σ)) (defaults : σ) :
    Json → Except DecodeError σ
  | .object o =>
    (fields.mergeSort fun f g ↦ decide (f.key ≤ g.key)).foldlM (fun s f ↦
      match o.lookup f.key with
      | none => .ok s
      | some v => f.decode s v) defaults
  | .array items => do
    let s ← (fields.zip items).foldlM (fun s fv ↦ fv.1.decode s fv.2) defaults
    if fields.length < items.length then throw (.tooLong items.length)
    return s
  | v => .error (.wrongType v.describe ("struct " ++ typeName))

end FacetedSearch.Json
