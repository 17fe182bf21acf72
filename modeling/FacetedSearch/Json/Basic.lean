import FacetedSearch.Decimal.Layout

/-!
# JSON values

The payloads of queries are JSON documents. The type here is the tree behind such a text, with the
one distinction that a plain tree of numbers would lose: a number written without fraction and
exponent is an *integer*, and every other number is a *float*. The two differ in what they may be
used for (`5.0` is no page number) and in how they are written back.

## Why the numbers carry proofs

Integers stay within 64 bits, signed or unsigned, and floats are finite: those are the numbers that
a document can hold. With both facts in the type, no reader has to ask whether the number in front
of it could have come from a document, and a float that is infinite or not a number has one way
out, `Json.ofFloat`, which writes it as `null`.

An object is the list of its entries. The first entry of a key is the one that counts; documents
are expected to give each key once.
-/

namespace FacetedSearch

/-- The integers of 64 bits, with or without a sign. -/
def Json.FitsWord (n : Int) : Prop := -9223372036854775808 ≤ n ∧ n < 18446744073709551616

instance (n : Int) : Decidable (Json.FitsWord n) := inferInstanceAs (Decidable (_ ∧ _))

/-- A number of a JSON document. -/
inductive Json.Number where
  /-- A number written without fraction and exponent. -/
  | int (value : Int) (fits : Json.FitsWord value)
  /-- Any other number. -/
  | float (value : Float) (finite : value.isFinite = true)
deriving DecidableEq

/-- A JSON document. -/
inductive Json where
  | null
  | bool (value : Bool)
  | number (value : Json.Number)
  | string (value : String)
  | array (items : List Json)
  | object (entries : List (String × Json))

namespace Json

/-- The entries of a JSON object. -/
abbrev Object := List (String × Json)

/-! ## Kinds -/

/-- The six kinds of JSON value. -/
inductive Kind where
  | null
  | boolean
  | number
  | string
  | list
  | object
deriving DecidableEq

/-- A kind as a noun phrase. -/
def Kind.phrase : Kind → String
  | .null => "null"
  | .boolean => "a boolean"
  | .number => "a number"
  | .string => "a string"
  | .list => "a list"
  | .object => "an object"

/-- The kind of a value. -/
def kind : Json → Kind
  | .null => .null
  | .bool _ => .boolean
  | .number _ => .number
  | .string _ => .string
  | .array _ => .list
  | .object _ => .object

/-! ## Numbers -/

namespace Number

/-- A number of 64 bits without sign. -/
def ofUInt64 (n : UInt64) : Number :=
  .int n.toNat (by have := n.toNat_lt; constructor <;> omega)

/-- The nearest float. -/
def toFloat : Number → Float
  | .int n _ => Float.ofInt n
  | .float x _ => x

/-- The number as it is written: an integer in decimal, a float with the fewest digits that read
back as it. -/
def text : Number → String
  | .int n _ => toString n
  | .float x _ => Decimal.Layout.literal.render x

end Number

/-- A float as a JSON value. One that is no number has no numeral and becomes `null`. -/
def ofFloat (x : Float) : Json :=
  if h : x.isFinite = true then .number (.float x h) else .null

/-- A list of texts as a JSON value. -/
def ofStrings (ss : List String) : Json := .array (ss.map .string)

/-! ## Entries of objects -/

namespace Object

/-- The value under a key. A `null` is the same as no entry. -/
def value? (o : Object) (key : String) : Option Json :=
  match o.lookup key with
  | none | some .null => none
  | some v => some v

/-- An entry that is there only if its value is. -/
def optionalEntry (key : String) (value : Option Json) : Object :=
  (value.map fun v ↦ (key, v)).toList

@[simp] theorem value?_nil (key : String) : value? [] key = none := rfl

theorem value?_cons_of_ne {k key : String} (v : Json) (o : Object) (h : key ≠ k) :
    value? ((k, v) :: o) key = value? o key := by
  have : (key == k) = false := by simpa using h
  rw [value?, value?, List.lookup_cons, this]

@[simp] theorem value?_cons_self (key : String) (o : Object) :
    value? ((key, .null) :: o) key = none := by
  simp [value?]

end Object

end Json

end FacetedSearch
