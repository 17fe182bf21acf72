import FacetedSearch.Json.Decoding
import FacetedSearch.Field

/-!
# Requests

A request is sent to the `/select` handler of an index. Its parameters are kept in the order in
which they were added, and a name may occur any number of times, which is how the backend takes
lists.

`Backend` holds what requests depend on beside the query: the index that is searched by default and
a few settings of the backend's query parser.
-/

namespace FacetedSearch

/-- A request to the `/select` handler of an index. -/
structure Request where
  index : String
  /-- Names and values, in order. -/
  params : List (String × String) := []
deriving DecidableEq

namespace Request

/-- The request with one more parameter. -/
def push (r : Request) (name value : String) : Request :=
  { r with params := r.params ++ [(name, value)] }

/-- The first value of a parameter. -/
def param? (r : Request) (name : String) : Option String := r.params.lookup name

/-- All values of a parameter, in order. -/
def values (r : Request) (name : String) : List String :=
  (r.params.filter fun p ↦ p.1 == name).map Prod.snd

/-- The path of the handler. -/
def path (r : Request) : String := "/" ++ r.index ++ "/select"

/-- The request as a JSON value, ready to be encoded as a form. -/
def toJson (r : Request) : Json :=
  .object [("path", .string r.path),
    ("params", .array (r.params.map fun p ↦ .array [.string p.1, .string p.2]))]

end Request

/-- The settings of the backend. -/
structure Backend where
  /-- The index of the default language. Those of other languages have its name with a suffix. -/
  defaultIndex : String := "default"
  /-- The parser of search phrases. -/
  defType : String := "edismax"
  /-- The field that distances are measured to. -/
  geoField : String := Field.geoPoints
  /-- The least count that is reported. -/
  facetMinCount : UInt32 := 1
  /-- The number of values that are reported for a facet. Any negative number means all. -/
  facetLimit : Int32 := -1
deriving DecidableEq

namespace Backend

open Json (decodeInt decodeText decodeRecord DecodeError)

/-- The fields of the record, in order. -/
def fields : List (Json.Field Backend) :=
  [.of "defaultIndex" decodeText fun b s ↦ { b with defaultIndex := s },
    .of "defType" decodeText fun b s ↦ { b with defType := s },
    .of "geoField" decodeText fun b s ↦ { b with geoField := s },
    .of "facetMinCount" (decodeInt 0 (UInt32.size - 1) "u32") fun b n ↦
      { b with facetMinCount := UInt32.ofNat n.toNat },
    .of "facetLimit" (decodeInt Int32.minValue.toInt Int32.maxValue.toInt "i32") fun b n ↦
      { b with facetLimit := Int32.ofInt n }]

/-- The settings that a JSON value describes. -/
def decode (v : Json) : Except DecodeError Backend :=
  decodeRecord "SolrSearchConfig" fields {} v

end Backend

end FacetedSearch
