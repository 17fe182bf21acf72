import FacetedSearch.Json.Decoding
import FacetedSearch.Operator

/-!
# Defaults of queries

What a query starts from before anything is set: how long a page is, how the terms of the phrase are
joined, and the time zone for date math.
-/

namespace FacetedSearch.Query

open Json (decodeInt decodeRecord decodeText? decodeWord DecodeError)

/-- What a query starts from. -/
structure Defaults where
  limit : UInt64 := 10
  operator : Operator := .and
  timeZone : Option String := none
deriving DecidableEq

namespace Defaults

/-- The fields of the record, in order. -/
def fields : List (Json.Field Defaults) :=
  [.of "defaultLimit" (decodeInt 0 (UInt64.size - 1) "usize") fun d n ↦
      { d with limit := UInt64.ofNat n.toNat },
    .of "defaultQueryOperator" decodeWord fun d op ↦ { d with operator := op },
    .of "defaultTimeZone" decodeText? fun d zone ↦ { d with timeZone := zone }]

/-- The defaults that a JSON value describes. -/
def decode (v : Json) : Except DecodeError Defaults :=
  decodeRecord "SearchQueryConfig" fields {} v

end Defaults

end FacetedSearch.Query
