import FacetedSearch.Calendar.Rfc3339
import FacetedSearch.Json.Decoding
import FacetedSearch.Json.Path
import FacetedSearch.Period.Parser
import FacetedSearch.Violation

/-!
# Why a payload cannot be read

A payload fails in one of three ways: a value does not have the form that is asked for, an object is
tagged with a word that its family does not have, or what the payload describes breaks a rule of the
model. The first two have a place.

## Places are relative

A reader knows the value in front of it and nothing of the document around it. Its errors are placed
relative to that value, and whoever called the reader on a part puts the way to the part in front
(`ReadError.under`). Hence reading cannot depend on where a value stands.
-/

namespace FacetedSearch.Payload

open Json

/-- What a reader asked for. -/
inductive Expected where
  | object
  | string
  | list
  | boolean
  | integer
  | number
  | finiteNumber
deriving DecidableEq

/-- The expectation as a noun phrase. -/
def Expected.phrase : Expected → String
  | .object => "an object"
  | .string => "a string"
  | .list => "a list"
  | .boolean => "a boolean"
  | .integer => "an integer"
  | .number => "a number"
  | .finiteNumber => "a finite number"

/-- What is wrong with a value. -/
inductive Reason where
  | missing
  | unexpected (expected : Expected) (found : Kind)
  /-- A facet within a group of queries that is no query. -/
  | notAQuery
  | timestamp (fault : Rfc3339.Fault)
  | period (error : Period.ParseError)
  | undecodable (error : DecodeError)
deriving DecidableEq

/-- The reason as text. -/
def Reason.message : Reason → String
  | .missing => "missing value"
  | .unexpected e k => "expected " ++ e.phrase ++ ", got " ++ k.phrase
  | .notAQuery => "expected a query facet"
  | .timestamp fault => fault.message
  | .period e => e.message
  | .undecodable e => e.message

/-- The families of tagged objects. -/
inductive Family where
  | filter
  | facet
  | sort
deriving DecidableEq

/-- The name of a family in messages. -/
def Family.name : Family → String
  | .filter => "filter"
  | .facet => "facet"
  | .sort => "sortCriteria"

/-- Why a payload cannot be read. -/
inductive ReadError where
  | malformed (place : Path) (reason : Reason)
  /-- A tag that the family does not have, or none. -/
  | unknownVariant (family : Family) (tag : Option String) (place : Path)
  | violation (cause : Violation)
deriving DecidableEq

namespace ReadError

/-- The error seen from the value that the faulty one is a part of. -/
def under (s : Step) : ReadError → ReadError
  | malformed p r => malformed (s :: p) r
  | unknownVariant f t p => unknownVariant f t (s :: p)
  | violation v => violation v

/-- The error as text. -/
def message : ReadError → String
  | malformed p r => "Malformed payload at '" ++ Path.text p ++ "': " ++ r.message
  | unknownVariant f (some t) p =>
    "Unknown " ++ f.name ++ " type '" ++ t ++ "' at '" ++ Path.text p ++ "'"
  | unknownVariant f none p => "Missing " ++ f.name ++ " type at '" ++ Path.text p ++ "'"
  | violation v => v.message

end ReadError

/-- What comes of reading a payload. -/
abbrev Reading (α : Type) := Except ReadError α

/-- A part that was read, seen from the whole. -/
def within {α : Type} (s : Step) (r : Reading α) : Reading α := r.mapError (·.under s)

/-- A result of the model, which has no place in the payload. -/
def checked {α : Type} (r : Except Violation α) : Reading α := r.mapError .violation

@[simp] theorem within_ok {α : Type} (s : Step) (a : α) :
    within s (.ok a : Reading α) = .ok a := rfl

@[simp] theorem within_error {α : Type} (s : Step) (e : ReadError) :
    within s (.error e : Reading α) = .error (e.under s) := rfl

@[simp] theorem checked_ok {α : Type} (a : α) : checked (.ok a : Except Violation α) = .ok a := rfl

@[simp] theorem checked_error {α : Type} (v : Violation) :
    checked (.error v : Except Violation α) = .error (.violation v) := rfl

end FacetedSearch.Payload
