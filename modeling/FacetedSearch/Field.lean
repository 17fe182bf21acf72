import FacetedSearch.Vocabulary

/-!
# Fields of the index

The names of the fields that the library knows by itself, and the *specializations*: seven fields
that are tested and counted so often that payloads name them by a tag of their own. A test or count
of a specialized field has two descriptions, by tag and by field name, and the payloads only ever
show the first.
-/

namespace FacetedSearch

namespace Field

def archive : String := "sp_archive"
def category : String := "sp_category_path"
def contentSectionType : String := "sp_contenttype"
def contentType : String := "contenttype"
def date : String := "sp_date"
def dateList : String := "sp_date_list"
def geoPoints : String := "sp_geo_points"
def group : String := "sp_group_path"
def naturalSort : String := "sp_natural_sort"
def objectType : String := "sp_objecttype"
def site : String := "sp_site"
def sortValue : String := "sp_sortvalue"
def source : String := "sp_source"

end Field

/-- The fields with a tag of their own. -/
inductive Specialization where
  | category
  | contentSectionType
  | contentType
  | group
  | objectType
  | site
  | source
deriving DecidableEq

namespace Specialization

instance : Vocabulary Specialization where
  values := [.category, .contentSectionType, .contentType, .group, .objectType, .site, .source]
  word
    | .category => "category"
    | .contentSectionType => "contentSectionType"
    | .contentType => "contentType"
    | .group => "group"
    | .objectType => "objectType"
    | .site => "site"
    | .source => "source"
  find?_word s := by cases s <;> rfl

/-- The tag of the field in payloads. -/
def tag (s : Specialization) : String := Vocabulary.word s

/-- The name of the field. -/
def field : Specialization → String
  | .category => Field.category
  | .contentSectionType => Field.contentSectionType
  | .contentType => Field.contentType
  | .group => Field.group
  | .objectType => Field.objectType
  | .site => Field.site
  | .source => Field.source

/-- The specialization with a tag. -/
def ofTag? (tag : String) : Option Specialization := Vocabulary.ofWord? tag

/-- The specialization of a field. -/
def ofField? (name : String) : Option Specialization :=
  Vocabulary.values.find? fun s : Specialization ↦ s.field == name

theorem field_of_ofField? {name : String} {s : Specialization} (h : ofField? name = some s) :
    s.field = name := by
  simpa using List.find?_some h

end Specialization

end FacetedSearch
