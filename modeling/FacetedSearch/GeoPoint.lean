import FacetedSearch.Decimal.Layout

/-!
# Points on the globe
-/

namespace FacetedSearch

/-- A point by its degrees of longitude and latitude. -/
structure GeoPoint where
  longitude : Float
  latitude : Float
deriving DecidableEq

namespace GeoPoint

/-- The point as the backend reads it: latitude first. -/
def text (p : GeoPoint) : String :=
  Decimal.Layout.plain.render p.latitude ++ "," ++ Decimal.Layout.plain.render p.longitude

end GeoPoint

end FacetedSearch
