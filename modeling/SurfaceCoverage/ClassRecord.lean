/-!
# Class records

What one side of the comparison knows of a type: its name, its category, its methods, and whether
it is a class of its own or a base that other types build on.
-/

namespace SurfaceCoverage

/-- A type of one side. -/
structure ClassRecord where
  name : String
  category : String
  methods : List String
  isConcrete : Bool
  deriving Repr, DecidableEq

end SurfaceCoverage
