import SurfaceCoverage.OrderedMap

/-!
# JSON documents

The members of an object are listed in the order in which their names were first written.
-/

namespace SurfaceCoverage

/-- A JSON document. -/
inductive Json where
  | null
  | bool (b : Bool)
  | int (n : Int)
  | float (x : Float)
  | text (s : String)
  | list (items : List Json)
  | object (members : List (String × Json))
  deriving Inhabited

namespace Json

/-- The member of an object with the given name. -/
def member? (name : String) : Json → Option Json
  | .object members => OrderedMap.lookup name members
  | _ => none

/-- The text of a document that is a text. -/
def text? : Json → Option String
  | .text s => some s
  | _ => none

/-- The truth value of a document that is one. -/
def bool? : Json → Option Bool
  | .bool b => some b
  | _ => none

/-- The items of a document that is an array. -/
def items? : Json → Option (List Json)
  | .list items => some items
  | _ => none

theorem text?_eq_some_iff {j : Json} {s : String} :
    j.text? = some s ↔ j = .text s := by
  cases j <;> simp [text?]

end Json

end SurfaceCoverage
