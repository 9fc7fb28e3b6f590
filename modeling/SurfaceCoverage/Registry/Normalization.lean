import SurfaceCoverage.Text.CaseMap
import SurfaceCoverage.Text.Quoted

/-!
# Normalized identifiers

The two sides of a registry family may write one identifier in different case.  A family says how
identifiers are made comparable.

**Results.**
* `ofText?_text`: every normalization is read back from its word.
-/

namespace SurfaceCoverage

namespace Registry

/-- How identifiers are made comparable. -/
inductive Normalization where
  | lower
  | upper
  | none
  deriving Repr, DecidableEq

namespace Normalization

/-- All normalizations, in the order in which they are named to the user. -/
def all : List Normalization :=
  [.lower, .upper, .none]

/-- The word for a normalization. -/
def text : Normalization → String
  | .lower => "lower"
  | .upper => "upper"
  | .none => "none"

/-- The normalization that a word stands for. -/
def ofText? (word : String) : Option Normalization :=
  all.find? fun n => n.text = word

/-- The comparable form of an identifier. -/
def apply : Normalization → String → String
  | .lower, id => Text.lower id
  | .upper, id => Text.upper id
  | .none, id => id

@[simp]
theorem ofText?_text (n : Normalization) :
    ofText? n.text = some n := by
  cases n <;> rfl

/-- What is wrong with a word that stands for no normalization. -/
def unknownMessage (word : String) : String :=
  Text.quoted word ++ " is not a valid IdNormalization"

end Normalization

end Registry

end SurfaceCoverage
