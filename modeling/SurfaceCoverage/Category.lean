import SurfaceCoverage.Text.Order

/-!
# Categories

Every type belongs to a category.  A source root declares the category of its types, or leaves it
to their names: then the first suffix that a name ends with decides.

**Results.**
* `mem_inReportOrder`: the report lists exactly the categories that occur.
-/

namespace SurfaceCoverage

namespace Category

/-- The declaration that leaves the category to the name. -/
def auto : String := "auto"

/-- Blocks. -/
def block : String := "block"

/-- Items. -/
def item : String := "item"

/-- Entities. -/
def entity : String := "entity"

/-- Goals of entities. -/
def aiGoal : String := "ai_goal"

/-- Tasks, sensors and memories of entities. -/
def aiBrain : String := "ai_brain"

/-- Controls of entities. -/
def aiControl : String := "ai_control"

/-- Path finding of entities. -/
def aiPathing : String := "ai_pathing"

/-- Types whose names tell nothing. -/
def other : String := "other"

/-- The order of the known categories in reports. -/
def reportOrder : List String :=
  [block, item, entity, aiGoal, aiBrain, aiControl, aiPathing, other]

/-- The suffixes that tell a category, in the order in which they are tried. -/
def suffixRules : List (String × String) :=
  [("Goal", aiGoal),
    ("Task", aiBrain), ("Sensor", aiBrain), ("Memory", aiBrain),
    ("Control", aiControl),
    ("Navigation", aiPathing), ("PathNodeMaker", aiPathing),
    ("Entity", entity)]

/-- Whether a name ends with a suffix. -/
def endsWith (name suffix : String) : Bool :=
  suffix.toList.isSuffixOf name.toList

/-- The category that a name tells. -/
def ofName (name : String) : String :=
  match suffixRules.find? fun rule => endsWith name rule.1 with
  | some rule => rule.2
  | none => other

/-- The declared category, or the one that the name tells if that was left to it. -/
def resolve (declared name : String) : String :=
  if declared = auto then ofName name else declared

/-- The categories in the order of reports, each once: the known ones first, then the others. -/
def inReportOrder (categories : List String) : List String :=
  reportOrder.filter (fun c => categories.contains c) ++
    (Text.sorted categories).eraseDups.filter (fun c => !reportOrder.contains c)

@[simp]
theorem mem_inReportOrder (categories : List String) (c : String) :
    c ∈ inReportOrder categories ↔ c ∈ categories := by
  by_cases h : c ∈ reportOrder
  · simp [inReportOrder, h]
  · simp [inReportOrder, h]

end Category

end SurfaceCoverage
