import SurfaceCoverage.Category
import SurfaceCoverage.OrderedMap
import SurfaceCoverage.Registry.Family

/-!
# Settings

The settings of a project name the source roots of both sides, the registry that connects their
classes, the method tables, and the directory for the reports.  Every setting has a default.
-/

namespace SurfaceCoverage

/-- A source root, and the category of its types. -/
structure SourceRoot where
  path : Files.Path
  category : String
  deriving Repr, DecidableEq

/-- One side of the comparison. -/
structure Side where
  grammar : String
  sources : List SourceRoot
  deriving Repr, DecidableEq

/-- The settings of a project. -/
structure Settings where
  root : Files.Path
  reference : Side
  target : Side
  classes : Option Files.Path
  families : List Registry.Family
  tables : Option Files.Path
  categories : OrderedMap String String
  defaultTable : Option String
  output : Files.Path

namespace Settings

/-- The name of the file with the settings. -/
def fileName : String := ".porttrack.yml"

/-- The directory of the reference sources. -/
def referenceRoot : String := "sources/yarn/build/namedSrc/net/minecraft"

/-- The directory of the target sources. -/
def targetRoot : String := "sources/SteelMC/steel-core"

/-- The source roots of the reference, with their categories. -/
def referenceSources : List (String × String) :=
  [(referenceRoot ++ "/block", Category.block),
    (referenceRoot ++ "/item", Category.item),
    (referenceRoot ++ "/entity", Category.auto)]

/-- The source roots of the target, with their categories. -/
def targetSources : List (String × String) :=
  [(targetRoot ++ "/src/behavior/blocks", Category.block),
    (targetRoot ++ "/src/behavior/items", Category.item),
    (targetRoot ++ "/src/entity", Category.entity)]

/-- The pattern for the registration of a block. -/
def blockPattern : String :=
  "vanilla_blocks\\s*::\\s*(?P<id>\\w+)\\s*,\\s*Box\\s*::\\s*new\\s*\\(\\s*(?P<type>\\w+)\\s*::"

/-- The pattern for the registration of an item. -/
def itemPattern : String :=
  "vanilla_items\\s*::\\s*ITEMS\\s*\\.\\s*(?P<id>\\w+)\\s*,\\s*Box\\s*::\\s*new\\s*\\(\\s*" ++
    "(?P<type>\\w+)"

/-- The settings of a standard family. -/
def standardFamily (name entries file pattern : String) (n : Registry.Normalization) :
    Registry.FamilyFields :=
  { name := .ok name
    category := .ok (some name)
    entries := .ok (some entries)
    generated := .ok (some (targetRoot ++ "/src/behavior/generated/" ++ file))
    pattern := .ok (some pattern)
    normalize := .ok (some n.text) }

/-- The settings of the standard families. -/
def standardFamilies : List Registry.FamilyFields :=
  [standardFamily Category.block "blocks" "blocks.rs" blockPattern .lower,
    standardFamily Category.item "items" "items.rs" itemPattern .none]

/-- The method tables of categories. -/
def standardRoutes : List (String × String) :=
  [(Category.block, "block"), (Category.item, "item"), (Category.entity, "entity"),
    (Category.aiGoal, "goal"), (Category.aiBrain, "goal")]

/-- The source roots below a directory. -/
def rootsBelow (root : Files.Path) (sources : List (String × String)) : List SourceRoot :=
  sources.map fun s => ⟨root.join (.ofString s.1), s.2⟩

/-- Reads families; the first bad one decides the error. -/
def readFamilies (d : Pattern.Dialect) (root : Files.Path) :
    List Registry.FamilyFields → Except Registry.FamilyError (List Registry.Family)
  | [] => .ok []
  | f :: rest => do
      let family ← Registry.Family.ofFields d root f
      let families ← readFamilies d root rest
      return family :: families

/-- The settings of a project without a file for them. -/
def standard (d : Pattern.Dialect) (root : Files.Path) : Except Registry.FamilyError Settings :=
  (readFamilies d root standardFamilies).map fun families =>
    { root := root
      reference := ⟨"java", rootsBelow root referenceSources⟩
      target := ⟨"rust", rootsBelow root targetSources⟩
      classes := some (root.join (.ofString (targetRoot ++ "/build/classes.json")))
      families := families
      tables := none
      categories := OrderedMap.ofList standardRoutes
      defaultTable := some "entity"
      output := root.join (.ofString "outputs") }

end Settings

end SurfaceCoverage
