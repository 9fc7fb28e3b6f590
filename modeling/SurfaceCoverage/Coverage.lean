import SurfaceCoverage.ClassMapping
import SurfaceCoverage.Log
import SurfaceCoverage.MethodTable
import SurfaceCoverage.TargetIndex

/-!
# Coverage

Every concrete class of the reference is scored: which of its tracked methods does its counterpart
in the target have?  The counterpart is found through the class mapping of its category, or by name
where the category has no mapping.

**Results.**
* `mem_analyze_iff`: the records are those of the reference classes.
-/

namespace SurfaceCoverage

/-- Whether the target has a tracked method. -/
inductive Status where
  | implemented
  | notImplemented
  deriving Repr, DecidableEq

/-- The word for a status. -/
def Status.text : Status → String
  | .implemented => "Implemented"
  | .notImplemented => "NotImplemented"

/-- A tracked method with its status. -/
structure MethodStatus where
  method : String
  status : Status
  deriving Repr, DecidableEq

/-- The share of `part` in `whole` as a percentage; of nothing it is zero. -/
def percentage (part whole : Nat) : Float :=
  if whole = 0 then 0.0 else Float.ofNat part / Float.ofNat whole * 100.0

/-- The tracked methods of a reference class with their statuses. -/
structure CoverageRecord where
  name : String
  category : String
  methods : List MethodStatus
  deriving Repr, DecidableEq

namespace CoverageRecord

/-- How many tracked methods the target has. -/
def implementedCount (r : CoverageRecord) : Nat :=
  r.methods.countP fun m => m.status = .implemented

/-- How many methods are tracked. -/
def trackedCount (r : CoverageRecord) : Nat :=
  r.methods.length

/-- The share of tracked methods that the target has. -/
def percentage (r : CoverageRecord) : Float :=
  SurfaceCoverage.percentage r.implementedCount r.trackedCount

/-- Whether a record comes no later than another one: by name, then by category. -/
def precedes (r s : CoverageRecord) : Bool :=
  if r.name = s.name then Text.precedes r.category s.category else Text.precedes r.name s.name

theorem implementedCount_le (r : CoverageRecord) :
    r.implementedCount ≤ r.trackedCount :=
  List.countP_le_length

end CoverageRecord

/-- What classes are scored by: method tables, and the class mappings of categories. -/
structure Analyzer where
  tables : MethodTables
  mappings : OrderedMap String ClassMapping

namespace Analyzer

/-- The counterpart of a reference class. -/
def counterpart (a : Analyzer) (r : ClassRecord) : Option String :=
  match a.mappings.get? r.category with
  | some mapping => mapping.resolve r.name
  | none => some r.name

/-- The status of a method, given the methods of the counterpart class. -/
def statusIn (table : MethodTable) (available : List String) (method : String) : Status :=
  match table.counterpartFor method with
  | some (.mapped name) => if name ∈ available then .implemented else .notImplemented
  | _ => .notImplemented

/-- The tracked methods of a class, each once. -/
def trackedMethods (table : MethodTable) (r : ClassRecord) : List String :=
  (unite [] r.methods).filter table.tracks

/-- The table of a class that is scored: it is concrete, its category is governed, and it has a
tracked method. -/
def scope (a : Analyzer) (r : ClassRecord) : Option MethodTable :=
  if r.isConcrete then
    (a.tables.tableFor r.category).filter fun table => !(trackedMethods table r).isEmpty
  else
    none

/-- The coverage of one reference class, if it is scored. -/
def track (a : Analyzer) (target : TargetIndex) (r : ClassRecord) : Option CoverageRecord :=
  (a.scope r).map fun table =>
    let available := target.methodsFor (a.counterpart r)
    { name := r.name
      category := r.category
      methods := (trackedMethods table r).map fun m => ⟨m, statusIn table available m⟩ }

/-- The coverage of the reference classes, by name and category. -/
def analyze (a : Analyzer) (reference : List ClassRecord) (target : TargetIndex) :
    List CoverageRecord :=
  (reference.filterMap (a.track target)).mergeSort CoverageRecord.precedes

/-- The line about a scored class that its mapping does not resolve. -/
def unresolvedLine (a : Analyzer) (r : ClassRecord) : Option Log.Line :=
  if (a.scope r).isSome && (a.counterpart r).isNone then
    some (Log.line "coverage" Log.debug s!"No registry mapping for {r.category} {r.name}")
  else
    none

/-- The log lines of an analysis. -/
def logLines (a : Analyzer) (reference : List ClassRecord) : List Log.Line :=
  let scored := reference.filter fun r => (a.scope r).isSome
  reference.filterMap a.unresolvedLine ++
    [Log.line "coverage" Log.debug s!"Scored {scored.length} reference classes"]

theorem mem_analyze_iff (a : Analyzer) (reference : List ClassRecord) (target : TargetIndex)
    (c : CoverageRecord) :
    c ∈ a.analyze reference target ↔ ∃ r ∈ reference, a.track target r = some c := by
  simp [analyze, List.mem_filterMap]

end Analyzer

end SurfaceCoverage
