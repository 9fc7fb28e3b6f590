import SurfaceCoverage.Coverage
import SurfaceCoverage.Json.Writer

/-!
# Reports

The records of both sides and the coverage of the reference are reported as JSON documents.
-/

namespace SurfaceCoverage

namespace Report

/-- The file for the records of the reference. -/
def referenceFile : String := "reference.json"

/-- The file for the records of the target. -/
def targetFile : String := "target.json"

/-- The file for the coverage. -/
def analysisFile : String := "analysis.json"

/-- A record of one side. -/
def ofClass (r : ClassRecord) : Json :=
  .object
    [("class_name", .text r.name),
      ("class_type", .text r.category),
      ("methods", .list (r.methods.map .text)),
      ("is_real_class", .bool r.isConcrete)]

/-- A tracked method. -/
def ofMethod (m : MethodStatus) : Json :=
  .object [("method_name", .text m.method), ("status", .text m.status.text)]

/-- A coverage record. -/
def ofCoverage (r : CoverageRecord) : Json :=
  .object
    [("class_name", .text r.name),
      ("class_type", .text r.category),
      ("methods", .list (r.methods.map ofMethod)),
      ("percentage_implemented", .float r.percentage)]

/-- The report of the records of one side. -/
def ofClasses (records : List ClassRecord) : Json :=
  .list (records.map ofClass)

/-- The report of the coverage. -/
def ofAnalysis (records : List CoverageRecord) : Json :=
  .object [("classes", .list (records.map ofCoverage))]

/-- The text of the report of the records of one side. -/
def classesText (records : List ClassRecord) : String :=
  (ofClasses records).render

/-- The text of the report of the coverage. -/
def analysisText (records : List CoverageRecord) : String :=
  (ofAnalysis records).render

end Report

end SurfaceCoverage
