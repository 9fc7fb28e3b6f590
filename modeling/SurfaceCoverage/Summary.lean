import SurfaceCoverage.Category
import SurfaceCoverage.Coverage
import SurfaceCoverage.Decimal.Fixed

/-!
# Summaries

A summary adds the counts of all records of one category before it takes their share.

**Results.**
* `category_mem_summarize`: exactly the categories that occur are summed up.
-/

namespace SurfaceCoverage

/-- The sum of counts. -/
def total : List Nat → Nat
  | [] => 0
  | n :: rest => n + total rest

/-- The counts of the records of one category. -/
structure CategorySummary where
  category : String
  classes : Nat
  implemented : Nat
  tracked : Nat
  deriving Repr, DecidableEq

namespace CategorySummary

/-- The share of tracked methods that the target has. -/
def percentage (s : CategorySummary) : Float :=
  SurfaceCoverage.percentage s.implemented s.tracked

/-- The sums over records. -/
def ofRecords (category : String) (records : List CoverageRecord) : CategorySummary :=
  { category := category
    classes := records.length
    implemented := total (records.map CoverageRecord.implementedCount)
    tracked := total (records.map CoverageRecord.trackedCount) }

/-- One line of the summary. -/
def line (s : CategorySummary) : String :=
  s!"{s.category}: {s.classes} classes, {Decimal.oneDecimal s.percentage}% implemented"

end CategorySummary

/-- The summaries of the categories that occur, in the order of reports. -/
def summarize (records : List CoverageRecord) : List CategorySummary :=
  (Category.inReportOrder (records.map CoverageRecord.category)).map fun c =>
    .ofRecords c (records.filter fun r => r.category = c)

/-- The text of summaries. -/
def summaryText (summaries : List CategorySummary) : String :=
  "\n".intercalate
    ("=== Summary by Type ===" ::
      (if summaries.isEmpty then ["(no tracked classes)"] else summaries.map CategorySummary.line))

/-- The text of the methods without counterpart. -/
def gapsText (gaps : List (String × String)) : String :=
  "\n".intercalate
    ("=== Methods still to implement ===" ::
      (if gaps.isEmpty then ["(none)"] else gaps.map fun g => s!"  {g.1}: {g.2}"))

theorem category_mem_summarize (records : List CoverageRecord) (c : String) :
    c ∈ (summarize records).map CategorySummary.category ↔
      ∃ r ∈ records, r.category = c := by
  simp [summarize, CategorySummary.ofRecords]

end SurfaceCoverage
