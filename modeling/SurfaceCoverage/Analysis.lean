import SurfaceCoverage.Extraction
import SurfaceCoverage.MethodTable.Reader
import SurfaceCoverage.MethodTable.Standard
import SurfaceCoverage.Registry.Resolver
import SurfaceCoverage.Report
import SurfaceCoverage.Session
import SurfaceCoverage.Settings.Reader
import SurfaceCoverage.Summary

/-!
# Analysis

An analysis reads the settings of a project, its method tables and its registry, extracts both
sides, scores the reference, and writes three reports.  Nothing is written before everything else
has succeeded.
-/

namespace SurfaceCoverage

/-- Why an analysis fails. -/
inductive AnalysisError where
  | settings (error : Settings.ReadError)
  | tables (error : MethodTables.ReadError)
  | registry (error : Registry.ResolveError)
  | side (error : Extraction.SideError)
  | report (error : Files.FileError)

/-- Why an analysis fails, in words. -/
def AnalysisError.message : AnalysisError → String
  | .settings error => error.message
  | .tables error => error.message
  | .registry error => error.message
  | .side error => error.message
  | .report error => error.message

namespace Analysis

/-- What is asked for. -/
structure Request where
  project : Files.Path
  settings : Option Files.Path
  output : Option Files.Path
  write : Bool

/-- What an analysis finds. -/
structure Outcome where
  reference : List ClassRecord
  target : List ClassRecord
  classes : List CoverageRecord
  summaries : List CategorySummary
  written : List Files.Path

/-- The settings of a project; a file of its own for them leaves the project the place that paths
start from. -/
def settingsOf (r : Runtime) (d : Files.Disk) (project : Files.Path) (file : Option Files.Path) :
    Except Settings.ReadError Settings :=
  match file with
  | none => Settings.ofFile r d project none
  | some file => Settings.ofFile r d file (some project)

/-- The method tables that settings ask for. -/
def tablesOf (r : Runtime) (d : Files.Disk) (s : Settings) :
    Except MethodTables.ReadError MethodTables :=
  let tables : Except MethodTables.ReadError TablesByName :=
    match s.tables with
    | none => .ok MethodTables.standard
    | some p => MethodTables.ofFile r d p
  tables.bind fun tables =>
    (MethodTables.checked tables s.categories s.defaultTable).mapError .table

/-- The line about the class mapping of a category. -/
def mappingLine (category : String) (m : ClassMapping) : Log.Line :=
  Log.line "orchestrator" Log.info s!"Registry family {category}: {m.size} class mappings"

/-- The class mappings that settings ask for. -/
def mappingsOf (d : Files.Disk) (s : Settings) :
    Log.Step Registry.ResolveError (OrderedMap String ClassMapping) :=
  match s.families, s.classes with
  | [], _ => ⟨[], .ok OrderedMap.empty⟩
  | _ :: _, none => ⟨[], .ok OrderedMap.empty⟩
  | families, some path => do
      let table ← .ofResult (Registry.loadTable d path)
      let resolver ← .ofResult (Registry.Resolver.ofFamilies families)
      let mappings ← resolver.resolve d table
      Log.Step.say (mappings.toList.map fun m => mappingLine m.1 m.2)
      return mappings

/-- A part of a run: it may log and write, and it may fail. -/
abbrev Run := ExceptT AnalysisError (StateM Session)

/-- Logs lines. -/
def say (lines : List Log.Line) : Run Unit :=
  modify fun s => s.logAll lines

/-- Takes a step that reads the files as they stand. -/
def take {ε α : Type} (wrap : ε → AnalysisError) (step : Files.Disk → Log.Step ε α) : Run α := do
  let r := step (← get).disk
  say r.lines
  match r.result with
  | .ok a => return a
  | .error e => throw (wrap e)

/-- A line of the analysis itself. -/
def line (level : Log.Level) (message : String) : Log.Line :=
  Log.line "orchestrator" level message

/-- Writes a report. -/
def writeReport (p : Files.Path) (text : String) : Run Files.Path := do
  let (d, result) := (← get).disk.writeText p text
  modify fun s => { s with disk := d }
  match result with
  | .error e => throw (.report e)
  | .ok () => return p

/-- Writes the three reports into a directory. -/
def writeReports (directory : Files.Path) (o : Outcome) : Run Outcome := do
  let reference ←
    writeReport (directory.child Report.referenceFile) (Report.classesText o.reference)
  let target ← writeReport (directory.child Report.targetFile) (Report.classesText o.target)
  let analysis ← writeReport (directory.child Report.analysisFile) (Report.analysisText o.classes)
  let written := [reference, target, analysis]
  say (written.map fun p => line Log.info s!"Wrote {p.text}")
  return { o with written := written }

/-- Scores the reference. -/
def score (a : Analyzer) (reference target : List ClassRecord) : Run Outcome := do
  let classes := a.analyze reference (.ofRecords target)
  say (a.logLines reference)
  say [line Log.info s!"Scored {classes.length} reference classes"]
  return ⟨reference, target, classes, summarize classes, []⟩

/-- Everything that comes before the reports are written: the settings, and what they lead to. -/
def findings (r : Runtime) (plugins : List Plugin) (request : Request) :
    Run (Settings × Outcome) := do
  let settings ← take .settings fun d => .ofResult (settingsOf r d request.project request.settings)
  say [line Log.info s!"Starting analysis for {settings.root.text}"]
  let tables ← take .tables fun d => .ofResult (tablesOf r d settings)
  let mappings ← take .registry fun d => mappingsOf d settings
  let reference ← take .side fun d => Extraction.sideRecords d plugins settings.reference
  let target ← take .side fun d => Extraction.sideRecords d plugins settings.target
  say [line Log.debug
    s!"Collected {reference.length} reference and {target.length} target records"]
  let outcome ← score ⟨tables, mappings⟩ reference target
  return (settings, outcome)

/-- The analysis of a project. -/
def run (r : Runtime) (plugins : List Plugin) (request : Request) : Run Outcome := do
  let (settings, outcome) ← findings r plugins request
  if request.write then writeReports (request.output.getD settings.output) outcome
  else return outcome

end Analysis

end SurfaceCoverage
