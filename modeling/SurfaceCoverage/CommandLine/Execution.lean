import SurfaceCoverage.CommandLine.Arguments
import SurfaceCoverage.Failure

/-!
# Executing a command line

A command line that is refused ends with the code 2, a run that fails with the code 1, and
everything else with 0.  What a run cannot cope with is passed on.
-/

namespace SurfaceCoverage

namespace CommandLine

/-- What a run cannot cope with: the log file cannot be opened, the list of gaps fails, or a report
that was written cannot be shown. -/
inductive Fatal where
  | logFile (error : Files.FileError)
  | analysis (error : AnalysisError)
  | shown (error : Files.PathError)

/-- What a run cannot cope with, in words. -/
def Fatal.message : Fatal → String
  | .logFile error => error.message
  | .analysis error => error.message
  | .shown error => error.message

/-- How a run ends. -/
structure Ending where
  session : Session
  result : Except Fatal Nat
  out : String
  report : String

/-- All that is reported: log lines first. -/
def Ending.err (e : Ending) : String :=
  e.session.consoleText ++ e.report

/-- The path that is shown for a report: below the current directory, if it lies there. -/
def shownPath (d : Files.Disk) (p : Files.Path) : Except Files.PathError String :=
  match d.resolve p with
  | .error (.unfit _) => .ok p.text
  | .error e => .error e
  | .ok q => do
      let current ← (d.absolute ⟨.here, []⟩).mapError .file
      return ((q.relativeTo? current).getD p).text

/-- The lines about reports that were written, up to the first one that cannot be shown. -/
def writtenText (d : Files.Disk) : List Files.Path → String × Except Files.PathError Unit
  | [] => ("", .ok ())
  | p :: rest =>
      match shownPath d p with
      | .error e => ("", .error e)
      | .ok shown =>
          let (text, result) := writtenText d rest
          (s!"Wrote {shown}\n" ++ text, result)

/-- Reports a failed run. -/
def failed (s : Session) (command : Command) (e : AnalysisError) : Ending :=
  let hint := if e.kind = .unforeseen then "Run with --verbose for more details.\n" else ""
  ⟨s, .ok 1, "", s!"porttrack {command.text} failed: {e.message}\n{hint}"⟩

/-- The analysis that is asked for. -/
def requestOf (a : Arguments) : Analysis.Request :=
  { project := .ofString a.project
    settings := a.settings.map .ofString
    output := a.output.map .ofString
    write := a.write }

/-- Analyzes a project. -/
def executeAnalyze (r : Runtime) (s : Session) (plugins : List Plugin) (a : Arguments) : Ending :=
  match (Analysis.run r plugins (requestOf a)).run.run s with
  | (.error e, s) => failed s .analyze e
  | (.ok o, s) =>
      match writtenText s.disk o.written with
      | (text, .error e) => ⟨s, .error (.shown e), text, ""⟩
      | (text, .ok ()) => ⟨s, .ok 0, text ++ summaryText o.summaries ++ "\n", ""⟩

/-- The methods without a counterpart in the tables of a project. -/
def gapsOf (r : Runtime) (a : Arguments) : Analysis.Run (List (String × String)) := do
  let settings ← Analysis.take .settings fun d =>
    .ofResult (Analysis.settingsOf r d (.ofString a.project) (a.settings.map .ofString))
  let tables ← Analysis.take .tables fun d => .ofResult (Analysis.tablesOf r d settings)
  return tables.knownGaps

/-- Lists methods without a counterpart. -/
def executeGaps (r : Runtime) (s : Session) (a : Arguments) : Ending :=
  match (gapsOf r a).run.run s with
  | (.error e, s) =>
      if e.kind = .refusal then failed s .gaps e else ⟨s, .error (.analysis e), "", ""⟩
  | (.ok gaps, s) => ⟨s, .ok 0, gapsText gaps ++ "\n", ""⟩

/-- Executes a command. -/
def executeCommand (r : Runtime) (s : Session) (plugins : List Plugin) (a : Arguments) : Ending :=
  match a.command with
  | .analyze => executeAnalyze r s plugins a
  | .gaps => executeGaps r s a

/-- Executes a command line. -/
def execute (r : Runtime) (s : Session) (plugins : List Plugin) (words : List String) : Ending :=
  match Arguments.ofWords words with
  | .error (.help f) => ⟨s, .ok 0, f.help, ""⟩
  | .error (.refused f e) => ⟨s, .ok 2, "", s!"{f.usage}{f.program}: error: {e.message}\n"⟩
  | .ok a =>
      match s.configure a.verbose (a.command = .gaps) (a.logFile.map .ofString) with
      | (s, .error e) => ⟨s, .error (.logFile e), "", ""⟩
      | (s, .ok ()) => executeCommand r s plugins a

end CommandLine

end SurfaceCoverage
