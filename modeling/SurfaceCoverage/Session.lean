import SurfaceCoverage.Files.Disk
import SurfaceCoverage.Log

/-!
# Sessions

A session is a run of the program as far as it has come: the files as they stand, where log lines
go, and the lines that were logged.  With a log file everything from the debug level on is taken
down there, whatever the console shows.

**Results.**
* `logAll_nil`: without lines nothing happens.
-/

namespace SurfaceCoverage

/-- A run of the program as far as it has come. -/
structure Session where
  disk : Files.Disk
  console : Log.Level
  logFile : Option Files.Path
  stamp : String
  lines : List Log.Line

namespace Session

/-- The session that starts with the given files. -/
def start (d : Files.Disk) (stamp : String) : Session :=
  ⟨d, Log.info, none, stamp, []⟩

/-- The level from which on lines are logged at all. -/
def threshold (s : Session) : Log.Level :=
  if s.logFile.isSome then Log.debug else s.console

/-- The files after the given lines were taken down, one after another.  A line that cannot be
written, or only in part, does not end the run. -/
def taken (s : Session) (lines : List Log.Line) : Files.Disk :=
  match s.logFile with
  | none => s.disk
  | some p => lines.foldl (fun d l => (d.append p (l.fileText s.stamp).toUTF8).1) s.disk

/-- Logs lines. -/
def logAll (s : Session) (lines : List Log.Line) : Session :=
  let heard := lines.filter fun l => l.reaches s.threshold
  if heard.isEmpty then s
  else { s with disk := s.taken heard, lines := s.lines ++ heard }

/-- What the console has shown. -/
def consoleText (s : Session) : String :=
  Log.consoleText s.console s.lines

/-- The level of the console: everything, or only what is urgent, or what is in between. -/
def levelFor (verbose quiet : Bool) : Log.Level :=
  if verbose then Log.debug else if quiet then Log.warning else Log.info

/-- Opens a log file, in a directory that is made if it is missing. -/
def openLogFile (s : Session) (p : Files.Path) : Session × Except Files.FileError Unit :=
  match s.disk.makeDirectories p.parent with
  | (d, .error e) => ({ s with disk := d }, .error e)
  | (d, .ok ()) =>
      match d.absolute p with
      | .error e => ({ s with disk := d }, .error e)
      | .ok path =>
          match d.touch path with
          | .error e => ({ s with disk := d }, .error e)
          | .ok d => ({ s with disk := d, logFile := some path }, .ok ())

/-- Says anew where log lines go. -/
def configure (s : Session) (verbose quiet : Bool) (logFile : Option Files.Path) :
    Session × Except Files.FileError Unit :=
  let s := { s with console := levelFor verbose quiet, logFile := none }
  match logFile with
  | none => (s, .ok ())
  | some p => s.openLogFile p

@[simp]
theorem logAll_nil (s : Session) :
    s.logAll [] = s := by
  simp [logAll]

end Session

end SurfaceCoverage
