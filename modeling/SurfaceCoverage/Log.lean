/-!
# Log lines

A log line has a level, the name of its logger, and a message.  A console shows the lines that
reach its level; a log file takes down every line from the debug level on.  A step of a run gives
its lines together with its result.

**Results.**
* `result_andThen`, `result_bind`: the results of two steps follow each other.
-/

namespace SurfaceCoverage

namespace Log

/-- The number of a level; higher is more urgent. -/
abbrev Level := Nat

/-- Details for tracing a run. -/
def debug : Level := 10

/-- Progress of a run. -/
def info : Level := 20

/-- Something that the user should look at. -/
def warning : Level := 30

/-- The word for a level. -/
def levelText (level : Level) : String :=
  match level with
  | 0 => "NOTSET"
  | 10 => "DEBUG"
  | 20 => "INFO"
  | 30 => "WARNING"
  | 40 => "ERROR"
  | 50 => "CRITICAL"
  | n => s!"Level {n}"

/-- The name above all loggers of the program. -/
def rootName : String := "porttrack"

/-- The full name of a logger. -/
def loggerName (name : Option String) : String :=
  match name with
  | none => rootName
  | some n => if n = "" then rootName else rootName ++ "." ++ n

/-- A log line. -/
structure Line where
  level : Level
  logger : String
  message : String
  deriving Repr, DecidableEq

/-- A line of the logger with the given short name. -/
def line (name : String) (level : Level) (message : String) : Line :=
  ⟨level, loggerName (some name), message⟩

/-- A line as the console shows it. -/
def Line.consoleText (l : Line) : String :=
  s!"[porttrack] {levelText l.level} {l.message}\n"

/-- A line as a log file holds it, behind its time stamp. -/
def Line.fileText (stamp : String) (l : Line) : String :=
  s!"{stamp}{levelText l.level} {l.logger}: {l.message}\n"

/-- Whether a line reaches a threshold. -/
def Line.reaches (l : Line) (threshold : Level) : Bool :=
  threshold ≤ l.level

/-- The console text of the lines that reach a threshold. -/
def consoleText (threshold : Level) (lines : List Line) : String :=
  String.join ((lines.filter fun l => l.reaches threshold).map Line.consoleText)

/-- A step of a run: the lines that it logs, and how it ends. -/
structure Step (ε α : Type) where
  lines : List Line
  result : Except ε α

namespace Step

variable {ε δ α β : Type}

/-- A step that logs nothing. -/
def ofResult (r : Except ε α) : Step ε α :=
  ⟨[], r⟩

/-- A step that does nothing but log. -/
def say (lines : List Line) : Step ε Unit :=
  ⟨lines, .ok ()⟩

/-- A step, and then one that needs its result; a step that fails is the last one. -/
def andThen (s : Step ε α) (next : α → Step ε β) : Step ε β :=
  match s.result with
  | .error e => ⟨s.lines, .error e⟩
  | .ok a => ⟨s.lines ++ (next a).lines, (next a).result⟩

instance : Monad (Step ε) where
  pure a := ⟨[], .ok a⟩
  bind := andThen

/-- The step with its failure seen as another one. -/
def mapError (f : ε → δ) (s : Step ε α) : Step δ α :=
  ⟨s.lines, s.result.mapError f⟩

theorem result_andThen (s : Step ε α) (next : α → Step ε β) :
    (s.andThen next).result = s.result.bind fun a => (next a).result := by
  cases h : s.result <;> simp [andThen, h, Except.bind]

theorem result_bind (s : Step ε α) (next : α → Step ε β) :
    (s >>= next).result = s.result >>= fun a => (next a).result :=
  result_andThen s next

theorem result_mapError (f : ε → δ) (s : Step ε α) :
    (s.mapError f).result = s.result.mapError f :=
  rfl

end Step

end Log

end SurfaceCoverage
