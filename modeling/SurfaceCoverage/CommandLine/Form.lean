/-!
# Forms of the command line

A form says which options a command takes, how it is used, and what its help says.

**Results.**
* `Command.ofText?_text`: every command is read back from its word.
-/

namespace SurfaceCoverage

namespace CommandLine

/-- A switch: an option without a value. -/
inductive Switch where
  | help
  | verbose
  | noWrite
  deriving Repr, DecidableEq

/-- A setting: an option with a value. -/
inductive Setting where
  | logFile
  | settings
  | output
  deriving Repr, DecidableEq

/-- What an option does. -/
inductive Effect where
  | switch (s : Switch)
  | setting (s : Setting)
  deriving Repr, DecidableEq

/-- A command. -/
inductive Command where
  | analyze
  | gaps
  deriving Repr, DecidableEq

/-- The commands, in the order in which they are named to the user. -/
def Command.all : List Command :=
  [.analyze, .gaps]

/-- The word for a command. -/
def Command.text : Command → String
  | .analyze => "analyze"
  | .gaps => "gaps"

/-- The command that a word stands for. -/
def Command.ofText? (word : String) : Option Command :=
  Command.all.find? fun c => c.text = word

/-- A form of the command line. -/
structure Form where
  program : String
  options : List (String × Effect)
  usage : String
  details : String

namespace Form

/-- The effect of an option with the given spelling. -/
def effect? (f : Form) (spelling : String) : Option Effect :=
  (f.options.find? fun o => o.1 = spelling).map Prod.snd

/-- All spellings of the options with one effect. -/
def spellings (f : Form) (e : Effect) : List String :=
  (f.options.filter fun o => o.2 = e).map Prod.fst

/-- What the help option shows. -/
def help (f : Form) : String :=
  f.usage ++ "\n" ++ f.details

end Form

/-- The options that every form has. -/
def sharedOptions : List (String × Effect) :=
  [("-h", .switch .help), ("--help", .switch .help), ("-v", .switch .verbose),
    ("--verbose", .switch .verbose)]

/-- Lines, each with its end. -/
def textOfLines (lines : List String) : String :=
  String.join (lines.map (· ++ "\n"))

/-- What the help says about the project. -/
def projectLines : List String :=
  ["positional arguments:",
    "  path                  Project root holding .porttrack.yml and the sources",
    "                        (defaults to current directory).", ""]

/-- What the help says about the options that every command has. -/
def optionLines : List String :=
  ["options:",
    "  -h, --help            show this help message and exit",
    "  -v, --verbose         Increase log verbosity for troubleshooting.",
    "  --config CONFIG_FILE  Read settings from this YAML file instead of",
    "                        PATH/.porttrack.yml; paths in it stay relative to",
    "                        PATH."]

/-- The form in front of a command. -/
def mainForm : Form :=
  { program := "porttrack"
    options := sharedOptions ++ [("--log-file", .setting .logFile)]
    usage :=
      textOfLines
        ["usage: porttrack [-h] [-v] [--log-file LOG_FILE] \x7banalyze,gaps\x7d ..."]
    details :=
      textOfLines
        ["Measure how much of a reference codebase's type surface a port implements.", "",
          "positional arguments:",
          "  \x7banalyze,gaps\x7d",
          "    analyze            Extract both codebases, score coverage and write JSON",
          "                       reports.",
          "    gaps               List tracked methods that have no reimplementation",
          "                       counterpart yet.", "",
          "options:",
          "  -h, --help           show this help message and exit",
          "  -v, --verbose        Increase log verbosity for troubleshooting.",
          "  --log-file LOG_FILE  Also write debug logs to this file."] }

/-- The form of the command that analyzes a project. -/
def analyzeForm : Form :=
  { program := "porttrack analyze"
    options :=
      sharedOptions ++
        [("--config", .setting .settings), ("--output-dir", .setting .output),
          ("--no-write", .switch .noWrite)]
    usage :=
      textOfLines
        ["usage: porttrack analyze [-h] [-v] [--config CONFIG_FILE]",
          "                         [--output-dir OUTPUT_DIR] [--no-write]",
          "                         [path]"]
    details :=
      textOfLines
        (projectLines ++ optionLines ++
          ["  --output-dir OUTPUT_DIR",
            "                        Directory for reference.json, target.json and",
            "                        analysis.json.",
            "  --no-write            Print the summary without writing report files."]) }

/-- The form of the command that lists methods. -/
def gapsForm : Form :=
  { program := "porttrack gaps"
    options := sharedOptions ++ [("--config", .setting .settings)]
    usage :=
      textOfLines ["usage: porttrack gaps [-h] [-v] [--config CONFIG_FILE] [path]"]
    details := textOfLines (projectLines ++ optionLines) }

/-- The form of a command. -/
def Command.form : Command → Form
  | .analyze => analyzeForm
  | .gaps => gapsForm

@[simp]
theorem Command.ofText?_text (c : Command) :
    Command.ofText? c.text = some c := by
  cases c <;> rfl

end CommandLine

end SurfaceCoverage
