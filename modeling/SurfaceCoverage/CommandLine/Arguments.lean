import SurfaceCoverage.CommandLine.Words

/-!
# The arguments of a command line

The words in front of the command belong to the main form, those behind it to the form of the
command.  A command takes at most one word that is no option, the project; words that are left over
are refused together, once both forms are read.
-/

namespace SurfaceCoverage

namespace CommandLine

/-- What a command line asks for. -/
structure Arguments where
  command : Command
  verbose : Bool
  logFile : Option String
  project : String
  settings : Option String
  output : Option String
  write : Bool
  deriving Repr, DecidableEq

/-- Why a command line asks for no run. -/
inductive Stop where
  | help (f : Form)
  | refused (f : Form) (error : UsageError)

/-- What words that are no options mean where they stand. -/
inductive Slot where
  | command
  | project
  | projectBehindDashes
  | projectDashes
  | closed
  deriving Repr, DecidableEq

/-- What is read of a form. -/
structure Given where
  switches : List Switch
  settings : List (Setting × String)
  command : Option (String × List String)
  project : Option String
  extras : List String

namespace Given

/-- Nothing is read. -/
def nothing : Given :=
  ⟨[], [], none, none, []⟩

/-- Adds switches in front. -/
def withSwitches (s : List Switch) (g : Given) : Given :=
  { g with switches := s ++ g.switches }

/-- Adds a setting in front. -/
def withSetting (s : Setting) (value : String) (g : Given) : Given :=
  { g with settings := (s, value) :: g.settings }

/-- Adds words that are left over in front. -/
def withExtras (words : List String) (g : Given) : Given :=
  { g with extras := words ++ g.extras }

/-- Adds the project. -/
def withProject (word : String) (g : Given) : Given :=
  { g with project := some word }

/-- The value of a setting; the last one counts. -/
def setting? (g : Given) (s : Setting) : Option String :=
  ((g.settings.reverse.find? fun p => p.1 = s)).map Prod.snd

end Given

/-- Reads the words of a form. -/
def readWords (f : Form) : Slot → Words → Except Stop Given
  | _, [] => .ok .nothing
  | slot, (_, .option (.switch s) attached) :: rest =>
      match switchesOf f s attached with
      | .error e => .error (.refused f e)
      | .ok (switches, left) =>
          if .help ∈ switches then .error (.help f)
          else
            (readWords f (afterOption slot) rest).map fun g =>
              (g.withExtras left.toList).withSwitches switches
  | slot, (_, .option (.setting s) (.value v)) :: rest =>
      (readWords f (afterOption slot) rest).map (Given.withSetting s v)
  | slot, (_, .option (.setting s) (.letters cs)) :: rest =>
      (readWords f (afterOption slot) rest).map (Given.withSetting s (String.ofList cs))
  | slot, (_, .option (.setting s) .nothing) :: (v, .plain) :: rest =>
      (readWords f (afterOption slot) rest).map (Given.withSetting s v)
  | _, (_, .option (.setting s) .nothing) :: _ =>
      .error (.refused f (.lacksValue (f.spellings (.setting s))))
  | slot, (word, .unknown) :: rest =>
      (readWords f (afterOption slot) rest).map (Given.withExtras [word])
  | .command, (word, .plain) :: rest =>
      .ok { Given.nothing with command := some (word, rest.map Prod.fst) }
  | .command, [(word, .dashes)] => .ok (Given.nothing.withExtras [word])
  | .command, (word, .dashes) :: rest =>
      .ok { Given.nothing with command := some (word, rest.map Prod.fst) }
  | .project, (word, .plain) :: rest =>
      (readWords f .projectDashes rest).map (Given.withProject word)
  | .project, (_, .dashes) :: rest => readWords f .projectBehindDashes rest
  | .projectBehindDashes, (word, _) :: rest =>
      (readWords f .closed rest).map (Given.withProject word)
  | .projectDashes, (_, .dashes) :: rest => readWords f .closed rest
  | _, (word, _) :: rest => (readWords f .closed rest).map (Given.withExtras [word])
where
  /-- What the words behind an option mean. -/
  afterOption : Slot → Slot
    | .projectDashes => .closed
    | slot => slot

/-- Reads the words behind a command. -/
def readCommand (c : Command) (words : List String) : Except Stop Given :=
  match rolesOf c.form words with
  | .error e => .error (.refused c.form e)
  | .ok roles => readWords c.form .project roles

/-- Reads all words. -/
def Arguments.ofWords (words : List String) : Except Stop Arguments :=
  match rolesOf mainForm words with
  | .error e => .error (.refused mainForm e)
  | .ok roles =>
      match readWords mainForm .command roles with
      | .error e => .error e
      | .ok before =>
          match before.command with
          | none => .error (.refused mainForm .noCommand)
          | some (word, rest) =>
              match Command.ofText? word with
              | none => .error (.refused mainForm (.unknownCommand word))
              | some c =>
                  match readCommand c rest with
                  | .error e => .error e
                  | .ok behind =>
                      let extras := before.extras ++ behind.extras
                      if extras ≠ [] then .error (.refused mainForm (.unrecognized extras))
                      else
                        .ok
                          { command := c
                            verbose := (before.switches ++ behind.switches).contains .verbose
                            logFile := before.setting? .logFile
                            project := behind.project.getD "."
                            settings := behind.setting? .settings
                            output := behind.setting? .output
                            write := !behind.switches.contains .noWrite }

end CommandLine

end SurfaceCoverage
