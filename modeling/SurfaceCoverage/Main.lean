import Std.Time
import SurfaceCoverage.CommandLine.Execution
import SurfaceCoverage.Files.Changes

/-!
# The program

The program takes over from the file system what the command line and the settings lead to, executes
the command line on it, and writes back what has changed.
-/

namespace SurfaceCoverage

namespace Program

open Files

/-- An entry of a directory of the file system. -/
def entryAt (names : List String) : IO.FS.DirEntry :=
  ⟨(Path.ofNames names.dropLast).text, names.getLast?.getD "."⟩

/-- What kind of entry stands at the given names, without following links. -/
def kindAt (names : List String) : IO (Option IO.FS.FileType) := do
  try
    return some (← (entryAt names).path.symlinkMetadata).type
  catch _ => return none

/-- The content of a file, if it can be read. -/
def contentAt (names : List String) : IO (Option ByteArray) := do
  try
    return some (← IO.FS.readBinFile (entryAt names).path)
  catch _ => return none

/-- The names of the entries of a directory, if it can be listed. -/
def listAt (names : List String) : IO (Option (List String)) := do
  try
    return some ((← (entryAt names).path.readDir).toList.map fun e => e.fileName)
  catch _ => return none

/-- The names to which a link leads, if it leads anywhere. -/
def targetAt (names : List String) : IO (Option (List String)) := do
  try
    return some (Path.namesOf (← IO.FS.realPath (entryAt names).path).toString)
  catch _ => return none

/-- What was found in the file system: a node, the targets of the links in it, and what cannot be
read or listed there. -/
structure Found where
  node : Node
  targets : List (List String)
  denied : List (Access × List String)

/-- What stands at the given names with all that is below it. -/
partial def treeAt (names : List String) : IO (Option Found) := do
  match ← kindAt names with
  | some .file =>
      match ← contentAt names with
      | some content => return some ⟨.file content, [], []⟩
      | none => return some ⟨.file ByteArray.empty, [], [(.read, names)]⟩
  | some .symlink =>
      return (← targetAt names).map fun target =>
        ⟨.link (Path.ofNames target).text, [target], []⟩
  | some .dir =>
      match ← listAt names with
      | none => return some ⟨.directory [], [], [(.list, names)]⟩
      | some entries =>
          let mut inner := []
          for name in entries do
            if let some found ← treeAt (names ++ [name]) then
              inner := inner ++ [(name, found)]
          return some
            ⟨.directory (inner.map fun e => (e.1, e.2.node)), inner.flatMap fun e => e.2.targets,
              inner.flatMap fun e => e.2.denied⟩
  | _ => return none

/-- The disk on which an access is denied. -/
def deny (d : Disk) (access : Access × List String) : Disk :=
  { d with guard := d.guard.denying access.1 access.2 }

/-- Makes sure that a directory stands at the given names. -/
def withDirectory (d : Disk) (names : List String) : Disk :=
  match d.root.at? names with
  | some (.directory _) => d
  | _ => d.put names (.directory [])

/-- Takes over what stands on the way along names from a directory that is taken over. -/
partial def takeWay (d : Disk) (here : List String) : List String → IO Disk
  | [] => return d
  | name :: rest => do
      let there := if name = ".." then here.dropLast else here ++ [name]
      match ← kindAt there with
      | some .dir => takeWay (withDirectory d there) there rest
      | some .file =>
          match ← contentAt there with
          | some content => return d.put there (.file content)
          | none => return deny (d.put there (.file ByteArray.empty)) (.read, there)
      | some .symlink =>
          match ← targetAt there with
          | some target =>
              let d := d.put there (.link (Path.ofNames target).text)
              takeWay d [] (target ++ rest)
          | none => return d
      | _ => return d

/-- Takes over what a path leads to, apart from the entries of a directory. -/
def takePath (d : Disk) (p : Path) : IO Disk :=
  match d.expandHome p with
  | .error _ => return d
  | .ok p => takeWay d [] (d.start p ++ p.names)

/-- Takes over what a path leads to, with all entries of a directory. -/
def takeTree (d : Disk) (p : Path) : IO Disk := do
  let d ← takePath d p
  match d.place true p with
  | .found names =>
      match ← treeAt names with
      | some found =>
          let d := found.denied.foldl deny (d.put names found.node)
          found.targets.foldlM (fun d t => takePath d (Path.ofNames t)) d
      | none => return d
  | _ => return d

/-- Takes over what settings lead to. -/
def takeSettings (d : Disk) (s : Settings) : IO Disk := do
  let files := s.classes.toList ++ s.tables.toList ++ s.families.map Registry.Family.generated
  let reports :=
    [Report.referenceFile, Report.targetFile, Report.analysisFile].map s.output.child
  let d ← (files ++ reports).foldlM takePath d
  (s.reference.sources ++ s.target.sources).foldlM (fun d r => takeTree d r.path) d

/-- Takes over what arguments lead to. -/
def takeArguments (d : Disk) (a : CommandLine.Arguments) : IO Disk := do
  let project := Path.ofString a.project
  let settings := a.settings.map Path.ofString
  let output := a.output.map Path.ofString
  let reports := output.toList.flatMap fun o =>
    [Report.referenceFile, Report.targetFile, Report.analysisFile].map o.child
  let places :=
    [project, project.child Settings.fileName] ++
      settings.toList.flatMap (fun p => [p, p.child Settings.fileName]) ++
      (a.logFile.map Path.ofString).toList ++ reports
  let d ← places.foldlM takePath d
  match Analysis.settingsOf .usual d project settings with
  | .error _ => return d
  | .ok s => takeSettings d s

/-- Writes a file of the disk to the file system. -/
def putBack (f : List String × ByteArray) : IO Unit := do
  IO.FS.createDirAll (Path.ofNames f.1.dropLast).text
  IO.FS.writeBinFile (Path.ofNames f.1).text f.2

/-- A number with at least the given count of digits. -/
def padded (width n : Nat) : String :=
  String.ofList (Decimal.padLeft width (Decimal.digitChars n))

/-- What a log file has in front of every line. -/
def timeStamp : IO String := do
  let now ← Std.Time.PlainDateTime.now
  let date := now.date
  let time := now.time
  let day :=
    s!"{padded 4 date.year.toInt.toNat}-{padded 2 date.month.val.toNat}-" ++
      padded 2 date.day.val.toNat
  let clock :=
    s!"{padded 2 time.hour.val.toNat}:{padded 2 time.minute.val.toNat}:" ++
      padded 2 time.second.val.toNat
  return s!"{day} {clock},{padded 3 (time.nanosecond.val.toNat / 1000000)} "

/-- The disk before anything is taken over. -/
def blankDisk : IO Disk := do
  let current := Path.namesOf (← IO.currentDir).toString
  let home := (← IO.getEnv "HOME").getD "/"
  takePath ⟨.directory [], current, home, [], .usual⟩ (Path.ofNames current)

/-- Executes a command line on the file system. -/
def run (words : List String) : IO UInt32 := do
  let blank ← blankDisk
  let disk ←
    match CommandLine.Arguments.ofWords words with
    | .error _ => pure blank
    | .ok a => takeArguments blank a
  let ending := CommandLine.execute .usual (.start disk (← timeStamp)) [] words
  (Node.changes disk.root ending.session.disk.root).forM putBack
  IO.print ending.out
  IO.eprint ending.err
  match ending.result with
  | .ok code => return code.toUInt32
  | .error f =>
      IO.eprintln f.message
      return 1

end Program

end SurfaceCoverage

/-- The program on its command line. -/
def main (words : List String) : IO UInt32 :=
  SurfaceCoverage.Program.run words
