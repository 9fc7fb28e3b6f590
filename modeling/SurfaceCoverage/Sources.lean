import SurfaceCoverage.Files.Disk
import SurfaceCoverage.Log
import SurfaceCoverage.Text.CaseMap
import SurfaceCoverage.Text.Order

/-!
# Source files

A source root is a directory.  Its source files are the readable files below it that have one of
the wanted suffixes.  In every directory its own files come first and then its directories, both by
name.  Directories that hold no sources of the project are left out, and links to directories are
not followed.  A directory that cannot be listed shows nothing.

**Results.**
* `mem_ownFiles`: the files of a directory are its entries that are no directories.
-/

namespace SurfaceCoverage

open Files

/-- A source file. -/
structure SourceFile where
  path : Path
  content : List UInt8

namespace Sources

/-- The names of directories that hold no sources of the project. -/
def excluded : List String :=
  [".git", ".hg", ".svn", ".gradle", ".idea", ".venv", "node_modules", "target", "__pycache__"]

/-- Whether an entry of the directory at `p` counts as a file: all but directories and links to
directories do. -/
def isFileEntry (d : Disk) (p : Path) (entry : String × Node) : Bool :=
  match entry.2 with
  | .file _ => true
  | .directory _ => false
  | .link _ => !d.isDirectory (p.child entry.1)

/-- The names of the files in a directory, in rising order. -/
def ownFiles (d : Disk) (p : Path) (entries : List (String × Node)) : List String :=
  Text.sorted ((entries.filter (isFileEntry d p)).map Prod.fst)

/-- Whether the first of two named lists of files comes no later. -/
def nameFirst (a b : String × List Path) : Bool :=
  Text.precedes a.1 b.1

mutual

/-- The files below the node at `p`. -/
def below (d : Disk) (p : Path) : Node → List Path
  | .directory entries =>
      if d.canList p then
        (ownFiles d p entries).map p.child ++
          ((belowEach d p entries).mergeSort nameFirst).flatMap Prod.snd
      else []
  | _ => []

/-- The directories among the entries of the directory at `p`, with the files below each. -/
def belowEach (d : Disk) (p : Path) : List (String × Node) → List (String × List Path)
  | [] => []
  | (name, .directory entries) :: rest =>
      if name ∈ excluded then belowEach d p rest
      else (name, below d (p.child name) (.directory entries)) :: belowEach d p rest
  | (_, .file _) :: rest => belowEach d p rest
  | (_, .link _) :: rest => belowEach d p rest

end

/-- The suffix that an extension stands for. -/
def suffixFor (extension : String) : String :=
  if extension.toList.head? = some '.' then Text.lower extension
  else "." ++ Text.lower extension

/-- Whether a path has one of the suffixes, in any case. -/
def hasSuffix (suffixes : List String) (p : Path) : Bool :=
  suffixes.contains (Text.lower p.suffix)

/-- The line about a file that cannot be read. -/
def skippedLine (p : Path) (error : FileError) : Log.Line :=
  Log.line "scanner" Log.debug s!"Skipping unreadable file {p.text}: {error.message}"

/-- The readable ones of some files, with lines about the others. -/
def readAll (d : Disk) : List Path → List Log.Line × List SourceFile
  | [] => ([], [])
  | p :: rest =>
      let (lines, files) := readAll d rest
      match d.read p with
      | .ok content => (lines, ⟨p, content.toList⟩ :: files)
      | .error e => (skippedLine p e :: lines, files)

/-- The source files below a directory, by the suffixes that the extensions stand for. -/
def filesOf (d : Disk) (root : Path) (extensions : List String) :
    List Log.Line × List SourceFile :=
  match d.node root with
  | .ok n => readAll d ((below d root n).filter (hasSuffix (extensions.map suffixFor)))
  | .error _ => ([], [])

/-- The source files below a directory whose path may start at a home directory. -/
def scan (d : Disk) (root : Path) (extensions : List String) :
    Log.Step PathError (List SourceFile) := do
  let root ← .ofResult (d.expandHome root)
  let _ ← .ofResult ((d.seesDirectory root).mapError .file)
  let (lines, files) := filesOf d root extensions
  Log.Step.say lines
  return files

@[simp]
theorem below_file (d : Disk) (p : Path) (content : ByteArray) :
    below d p (.file content) = [] := by
  simp [below]

@[simp]
theorem below_link (d : Disk) (p : Path) (target : String) :
    below d p (.link target) = [] := by
  simp [below]

theorem mem_ownFiles (d : Disk) (p : Path) (entries : List (String × Node)) (name : String) :
    name ∈ ownFiles d p entries ↔
      ∃ entry ∈ entries, isFileEntry d p entry = true ∧ entry.1 = name := by
  simp [ownFiles, and_assoc]

end Sources

end SurfaceCoverage
