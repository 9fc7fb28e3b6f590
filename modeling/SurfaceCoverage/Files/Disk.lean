import SurfaceCoverage.Chain
import SurfaceCoverage.Files.Tree
import SurfaceCoverage.Text.Utf8

/-!
# Disks

A disk is a guarded file tree with a current directory and the home directories of its users.
Reading leaves it as it is; writing gives a new one.  A write may fail when the file is already
open: then the file holds what the device has taken.

**Results.**
* `read_eq_ok_iff`: what is read is the content of the file that the path leads to.
* `seesDirectory_eq_ok_iff`: a look at a path that is not refused tells whether it is a directory.
* `isDirectory_iff`: a path is a directory exactly when its place holds one.
-/

namespace SurfaceCoverage

namespace Files

/-- A file tree with a current directory, home directories and a guard. -/
structure Disk where
  root : Node
  current : List String
  home : String
  homes : List (String × String)
  guard : Guard

/-- Why a text file cannot be read. -/
inductive ReadError where
  | file (error : FileError)
  | encoding (error : Text.Utf8Error)
  deriving Repr, DecidableEq

/-- Why a path leads nowhere: its links run in a circle, its home directory is not known, it is a
text that no path may be, or looking at it fails. -/
inductive PathError where
  | linkLoop (path : String)
  | noHome
  | unfit (reason : String)
  | file (error : FileError)
  deriving Repr, DecidableEq

/-- What is wrong with a path. -/
def PathError.message : PathError → String
  | .linkLoop path => "Symlink loop from " ++ Text.quoted path
  | .noHome => "Could not determine home directory."
  | .unfit reason => reason
  | .file error => error.message

namespace Disk

/-- A disk that refuses nothing and whose current directory is its root. -/
def unguarded (root : Node) : Disk :=
  ⟨root, [], "/", [], .idle⟩

/-- Where a path starts on the disk. -/
def start (d : Disk) (p : Path) : List String :=
  if p.isRooted then [] else d.current

/-- Why no path may be the text, if so: it cannot be encoded, or it holds a character that marks the
end of texts. -/
def unfit? (d : Disk) (p : Path) : Option String :=
  (d.guard.forbids p.text).or (if p.hasNul then some "embedded null byte" else none)

/-- Where the walk along a path ends; the last name is followed only if `last` says so. -/
def place (d : Disk) (last : Bool) (p : Path) : Place :=
  match d.unfit? p with
  | some reason => .failed (.unfit reason)
  | none =>
      match d.guard.refusesText p.text with
      | some r => .failed (.refused r)
      | none => walkTo d.guard d.root last linkLimit (d.start p) p.names

/-- The node that a path leads to, or why it leads nowhere. -/
def node (d : Disk) (p : Path) : Except Cause Node :=
  match d.place true p with
  | .found names =>
      match d.root.at? names with
      | some n => .ok n
      | none => .error .notFound
  | .absent _ _ => .error .notFound
  | .failed c => .error c

/-- Whether a path leads to a directory, as far as can be told. -/
def isDirectory (d : Disk) (p : Path) : Bool :=
  match d.node p with
  | .ok (.directory _) => true
  | _ => false

/-- Looks at what a path leads to, if it leads anywhere; it fails if the look is refused. -/
def look (d : Disk) (p : Path) : Except FileError (Option Node) :=
  match d.node p with
  | .ok n => .ok (some n)
  | .error (.refused r) => .error ⟨.refused r, p.text⟩
  | .error _ => .ok none

/-- Whether a path leads to a directory. -/
def seesDirectory (d : Disk) (p : Path) : Except FileError Bool :=
  (d.look p).map fun n => n.any fun n => n.kind = .directory

/-- Whether a path leads to anything. -/
def seesAnything (d : Disk) (p : Path) : Except FileError Bool :=
  (d.look p).map Option.isSome

/-- The names of what an access is wanted to, unless it is refused. -/
def guarded (d : Disk) (access : Access) (p : Path) (names : List String) :
    Except FileError (List String) :=
  match d.guard.refuses access names with
  | some r => .error ⟨.refused r, p.text⟩
  | none => .ok names

/-- Whether the directory that a path leads to can be listed. -/
def canList (d : Disk) (p : Path) : Bool :=
  match d.place true p with
  | .found names => (d.guard.refuses .list names).isNone
  | _ => false

/-- The bytes of the file that a path leads to. -/
def read (d : Disk) (p : Path) : Except FileError ByteArray :=
  match d.place true p with
  | .found names =>
      match d.guarded .read p names with
      | .error e => .error e
      | .ok names =>
          match d.root.at? names with
          | some (.file content) => .ok content
          | some (.directory _) => .error ⟨.isDirectory, p.text⟩
          | some (.link _) => .error ⟨.tooManyLinks, p.text⟩
          | none => .error ⟨.notFound, p.text⟩
  | .absent _ _ => .error ⟨.notFound, p.text⟩
  | .failed c => .error ⟨c, p.text⟩

/-- The text of the file that a path leads to, with lines that end with a line feed alone. -/
def readText (d : Disk) (p : Path) : Except ReadError String :=
  match d.read p with
  | .error e => .error (.file e)
  | .ok content =>
      match Text.decode content.toList with
      | .error e => .error (.encoding e)
      | .ok cs => .ok (String.ofList (Text.unifyLineEnds cs))

/-- Puts a node at the given names. -/
def put (d : Disk) (names : List String) (n : Node) : Disk :=
  { d with root := Node.write n names d.root }

/-- The content of the file at a list of names. -/
def fileAt? (d : Disk) (names : List String) : Option ByteArray :=
  d.root.fileAt? names

/-- The names at which a path is opened for writing: those of the file that it leads to, or of the
free entry of the directory in which it ends. -/
def openAt (d : Disk) (p : Path) : Except FileError (List String) :=
  match d.place true p with
  | .found names =>
      match d.root.kindAt? names with
      | some .file => d.guarded .write p names
      | some .directory => .error ⟨.isDirectory, p.text⟩
      | _ => .error ⟨.notFound, p.text⟩
  | .absent directory name => d.guarded .write p (directory ++ [name])
  | .failed c => .error ⟨c, p.text⟩

/-- The part of the bytes that the device takes for the file at a list of names. -/
def taken (d : Disk) (names : List String) (bytes : ByteArray) : ByteArray :=
  match d.guard.cuts names bytes with
  | some (count, _) => bytes.extract 0 count
  | none => bytes

/-- Writes bytes to the file at a path, behind what is kept of the bytes that it holds.  Where the
device takes only a part of them, that part stays. -/
def update (d : Disk) (p : Path) (keep : ByteArray → ByteArray) (bytes : ByteArray) :
    Disk × Except FileError Unit :=
  match d.openAt p with
  | .error e => (d, .error e)
  | .ok names =>
      let held := keep ((d.fileAt? names).getD ByteArray.empty)
      (d.put names (.file (held ++ d.taken names bytes)),
        match d.guard.cuts names bytes with
        | some (_, r) => .error ⟨.refused r, p.text⟩
        | none => .ok ())

/-- Writes a file; what it held before is lost as soon as it is open. -/
def write (d : Disk) (p : Path) (content : ByteArray) : Disk × Except FileError Unit :=
  d.update p (fun _ => ByteArray.empty) content

/-- Writes at the end of a file. -/
def append (d : Disk) (p : Path) (content : ByteArray) : Disk × Except FileError Unit :=
  d.update p id content

/-- Opens a file for writing at its end. -/
def touch (d : Disk) (p : Path) : Except FileError Disk :=
  (d.openAt p).map fun names => d.put names (.file ((d.fileAt? names).getD ByteArray.empty))

/-- Makes one directory. -/
def makeDirectory (d : Disk) (p : Path) : Except FileError Disk :=
  match d.place false p with
  | .found _ => .error ⟨.exists, p.text⟩
  | .absent directory name =>
      (d.guarded .make p (directory ++ [name])).map fun names => d.put names (.directory [])
  | .failed c => .error ⟨c, p.text⟩

/-- The disk as it is, if a path leads to a directory there; otherwise the given failure. -/
def withDirectory (d : Disk) (p : Path) (e : FileError) : Except FileError Disk := do
  if ← d.seesDirectory p then return d else throw e

/-- Makes a directory; it is no failure that it is there already. -/
def ensureDirectory (d : Disk) (p : Path) : Except FileError Disk :=
  match d.makeDirectory p with
  | .ok d => .ok d
  | .error e => if e.cause = .notFound then .error e else d.withDirectory p e

/-- A disk after a change that may have failed: if so, the disk is as before. -/
def after (d : Disk) (change : Except FileError Disk) : Disk × Except FileError Unit :=
  match change with
  | .ok d => (d, .ok ())
  | .error e => (d, .error e)

/-- Makes a directory and those above it that are missing; `fuel` bounds how many may be.  What is
made stays, even if something below it cannot be made. -/
def ensureDirectories : Nat → Disk → Path → Disk × Except FileError Unit
  | 0, d, p => d.after (d.ensureDirectory p)
  | fuel + 1, d, p =>
      match d.makeDirectory p with
      | .ok d => (d, .ok ())
      | .error e =>
          if e.cause = .notFound then
            if p.parent = p then (d, .error e)
            else
              match ensureDirectories fuel d p.parent with
              | (d, .error e) => (d, .error e)
              | (d, .ok ()) => d.after (d.ensureDirectory p)
          else d.after (d.withDirectory p e)

/-- Makes a directory and those above it that are missing. -/
def makeDirectories (d : Disk) (p : Path) : Disk × Except FileError Unit :=
  ensureDirectories p.names.length d p

/-- Writes a text file, and makes the directories above it that are missing. -/
def writeText (d : Disk) (p : Path) (text : String) : Disk × Except FileError Unit :=
  match d.makeDirectories p.parent with
  | (d, .error e) => (d, .error e)
  | (d, .ok ()) => d.write p text.toUTF8

mutual

/-- How many links a node holds. -/
def linkCount : Node → Nat
  | .file _ => 0
  | .link _ => 1
  | .directory entries => linkCounts entries

/-- How many links the entries of a directory hold. -/
def linkCounts : List (String × Node) → Nat
  | [] => 0
  | (_, n) :: rest => linkCount n + linkCounts rest

end

/-- The absolute path, links and all, with double dots removed by name.  A relative path starts at
the current directory, which may be gone. -/
def absolute (d : Disk) (p : Path) : Except FileError Path :=
  if p.isRooted then .ok p.normalized
  else if d.root.kindAt? d.current = some .directory then
    .ok (Path.ofNames (d.current ++ p.names)).normalized
  else .error ⟨.noCurrent, p.text⟩

/-- The target of the link at a path, if a link can be found there. -/
def linkAt (d : Disk) (p : Path) : Except PathError (Option String) :=
  match d.place false p with
  | .found names =>
      match d.root.kindAt? names with
      | some (.link target) =>
          ((d.guarded .readLink p names).map fun _ => some target).mapError .file
      | _ => .ok none
  | .absent _ _ => .ok none
  | .failed (.unfit reason) => .error (.unfit reason)
  | .failed _ => .ok none

/-- Follows names from the path `here` and replaces links by what they stand for; `replace` does so
for a link with a given target, met at `here` and standing at a path below it.  The second part
tells whether all could be replaced; if not, the names that are left are read as a text of their
own, and so start at the root if an empty name stands in front of others. -/
def unlinkNames (d : Disk) (replace : Path → Path → String → Except PathError (Path × Bool))
    (here : Path) : List String → Except PathError (Path × Bool)
  | [] => .ok (here, true)
  | name :: rest =>
      if name = "" ∨ name = "." then unlinkNames d replace here rest
      else if name = ".." then unlinkNames d replace here.up rest
      else do
        match ← d.linkAt (here.child name) with
        | some target =>
            match ← replace here (here.child name) target with
            | (p, false) => return (p.join (Path.ofString ("/".intercalate rest)), false)
            | (p, true) => unlinkNames d replace p rest
        | none => unlinkNames d replace (here.child name) rest

/-- Follows names from the path `here` and replaces links, nested as deep as the given number.  The
links being replaced are in `active`; none is replaced within itself. -/
def unlink (d : Disk) :
    Nat → List Path → Path → List String → Except PathError (Path × Bool)
  | 0, _, here, names => unlinkNames d (fun _ there _ => .ok (there, false)) here names
  | depth + 1, active, here, names =>
      unlinkNames d
        (fun here there target =>
          if there ∈ active then .ok (there, false)
          else
            unlink d depth (there :: active) ((Path.ofString target).startFrom here)
              (Path.piecesOf target))
        here names

/-- How deep links may nest while a path is resolved: no link is replaced within itself, and each
may be met from the root, from the current directory and from every directory above it. -/
def linkDepth (d : Disk) : Nat :=
  (d.current.length + 2) * linkCount d.root + 1

/-- The absolute path without links and double dots. -/
def resolve (d : Disk) (p : Path) : Except PathError Path := do
  let (unlinked, _) ← d.unlink d.linkDepth [] (p.startFrom ⟨.here, []⟩) p.names
  let q ← (d.absolute unlinked).mapError .file
  match d.node q with
  | .error .tooManyLinks => throw (.linkLoop q.text)
  | .error (.unfit reason) => throw (.unfit reason)
  | _ => return q

/-- Removes slashes at the end of a text. -/
def dropSlashes (s : String) : String :=
  String.ofList ((s.toList.reverse.dropWhile (· = '/')).reverse)

/-- The directory that a leading tilde name stands for. -/
def homeOf (d : Disk) (name : String) : Option String :=
  let user := String.ofList (name.toList.drop 1)
  if user = "" then some d.home
  else (d.homes.find? fun h => h.1 = user).map Prod.snd

/-- Replaces a leading tilde by the home directory it stands for. -/
def expandHome (d : Disk) (p : Path) : Except PathError Path :=
  match p.anchor, p.names with
  | .here, name :: rest =>
      if name.toList.head? = some '~' then
        match d.homeOf name with
        | none => .error .noHome
        | some home =>
            let base := Path.ofString (if dropSlashes home = "" then "/" else dropSlashes home)
            .ok ⟨base.anchor, base.names ++ rest⟩
      else .ok p
  | _, _ => .ok p

/-- Which texts no path may be is told by the guard alone. -/
theorem unfit?_of_guard {d d' : Disk} (h : d'.guard = d.guard) (p : Path) :
    d'.unfit? p = d.unfit? p := by
  rw [unfit?, unfit?, h]

theorem node_eq_ok_iff {d : Disk} {p : Path} {n : Node} :
    d.node p = .ok n ↔ ∃ names, d.place true p = .found names ∧ d.root.at? names = some n := by
  unfold node
  cases d.place true p with
  | absent here name => simp
  | failed c => simp
  | found names => cases h : d.root.at? names <;> simp [h]

theorem isDirectory_iff (d : Disk) (p : Path) :
    d.isDirectory p = true ↔ ∃ entries, d.node p = .ok (.directory entries) := by
  unfold isDirectory
  cases d.node p with
  | error c => simp
  | ok n => cases n <;> simp

/-- A look that is not refused tells whether there is a directory. -/
theorem seesDirectory_eq_ok_iff {d : Disk} {p : Path} {seen : Bool} :
    d.seesDirectory p = .ok seen ↔
      d.isDirectory p = seen ∧ ∀ r, d.node p ≠ .error (.refused r) := by
  unfold seesDirectory look isDirectory
  cases d.node p with
  | error c => cases c <;> simp [Except.map, eq_comm]
  | ok n => cases n <;> simp [Except.map, Node.kind, eq_comm]

theorem guarded_eq_ok_iff {d : Disk} {access : Access} {p : Path} {names names' : List String} :
    d.guarded access p names = .ok names' ↔
      d.guard.refuses access names = none ∧ names = names' := by
  unfold guarded
  cases d.guard.refuses access names <;> simp

/-- A file can be read if its path leads there and reading it is not refused. -/
theorem read_eq_ok_iff {d : Disk} {p : Path} {content : ByteArray} :
    d.read p = .ok content ↔
      ∃ names, d.place true p = .found names ∧ d.guard.refuses .read names = none
        ∧ d.root.at? names = some (.file content) := by
  unfold read
  cases d.place true p with
  | absent here name => simp
  | failed c => simp
  | found names =>
    cases hguard : d.guard.refuses .read names with
    | some r => simp [guarded, hguard]
    | none =>
      simp only [guarded, hguard]
      cases hat : d.root.at? names with
      | none => simp [hat]
      | some n => cases n <;> simp [hat, hguard]

end Disk

end Files

end SurfaceCoverage
