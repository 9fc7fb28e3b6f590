import SurfaceCoverage.Files.Guard
import SurfaceCoverage.Text.Quoted

/-!
# File trees

A file tree is a value: directories with named entries, files with their bytes, and symbolic links
with their targets.  Looking a path up walks its names from a directory and follows links, at most
forty of them.  The guard of the tree may refuse a step on the way.

**Results.**
* `lookup_setEntry`: a written entry is found, every other entry is as before.
-/

namespace SurfaceCoverage

namespace Files

/-- A node of a file tree. -/
inductive Node where
  | file (content : ByteArray)
  | link (target : String)
  | directory (entries : List (String × Node))

/-- Why an operation on a file fails.  The path may also be a text that no path may be, there may be
no current directory to start from, or the system may refuse the operation. -/
inductive Cause where
  | notFound
  | exists
  | notDirectory
  | isDirectory
  | tooManyLinks
  | unfit (reason : String)
  | noCurrent
  | refused (refusal : Refusal)
  deriving Repr, DecidableEq

/-- A failed operation: why, and on which path. -/
structure FileError where
  cause : Cause
  path : String
  deriving Repr, DecidableEq

/-- The error number and its text. -/
def Cause.text : Cause → String
  | .notFound => "[Errno 2] No such file or directory"
  | .exists => "[Errno 17] File exists"
  | .notDirectory => "[Errno 20] Not a directory"
  | .isDirectory => "[Errno 21] Is a directory"
  | .tooManyLinks => "[Errno 40] Too many levels of symbolic links"
  | .unfit reason => reason
  | .noCurrent => "[Errno 2] No such file or directory"
  | .refused r => s!"[Errno {r.number}] {r.text}"

/-- Whether the path is named as well. -/
def Cause.isNamed : Cause → Bool
  | .unfit _ | .noCurrent => false
  | .refused r => r.isNamed
  | _ => true

/-- Whether the text is one that no path may be. -/
def Cause.isUnfit : Cause → Bool
  | .unfit _ => true
  | _ => false

/-- What failed. -/
def FileError.message (e : FileError) : String :=
  if e.cause.isNamed then e.cause.text ++ ": " ++ Text.quoted e.path else e.cause.text

namespace Node

/-- The entry with a name among the entries of a directory. -/
def lookup (name : String) : List (String × Node) → Option Node
  | [] => none
  | e :: rest => if e.1 = name then some e.2 else lookup name rest

/-- Writes an entry: in place of the one with its name, at the end otherwise. -/
def setEntry (name : String) (node : Node) : List (String × Node) → List (String × Node)
  | [] => [(name, node)]
  | e :: rest => if e.1 = name then (name, node) :: rest else e :: setEntry name node rest

/-- Removes the entry with a name. -/
def dropEntry (name : String) (entries : List (String × Node)) : List (String × Node) :=
  entries.filter fun e => e.1 ≠ name

theorem lookup_setEntry (name other : String) (node : Node) (entries : List (String × Node)) :
    lookup other (setEntry name node entries) =
      if name = other then some node else lookup other entries := by
  induction entries with
  | nil => simp [setEntry, lookup]
  | cons e rest ih =>
    by_cases h : e.1 = name
    · by_cases ho : name = other
      · simp [setEntry, lookup, h, ho]
      · simp [setEntry, lookup, h, ho]
    · by_cases ho : e.1 = other
      · have hn : name ≠ other := fun hn => h (ho.trans hn.symm)
        simp [setEntry, lookup, ho, hn, hn.symm]
      · simp [setEntry, lookup, h, ho, ih]

/-- The node at a list of names, without following links. -/
def at? : List String → Node → Option Node
  | [], node => some node
  | name :: rest, .directory entries =>
      match lookup name entries with
      | some node => at? rest node
      | none => none
  | _ :: _, _ => none

/-- Replaces the node at a list of names; directories on the way that are missing are added. -/
def write (value : Node) : List String → Node → Node
  | [], _ => value
  | name :: rest, .directory entries =>
      let old := (lookup name entries).getD (.directory [])
      .directory (setEntry name (write value rest old) entries)
  | _ :: _, node => node

/-- Removes the node at a list of names. -/
def remove : List String → Node → Node
  | [], node => node
  | [name], .directory entries => .directory (dropEntry name entries)
  | name :: rest, .directory entries =>
      match lookup name entries with
      | some node => .directory (setEntry name (remove rest node) entries)
      | none => .directory entries
  | _ :: _, node => node

end Node

/-- What a node is, whatever it holds. -/
inductive Kind where
  | file
  | link (target : String)
  | directory
  deriving Repr, DecidableEq

namespace Node

/-- The kind of a node. -/
def kind : Node → Kind
  | .file _ => .file
  | .link target => .link target
  | .directory _ => .directory

/-- The kind of the node at a list of names. -/
def kindAt? (root : Node) (names : List String) : Option Kind :=
  (root.at? names).map kind

/-- The content of the file at a list of names. -/
def fileAt? (root : Node) (names : List String) : Option ByteArray :=
  match root.at? names with
  | some (.file content) => some content
  | _ => none

end Node

/-- Where a walk along a path ends. -/
inductive Place where
  | found (names : List String)
  | absent (directory : List String) (name : String)
  | failed (cause : Cause)
  deriving Repr, DecidableEq

/-- How many links may be followed on the way. -/
def linkLimit : Nat := 40

/-- What stands between the slashes of a link target, and whether it starts at the root. -/
def targetOf (target : String) : Bool × List String :=
  ((Path.ofString target).isRooted, Path.piecesOf target)

/-- What one name does to a walk: it goes on from a node, follows a link, or ends. -/
inductive WalkStep where
  | on (here : List String)
  | follow (target : String)
  | stop (place : Place)

section Walk

variable (guard : Guard) (root : Node) (last : Bool)

/-- What a name does in the directory `here`, whatever stands there: an empty name and dots lead to
a directory that is known, and a search may be refused. -/
def dotStep (here : List String) (name : String) : Option WalkStep :=
  if name = "" then some (.on here)
  else
    match guard.refuses .find (here ++ [name]) with
    | some r => some (.stop (.failed (.refused r)))
    | none =>
        if name = "." then some (.on here)
        else if name = ".." then some (.on here.dropLast)
        else none

/-- What the entry with a name in the directory `here` does; `isLast` tells whether no name is left
after it.  The last name is followed only if `last` says so. -/
def entryStep (here : List String) (name : String) (isLast : Bool) : WalkStep :=
  match root.kindAt? (here ++ [name]) with
  | none => .stop (if isLast then .absent here name else .failed .notFound)
  | some (.link target) =>
      if isLast && !last then .stop (.found (here ++ [name]))
      else
        match guard.refuses .follow (here ++ [name]) with
        | some r => .stop (.failed (.refused r))
        | none => .follow target
  | some _ => .on (here ++ [name])

/-- The step of a walk at a name.  It goes by the kinds of the nodes. -/
def stepAt (here : List String) (name : String) (isLast : Bool) : WalkStep :=
  match root.kindAt? here with
  | some .directory => (dotStep guard here name).getD (entryStep guard root last here name isLast)
  | some _ => .stop (.failed .notDirectory)
  | none => .stop (.failed .notFound)

/-- Walks along names from the directory `here`; `follow` goes on behind a link, from the directory
that holds it or from the root. -/
def walkNames (follow : List String → List String → Place) (here : List String) :
    List String → Place
  | [] => .found here
  | name :: rest =>
      match stepAt guard root last here name rest.isEmpty with
      | .on next => walkNames follow next rest
      | .follow target =>
          follow (if (targetOf target).1 then [] else here) ((targetOf target).2 ++ rest)
      | .stop place => place

/-- Walks along names from the directory `here`, following at most the given number of links. -/
def walkTo : Nat → List String → List String → Place
  | 0, here, names =>
      walkNames guard root last (fun _ _ => .failed .tooManyLinks) here names
  | links + 1, here, names => walkNames guard root last (walkTo links) here names

end Walk

end Files

end SurfaceCoverage
