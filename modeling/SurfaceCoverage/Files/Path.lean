/-!
# Paths

A path is an anchor and a list of names.  Reading a path drops empty names and single dots, and
keeps double dots; a path that starts with exactly two slashes keeps both.

**Results.**
* `parent_child`: the parent of a path with one more name is the path.
-/

namespace SurfaceCoverage

namespace Files

/-- Where a path starts. -/
inductive Anchor where
  | here
  | root
  | doubleRoot
  deriving Repr, DecidableEq

/-- The text of an anchor. -/
def Anchor.text : Anchor → String
  | .here => ""
  | .root => "/"
  | .doubleRoot => "//"

/-- A path: an anchor and names. -/
structure Path where
  anchor : Anchor
  names : List String
  deriving Repr, DecidableEq

namespace Path

/-- Cuts a text at every slash. -/
def pieces : List Char → List (List Char)
  | [] => [[]]
  | c :: rest =>
      match pieces rest with
      | [] => [[c]]
      | piece :: more => if c = '/' then [] :: piece :: more else (c :: piece) :: more

/-- What stands between the slashes of a text. -/
def piecesOf (s : String) : List String :=
  (pieces s.toList).map String.ofList

/-- The names in a text: what stands between slashes, without single dots. -/
def namesOf (s : String) : List String :=
  (piecesOf s).filter fun p => p != "" && p != "."

/-- Where a text starts. -/
def anchorOf (s : String) : Anchor :=
  match s.toList with
  | '/' :: '/' :: '/' :: _ => .root
  | '/' :: '/' :: _ => .doubleRoot
  | '/' :: _ => .root
  | _ => .here

/-- Reads a path. -/
def ofString (s : String) : Path :=
  ⟨anchorOf s, namesOf s⟩

/-- The text of a path; the current directory is a dot. -/
def text (p : Path) : String :=
  if p.anchor = .here ∧ p.names = [] then "."
  else p.anchor.text ++ "/".intercalate p.names

/-- Whether a path starts at the root. -/
def isRooted (p : Path) : Bool :=
  p.anchor ≠ .here

/-- The path with one more name. -/
def child (p : Path) (name : String) : Path :=
  ⟨p.anchor, p.names ++ [name]⟩

/-- The path without its last name; a bare anchor is its own parent. -/
def parent (p : Path) : Path :=
  ⟨p.anchor, p.names.dropLast⟩

/-- The path with more names. -/
def descend (p : Path) (names : List String) : Path :=
  ⟨p.anchor, p.names ++ names⟩

/-- A path below another one; an anchored path stands alone. -/
def join (p q : Path) : Path :=
  if q.isRooted then q else p.descend q.names

/-- The path one level up: without its last name, or with one more double dot where there is no name
to leave.  Above the root is the root. -/
def up (p : Path) : Path :=
  if p.names = [] ∧ p.isRooted = true then p
  else if p.names = [] ∨ p.names.getLast? = some ".." then p.child ".."
  else p.parent

/-- Where the names of a path are followed from, if they are met at `here`. -/
def startFrom (p here : Path) : Path :=
  if p.isRooted then ⟨.root, []⟩ else here

/-- The last name. -/
def name (p : Path) : String :=
  p.names.getLast?.getD ""

/-- The part of a name from its last dot on, unless the dot is the first or the last character. -/
def suffixOf (name : String) : String :=
  let cs := name.toList
  let tail := cs.reverse.takeWhile (· ≠ '.')
  let before := cs.length - tail.length
  if tail.length < cs.length ∧ 1 < before ∧ tail ≠ [] then
    String.ofList ('.' :: tail.reverse)
  else
    ""

/-- The suffix of the last name. -/
def suffix (p : Path) : String :=
  suffixOf p.name

/-- Removes double dots together with the names they follow; at the root they vanish. -/
def collapse (rooted : Bool) (done : List String) : List String → List String
  | [] => done.reverse
  | ".." :: rest =>
      match done with
      | [] => if rooted then collapse rooted [] rest else collapse rooted [".."] rest
      | top :: more =>
          if top = ".." then collapse rooted (".." :: top :: more) rest
          else collapse rooted more rest
  | n :: rest => collapse rooted (n :: done) rest

/-- The path without double dots, as far as names alone tell. -/
def normalized (p : Path) : Path :=
  ⟨p.anchor, collapse p.isRooted [] p.names⟩

/-- The path below a directory at the root. -/
def ofNames (names : List String) : Path :=
  ⟨.root, names⟩

/-- The path relative to a directory, if it lies below it. -/
def relativeTo? (p base : Path) : Option Path :=
  if p.anchor = base.anchor ∧ base.names.isPrefixOf p.names then
    some ⟨.here, p.names.drop base.names.length⟩
  else
    none

/-- Whether a text holds a character that no path may have. -/
def hasNul (p : Path) : Bool :=
  p.names.any fun n => n.toList.contains (Char.ofNat 0)

@[simp]
theorem parent_child (p : Path) (n : String) :
    (p.child n).parent = p := by
  simp [child, parent]

end Path

end Files

end SurfaceCoverage
