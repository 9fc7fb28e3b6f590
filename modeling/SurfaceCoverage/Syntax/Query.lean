import SurfaceCoverage.Syntax.SyntaxTree

/-!
# Queries over syntax trees

A query describes a node and some of its children, and captures some of the nodes under names.  The
children that it describes stand in the order in which it lists them, with any others in between.
An optional one is passed over only where it cannot be taken.
-/

namespace SurfaceCoverage

/-- A query: the kind of a node, its role if one is asked for, whether it may be missing, the name
under which it is captured, if any, and its children. -/
inductive Query where
  | node (kind : String) (role : Option String) (isOptional : Bool) (capture : Option String)
      (children : List Query)

/-- A node that a query captures under a name. -/
structure Capture where
  name : String
  spot : Spot

/-- One way in which a query describes a node: what it captures, in the order of the query. -/
abbrev Match := List Capture

/-- Each member of a list with what follows it. -/
def withRest {α : Type} : List α → List (α × List α)
  | [] => []
  | x :: rest => (x, rest) :: withRest rest

/-- Whether a node has a kind, and a role if one is given. -/
def SyntaxTree.fits (kind : String) (role : Option String) (t : SyntaxTree) : Bool :=
  t.isNamed && t.kind == kind && role.all fun r => t.role == some r

namespace Query

/-- Whether the described node may be missing. -/
def isOptional : Query → Bool
  | .node _ _ isOptional _ _ => isOptional

mutual

/-- The ways in which a query describes a node. -/
def ways : Query → Spot → List Match
  | .node kind role _ capture children, x =>
      if x.tree.fits kind role then
        (waysAmong children x.children).map fun found =>
          (capture.map fun name => Capture.mk name x).toList ++ found
      else []

/-- The ways in which queries describe nodes among siblings, one after the other. -/
def waysAmong : List Query → List Spot → List Match
  | [], _ => [[]]
  | q :: rest, xs =>
      let taken := (withRest xs).flatMap fun x =>
        (q.ways x.1).flatMap fun found => (waysAmong rest x.2).map (found ++ ·)
      if q.isOptional && taken.isEmpty then waysAmong rest xs else taken

end

/-- The ways in which a query describes nodes of a tree. -/
def matchesIn (q : Query) (t : SyntaxTree) : List Match :=
  t.spots.flatMap q.ways

end Query

/-- The place of the node that a match captures last. -/
def Match.lastPlace (m : Match) : List Nat :=
  (m.getLast?.map fun c => c.spot.place).getD []

/-- Whether a match is completed no later than another one. -/
def Match.precedes (m n : Match) : Bool :=
  !decide (n.lastPlace < m.lastPlace)

/-- What runs a query over a tree. -/
abbrev Cursor := Query → SyntaxTree → List Match

/-- A cursor finds the ways in which the query describes nodes of the tree, each once, and in the
order in which a walk over the tree meets the nodes that complete them. -/
structure Cursor.IsLawful (find : Cursor) : Prop where
  perm : ∀ q t, (find q t).Perm (q.matchesIn t)
  ordered : ∀ q t, (find q t).Pairwise fun m n => m.precedes n = true

/-- Puts a match in front of the first one that is completed behind it. -/
def insertMatch (m : Match) : List Match → List Match
  | [] => [m]
  | n :: rest => if m.precedes n then m :: n :: rest else n :: insertMatch m rest

/-- The matches of a query in their order. -/
def findInOrder : Cursor :=
  fun q t => (q.matchesIn t).foldr insertMatch []

end SurfaceCoverage
