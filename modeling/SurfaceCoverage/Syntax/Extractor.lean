import SurfaceCoverage.Declaration
import SurfaceCoverage.Syntax.Query

/-!
# Extraction by queries

A query captures a type, one of its methods, and the nodes that name its ancestors, under names that
are the same for all grammars.  Every match is one observation.  The names of the ancestors are read
out of the nodes that wrap them.
-/

namespace SurfaceCoverage

/-- The kinds of nodes that are names. -/
def typeLeaves : List String :=
  ["type_identifier", "identifier"]

/-- The kinds of nodes whose first named child carries the name. -/
def genericTypes : List String :=
  ["generic_type"]

/-- The kinds of nodes whose last named child carries the name. -/
def scopedTypes : List String :=
  ["scoped_type_identifier", "scoped_identifier"]

mutual

/-- The type names that are read out of a node. -/
def SyntaxTree.typeNames : SyntaxTree → List String
  | .node kind _ _ text children =>
      if typeLeaves.contains kind then [String.ofList (Text.decodeIgnoring text)]
      else
        let names := typeNamesOfNamed children
        if genericTypes.contains kind then names.head?.getD []
        else if scopedTypes.contains kind then names.getLast?.getD []
        else names.flatten

/-- The type names that are read out of each named node. -/
def typeNamesOfNamed : List SyntaxTree → List (List String)
  | [] => []
  | t :: rest => if t.isNamed then t.typeNames :: typeNamesOfNamed rest else typeNamesOfNamed rest

end

/-- The nodes that are captured under a name. -/
def Match.nodes (m : Match) (name : String) : List SyntaxTree :=
  (m.filter fun c => c.name == name).map fun c => c.spot.tree

/-- The text of the first node. -/
def firstText : List SyntaxTree → String
  | [] => ""
  | t :: _ => t.word

/-- The names that are read out of captured nodes. -/
def namesOf (nodes : List SyntaxTree) : List String :=
  (nodes.flatMap SyntaxTree.typeNames).filter (· ≠ "")

/-- What a match tells. -/
def Observation.ofMatch (m : Match) : Observation :=
  { typeName := firstText (m.nodes "type_name")
    methodName := firstText (m.nodes "method_name")
    supertype := (namesOf (m.nodes "supertype")).head?
    interfaces := unite [] (namesOf (m.nodes "interfaces")) }

/-- What is observed in a source: the matches of the query in its tree. -/
def observe (parse : List UInt8 → SyntaxTree) (find : Cursor) (query : Query)
    (source : List UInt8) : List Observation :=
  (find query (parse source)).map Observation.ofMatch

namespace Syntax

/-- The methods in the body of a class, each with the name and the ancestors of the class.  The
ancestors repeat with every method; constructors are of another kind. -/
def Java.query : Query :=
  .node "class_declaration" none false none
    [.node "identifier" (some "name") false (some "type_name") [],
      .node "superclass" none true (some "supertype") [],
      .node "super_interfaces" none true (some "interfaces") [],
      .node "class_body" (some "body") false none
        [.node "method_declaration" none false none
          [.node "identifier" (some "name") false (some "method_name") []]]]

/-- The functions in the body of an implementation block, each with the name of the type. -/
def Rust.query : Query :=
  .node "impl_item" none false none
    [.node "type_identifier" (some "type") false (some "type_name") [],
      .node "declaration_list" (some "body") false none
        [.node "function_item" none false none
          [.node "identifier" (some "name") false (some "method_name") []]]]

end Syntax

end SurfaceCoverage
