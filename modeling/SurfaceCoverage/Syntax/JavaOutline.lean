import SurfaceCoverage.Syntax.JavaType

/-!
# Outlines of Java sources

An outline is what remains of a source when expressions and statements are left out: the type
declarations with their heads and members, at any depth.  It is turned into a syntax tree with the
nodes of the declarations; stretches of code between them are blocks.
-/

namespace SurfaceCoverage

namespace Syntax

namespace Java

/-- The kinds of type declarations. -/
inductive Kind where
  | ofClass
  | ofInterface
  | ofEnum
  | ofRecord
  | ofMarker
  deriving Repr, DecidableEq

/-- The head of a type declaration: its kind, the declared name, and the types behind `extends` and
`implements`; those behind the `extends` of an interface count as the latter. -/
structure Head where
  kind : Kind
  name : Word
  superclass : Option TypeExpr
  interfaces : List TypeExpr

/-- A node of an outline: a type declaration with its members, a method with what stands in its
parameters and its body, or a stretch of code that is no member (a block, an initializer, an
argument, the body of an anonymous class). -/
inductive Node where
  | type (head : Head) (members : List Node)
  | method (name : Word) (inside : List Node)
  | region (inside : List Node)

/-- The kind of the node of a declaration. -/
def Kind.declaration : Kind → String
  | .ofClass => "class_declaration"
  | .ofInterface => "interface_declaration"
  | .ofEnum => "enum_declaration"
  | .ofRecord => "record_declaration"
  | .ofMarker => "annotation_type_declaration"

/-- The kind of the body of a declaration. -/
def Kind.body : Kind → String
  | .ofClass => "class_body"
  | .ofInterface => "interface_body"
  | .ofEnum => "enum_body"
  | .ofRecord => "class_body"
  | .ofMarker => "annotation_type_body"

/-- The kind of the list of interfaces in a head. -/
def Kind.clause : Kind → String
  | .ofInterface => "extends_interfaces"
  | _ => "super_interfaces"

/-- The node of the type that is extended, if it is one. -/
def superclassTrees (superclass : Option TypeExpr) : List SyntaxTree :=
  match (superclass.map TypeExpr.tree).filter isType with
  | some t => [branch "superclass" (some "superclass") [t]]
  | none => []

/-- The node of the types that are implemented, if there are any. -/
def interfacesTrees (kind : Kind) (interfaces : List TypeExpr) : List SyntaxTree :=
  match (interfaces.map TypeExpr.tree).filter isType with
  | [] => []
  | types => [branch kind.clause (some "interfaces") [branch "type_list" none types]]

mutual

/-- The node of a declaration, a method or a stretch of code. -/
def Node.tree : Node → SyntaxTree
  | .type head members =>
      branch head.kind.declaration none
        (leaf "identifier" (some "name") head.name.val :: superclassTrees head.superclass ++
          interfacesTrees head.kind head.interfaces ++
          [branch head.kind.body (some "body") (nodeTrees members)])
  | .method name inside =>
      branch "method_declaration" none
        [leaf "identifier" (some "name") name.val, branch "block" (some "body") (nodeTrees inside)]
  | .region inside => branch "block" none (nodeTrees inside)

/-- The nodes of what stands side by side. -/
def nodeTrees : List Node → List SyntaxTree
  | [] => []
  | n :: rest => n.tree :: nodeTrees rest

end

/-- The tree of a source. -/
def program (outline : List Node) : SyntaxTree :=
  branch "program" none (nodeTrees outline)

end Java

end Syntax

end SurfaceCoverage
