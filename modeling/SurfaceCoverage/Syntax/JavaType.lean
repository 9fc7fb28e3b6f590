import SurfaceCoverage.Syntax.SyntaxTree
import SurfaceCoverage.Syntax.Token

/-!
# Types in Java heads

The types behind `extends` and `implements` are written as names, with arguments, qualifiers,
annotations and dimensions.  What is read of a source is turned into nodes of the kinds that the
grammar of the language has for it.
-/

namespace SurfaceCoverage

namespace Syntax

namespace Java

/-- The kinds of types that are no classes. -/
def primitiveKinds : List String :=
  ["void_type", "boolean_type", "integral_type", "floating_point_type"]

/-- The kinds of types without annotations in front of them. -/
def unannotatedKinds : List String :=
  primitiveKinds ++
    ["type_identifier", "scoped_type_identifier", "generic_type", "array_type"]

/-- The kinds of types. -/
def typeKinds : List String :=
  "annotated_type" :: unannotatedKinds

/-- Whether a node is a type. -/
def isType (t : SyntaxTree) : Bool :=
  typeKinds.contains t.kind

/-- Whether a node is a type without annotations in front of it. -/
def isUnannotated (t : SyntaxTree) : Bool :=
  unannotatedKinds.contains t.kind

/-- Whether a node is a name that may take arguments. -/
def takesArguments (t : SyntaxTree) : Bool :=
  t.kind == "type_identifier" || t.kind == "scoped_type_identifier"

/-- The kind of a type that is no class. -/
def primitiveKind (name : String) : String :=
  if name = "void" then "void_type"
  else if name = "boolean" then "boolean_type"
  else if name = "float" ∨ name = "double" then "floating_point_type"
  else "integral_type"

/-- An annotation: the names that qualify its name, last first, its name, and the names that are
mentioned in its arguments, if it has any. -/
structure Annotation where
  scope : List Word
  name : Word
  mentioned : Option (List Word)

/-- A name behind those that qualify it, last first. -/
def dotted (role : Option String) : List Word → Word → SyntaxTree
  | [], w => leaf "identifier" role w.val
  | s :: rest, w =>
      branch "scoped_identifier" role
        [dotted (some "scope") rest s, leaf "identifier" (some "name") w.val]

/-- The node of an annotation.  Of its arguments only the names are kept. -/
def Annotation.tree (a : Annotation) : SyntaxTree :=
  match a.mentioned with
  | none => branch "marker_annotation" none [dotted (some "name") a.scope a.name]
  | some names =>
      branch "annotation" none
        [dotted (some "name") a.scope a.name,
          branch "annotation_argument_list" (some "arguments")
            (names.map fun w => leaf "identifier" none w.val)]

/-- A type as it is written: a name, a type that is no class, a type with arguments, a name behind a
package or an enclosing type, a type behind annotations, an array with the annotations of its
dimension, or any type, possibly within a bound. -/
inductive TypeExpr where
  | named (name : Word)
  | primitive (name : String)
  | generic (base : TypeExpr) (arguments : List TypeExpr)
  | qualified (qualifier : TypeExpr) (annotations : List Annotation) (name : Word)
  | annotated (annotations : List Annotation) (type : TypeExpr)
  | array (element : TypeExpr) (annotations : List Annotation)
  | wildcard (bound : Option TypeExpr)

/-- A type with arguments, where it may take some. -/
def withArguments (base : SyntaxTree) (arguments : List SyntaxTree) : SyntaxTree :=
  if takesArguments base then
    branch "generic_type" none [base, branch "type_arguments" none arguments]
  else base

/-- A type behind annotations, where it may take some. -/
def withAnnotations (annotations : List Annotation) (t : SyntaxTree) : SyntaxTree :=
  if annotations.isEmpty || !isUnannotated t then t
  else branch "annotated_type" none (annotations.map Annotation.tree ++ [t])

/-- A type with a dimension, where it may take one. -/
def withDimension (t : SyntaxTree) (annotations : List Annotation) : SyntaxTree :=
  if isUnannotated t then
    branch "array_type" none
      [t, branch "dimensions" (some "dimensions") (annotations.map Annotation.tree)]
  else t

mutual

/-- The node of a type. -/
def TypeExpr.tree : TypeExpr → SyntaxTree
  | .named name => leaf "type_identifier" none name.val
  | .primitive name => branch (primitiveKind name) none []
  | .generic base arguments => withArguments base.tree (typeTrees arguments)
  | .qualified qualifier annotations name =>
      branch "scoped_type_identifier" none
        (qualifier.tree :: annotations.map Annotation.tree ++
          [leaf "type_identifier" none name.val])
  | .annotated annotations type => withAnnotations annotations type.tree
  | .array element annotations => withDimension element.tree annotations
  | .wildcard none => branch "wildcard" none []
  | .wildcard (some bound) => branch "wildcard" none [bound.tree]

/-- The nodes of types. -/
def typeTrees : List TypeExpr → List SyntaxTree
  | [] => []
  | t :: rest => t.tree :: typeTrees rest

end

end Java

end Syntax

end SurfaceCoverage
