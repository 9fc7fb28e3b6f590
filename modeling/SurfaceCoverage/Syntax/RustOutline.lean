import SurfaceCoverage.Syntax.SyntaxTree
import SurfaceCoverage.Syntax.Token

/-!
# Outlines of Rust sources

An outline is what remains of a source when expressions and statements are left out: implementation
blocks and functions, at any depth.  It is turned into a syntax tree with the nodes of these items;
stretches of code between them are blocks.
-/

namespace SurfaceCoverage

namespace Syntax

namespace Rust

/-- The type that a block implements: a type name alone, or any other type (with arguments or a
path, a reference, a primitive type and so on). -/
inductive SelfType where
  | plain (name : Word)
  | other
  deriving Repr, DecidableEq

/-- A node of an outline: an implementation block with its items, a function with whether it has a
body and what stands in its parameters and its body, or a stretch of code that is no item of a block
(a module, a trait, a statement). -/
inductive Node where
  | implementation (selfType : SelfType) (items : List Node)
  | function (name : Word) (hasBody : Bool) (inside : List Node)
  | region (inside : List Node)

/-- The node of the type that a block implements. -/
def SelfType.tree : SelfType → SyntaxTree
  | .plain name => leaf "type_identifier" (some "type") name.val
  | .other => branch "other_type" (some "type") []

/-- The kind of the node of a function. -/
def functionKind (hasBody : Bool) : String :=
  if hasBody then "function_item" else "function_signature_item"

mutual

/-- The node of an item or a stretch of code. -/
def Node.tree : Node → SyntaxTree
  | .implementation selfType items =>
      branch "impl_item" none
        [selfType.tree, branch "declaration_list" (some "body") (nodeTrees items)]
  | .function name hasBody inside =>
      branch (functionKind hasBody) none
        [leaf "identifier" (some "name") name.val, branch "block" (some "body") (nodeTrees inside)]
  | .region inside => branch "block" none (nodeTrees inside)

/-- The nodes of what stands side by side. -/
def nodeTrees : List Node → List SyntaxTree
  | [] => []
  | n :: rest => n.tree :: nodeTrees rest

end

/-- The tree of a source. -/
def sourceFile (outline : List Node) : SyntaxTree :=
  branch "source_file" none (nodeTrees outline)

end Rust

end Syntax

end SurfaceCoverage
