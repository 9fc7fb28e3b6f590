import SurfaceCoverage.Files.Tree

/-!
# Changes of a file tree

What a run has written shows when the tree after it is laid beside the tree before it: a file
counts as changed when the tree before has no file with this content in its place.

**Results.**
* `mem_changes_iff`: the changes are the files whose content is new in their place.
-/

namespace SurfaceCoverage

namespace Files

namespace Node

mutual

/-- The files of a tree with the names that lead to them. -/
def files (here : List String) : Node → List (List String × ByteArray)
  | .file content => [(here, content)]
  | .link _ => []
  | .directory entries => filesOfEntries here entries

/-- The files among and below the entries of a directory. -/
def filesOfEntries (here : List String) : List (String × Node) → List (List String × ByteArray)
  | [] => []
  | (name, n) :: rest => files (here ++ [name]) n ++ filesOfEntries here rest

end

/-- Whether a file with the given content stands at the given names. -/
def hasFile (n : Node) (names : List String) (content : ByteArray) : Bool :=
  match n.at? names with
  | some (.file old) => old == content
  | _ => false

/-- The files of a tree that are not in the tree before it. -/
def changes (before after : Node) : List (List String × ByteArray) :=
  (after.files []).filter fun f => !before.hasFile f.1 f.2

theorem mem_changes_iff (before after : Node) (f : List String × ByteArray) :
    f ∈ changes before after ↔
      f ∈ after.files [] ∧ before.hasFile f.1 f.2 = false := by
  simp [changes]

end Node

end Files

end SurfaceCoverage
