import SurfaceCoverage.Json.Basic
import SurfaceCoverage.Registry.Join

/-!
# Registry tables

A registry table is a JSON object.  Under the key of a family it lists objects with a `name`, the
identifier, and a `class`, the reference class.

**Results.**
* `entryOf_object`: an object with both texts is an entry.
-/

namespace SurfaceCoverage

namespace Registry

/-- Why a registry table is refused. -/
inductive TableError where
  | noList (key : String)
  | notObject (key : String) (index : Nat)
  | incomplete (key : String) (index : Nat)
  deriving Repr, DecidableEq

/-- What is wrong with a registry table. -/
def TableError.message : TableError → String
  | .noList key => s!"Registry table has no '{key}' list"
  | .notObject key index => s!"Registry entry {key}[{index}] must be an object"
  | .incomplete key index => s!"Registry entry {key}[{index}] needs string 'name' and 'class'"

/-- The entry that a listed document stands for. -/
def entryOf (key : String) (index : Nat) (j : Json) : Except TableError TableEntry :=
  match j with
  | .object members =>
      match (OrderedMap.lookup "name" members).bind Json.text?,
          (OrderedMap.lookup "class" members).bind Json.text? with
      | some id, some className => .ok ⟨id, className⟩
      | _, _ => .error (.incomplete key index)
  | _ => .error (.notObject key index)

/-- The entries that a list of documents stands for; the first bad one decides the error. -/
def entriesFrom (key : String) : Nat → List Json → Except TableError (List TableEntry)
  | _, [] => .ok []
  | index, j :: rest =>
      match entryOf key index j with
      | .error e => .error e
      | .ok entry =>
          match entriesFrom key (index + 1) rest with
          | .error e => .error e
          | .ok entries => .ok (entry :: entries)

/-- The entries that a table lists under a key. -/
def entries (table : Json) (key : String) : Except TableError (List TableEntry) :=
  match table.member? key with
  | some (.list items) => entriesFrom key 0 items
  | _ => .error (.noList key)

theorem entryOf_object {key : String} {index : Nat} {members : List (String × Json)}
    {id className : String}
    (hid : OrderedMap.lookup "name" members = some (.text id))
    (hclass : OrderedMap.lookup "class" members = some (.text className)) :
    entryOf key index (.object members) = .ok ⟨id, className⟩ := by
  simp [entryOf, hid, hclass, Json.text?]

end Registry

end SurfaceCoverage
