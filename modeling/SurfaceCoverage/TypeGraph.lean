import SurfaceCoverage.Category
import SurfaceCoverage.ClassRecord
import SurfaceCoverage.Declaration
import SurfaceCoverage.OrderedMap

/-!
# Type graphs

A type graph holds one declaration for every type name that was observed.  The graph of a source
root is the merge of the graphs of its files.  A type is abstract when some declaration of the
graph names it as an ancestor.

**Results.**
* `get?_add`: one more declaration changes what is known under its name only.
* `get?_merge`, `keys_merge`: a merge joins what both graphs know, name by name.
* `observe_eq_add`: to observe is to add the declaration that the observation gives on its own.
-/

namespace SurfaceCoverage

/-- The declarations of a source root by name. -/
structure TypeGraph where
  declarations : OrderedMap String Declaration

/-- Whether a type is a class of its own or a base. -/
inductive TypeKind where
  | concrete
  | abstract
  deriving Repr, DecidableEq

/-- The word for a kind. -/
def TypeKind.text : TypeKind → String
  | .concrete => "concrete"
  | .abstract => "abstract"

namespace TypeGraph

/-- The graph without types. -/
def empty : TypeGraph :=
  ⟨OrderedMap.empty⟩

/-- The declaration of a name. -/
def get? (g : TypeGraph) (name : String) : Option Declaration :=
  g.declarations.get? name

/-- Whether a name is declared. -/
def contains (g : TypeGraph) (name : String) : Bool :=
  g.declarations.contains name

/-- How many names are declared. -/
def size (g : TypeGraph) : Nat :=
  g.declarations.size

/-- Whether nothing is declared. -/
def isEmpty (g : TypeGraph) : Bool :=
  g.declarations.isEmpty

/-- The declared names in rising order. -/
def names (g : TypeGraph) : List String :=
  Text.sorted g.declarations.keys

/-- The declarations in the order of their names. -/
def toList (g : TypeGraph) : List Declaration :=
  g.names.filterMap g.get?

/-- Adds what one observation tells; an observation without a type name tells nothing. -/
def observe (g : TypeGraph) (o : Observation) : TypeGraph :=
  if o.typeName = "" then g
  else
    let known := (g.get? o.typeName).getD (.named o.typeName)
    ⟨g.declarations.insert o.typeName (known.observe o)⟩

/-- The graph of a list of observations. -/
def ofObservations (os : List Observation) : TypeGraph :=
  os.foldl observe empty

/-- Adds a declaration under a name to what is known under it. -/
def add (g : TypeGraph) (name : String) (d : Declaration) : TypeGraph :=
  match g.get? name with
  | some known => ⟨g.declarations.insert name (known.merge d)⟩
  | none => ⟨g.declarations.insert name d⟩

/-- The graph that holds what both graphs tell. -/
def merge (g h : TypeGraph) : TypeGraph :=
  h.declarations.toList.foldl (fun acc p => acc.add p.1 p.2) g

/-- The merge of the graphs of several files, from left to right. -/
def mergeAll (gs : List TypeGraph) : TypeGraph :=
  gs.foldl merge empty

/-- Whether two graphs are equivalent. -/
def isEquiv (g h : TypeGraph) : Bool :=
  g.declarations.isEquiv h.declarations

/-- The pairs of an ancestor and a declaration that names it, in the order of declarations. -/
def ancestry (g : TypeGraph) : List (String × String) :=
  g.toList.flatMap fun d => d.ancestors.map fun a => (a, d.name)

/-- The ancestors that declarations name, each with the names of those declarations. -/
def childIndex (g : TypeGraph) : OrderedMap String (List String) :=
  g.ancestry.foldl
    (fun index p => index.insert p.1 (addNew ((index.get? p.1).getD []) p.2)) OrderedMap.empty

/-- Whether a name is named as an ancestor. -/
def isAncestor (g : TypeGraph) (name : String) : Bool :=
  g.toList.any fun d => d.ancestors.contains name

/-- The kind of a declared name. -/
def kindOf (g : TypeGraph) (name : String) : TypeKind :=
  if g.isAncestor name then .abstract else .concrete

/-- The kinds of the declared types, by their names. -/
def classify (g : TypeGraph) : OrderedMap String TypeKind :=
  OrderedMap.ofList (g.toList.map fun d => (d.name, g.kindOf d.name))

/-- The records of a graph in the order of names, without category.  Where ancestors are not
tracked, every type counts as a class of its own. -/
def records (g : TypeGraph) (tracksInheritance : Bool) : List ClassRecord :=
  g.toList.map fun d =>
    { name := d.name
      category := ""
      methods := d.methods
      isConcrete := !tracksInheritance || g.kindOf d.name = .concrete }

/-- A short description. -/
def description (g : TypeGraph) : String :=
  s!"TypeGraph({g.size} declarations)"

@[simp]
theorem get?_empty (name : String) :
    empty.get? name = none :=
  rfl

theorem get?_add (g : TypeGraph) (name x : String) (d : Declaration) :
    (g.add name d).get? x =
      if name = x then
        some (match g.get? name with
          | some known => known.merge d
          | none => d)
      else g.get? x := by
  unfold TypeGraph.add
  cases h : g.get? name with
  | none => simp [get?, OrderedMap.get?_insert]
  | some known => simp [get?, OrderedMap.get?_insert]

theorem keys_add (g : TypeGraph) (name : String) (d : Declaration) :
    (g.add name d).declarations.keys = addNew g.declarations.keys name := by
  unfold TypeGraph.add
  cases g.get? name with
  | none => exact g.declarations.keys_insert name d
  | some known => exact g.declarations.keys_insert name (known.merge d)

/-- The keys in their places and the declaration of each name make up the whole graph. -/
theorem eq_of_keys_eq {g h : TypeGraph} (hkeys : g.declarations.keys = h.declarations.keys)
    (hget : ∀ x, g.get? x = h.get? x) :
    g = h := by
  obtain ⟨m⟩ := g
  obtain ⟨n⟩ := h
  have heq : m = n := OrderedMap.eq_of_keys_eq hkeys hget
  rw [heq]

theorem get?_foldl_add {l : List (String × Declaration)} (hl : (l.map Prod.fst).Nodup)
    (g : TypeGraph) (x : String) :
    (l.foldl (fun acc p => acc.add p.1 p.2) g).get? x =
      Option.merge Declaration.merge (g.get? x) (OrderedMap.lookup x l) := by
  induction l generalizing g with
  | nil => rw [List.foldl_nil, OrderedMap.lookup, Option.merge_none_right]
  | cons p rest ih =>
    have hp : p.1 ∉ rest.map Prod.fst := (List.nodup_cons.1 hl).1
    rw [List.foldl_cons, ih (List.nodup_cons.1 hl).2, get?_add]
    by_cases hx : p.1 = x
    · subst hx
      rw [if_pos rfl, OrderedMap.lookup_eq_none_iff.2 hp, Option.merge_none_right,
        OrderedMap.lookup, if_pos rfl]
      cases g.get? p.1 <;> rfl
    · rw [if_neg hx, OrderedMap.lookup, if_neg hx]

/-- What a merge knows of a name is what both graphs know of it. -/
theorem get?_merge (g h : TypeGraph) (x : String) :
    (g.merge h).get? x = Option.merge Declaration.merge (g.get? x) (h.get? x) :=
  get?_foldl_add h.declarations.keys_nodup g x

theorem keys_foldl_add (l : List (String × Declaration)) (g : TypeGraph) :
    (l.foldl (fun acc p => acc.add p.1 p.2) g).declarations.keys =
      unite g.declarations.keys (l.map Prod.fst) := by
  induction l generalizing g with
  | nil => rfl
  | cons p rest ih =>
    rw [List.foldl_cons, ih, keys_add]
    rfl

theorem keys_merge (g h : TypeGraph) :
    (g.merge h).declarations.keys = unite g.declarations.keys h.declarations.keys :=
  keys_foldl_add h.declarations.toList g

theorem observe_of_empty (g : TypeGraph) {o : Observation} (h : o.typeName = "") :
    g.observe o = g :=
  if_pos h

/-- To observe is to add the declaration that the observation gives on its own. -/
theorem observe_eq_add (g : TypeGraph) {o : Observation} (h : o.typeName ≠ "") :
    g.observe o = g.add o.typeName ((Declaration.named o.typeName).observe o) := by
  unfold observe TypeGraph.add
  rw [if_neg h]
  cases g.get? o.typeName with
  | none => rfl
  | some known => simp only [Option.getD_some, known.observe_eq_merge o]

end TypeGraph

end SurfaceCoverage
