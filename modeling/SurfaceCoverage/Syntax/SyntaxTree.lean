import SurfaceCoverage.Text.Utf8

/-!
# Syntax trees

A parser turns a source into a tree of nodes.  The place of a node is the list of the indices of the
children on the way down to it; in the order of places a node comes before what is below it, and
that comes before what stands behind it in the source.

**Results.**
* `mem_spots_iff`: the spots of a tree are its nodes with their places.
* `mem_spots_of_mem_children`: a child of a node of a tree is a node of the tree.
* `pairwise_spots`: they are listed in the order of their places.
-/

namespace SurfaceCoverage

/-- A node of a syntax tree: its kind, whether it is named by the grammar (a keyword or a bracket is
not), its role among the children of its parent, the bytes of the source that it stands for, and its
children. -/
inductive SyntaxTree where
  | node (kind : String) (isNamed : Bool) (role : Option String) (text : List UInt8)
      (children : List SyntaxTree)

namespace SyntaxTree

/-- The kind of a node. -/
def kind : SyntaxTree → String
  | .node kind _ _ _ _ => kind

/-- Whether a node is named. -/
def isNamed : SyntaxTree → Bool
  | .node _ isNamed _ _ _ => isNamed

/-- The role of a node among the children of its parent. -/
def role : SyntaxTree → Option String
  | .node _ _ role _ _ => role

/-- The bytes that a node stands for. -/
def text : SyntaxTree → List UInt8
  | .node _ _ _ text _ => text

/-- The children of a node. -/
def children : SyntaxTree → List SyntaxTree
  | .node _ _ _ _ children => children

/-- The text of a node, without the bytes that are no text. -/
def word (t : SyntaxTree) : String :=
  String.ofList (Text.decodeIgnoring t.text)

/-- The node at the end of a path. -/
def at? (t : SyntaxTree) : List Nat → Option SyntaxTree
  | [] => some t
  | i :: rest => t.children[i]?.bind fun c => c.at? rest

end SyntaxTree

namespace Syntax

/-- A node without children that stands for a word. -/
def leaf (kind : String) (role : Option String) (word : String) : SyntaxTree :=
  .node kind true role (Text.encode word) []

/-- A node with children.  Its own text is not kept. -/
def branch (kind : String) (role : Option String) (children : List SyntaxTree) : SyntaxTree :=
  .node kind true role [] children

end Syntax

/-- A node of a tree at its place. -/
structure Spot where
  place : List Nat
  tree : SyntaxTree

/-- The children of a node at their places. -/
def Spot.children (x : Spot) : List Spot :=
  x.tree.children.zipIdx.map fun c => ⟨x.place ++ [c.2], c.1⟩

mutual

/-- The nodes of a tree that stands at a place. -/
def SyntaxTree.spotsFrom (place : List Nat) : SyntaxTree → List Spot
  | .node kind isNamed role text children =>
      ⟨place, .node kind isNamed role text children⟩ :: spotsAmong place 0 children

/-- The nodes of trees that are the children of a place, from an index on. -/
def spotsAmong (place : List Nat) (index : Nat) : List SyntaxTree → List Spot
  | [] => []
  | t :: rest => t.spotsFrom (place ++ [index]) ++ spotsAmong place (index + 1) rest

end

/-- The nodes of a tree at their places, a node before those below it. -/
def SyntaxTree.spots (t : SyntaxTree) : List Spot :=
  t.spotsFrom []

/-- A place comes before those below it. -/
theorem lt_append_cons (p q : List Nat) (i : Nat) :
    p < p ++ i :: q := by
  have h : p ++ [] < p ++ i :: q := List.append_left_lt (List.nil_lt_cons i q)
  rwa [List.append_nil] at h

/-- Places below a child come before those below a later one. -/
theorem append_cons_lt_append_cons (p q r : List Nat) {i j : Nat} (h : i < j) :
    p ++ i :: q < p ++ j :: r :=
  List.append_left_lt (List.cons_lt_cons_iff.2 (Or.inl h))

/-- Induction over a tree. -/
theorem SyntaxTree.ind {P : SyntaxTree → Prop} (h : ∀ t, (∀ c ∈ t.children, P c) → P t)
    (t : SyntaxTree) :
    P t := by
  refine @SyntaxTree.rec P (fun ts => ∀ t ∈ ts, P t) ?_ ?_ ?_ t
  · intro kind isNamed role text children hchildren
    exact h _ hchildren
  · intro t ht
    cases ht
  · intro t rest ht hrest u hu
    rcases List.mem_cons.1 hu with rfl | hu
    · exact ht
    · exact hrest u hu

theorem spotsAmong_eq (p : List Nat) (i : Nat) (ts : List SyntaxTree) :
    spotsAmong p i ts = (ts.zipIdx i).flatMap fun c => c.1.spotsFrom (p ++ [c.2]) := by
  induction ts generalizing i with
  | nil => rfl
  | cons t rest ih => rw [spotsAmong, ih, List.zipIdx_cons, List.flatMap_cons]

namespace Spot

/-- The nodes from a node on down. -/
def below (x : Spot) : List Spot :=
  x.tree.spotsFrom x.place

/-- Below a place are itself and what is below its children. -/
theorem below_eq (x : Spot) :
    x.below = x :: x.children.flatMap below := by
  obtain ⟨p, kind, isNamed, role, text, children⟩ := x
  rw [below, SyntaxTree.spotsFrom, spotsAmong_eq, Spot.children, List.flatMap_map]
  rfl

/-- The children stand one step below. -/
theorem mem_children_iff {x c : Spot} :
    c ∈ x.children ↔ ∃ i, c.place = x.place ++ [i] ∧ x.tree.children[i]? = some c.tree := by
  obtain ⟨p, t⟩ := c
  simp only [children, List.mem_map, List.mem_zipIdx_iff_getElem?, Spot.mk.injEq]
  constructor
  · rintro ⟨⟨t, i⟩, hi, hplace, rfl⟩
    exact ⟨i, hplace.symm, hi⟩
  · rintro ⟨i, hplace, hi⟩
    exact ⟨(t, i), hi, hplace.symm, rfl⟩

/-- What stands below a place is found there by the steps that lead down. -/
theorem mem_below_iff {x y : Spot} :
    y ∈ x.below ↔ ∃ q, y.place = x.place ++ q ∧ x.tree.at? q = some y.tree := by
  obtain ⟨p, t⟩ := x
  induction t using SyntaxTree.ind generalizing p with
  | h t ih =>
    have hchild : ∀ c ∈ (⟨p, t⟩ : Spot).children,
        (y ∈ c.below ↔ ∃ q, y.place = c.place ++ q ∧ c.tree.at? q = some y.tree) := by
      rintro ⟨q, c⟩ hc
      obtain ⟨i, -, hi⟩ := mem_children_iff.1 hc
      exact ih c (List.mem_of_getElem? hi) q
    rw [below_eq, List.mem_cons, List.mem_flatMap]
    constructor
    · rintro (rfl | ⟨c, hc, hy⟩)
      · exact ⟨[], (List.append_nil p).symm, rfl⟩
      · obtain ⟨q, hplace, hq⟩ := (hchild c hc).1 hy
        obtain ⟨i, hi, hget⟩ := mem_children_iff.1 hc
        refine ⟨i :: q, by rw [hplace, hi, List.append_assoc]; rfl, ?_⟩
        rw [SyntaxTree.at?, hget, Option.bind_some]
        exact hq
    · rintro ⟨_ | ⟨i, q⟩, hplace, hq⟩
      · obtain ⟨place, tree⟩ := y
        rw [List.append_nil] at hplace
        obtain rfl : t = tree := Option.some.inj hq
        obtain rfl : place = p := hplace
        exact Or.inl rfl
      · obtain ⟨c, hget, hq⟩ := Option.bind_eq_some_iff.1 hq
        have hc : (⟨p ++ [i], c⟩ : Spot) ∈ (⟨p, t⟩ : Spot).children :=
          mem_children_iff.2 ⟨i, rfl, hget⟩
        refine Or.inr ⟨_, hc, (hchild _ hc).2 ⟨q, ?_, hq⟩⟩
        rw [hplace, List.append_assoc]
        rfl

/-- What is below a child comes before what is below a later one. -/
theorem pairwise_children (x : Spot) :
    x.children.Pairwise fun a b => ∀ q r, a.place ++ q < b.place ++ r := by
  rw [List.pairwise_iff_getElem]
  intro i j hi hj hij q r
  have hplace : ∀ (k) (hk : k < x.children.length), x.children[k].place = x.place ++ [k] :=
    fun k hk => by simp [children]
  rw [hplace i hi, hplace j hj, List.append_assoc, List.append_assoc]
  exact append_cons_lt_append_cons x.place q r hij

/-- Places are gone through in their order. -/
theorem pairwise_below (x : Spot) :
    x.below.Pairwise fun a b => a.place < b.place := by
  obtain ⟨p, t⟩ := x
  induction t using SyntaxTree.ind generalizing p with
  | h t ih =>
    rw [below_eq, List.pairwise_cons, List.pairwise_flatMap]
    refine ⟨?_, ?_, ?_⟩
    · intro y hy
      obtain ⟨c, hc, hy⟩ := List.mem_flatMap.1 hy
      obtain ⟨i, hi, -⟩ := mem_children_iff.1 hc
      obtain ⟨q, hq, -⟩ := mem_below_iff.1 hy
      rw [hq, hi, List.append_assoc]
      exact lt_append_cons p q i
    · rintro ⟨q, c⟩ hc
      obtain ⟨i, -, hi⟩ := mem_children_iff.1 hc
      exact ih c (List.mem_of_getElem? hi) q
    · refine (pairwise_children ⟨p, t⟩).imp ?_
      intro a b hab y hy z hz
      obtain ⟨q, hq, -⟩ := mem_below_iff.1 hy
      obtain ⟨r, hr, -⟩ := mem_below_iff.1 hz
      rw [hq, hr]
      exact hab q r

end Spot

/-- The places of a tree are those where something stands. -/
theorem SyntaxTree.mem_spots_iff {t : SyntaxTree} {x : Spot} :
    x ∈ t.spots ↔ t.at? x.place = some x.tree := by
  have h : x ∈ t.spots ↔ ∃ q, x.place = [] ++ q ∧ t.at? q = some x.tree :=
    Spot.mem_below_iff (x := ⟨[], t⟩)
  rw [h]
  exact ⟨fun ⟨q, hq, hat⟩ => by rwa [hq], fun hat => ⟨x.place, rfl, hat⟩⟩

/-- The places of a tree are gone through in their order. -/
theorem SyntaxTree.pairwise_spots (t : SyntaxTree) :
    t.spots.Pairwise fun a b => a.place < b.place :=
  Spot.pairwise_below ⟨[], t⟩

theorem SyntaxTree.at?_append (t : SyntaxTree) (p q : List Nat) :
    t.at? (p ++ q) = (t.at? p).bind fun u => u.at? q := by
  induction p generalizing t with
  | nil => rfl
  | cons i rest ih =>
    rw [List.cons_append, at?, at?]
    cases t.children[i]? with
    | none => rfl
    | some c => exact ih c

theorem SyntaxTree.mem_spots_of_mem_children {t : SyntaxTree} {x c : Spot} (hx : x ∈ t.spots)
    (hc : c ∈ x.children) :
    c ∈ t.spots := by
  obtain ⟨i, hplace, hi⟩ := Spot.mem_children_iff.1 hc
  have hx := mem_spots_iff.1 hx
  rw [mem_spots_iff, hplace, at?_append, hx, Option.bind_some, at?, hi]
  rfl

end SurfaceCoverage
