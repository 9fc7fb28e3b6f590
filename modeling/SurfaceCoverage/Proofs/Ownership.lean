import SurfaceCoverage.Extraction
import SurfaceCoverage.Proofs.ErrorFree
import SurfaceCoverage.Proofs.Observed
import Mathlib.Logic.ExistsUnique

/-!
# Methods belong to their direct owners

A file without errors is a syntax tree that follows the grammar, however deep its declarations are
nested.  Whatever parser and cursor there are, the graph of the file gives a method to a type
exactly if the tree does: in Java if some class of that name has a method of that name as a child of
its own body, in Rust if some block for that plain name has such a function.  No method leaks out of
a nested, local or anonymous type, a lambda, a trait, a free function or the body of a method,
whatever stands around it, and a constructor is no method.

**Results.**
* `Scheme.find_query`: a lawful cursor finds the members, each once and in the order of their names.
* `Scheme.existsUnique_isMember`: a named method in the body of a named owner is one member.
* `methods_of_direct_owners`: what the files of both languages tell.
-/

namespace SurfaceCoverage

/-- The graph gives the method to the type. -/
def TypeGraph.Assigns (g : TypeGraph) (type method : String) : Prop :=
  ∃ d, g.get? type = some d ∧ method ∈ d.methods

/-- A graph assigns methods to types as its observations do, but for empty names. -/
theorem TypeGraph.assigns_ofObservations {os : List Observation} {type method : String} :
    (ofObservations os).Assigns type method ↔
      type ≠ "" ∧ method ≠ "" ∧ (type, method) ∈ os.map fun o => (o.typeName, o.methodName) := by
  have hmem : (type, method) ∈ os.map (fun o => (o.typeName, o.methodName)) ↔
      ∃ o ∈ os, o.typeName = type ∧ o.methodName = method := by
    simp only [List.mem_map, Prod.mk.injEq]
  rw [hmem]
  constructor
  · rintro ⟨d, hd, hmethod⟩
    obtain ⟨⟨htype, -⟩, rfl⟩ := get?_ofObservations_eq_some_iff.1 hd
    exact ⟨htype, mem_methodsOf.1 (List.mem_eraseDups.1 hmethod)⟩
  · rintro ⟨htype, hmethod, o, ho, hname, heq⟩
    refine ⟨_, get?_ofObservations_eq_some_iff.2 ⟨⟨htype, o, ho, hname⟩, rfl⟩, ?_⟩
    exact List.mem_eraseDups.2 (mem_methodsOf.2 ⟨hmethod, o, ho, hname, heq⟩)

/-- How the nodes of a language stand for types and their methods: the kind of the node that owns
methods, the kind and the role of the child that names the type, the children that are captured with
it, each with the name for it, the kind of the body, and the kind of a method. -/
structure Scheme where
  owner : String
  nameKind : String
  nameRole : String
  captures : List (String × String)
  body : String
  method : String

/-- A method that a type owns: the nodes of the owner, of the name of the type, of the method, and
of the name of the method. -/
structure Member where
  owner : Spot
  typeName : Spot
  declaration : Spot
  methodName : Spot

namespace Scheme

variable (s : Scheme)

/-- The query for the name of a type. -/
def nameQuery : Query :=
  .node s.nameKind (some s.nameRole) false (some "type_name") []

/-- The query for the names of the methods in a body. -/
def bodyQuery : Query :=
  .node s.body (some "body") false none
    [.node s.method none false none
      [.node "identifier" (some "name") false (some "method_name") []]]

/-- The query for the names of types and methods. -/
def query : Query :=
  .node s.owner none false none
    (s.nameQuery :: (Query.optional s.captures ++ [s.bodyQuery]))

/-- The children of an owner, in their order. -/
def slots : List ChildSlot :=
  ⟨s.nameKind, some s.nameRole⟩ ::
    (s.captures.map (fun c => ⟨c.1, none⟩) ++ [⟨s.body, some "body"⟩])

/-- The method stands directly in the body of its owner in the tree. -/
structure IsMember (t : SyntaxTree) (m : Member) : Prop where
  owner : t.at? m.owner.place = some m.owner.tree ∧ m.owner.tree.fits s.owner none = true
  typeName : m.typeName ∈ m.owner.children
    ∧ m.typeName.tree.fits s.nameKind (some s.nameRole) = true
  declaration : ∃ body ∈ m.owner.children, body.tree.fits s.body (some "body") = true
    ∧ m.declaration ∈ body.children ∧ m.declaration.tree.fits s.method none = true
  methodName : m.methodName ∈ m.declaration.children
    ∧ m.methodName.tree.fits "identifier" (some "name") = true

/-- What the query captures for a member. -/
def toMatch (m : Member) : Match :=
  ⟨"type_name", m.typeName⟩ ::
    (Query.optionalCaptures s.captures m.owner.children ++ [⟨"method_name", m.methodName⟩])

/-- The members in the body of a node, if it owns methods. -/
def membersAt (x : Spot) : List Member :=
  if x.tree.fits s.owner none then
    (x.children.filter fun n => n.tree.fits s.nameKind (some s.nameRole)).flatMap fun n =>
      (x.children.filter fun b => b.tree.fits s.body (some "body")).flatMap fun b =>
        (b.children.filter fun d => d.tree.fits s.method none).flatMap fun d =>
          (d.children.filter fun k => k.tree.fits "identifier" (some "name")).map fun k =>
            ⟨x, n, d, k⟩
  else []

/-- The members at a place: its name, and the methods in its body with their names. -/
theorem mem_membersAt_iff {x : Spot} {m : Member} :
    m ∈ s.membersAt x ↔
      m.owner = x ∧ x.tree.fits s.owner none = true
      ∧ (m.typeName ∈ x.children ∧ m.typeName.tree.fits s.nameKind (some s.nameRole) = true)
      ∧ (∃ body ∈ x.children, body.tree.fits s.body (some "body") = true
        ∧ m.declaration ∈ body.children ∧ m.declaration.tree.fits s.method none = true)
      ∧ m.methodName ∈ m.declaration.children
      ∧ m.methodName.tree.fits "identifier" (some "name") = true := by
  obtain ⟨owner, typeName, declaration, methodName⟩ := m
  rw [membersAt]
  by_cases hx : x.tree.fits s.owner none = true
  · rw [if_pos hx]
    simp only [List.mem_flatMap, List.mem_map, List.mem_filter, Member.mk.injEq]
    constructor
    · rintro ⟨n, hn, b, ⟨hb, hbody⟩, d, ⟨hd, hmethod⟩, k, hk, rfl, rfl, rfl, rfl⟩
      exact ⟨rfl, hx, hn, ⟨b, hb, hbody, hd, hmethod⟩, hk⟩
    · rintro ⟨rfl, -, hn, ⟨b, hb, hbody, hd, hmethod⟩, hk⟩
      exact ⟨_, hn, b, ⟨hb, hbody⟩, _, ⟨hd, hmethod⟩, _, hk, rfl, rfl, rfl, rfl⟩
  · rw [if_neg hx]
    simp [hx]

/-- The members of the tree are those of its nodes. -/
theorem isMember_iff {t : SyntaxTree} {m : Member} :
    s.IsMember t m ↔ m ∈ t.spots.flatMap s.membersAt := by
  rw [List.mem_flatMap]
  constructor
  · rintro ⟨⟨hat, howner⟩, htype, hdeclaration, hmethod⟩
    exact ⟨m.owner, SyntaxTree.mem_spots_iff.2 hat,
      s.mem_membersAt_iff.2 ⟨rfl, howner, htype, hdeclaration, hmethod⟩⟩
  · rintro ⟨x, hx, hm⟩
    obtain ⟨rfl, howner, htype, hdeclaration, hmethod⟩ := s.mem_membersAt_iff.1 hm
    exact ⟨⟨SyntaxTree.mem_spots_iff.1 hx, howner⟩, htype, hdeclaration, hmethod⟩

theorem slot_queries :
    (s.nameQuery :: (Query.optional s.captures ++ [s.bodyQuery])).map Query.slot = s.slots := by
  simp [slots, Query.optional, nameQuery, bodyQuery, Query.slot, Function.comp_def]

/-- A body matches once for each method in it that has a name. -/
theorem ways_bodyQuery (b : Spot) :
    s.bodyQuery.ways b =
      if b.tree.fits s.body (some "body") then
        (b.children.filter fun d => d.tree.fits s.method none).flatMap fun d =>
          (d.children.filter fun k => k.tree.fits "identifier" (some "name")).map fun k =>
            [⟨"method_name", k⟩]
      else [] := by
  have hmethod : (Query.node s.method none false none
      [.node "identifier" (some "name") false (some "method_name") []]).ways = fun d =>
        if d.tree.fits s.method none then
          (d.children.filter fun k => k.tree.fits "identifier" (some "name")).map fun k =>
            [⟨"method_name", k⟩]
        else [] := by
    funext d
    rw [Query.ways_inner rfl, Query.flatMap_leaf]
  rw [bodyQuery, Query.ways_inner rfl, hmethod, flatMap_ite]

/-- At a node whose children stand in order the query finds the members. -/
theorem ways_query {x : Spot} (hkinds : (s.slots.map ChildSlot.kind).Nodup)
    (h : x.tree.fits s.owner none = true → InOrder s.slots x.children) :
    s.query.ways x = (s.membersAt x).map s.toMatch := by
  rw [query, Query.ways, membersAt]
  by_cases hx : x.tree.fits s.owner none = true
  · rw [if_pos hx, if_pos hx]
    have horder := h hx
    rw [← s.slot_queries] at horder hkinds
    rw [List.map_map] at hkinds
    obtain ⟨hkind, hkinds⟩ := List.nodup_cons.1 hkinds
    have hrest := InOrder.tail (by rw [List.map_map]; exact hkind) horder
    have hbodies : Query.waysAmong [s.bodyQuery] x.children =
        (x.children.filter fun b => b.tree.fits s.body (some "body")).flatMap fun b =>
          (b.children.filter fun d => d.tree.fits s.method none).flatMap fun d =>
            (d.children.filter fun k => k.tree.fits "identifier" (some "name")).map fun k =>
              [⟨"method_name", k⟩] := by
      rw [Query.waysAmong_singleton rfl, ← flatMap_ite]
      exact congrArg (List.flatMap · x.children) (funext s.ways_bodyQuery)
    have hnames : s.nameQuery.waysIn x.children =
        (x.children.filter fun n => n.tree.fits s.nameKind (some s.nameRole)).map fun n =>
          [⟨"type_name", n⟩] := Query.flatMap_leaf _ _ _ _ _
    rw [Query.waysAmong_cons hkind horder, hnames,
      Query.waysAmong_optional_append hkinds hrest, hbodies]
    simp [List.flatMap_map, List.map_flatMap, Function.comp_def, toMatch]
  · rw [if_neg hx, if_neg hx]
    rfl

/-- What is captured last is the name of the method. -/
theorem lastPlace_toMatch (m : Member) :
    (s.toMatch m).lastPlace = m.methodName.place := by
  rw [toMatch, Match.lastPlace, ← List.cons_append, List.getLast?_concat]
  rfl

/-- The name of a method stands three steps below its owner. -/
theorem place_methodName {x : Spot} {m : Member} (h : m ∈ s.membersAt x) :
    ∃ i j k, m.methodName.place = x.place ++ [i, j, k] := by
  obtain ⟨-, -, -, ⟨b, hb, -, hd, -⟩, hk, -⟩ := s.mem_membersAt_iff.1 h
  obtain ⟨i, hi, -⟩ := Spot.mem_children_iff.1 hb
  obtain ⟨j, hj, -⟩ := Spot.mem_children_iff.1 hd
  obtain ⟨k, hk, -⟩ := Spot.mem_children_iff.1 hk
  exact ⟨i, j, k, by rw [hk, hj, hi, List.append_assoc, List.append_assoc]; rfl⟩

/-- The names of the members of an owner stand behind each other. -/
theorem pairwise_membersAt {x : Spot}
    (h : x.tree.fits s.owner none = true → InOrder s.slots x.children) :
    (s.membersAt x).Pairwise fun m n => m.methodName.place < n.methodName.place := by
  rw [membersAt]
  split
  · next hx =>
    have hnames := (h hx).pairwise_filter
    have hplace : ∀ {y c : Spot}, c ∈ y.children → ∃ i, c.place = y.place ++ [i] := fun hc =>
      (Spot.mem_children_iff.1 hc).imp fun i hi => hi.1
    rw [List.pairwise_flatMap]
    refine ⟨fun n _ => ?_, hnames.imp False.elim⟩
    rw [List.pairwise_flatMap]
    refine ⟨fun b _ => ?_, ((Spot.pairwise_children x).filter _).imp ?_⟩
    · rw [List.pairwise_flatMap]
      refine ⟨fun d _ => ?_, ((Spot.pairwise_children b).filter _).imp ?_⟩
      · rw [List.pairwise_map]
        refine ((Spot.pairwise_children d).filter _).imp fun hkl => ?_
        simpa using hkl [] []
      · intro d e hde m hm n hn
        obtain ⟨k, hk, rfl⟩ := List.mem_map.1 hm
        obtain ⟨l, hl, rfl⟩ := List.mem_map.1 hn
        obtain ⟨i, hi⟩ := hplace (List.mem_filter.1 hk).1
        obtain ⟨j, hj⟩ := hplace (List.mem_filter.1 hl).1
        rw [hi, hj]
        exact hde [i] [j]
    · intro b c hbc m hm n hn
      obtain ⟨d, hd, hm⟩ := List.mem_flatMap.1 hm
      obtain ⟨e, he, hn⟩ := List.mem_flatMap.1 hn
      obtain ⟨k, hk, rfl⟩ := List.mem_map.1 hm
      obtain ⟨l, hl, rfl⟩ := List.mem_map.1 hn
      obtain ⟨i, hi⟩ := hplace (List.mem_filter.1 hd).1
      obtain ⟨j, hj⟩ := hplace (List.mem_filter.1 he).1
      obtain ⟨i', hi'⟩ := hplace (List.mem_filter.1 hk).1
      obtain ⟨j', hj'⟩ := hplace (List.mem_filter.1 hl).1
      rw [hi', hj', hi, hj, List.append_assoc, List.append_assoc]
      exact hbc _ _
  · exact List.Pairwise.nil

/-- No two members of a tree have their names at one place. -/
theorem pairwise_members {t : SyntaxTree}
    (h : ∀ x ∈ t.spots, x.tree.fits s.owner none = true → InOrder s.slots x.children) :
    (t.spots.flatMap s.membersAt).Pairwise fun m n =>
      m.methodName.place ≠ n.methodName.place := by
  rw [List.pairwise_flatMap]
  refine ⟨fun x hx => ?_, t.pairwise_spots.imp fun {x y} hxy m hm n hn heq => ?_⟩
  · refine (s.pairwise_membersAt (h x hx)).imp fun {m n} hmn heq => ?_
    rw [heq] at hmn
    exact List.lt_irrefl _ hmn
  · obtain ⟨i, j, k, hm⟩ := s.place_methodName hm
    obtain ⟨i', j', k', hn⟩ := s.place_methodName hn
    rw [hm, hn] at heq
    have hplace := (List.append_inj' heq rfl).1
    rw [hplace] at hxy
    exact List.lt_irrefl _ hxy

end Scheme

/-- A list that is a map of another one up to the order is the map of that one in some order. -/
theorem exists_perm_map_eq {α β : Type} (f : α → β) {l : List β} {as : List α}
    (h : l.Perm (as.map f)) :
    ∃ bs : List α, bs.Perm as ∧ l = bs.map f := by
  induction l generalizing as with
  | nil =>
    rw [List.nil_perm, List.map_eq_nil_iff] at h
    exact ⟨[], h ▸ .refl [], rfl⟩
  | cons b rest ih =>
    obtain ⟨a, ha, rfl⟩ := List.mem_map.1 (h.mem_iff.1 List.mem_cons_self)
    obtain ⟨front, back, rfl⟩ := List.append_of_mem ha
    have hmiddle : (front ++ a :: back).Perm (a :: (front ++ back)) := List.perm_middle
    obtain ⟨bs, hbs, hrest⟩ := ih ((h.trans (hmiddle.map f)).cons_inv)
    exact ⟨a :: bs, (hbs.cons a).trans hmiddle.symm, by rw [hrest, List.map_cons]⟩

namespace Scheme

variable (s : Scheme)

/-- In a tree whose owners have their children in order, a lawful cursor finds the members, each
once and in the order of the names of the methods. -/
theorem find_query {find : Cursor} (hfind : find.IsLawful)
    (hkinds : (s.slots.map ChildSlot.kind).Nodup) {t : SyntaxTree}
    (h : ∀ x ∈ t.spots, x.tree.fits s.owner none = true → InOrder s.slots x.children) :
    ∃ ms : List Member,
      ms.Pairwise (fun m n => m.methodName.place < n.methodName.place)
      ∧ (∀ m, m ∈ ms ↔ s.IsMember t m)
      ∧ find s.query t = ms.map s.toMatch := by
  have hall : s.query.matchesIn t = (t.spots.flatMap s.membersAt).map s.toMatch := by
    rw [Query.matchesIn, List.map_flatMap, List.flatMap_def, List.flatMap_def]
    exact congrArg List.flatten (List.map_congr_left fun x hx => s.ways_query hkinds (h x hx))
  have hperm := hfind.perm s.query t
  rw [hall] at hperm
  obtain ⟨ms, hms, hfound⟩ := exists_perm_map_eq s.toMatch hperm
  have hordered := hfind.ordered s.query t
  rw [hfound, List.pairwise_map] at hordered
  have hdistinct : ms.Pairwise fun m n => m.methodName.place ≠ n.methodName.place :=
    (s.pairwise_members h).perm hms.symm fun hmn => hmn.symm
  refine ⟨ms, (hordered.and hdistinct).imp fun {m n} hmn => ?_, fun m => ?_, hfound⟩
  · rw [Match.precedes_iff, s.lastPlace_toMatch, s.lastPlace_toMatch] at hmn
    refine Decidable.byContradiction fun hlt => ?_
    exact hmn.2 (List.le_antisymm hmn.1 hlt)
  · rw [s.isMember_iff, hms.mem_iff]

/-- The method stands directly in the body of the owner in the tree. -/
def Owns (t : SyntaxTree) (owner declaration : Spot) : Prop :=
  t.at? owner.place = some owner.tree ∧ owner.tree.fits s.owner none = true
    ∧ ∃ body ∈ owner.children, body.tree.fits s.body (some "body") = true
      ∧ declaration ∈ body.children ∧ declaration.tree.fits s.method none = true

/-- A method has one owner. -/
theorem owner_unique {t : SyntaxTree} {owner owner' declaration : Spot}
    (h : s.Owns t owner declaration) (h' : s.Owns t owner' declaration) :
    owner = owner' := by
  obtain ⟨hat, -, b, hb, -, hd, -⟩ := h
  obtain ⟨hat', -, b', hb', -, hd', -⟩ := h'
  obtain ⟨i, hi, -⟩ := Spot.mem_children_iff.1 hb
  obtain ⟨j, hj, -⟩ := Spot.mem_children_iff.1 hd
  obtain ⟨i', hi', -⟩ := Spot.mem_children_iff.1 hb'
  obtain ⟨j', hj', -⟩ := Spot.mem_children_iff.1 hd'
  have hplace : owner.place ++ [i, j] = owner'.place ++ [i', j'] := by
    rw [hj, hi, hi', List.append_assoc, List.append_assoc] at hj'
    exact hj'
  have hsame : owner.place = owner'.place := (List.append_inj' hplace rfl).1
  obtain ⟨place, tree⟩ := owner
  obtain ⟨place', tree'⟩ := owner'
  obtain rfl : place = place' := hsame
  obtain rfl : tree = tree' := Option.some.inj (hat.symm.trans hat')
  rfl

/-- At most one node fills the first of the slots that are filled in order. -/
theorem eq_of_fits_first {slot : ChildSlot} {slots : List ChildSlot} {xs : List Spot}
    (h : InOrder (slot :: slots) xs) {x y : Spot} (hx : x ∈ xs) (hy : y ∈ xs)
    (hxfits : slot.fits x.tree = true) (hyfits : slot.fits y.tree = true) :
    x = y := by
  have hone := h.pairwise_filter
  have hx' : x ∈ xs.filter fun x => slot.fits x.tree := List.mem_filter.2 ⟨hx, hxfits⟩
  have hy' : y ∈ xs.filter fun x => slot.fits x.tree := List.mem_filter.2 ⟨hy, hyfits⟩
  generalize xs.filter (fun x => slot.fits x.tree) = found at *
  match found, hone with
  | [z], _ => exact (List.mem_singleton.1 hx').trans (List.mem_singleton.1 hy').symm
  | z :: w :: _, hone => exact ((List.pairwise_cons.1 hone).1 w List.mem_cons_self).elim

/-- A method in the body of an owner is one member if both have names. -/
theorem existsUnique_isMember {t : SyntaxTree} {owner declaration : Spot}
    (howns : s.Owns t owner declaration) (howner : InOrder s.slots owner.children)
    (hmethod : InOrder [⟨"identifier", some "name"⟩] declaration.children)
    (htypeName : ∃ n ∈ owner.children, n.tree.fits s.nameKind (some s.nameRole) = true)
    (hmethodName : ∃ k ∈ declaration.children, k.tree.fits "identifier" (some "name") = true) :
    ∃! m, s.IsMember t m ∧ m.declaration = declaration := by
  obtain ⟨n, hn, hnfits⟩ := htypeName
  obtain ⟨k, hk, hkfits⟩ := hmethodName
  refine ⟨⟨owner, n, declaration, k⟩,
    ⟨⟨⟨howns.1, howns.2.1⟩, ⟨hn, hnfits⟩, howns.2.2, ⟨hk, hkfits⟩⟩, rfl⟩, ?_⟩
  rintro ⟨owner', n', declaration', k'⟩ ⟨hm, rfl⟩
  have hsame : owner = owner' :=
    s.owner_unique howns ⟨hm.owner.1, hm.owner.2, hm.declaration⟩
  subst hsame
  obtain rfl : n' = n := eq_of_fits_first howner hm.typeName.1 hn hm.typeName.2 hnfits
  obtain rfl : k' = k := eq_of_fits_first hmethod hm.methodName.1 hk hm.methodName.2 hkfits
  rfl

/-- The names in the match of a member are those of the type and the method. -/
theorem names_ofMatch (hcaptures : ∀ c ∈ s.captures, c.2 ≠ "type_name" ∧ c.2 ≠ "method_name")
    (m : Member) :
    (Observation.ofMatch (s.toMatch m)).typeName = m.typeName.tree.word
      ∧ (Observation.ofMatch (s.toMatch m)).methodName = m.methodName.tree.word := by
  have hnone : ∀ name, (∀ c ∈ s.captures, c.2 ≠ name) →
      (Query.optionalCaptures s.captures m.owner.children).filter (fun c => c.name == name) =
        [] := by
    intro name hname
    rw [List.filter_eq_nil_iff]
    intro c hc
    obtain ⟨d, hd, hc⟩ := List.mem_flatMap.1 hc
    obtain ⟨x, -, rfl⟩ := List.mem_map.1 hc
    simpa using hname d hd
  constructor
  · rfl
  · have hnodes : (s.toMatch m).nodes "method_name" = [m.methodName.tree] := by
      simp [Match.nodes, toMatch, List.filter_append,
        hnone "method_name" fun c hc => (hcaptures c hc).2]
    rw [Observation.ofMatch, hnodes]
    rfl

end Scheme

namespace Syntax

/-- Classes with their methods. -/
def Java.scheme : Scheme :=
  ⟨"class_declaration", "identifier", "name",
    [("superclass", "supertype"), ("super_interfaces", "interfaces")], "class_body",
    "method_declaration"⟩

/-- Implementation blocks with their functions. -/
def Rust.scheme : Scheme :=
  ⟨"impl_item", "type_identifier", "type", [], "declaration_list", "function_item"⟩

/-- The query for classes is that of their scheme. -/
theorem Java.query_eq :
    Java.query = Java.scheme.query :=
  rfl

namespace Java

theorem identifier_mem :
    nameRule "identifier" ∈ rules := by
  simp [rules, declarationRules]

theorem typeIdentifier_mem :
    nameRule "type_identifier" ∈ rules := by
  simp [rules, declarationRules]

/-- Trees without errors keep the order of the parts of a class. -/
theorem classOrder_mem :
    orderRule "class_declaration" scheme.slots ∈ rules := by
  have hslots : scheme.slots = classSlots := rfl
  simp [rules, declarationRules, hslots]

theorem className_mem :
    presenceRule "class_declaration" ⟨"identifier", some "name"⟩ ∈ rules := by
  simp [rules, declarationRules]

theorem methodOrder_mem :
    orderRule "method_declaration" [⟨"identifier", some "name"⟩] ∈ rules := by
  simp [rules, declarationRules]

theorem methodName_mem :
    presenceRule "method_declaration" ⟨"identifier", some "name"⟩ ∈ rules := by
  simp [rules, declarationRules]

end Java

namespace Rust

theorem identifier_mem :
    nameRule "identifier" ∈ rules := by
  simp [rules]

theorem typeIdentifier_mem :
    nameRule "type_identifier" ∈ rules := by
  simp [rules]

/-- Trees without errors keep the order of the parts of a block. -/
theorem blockOrder_mem :
    orderRule "impl_item" scheme.slots ∈ rules := by
  have hslots : scheme.slots = blockSlots := rfl
  simp [rules, hslots]

theorem functionOrder_mem :
    orderRule "function_item" [⟨"identifier", some "name"⟩] ∈ rules := by
  simp [rules]

end Rust

end Syntax

/-- What observations and a graph tell of the members of a tree: the members are observed one by
one, in the order of their names, and the graph gives a method to a type exactly if some member of
that type has that name. -/
structure Scheme.Tells (s : Scheme) (t : SyntaxTree) (os : List Observation) (g : TypeGraph) :
    Prop where
  inOrder : ∃ ms : List Member,
    ms.Pairwise (fun m n => m.methodName.place < n.methodName.place)
    ∧ (∀ m, m ∈ ms ↔ s.IsMember t m)
    ∧ os.map (fun o => (o.typeName, o.methodName)) =
      ms.map fun m => (m.typeName.tree.word, m.methodName.tree.word)
  assigned : ∀ type method, g.Assigns type method ↔
    ∃ m, s.IsMember t m ∧ m.typeName.tree.word = type ∧ m.methodName.tree.word = method

/-- What is read with a scheme are its members, one by one and in their order. -/
theorem Scheme.tells (s : Scheme) {find : Cursor} (hfind : find.IsLawful)
    (hkinds : (s.slots.map ChildSlot.kind).Nodup)
    (hcaptures : ∀ c ∈ s.captures, c.2 ≠ "type_name" ∧ c.2 ≠ "method_name") {t : SyntaxTree}
    (horder : ∀ x ∈ t.spots, x.tree.fits s.owner none = true → InOrder s.slots x.children)
    (hnames : ∀ m, s.IsMember t m → m.typeName.tree.word ≠ "" ∧ m.methodName.tree.word ≠ "") :
    s.Tells t ((find s.query t).map Observation.ofMatch)
      (.ofObservations ((find s.query t).map Observation.ofMatch)) := by
  obtain ⟨ms, hordered, hmem, hfound⟩ := s.find_query hfind hkinds horder
  have hobserved : ((find s.query t).map Observation.ofMatch).map
      (fun o => (o.typeName, o.methodName)) =
        ms.map fun m => (m.typeName.tree.word, m.methodName.tree.word) := by
    rw [hfound, List.map_map, List.map_map]
    refine List.map_congr_left fun m _ => ?_
    obtain ⟨htype, hmethod⟩ := s.names_ofMatch hcaptures m
    exact Prod.ext htype hmethod
  refine ⟨⟨ms, hordered, hmem, hobserved⟩, fun type method => ?_⟩
  rw [TypeGraph.assigns_ofObservations, hobserved, List.mem_map]
  constructor
  · rintro ⟨-, -, m, hm, heq⟩
    exact ⟨m, (hmem m).1 hm, (Prod.mk.inj heq).1, (Prod.mk.inj heq).2⟩
  · rintro ⟨m, hm, rfl, rfl⟩
    exact ⟨(hnames m hm).1, (hnames m hm).2, m, (hmem m).2 hm, rfl⟩

/-- The names of a member are not empty if the grammar says so of their kinds. -/
theorem Scheme.names_ne_empty (s : Scheme) {rules : List Rule}
    (hname : Syntax.nameRule s.nameKind ∈ rules)
    (hidentifier : Syntax.nameRule "identifier" ∈ rules) {t : SyntaxTree} (ht : t.Follows rules)
    {m : Member} (hm : s.IsMember t m) :
    m.typeName.tree.word ≠ "" ∧ m.methodName.tree.word ≠ "" := by
  have howner := SyntaxTree.mem_spots_iff.2 hm.owner.1
  obtain ⟨body, hbody, -, hdeclaration, -⟩ := hm.declaration
  have hdeclared := SyntaxTree.mem_spots_of_mem_children
    (SyntaxTree.mem_spots_of_mem_children howner hbody) hdeclaration
  have htype := ht _ (SyntaxTree.mem_spots_of_mem_children howner hm.typeName.1) _ hname
    (kind_of_fits (s := ⟨s.nameKind, some s.nameRole⟩) hm.typeName.2)
  have hmethod := ht _ (SyntaxTree.mem_spots_of_mem_children hdeclared hm.methodName.1) _
    hidentifier (kind_of_fits (s := ⟨"identifier", some "name"⟩) hm.methodName.2)
  exact ⟨bne_iff_ne.1 htype, bne_iff_ne.1 hmethod⟩

/-- The children of a node stand in order if the grammar says so of its kind. -/
theorem inOrder_of_orderRule {rules : List Rule} {kind : String} {slots : List ChildSlot}
    (hrule : Syntax.orderRule kind slots ∈ rules) {t : SyntaxTree} (ht : t.Follows rules) {x : Spot}
    (hx : x ∈ t.spots) (hfits : x.tree.fits kind none = true) :
    InOrder slots x.children :=
  inOrder_of_fillsInOrder (ht x hx _ hrule (kind_of_fits (s := ⟨kind, none⟩) hfits))

/-- A node has a child if the grammar says so of its kind. -/
theorem exists_of_presenceRule {rules : List Rule} {kind : String} {slot : ChildSlot}
    (hrule : Syntax.presenceRule kind slot ∈ rules) {t : SyntaxTree} (ht : t.Follows rules)
    {x : Spot} (hx : x ∈ t.spots) (hfits : x.tree.fits kind none = true) :
    ∃ c ∈ x.children, slot.fits c.tree = true := by
  have hany := ht x hx _ hrule (kind_of_fits (s := ⟨kind, none⟩) hfits)
  obtain ⟨c, hc, hcfits⟩ := List.any_eq_true.1 hany
  obtain ⟨i, hi⟩ := List.getElem?_of_mem hc
  exact ⟨⟨x.place ++ [i], c⟩, Spot.mem_children_iff.2 ⟨i, rfl, hi⟩, hcfits⟩

/-- What files without errors tell, whatever parses them and runs the queries.  In Java every method
in the body of a class is one member of the tree, and in Rust every named function in the body of a
block for a plain type; and the members are what is observed. -/
theorem methods_of_direct_owners {find : Cursor} (hfind : find.IsLawful)
    (parse : List UInt8 → SyntaxTree) (f : SourceFile) :
    (Syntax.Java.ErrorFree (parse f.content) →
      (∀ owner declaration, Syntax.Java.scheme.Owns (parse f.content) owner declaration →
        ∃! m, Syntax.Java.scheme.IsMember (parse f.content) m ∧ m.declaration = declaration)
      ∧ Syntax.Java.scheme.Tells (parse f.content) ((Grammar.javaBy parse find).read f.content)
        ((Grammar.javaBy parse find).fileGraph f))
    ∧ (Syntax.Rust.ErrorFree (parse f.content) →
      (∀ owner declaration, Syntax.Rust.scheme.Owns (parse f.content) owner declaration →
        (∃ n ∈ owner.children, n.tree.fits "type_identifier" (some "type") = true) →
        (∃ k ∈ declaration.children, k.tree.fits "identifier" (some "name") = true) →
        ∃! m, Syntax.Rust.scheme.IsMember (parse f.content) m ∧ m.declaration = declaration)
      ∧ Syntax.Rust.scheme.Tells (parse f.content) ((Grammar.rustBy parse find).read f.content)
        ((Grammar.rustBy parse find).fileGraph f)) := by
  constructor
  · intro hfree
    refine ⟨fun owner declaration howns => ?_, ?_⟩
    · have howner := SyntaxTree.mem_spots_iff.2 howns.1
      obtain ⟨body, hbody, -, hdeclaration, hmethod⟩ := howns.2.2
      have hdeclared := SyntaxTree.mem_spots_of_mem_children
        (SyntaxTree.mem_spots_of_mem_children howner hbody) hdeclaration
      exact Syntax.Java.scheme.existsUnique_isMember howns
        (inOrder_of_orderRule Syntax.Java.classOrder_mem hfree howner howns.2.1)
        (inOrder_of_orderRule Syntax.Java.methodOrder_mem hfree hdeclared hmethod)
        (exists_of_presenceRule Syntax.Java.className_mem hfree howner howns.2.1)
        (exists_of_presenceRule Syntax.Java.methodName_mem hfree hdeclared hmethod)
    · exact Syntax.Java.scheme.tells hfind (by decide) (by decide)
        (fun x => inOrder_of_orderRule Syntax.Java.classOrder_mem hfree)
        (fun m => Syntax.Java.scheme.names_ne_empty Syntax.Java.identifier_mem
          Syntax.Java.identifier_mem hfree)
  · intro hfree
    refine ⟨fun owner declaration howns htypeName hmethodName => ?_, ?_⟩
    · have howner := SyntaxTree.mem_spots_iff.2 howns.1
      obtain ⟨body, hbody, -, hdeclaration, hmethod⟩ := howns.2.2
      have hdeclared := SyntaxTree.mem_spots_of_mem_children
        (SyntaxTree.mem_spots_of_mem_children howner hbody) hdeclaration
      exact Syntax.Rust.scheme.existsUnique_isMember howns
        (inOrder_of_orderRule Syntax.Rust.blockOrder_mem hfree howner howns.2.1)
        (inOrder_of_orderRule Syntax.Rust.functionOrder_mem hfree hdeclared hmethod)
        htypeName hmethodName
    · exact Syntax.Rust.scheme.tells hfind (by decide) (by decide)
        (fun x => inOrder_of_orderRule Syntax.Rust.blockOrder_mem hfree)
        (fun m => Syntax.Rust.scheme.names_ne_empty Syntax.Rust.typeIdentifier_mem
          Syntax.Rust.identifier_mem hfree)

namespace Syntax

/-- A class with a constructor, a method with a lambda, a local class and an anonymous one, an
interface and a nested class; and an enum. -/
def Java.reefText : String :=
  "class Reef { Reef() {} @A int f() { run(() -> { class Cod { void swim() {} } });
  new Eel() { void hide() {} }; return 0; } interface Pier { void dock(); }
  class Inner<T> { T get() { return null; } } } enum Sort { A; void b() {} }"

/-- Blocks for plain types, one of them in a function of another, a block for a type with arguments,
a trait, a free function and a macro call. -/
def Rust.coveText : String :=
  "impl Fish { fn swim(&self) { struct Eel; impl Eel { fn hide() {} } } }
  trait T { fn t() {} fn u(); } impl<X> T for Cod<X> { fn t() {} }
  impl T for Eel { fn t() {} } fn free() { m! { impl Z { fn z() {} } } }"

end Syntax

/-- What members a list of observations shows, the graph gives to their types. -/
theorem Scheme.Tells.assigns_iff {s : Scheme} {t : SyntaxTree} {os : List Observation}
    {g : TypeGraph} (h : s.Tells t os g) {type method : String} :
    g.Assigns type method ↔ (type, method) ∈ os.map fun o => (o.typeName, o.methodName) := by
  obtain ⟨ms, -, hmem, hos⟩ := h.inOrder
  rw [h.assigned, hos, List.mem_map]
  exact exists_congr fun m => by rw [hmem, Prod.mk.injEq]

/-- What is observed of the class and the enum, and of the blocks. -/
theorem methods_of_reef_and_cove :
    let reef : SourceFile := ⟨⟨.root, ["Reef.java"]⟩, Syntax.Java.reefText.toUTF8.toList⟩
    let cove : SourceFile := ⟨⟨.root, ["cove.rs"]⟩, Syntax.Rust.coveText.toUTF8.toList⟩
    findInOrder.IsLawful
      ∧ Syntax.Java.ErrorFree (Syntax.Java.parse reef.content)
      ∧ (Grammar.java.read reef.content).map (fun o => (o.typeName, o.methodName)) =
        [("Reef", "f"), ("Cod", "swim"), ("Inner", "get")]
      ∧ (Grammar.java.fileGraph reef).Assigns "Cod" "swim"
      ∧ ¬ (Grammar.java.fileGraph reef).Assigns "Reef" "hide"
      ∧ Syntax.Rust.ErrorFree (Syntax.Rust.parse cove.content)
      ∧ (Grammar.rust.read cove.content).map (fun o => (o.typeName, o.methodName)) =
        [("Fish", "swim"), ("Eel", "hide"), ("Eel", "t")]
      ∧ (Grammar.rust.fileGraph cove).Assigns "Eel" "hide"
      ∧ ¬ (Grammar.rust.fileGraph cove).Assigns "Cod" "t" := by
  intro reef cove
  have hreef : (Grammar.java.read reef.content).map (fun o => (o.typeName, o.methodName)) =
      [("Reef", "f"), ("Cod", "swim"), ("Inner", "get")] := by decide +kernel
  have hcove : (Grammar.rust.read cove.content).map (fun o => (o.typeName, o.methodName)) =
      [("Fish", "swim"), ("Eel", "hide"), ("Eel", "t")] := by decide +kernel
  have hjava : Syntax.Java.scheme.Tells (Syntax.Java.parse reef.content)
      (Grammar.java.read reef.content) (Grammar.java.fileGraph reef) :=
    ((methods_of_direct_owners findInOrder_isLawful Syntax.Java.parse reef).1
      (Syntax.Java.errorFree_parse _)).2
  have hrust : Syntax.Rust.scheme.Tells (Syntax.Rust.parse cove.content)
      (Grammar.rust.read cove.content) (Grammar.rust.fileGraph cove) :=
    ((methods_of_direct_owners findInOrder_isLawful Syntax.Rust.parse cove).2
      (Syntax.Rust.errorFree_parse _)).2
  refine ⟨findInOrder_isLawful, Syntax.Java.errorFree_parse _, hreef, ?_, ?_,
    Syntax.Rust.errorFree_parse _, hcove, ?_, ?_⟩
  · rw [hjava.assigns_iff, hreef]
    decide
  · rw [hjava.assigns_iff, hreef]
    decide
  · rw [hrust.assigns_iff, hcove]
    decide
  · rw [hrust.assigns_iff, hcove]
    decide

end SurfaceCoverage
