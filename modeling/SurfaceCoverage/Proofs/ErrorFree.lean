import SurfaceCoverage.Grammar
import SurfaceCoverage.Proofs.QueryMatches

/-!
# Trees without errors

A grammar says what children its nodes have.  A tree without errors follows the rules of the grammar
at every node.  Only the rules that queries and names depend on are listed; a grammar restricts the
children of its nodes further.

**Results.**
* `SyntaxTree.follows_iff`: a tree follows rules exactly if its root and the trees below it do.
* `Java.errorFree_parse`, `Rust.errorFree_parse`: the built-in parsers give trees without errors.
-/

namespace SurfaceCoverage

/-- A rule of a grammar: what holds of every node of a kind. -/
structure Rule where
  kind : String
  holds : SyntaxTree → Bool

namespace SyntaxTree

/-- A node follows the rules for its kind. -/
def Obeys (rules : List Rule) (t : SyntaxTree) : Prop :=
  ∀ r ∈ rules, t.kind = r.kind → r.holds t = true

instance (rules : List Rule) (t : SyntaxTree) : Decidable (t.Obeys rules) :=
  inferInstanceAs (Decidable (∀ r ∈ rules, t.kind = r.kind → r.holds t = true))

/-- All nodes of a tree follow the rules for their kinds. -/
def Follows (rules : List Rule) (t : SyntaxTree) : Prop :=
  ∀ x ∈ t.spots, x.tree.Obeys rules

instance (rules : List Rule) (t : SyntaxTree) : Decidable (t.Follows rules) :=
  inferInstanceAs (Decidable (∀ x ∈ t.spots, x.tree.Obeys rules))

/-- A tree follows rules if its root does and every child. -/
theorem follows_iff {rules : List Rule} {t : SyntaxTree} :
    t.Follows rules ↔ t.Obeys rules ∧ ∀ c ∈ t.children, c.Follows rules := by
  constructor
  · intro h
    refine ⟨h ⟨[], t⟩ (mem_spots_iff.2 rfl), fun c hc x hx => ?_⟩
    obtain ⟨i, hi⟩ := List.getElem?_of_mem hc
    refine h ⟨i :: x.place, x.tree⟩ (mem_spots_iff.2 ?_)
    rw [at?, hi, Option.bind_some]
    exact mem_spots_iff.1 hx
  · rintro ⟨ht, hchildren⟩ ⟨place, u⟩ hx
    have hat := mem_spots_iff.1 hx
    cases place with
    | nil =>
      obtain rfl : t = u := Option.some.inj hat
      exact ht
    | cons i rest =>
      obtain ⟨c, hc, hrest⟩ := Option.bind_eq_some_iff.1 hat
      exact hchildren c (List.mem_of_getElem? hc) ⟨rest, u⟩ (mem_spots_iff.2 hrest)

/-- The named children of a node. -/
def namedChildren (t : SyntaxTree) : List SyntaxTree :=
  t.children.filter isNamed

end SyntaxTree

namespace Syntax

/-- Names are not empty. -/
def nameRule (kind : String) : Rule :=
  ⟨kind, fun t => t.word != ""⟩

/-- Certain children stand in their order, each at most once. -/
def orderRule (kind : String) (slots : List ChildSlot) : Rule :=
  ⟨kind, fun t => fillsInOrder slots t.children⟩

/-- A child must be there. -/
def presenceRule (kind : String) (slot : ChildSlot) : Rule :=
  ⟨kind, fun t => t.children.any slot.fits⟩

section Rules

variable {rules : List Rule} {kind : String} {role : Option String} {children : List SyntaxTree}

/-- A word follows the rules if its kind has none but that it is not empty. -/
theorem follows_leaf (hrules : (rules.filter fun r => r.kind = kind) = [nameRule kind])
    (role : Option String) (w : Word) :
    (leaf kind role w.val).Follows rules := by
  have hword : (leaf kind role w.val).word = w.val := by
    rw [leaf, SyntaxTree.word, SyntaxTree.text, Text.decodeIgnoring_encode, String.ofList_toList]
  refine SyntaxTree.follows_iff.2 ⟨fun r hr heq => ?_, fun c hc => by cases hc⟩
  have hmem : r ∈ rules.filter fun r => r.kind = kind :=
    List.mem_filter.2 ⟨hr, decide_eq_true heq.symm⟩
  rw [hrules, List.mem_singleton] at hmem
  have hholds : (nameRule kind).holds (leaf kind role w.val) =
      ((leaf kind role w.val).word != "") := rfl
  rw [hmem, hholds, hword]
  exact bne_iff_ne.2 w.property

/-- A node follows the rules if its kind has none. -/
theorem follows_branch_of_free (hkind : ∀ r ∈ rules, kind ≠ r.kind) (role : Option String)
    (h : ∀ c ∈ children, c.Follows rules) :
    (branch kind role children).Follows rules :=
  SyntaxTree.follows_iff.2 ⟨fun r hr heq => absurd heq (hkind r hr), h⟩

/-- A node follows the rules if it follows those for its kind. -/
theorem follows_branch
    (hrules : (rules.filter fun r => r.kind = kind).all
      (fun r => r.holds (branch kind role children)) = true)
    (h : ∀ c ∈ children, c.Follows rules) :
    (branch kind role children).Follows rules :=
  SyntaxTree.follows_iff.2 ⟨fun r hr heq => List.all_eq_true.1 hrules r
    (List.mem_filter.2 ⟨hr, decide_eq_true heq.symm⟩), h⟩

end Rules

namespace Java

/-- Whether a node is a comment.  Comments may stand between the children of any node. -/
def isComment (t : SyntaxTree) : Bool :=
  t.kind == "line_comment" || t.kind == "block_comment"

/-- The named children of a node that are no comments. -/
def content (t : SyntaxTree) : List SyntaxTree :=
  t.namedChildren.filter fun c => !isComment c

/-- Whether a node is an annotation. -/
def isMarker (t : SyntaxTree) : Bool :=
  t.kind == "marker_annotation" || t.kind == "annotation"

/-- Whether a node is the name of an annotation. -/
def isName (t : SyntaxTree) : Bool :=
  t.kind == "identifier" || t.kind == "scoped_identifier"

/-- Whether a list has one member, and this one passes a test. -/
def isSingle (p : SyntaxTree → Bool) : List SyntaxTree → Bool
  | [t] => p t
  | _ => false

/-- Whether a list has two members, and each of them passes a test of its own. -/
def isPair (p q : SyntaxTree → Bool) : List SyntaxTree → Bool
  | [t, u] => p t && q u
  | _ => false

/-- Whether the last member of a list passes a test, and all others pass another one. -/
def endsIn (p q : SyntaxTree → Bool) : List SyntaxTree → Bool
  | [] => false
  | [t] => q t
  | t :: rest => p t && endsIn p q rest

/-- The children of a class that matter here, in their order. -/
def classSlots : List ChildSlot :=
  [⟨"identifier", some "name"⟩, ⟨"superclass", none⟩, ⟨"super_interfaces", none⟩,
    ⟨"class_body", some "body"⟩]

/-- Rules for declarations: the children of a class that matter here stand in their order, and a
class and a method have a name. -/
def declarationRules : List Rule :=
  [nameRule "identifier", nameRule "type_identifier",
    orderRule "class_declaration" classSlots,
    presenceRule "class_declaration" ⟨"identifier", some "name"⟩,
    orderRule "method_declaration" [⟨"identifier", some "name"⟩],
    presenceRule "method_declaration" ⟨"identifier", some "name"⟩]

/-- Rules for what stands behind `extends` and `implements`, for annotated types and arrays, for the
child of a type that carries its name, and for annotations. -/
def typeRules : List Rule :=
  [⟨"superclass", fun t => isSingle isType (content t)⟩,
    ⟨"super_interfaces", fun t => isSingle (fun c => c.kind == "type_list") (content t)⟩,
    ⟨"type_list", fun t => (content t).all isType⟩,
    ⟨"annotated_type", fun t => endsIn isMarker isUnannotated (content t)⟩,
    ⟨"array_type",
      fun t => isPair isUnannotated (fun c => c.kind == "dimensions") (content t)⟩,
    ⟨"dimensions", fun t => (content t).all isMarker⟩,
    ⟨"generic_type", fun t => t.namedChildren.head?.any takesArguments⟩,
    ⟨"scoped_type_identifier",
      fun t => t.namedChildren.getLast?.any fun c => c.kind == "type_identifier"⟩,
    ⟨"scoped_identifier", fun t => t.namedChildren.getLast?.any fun c => c.kind == "identifier"⟩,
    ⟨"annotation", fun t => (content t).head?.any isName⟩,
    ⟨"marker_annotation", fun t => (content t).head?.any isName⟩]

/-- Rules for nodes without named children: comments and types that are no classes. -/
def leafRules : List Rule :=
  ("line_comment" :: "block_comment" :: primitiveKinds).map fun kind =>
    ⟨kind, fun t => t.namedChildren.isEmpty⟩

/-- The rules of the grammar. -/
def rules : List Rule :=
  declarationRules ++ typeRules ++ leafRules

/-- A tree without errors. -/
def ErrorFree (t : SyntaxTree) : Prop :=
  t.Follows rules

instance (t : SyntaxTree) : Decidable (ErrorFree t) :=
  inferInstanceAs (Decidable (t.Follows rules))

section Parser

/-- Without comments and signs, the content is all there is. -/
theorem content_branch_eq {kind : String} {role : Option String} {children : List SyntaxTree}
    (h : ∀ c ∈ children, c.isNamed = true ∧ isComment c = false) :
    content (branch kind role children) = children := by
  have hnamed : (branch kind role children).namedChildren = children :=
    List.filter_eq_self.2 fun c hc => (h c hc).1
  rw [content, hnamed]
  exact List.filter_eq_self.2 fun c hc => by rw [(h c hc).2]; rfl

/-- A dotted name is parsed without errors. -/
theorem errorFree_dotted (role : Option String) (scope : List Word) (w : Word) :
    ErrorFree (dotted role scope w) := by
  induction scope generalizing role w with
  | nil => exact follows_leaf rfl role w
  | cons s rest ih =>
    refine follows_branch ?_ ?_
    · cases rest <;> rfl
    · simp only [List.forall_mem_cons]
      exact ⟨ih _ _, follows_leaf rfl _ w, fun c hc => by cases hc⟩

theorem isMarker_tree (a : Annotation) :
    isMarker a.tree = true ∧ a.tree.isNamed = true ∧ isComment a.tree = false := by
  obtain ⟨scope, name, _ | mentioned⟩ := a <;> exact ⟨rfl, rfl, rfl⟩

/-- An annotation is parsed without errors. -/
theorem errorFree_marker (a : Annotation) :
    ErrorFree a.tree := by
  obtain ⟨scope, name, mentioned⟩ := a
  have htree := errorFree_dotted (some "name") scope name
  cases mentioned with
  | none =>
    refine follows_branch ?_ ?_
    · cases scope <;> rfl
    · simp only [List.forall_mem_cons]
      exact ⟨htree, fun c hc => by cases hc⟩
  | some names =>
    refine follows_branch ?_ ?_
    · cases scope <;> rfl
    · simp only [List.forall_mem_cons]
      refine ⟨htree, follows_branch_of_free (by decide) _ ?_, fun c hc => by cases hc⟩
      intro c hc
      obtain ⟨w, -, rfl⟩ := List.mem_map.1 hc
      exact follows_leaf rfl none w

theorem errorFree_markers (annotations : List Annotation) :
    ∀ c ∈ annotations.map Annotation.tree, ErrorFree c := by
  intro c hc
  obtain ⟨a, -, rfl⟩ := List.mem_map.1 hc
  exact errorFree_marker a

/-- Trees of one form end in a tree of another form. -/
theorem endsIn_append {p q : SyntaxTree → Bool} {ts : List SyntaxTree} {t : SyntaxTree}
    (hp : ∀ u ∈ ts, p u = true) (hq : q t = true) :
    endsIn p q (ts ++ [t]) = true := by
  induction ts with
  | nil => exact hq
  | cons u rest ih =>
    have hrest := ih fun v hv => hp v (List.mem_cons_of_mem u hv)
    cases hlist : rest ++ [t] with
    | nil => simp at hlist
    | cons v more =>
      rw [List.cons_append, hlist, endsIn, hp u List.mem_cons_self, ← hlist, hrest]
      · rfl
      · simp

/-- A type is no comment. -/
theorem not_isComment_of_isType {t : SyntaxTree} (h : isType t = true) :
    isComment t = false := by
  simp only [isType, typeKinds, unannotatedKinds, primitiveKinds, List.contains_iff_mem,
    List.cons_append, List.nil_append, List.mem_cons, List.not_mem_nil, or_false] at h
  rw [isComment]
  rcases h with h | h | h | h | h | h | h | h | h <;> simp [h]

/-- A type without annotations is a type. -/
theorem isType_of_isUnannotated {t : SyntaxTree} (h : isUnannotated t = true) :
    isType t = true := by
  rw [isUnannotated, List.contains_iff_mem] at h
  rw [isType, List.contains_iff_mem]
  exact List.mem_cons_of_mem _ h

/-- What is read as a type is a named node without errors. -/
structure Parsed (t : SyntaxTree) : Prop where
  isNamed : t.isNamed = true
  errorFree : ErrorFree t

/-- A type with arguments is parsed without errors. -/
theorem parsed_withArguments {base : SyntaxTree} (hbase : Parsed base) {arguments : List SyntaxTree}
    (h : ∀ c ∈ arguments, Parsed c) :
    Parsed (withArguments base arguments) := by
  rw [withArguments]
  split
  · next htakes =>
    refine ⟨rfl, follows_branch ?_ ?_⟩
    · have hnamed : (branch "generic_type" none [base, branch "type_arguments" none arguments]
        ).namedChildren.head? = some base := by
        simp [SyntaxTree.namedChildren, branch, SyntaxTree.children, hbase.isNamed]
      change ((branch "generic_type" none [base, branch "type_arguments" none arguments]
        ).namedChildren.head?.any takesArguments && true) = true
      rw [hnamed, Option.any_some, htakes]
      rfl
    · simp only [List.forall_mem_cons]
      exact ⟨hbase.errorFree, follows_branch_of_free (by decide) none fun c hc =>
        (h c hc).errorFree, fun c hc => by cases hc⟩
  · exact hbase

/-- A type with annotations is parsed without errors. -/
theorem parsed_withAnnotations {t : SyntaxTree} (ht : Parsed t) (annotations : List Annotation) :
    Parsed (withAnnotations annotations t) := by
  rw [withAnnotations]
  split
  · exact ht
  · next htakes =>
    have hunannotated : isUnannotated t = true := by
      simp only [Bool.or_eq_true, not_or, Bool.not_eq_true', Bool.not_eq_false] at htakes
      exact htakes.2
    refine ⟨rfl, follows_branch ?_ ?_⟩
    · change (endsIn isMarker isUnannotated (content _) && true) = true
      rw [content_branch_eq, endsIn_append _ hunannotated]
      · rfl
      · intro c hc
        obtain ⟨a, -, rfl⟩ := List.mem_map.1 hc
        exact (isMarker_tree a).1
      · intro c hc
        rcases List.mem_append.1 hc with hc | hc
        · obtain ⟨a, -, rfl⟩ := List.mem_map.1 hc
          exact (isMarker_tree a).2
        · obtain rfl := List.mem_singleton.1 hc
          exact ⟨ht.isNamed, not_isComment_of_isType (isType_of_isUnannotated hunannotated)⟩
    · intro c hc
      rcases List.mem_append.1 hc with hc | hc
      · exact errorFree_markers annotations c hc
      · obtain rfl := List.mem_singleton.1 hc
        exact ht.errorFree

/-- An array type is parsed without errors. -/
theorem parsed_withDimension {t : SyntaxTree} (ht : Parsed t) (annotations : List Annotation) :
    Parsed (withDimension t annotations) := by
  rw [withDimension]
  split
  · next hunannotated =>
    have hannotations : ∀ c ∈ annotations.map Annotation.tree,
        isMarker c = true ∧ c.isNamed = true ∧ isComment c = false := by
      intro c hc
      obtain ⟨a, -, rfl⟩ := List.mem_map.1 hc
      exact isMarker_tree a
    have hdimensions : ErrorFree (branch "dimensions" (some "dimensions")
        (annotations.map Annotation.tree)) := by
      refine follows_branch ?_ (errorFree_markers annotations)
      change ((content _).all isMarker && true) = true
      rw [content_branch_eq fun c hc => (hannotations c hc).2, Bool.and_true, List.all_eq_true]
      exact fun c hc => (hannotations c hc).1
    refine ⟨rfl, follows_branch ?_ ?_⟩
    · change (isPair isUnannotated _ (content _) && true) = true
      rw [content_branch_eq]
      · simp only [isPair, hunannotated]
        rfl
      · simp only [List.forall_mem_cons]
        exact ⟨⟨ht.isNamed, not_isComment_of_isType (isType_of_isUnannotated hunannotated)⟩,
          ⟨rfl, rfl⟩, fun c hc => by cases hc⟩
    · simp only [List.forall_mem_cons]
      exact ⟨ht.errorFree, hdimensions, fun c hc => by cases hc⟩
  · exact ht

/-- A qualified type is parsed without errors. -/
theorem parsed_qualified {t : SyntaxTree} (ht : Parsed t) (annotations : List Annotation)
    (name : Word) :
    Parsed (branch "scoped_type_identifier" none
      (t :: annotations.map Annotation.tree ++ [leaf "type_identifier" none name.val])) := by
  refine ⟨rfl, follows_branch ?_ ?_⟩
  · have hlast : (branch "scoped_type_identifier" none (t :: annotations.map Annotation.tree ++
        [leaf "type_identifier" none name.val])).namedChildren.getLast? =
          some (leaf "type_identifier" none name.val) := by
      simp [SyntaxTree.namedChildren, branch, SyntaxTree.children, leaf, SyntaxTree.isNamed]
    change ((SyntaxTree.namedChildren _).getLast?.any _ && true) = true
    rw [hlast]
    rfl
  · intro c hc
    rcases List.mem_append.1 hc with hc | hc
    · rcases List.mem_cons.1 hc with rfl | hc
      · exact ht.errorFree
      · exact errorFree_markers annotations c hc
    · obtain rfl := List.mem_singleton.1 hc
      exact follows_leaf rfl none name

theorem parsed_primitive (name : String) :
    Parsed (branch (primitiveKind name) none []) := by
  refine ⟨rfl, ?_⟩
  have hnone : ∀ c ∈ ([] : List SyntaxTree), ErrorFree c := fun c hc => by cases hc
  rw [primitiveKind]
  split
  · exact follows_branch rfl hnone
  split
  · exact follows_branch rfl hnone
  split
  · exact follows_branch rfl hnone
  · exact follows_branch rfl hnone

mutual

/-- By recursion over the type that is written. -/
theorem parsed_tree : (t : TypeExpr) → Parsed t.tree
  | .named name => by
    rw [TypeExpr.tree]
    exact ⟨rfl, follows_leaf rfl none name⟩
  | .primitive name => by
    rw [TypeExpr.tree]
    exact parsed_primitive name
  | .generic base arguments => by
    rw [TypeExpr.tree]
    exact parsed_withArguments (parsed_tree base) (parsed_typeTrees arguments)
  | .qualified qualifier annotations name => by
    rw [TypeExpr.tree]
    exact parsed_qualified (parsed_tree qualifier) annotations name
  | .annotated annotations type => by
    rw [TypeExpr.tree]
    exact parsed_withAnnotations (parsed_tree type) annotations
  | .array element annotations => by
    rw [TypeExpr.tree]
    exact parsed_withDimension (parsed_tree element) annotations
  | .wildcard none => by
    rw [TypeExpr.tree]
    exact ⟨rfl, follows_branch_of_free (by decide) none fun c hc => by cases hc⟩
  | .wildcard (some bound) => by
    rw [TypeExpr.tree]
    refine ⟨rfl, follows_branch_of_free (by decide) none fun c hc => ?_⟩
    obtain rfl := List.mem_singleton.1 hc
    exact (parsed_tree bound).errorFree

theorem parsed_typeTrees : (ts : List TypeExpr) → ∀ c ∈ typeTrees ts, Parsed c
  | [], c, hc => by
    rw [typeTrees] at hc
    cases hc
  | t :: rest, c, hc => by
    rw [typeTrees, List.mem_cons] at hc
    rcases hc with rfl | hc
    · exact parsed_tree t
    · exact parsed_typeTrees rest c hc

end

/-- What is written of a superclass is parsed without errors. -/
theorem errorFree_superclassTrees (superclass : Option TypeExpr) :
    ∀ c ∈ superclassTrees superclass, ErrorFree c := by
  intro c hc
  rw [superclassTrees] at hc
  split at hc
  · next t ht =>
    obtain ⟨hmap, htype⟩ := Option.filter_eq_some_iff.1 ht
    obtain ⟨e, -, rfl⟩ := Option.map_eq_some_iff.1 hmap
    obtain rfl := List.mem_singleton.1 hc
    have hparsed := parsed_tree e
    refine follows_branch ?_ fun c hc => ?_
    · change (isSingle isType (content _) && true) = true
      rw [content_branch_eq]
      · rw [isSingle, htype]
        rfl
      · intro c hc
        obtain rfl := List.mem_singleton.1 hc
        exact ⟨hparsed.isNamed, not_isComment_of_isType htype⟩
    · obtain rfl := List.mem_singleton.1 hc
      exact hparsed.errorFree
  · cases hc

/-- What is written of interfaces is parsed without errors. -/
theorem errorFree_interfacesTrees (kind : Kind) (interfaces : List TypeExpr) :
    ∀ c ∈ interfacesTrees kind interfaces, ErrorFree c := by
  intro c hc
  rw [interfacesTrees] at hc
  have htypes : ∀ t ∈ (interfaces.map TypeExpr.tree).filter isType,
      Parsed t ∧ isType t = true := by
    intro t ht
    obtain ⟨hmap, htype⟩ := List.mem_filter.1 ht
    obtain ⟨e, -, rfl⟩ := List.mem_map.1 hmap
    exact ⟨parsed_tree e, htype⟩
  split at hc
  · cases hc
  · obtain rfl := List.mem_singleton.1 hc
    have hlist : ErrorFree (branch "type_list" none
        ((interfaces.map TypeExpr.tree).filter isType)) := by
      refine follows_branch ?_ fun c hc => (htypes c hc).1.errorFree
      change ((content _).all isType && true) = true
      rw [content_branch_eq fun c hc =>
        ⟨(htypes c hc).1.isNamed, not_isComment_of_isType (htypes c hc).2⟩, Bool.and_true,
        List.all_eq_true]
      exact fun c hc => (htypes c hc).2
    have hinside : ∀ c ∈ [branch "type_list" none
        ((interfaces.map TypeExpr.tree).filter isType)], ErrorFree c := fun c hc => by
      obtain rfl := List.mem_singleton.1 hc
      exact hlist
    cases kind with
    | ofInterface => exact follows_branch_of_free (by decide) _ hinside
    | _ => exact follows_branch rfl hinside

/-- A superclass is written once, or not at all. -/
theorem superclassTrees_cases (superclass : Option TypeExpr) :
    superclassTrees superclass = [] ∨
      ∃ t, superclassTrees superclass = [branch "superclass" (some "superclass") [t]] := by
  rw [superclassTrees]
  split
  · exact Or.inr ⟨_, rfl⟩
  · exact Or.inl rfl

/-- Interfaces of a class are written in one list, or not at all. -/
theorem interfacesTrees_cases (interfaces : List TypeExpr) :
    interfacesTrees .ofClass interfaces = [] ∨
      ∃ ts, interfacesTrees .ofClass interfaces =
        [branch "super_interfaces" (some "interfaces") ts] := by
  rw [interfacesTrees]
  split
  · exact Or.inl rfl
  · exact Or.inr ⟨_, rfl⟩

/-- A declaration whose body has no errors has none. -/
theorem errorFree_declaration (kind : Kind) (name : Word) (superclass : Option TypeExpr)
    (interfaces : List TypeExpr) {members : List SyntaxTree}
    (hbody : ErrorFree (branch kind.body (some "body") members)) :
    ErrorFree (branch kind.declaration none
      (leaf "identifier" (some "name") name.val :: superclassTrees superclass ++
        interfacesTrees kind interfaces ++ [branch kind.body (some "body") members])) := by
  have hchildren : ∀ c ∈ leaf "identifier" (some "name") name.val :: superclassTrees superclass ++
      interfacesTrees kind interfaces ++ [branch kind.body (some "body") members],
      ErrorFree c := by
    simp only [List.mem_append, List.mem_cons, List.not_mem_nil, or_false]
    rintro c (((rfl | hc) | hc) | rfl)
    · exact follows_leaf rfl _ name
    · exact errorFree_superclassTrees superclass c hc
    · exact errorFree_interfacesTrees kind interfaces c hc
    · exact hbody
  cases kind with
  | ofClass =>
    refine follows_branch ?_ hchildren
    rcases superclassTrees_cases superclass with hs | ⟨t, hs⟩ <;>
      rcases interfacesTrees_cases interfaces with hi | ⟨ts, hi⟩ <;>
      · simp only [hs, hi]
        rfl
  | ofInterface => exact follows_branch_of_free (by decide) none hchildren
  | ofEnum => exact follows_branch_of_free (by decide) none hchildren
  | ofRecord => exact follows_branch_of_free (by decide) none hchildren
  | ofMarker => exact follows_branch_of_free (by decide) none hchildren

theorem errorFree_body (kind : Kind) {members : List SyntaxTree} (h : ∀ c ∈ members, ErrorFree c) :
    ErrorFree (branch kind.body (some "body") members) := by
  cases kind <;> exact follows_branch_of_free (by decide) _ h

mutual

/-- By recursion over what is declared. -/
theorem errorFree_nodeTree : (n : Node) → ErrorFree n.tree
  | .type head members => by
    rw [Node.tree]
    exact errorFree_declaration head.kind head.name head.superclass head.interfaces
      (errorFree_body head.kind (errorFree_nodeTrees members))
  | .method name inside => by
    rw [Node.tree]
    refine follows_branch rfl ?_
    simp only [List.forall_mem_cons]
    exact ⟨follows_leaf rfl _ name, follows_branch_of_free (by decide) _
      (errorFree_nodeTrees inside), fun c hc => by cases hc⟩
  | .region inside => by
    rw [Node.tree]
    exact follows_branch_of_free (by decide) none (errorFree_nodeTrees inside)

theorem errorFree_nodeTrees : (ns : List Node) → ∀ c ∈ nodeTrees ns, ErrorFree c
  | [], c, hc => by
    rw [nodeTrees] at hc
    cases hc
  | n :: rest, c, hc => by
    rw [nodeTrees, List.mem_cons] at hc
    rcases hc with rfl | hc
    · exact errorFree_nodeTree n
    · exact errorFree_nodeTrees rest c hc

end

/-- The parser of Java gives trees without errors. -/
theorem errorFree_parse (bytes : List UInt8) :
    ErrorFree (parse bytes) :=
  follows_branch_of_free (by decide) none (errorFree_nodeTrees _)

end Parser

end Java

namespace Rust

/-- The children of a block that matter here, in their order. -/
def blockSlots : List ChildSlot :=
  [⟨"type_identifier", some "type"⟩, ⟨"declaration_list", some "body"⟩]

/-- The rules of the grammar: the children of a block that matter here stand in their order, and a
function has at most one name. -/
def rules : List Rule :=
  [nameRule "identifier", nameRule "type_identifier",
    orderRule "impl_item" blockSlots,
    orderRule "function_item" [⟨"identifier", some "name"⟩]]

/-- A tree without errors. -/
def ErrorFree (t : SyntaxTree) : Prop :=
  t.Follows rules

instance (t : SyntaxTree) : Decidable (ErrorFree t) :=
  inferInstanceAs (Decidable (t.Follows rules))

/-- The type that a block implements is parsed without errors. -/
theorem errorFree_selfType (t : SelfType) :
    ErrorFree t.tree := by
  cases t with
  | plain name => exact follows_leaf rfl _ name
  | other => exact follows_branch_of_free (by decide) _ fun c hc => by cases hc

mutual

theorem errorFree_nodeTree : (n : Node) → ErrorFree n.tree
  | .implementation selfType items => by
    rw [Node.tree]
    refine follows_branch ?_ ?_
    · cases selfType <;> rfl
    · simp only [List.forall_mem_cons]
      exact ⟨errorFree_selfType selfType, follows_branch_of_free (by decide) _
        (errorFree_nodeTrees items), fun c hc => by cases hc⟩
  | .function name hasBody inside => by
    have hchildren : ∀ c ∈ [leaf "identifier" (some "name") name.val,
        branch "block" (some "body") (nodeTrees inside)], ErrorFree c := by
      simp only [List.forall_mem_cons]
      exact ⟨follows_leaf rfl _ name, follows_branch_of_free (by decide) _
        (errorFree_nodeTrees inside), fun c hc => by cases hc⟩
    rw [Node.tree]
    cases hasBody with
    | true => exact follows_branch rfl hchildren
    | false => exact follows_branch_of_free (by decide) none hchildren
  | .region inside => by
    rw [Node.tree]
    exact follows_branch_of_free (by decide) none (errorFree_nodeTrees inside)

theorem errorFree_nodeTrees : (ns : List Node) → ∀ c ∈ nodeTrees ns, ErrorFree c
  | [], c, hc => by
    rw [nodeTrees] at hc
    cases hc
  | n :: rest, c, hc => by
    rw [nodeTrees, List.mem_cons] at hc
    rcases hc with rfl | hc
    · exact errorFree_nodeTree n
    · exact errorFree_nodeTrees rest c hc

end

/-- The parser of Rust gives trees without errors. -/
theorem errorFree_parse (bytes : List UInt8) :
    ErrorFree (parse bytes) :=
  follows_branch_of_free (by decide) none (errorFree_nodeTrees _)

end Rust

end Syntax
end SurfaceCoverage
