import SurfaceCoverage.Proofs.Ownership

/-!
# Names of written types

Type names are read out of the nodes that wrap them.  In a tree without errors the names of a type
are those of the annotations in front of it, its simple name, and those of the annotations at its
dimensions; arguments, qualifiers, the annotations behind them and comments contribute none.

**Results.**
* `ne_empty_of_mem_typeNames`: no name is empty.
* `typeNames_eq_content`: comments bring in no names.
* `typeNames_of_isType`: the names of a type.
-/

namespace SurfaceCoverage

/-! ### The names of nodes -/

namespace SyntaxTree

/-- The names among some trees are those of the named ones. -/
theorem typeNamesOfNamed_eq (ts : List SyntaxTree) :
    typeNamesOfNamed ts = (ts.filter isNamed).map typeNames := by
  induction ts with
  | nil => rfl
  | cons t rest ih =>
    rw [typeNamesOfNamed, ih]
    cases h : t.isNamed with
    | true => rw [if_pos rfl, List.filter_cons_of_pos h, List.map_cons]
    | false => rw [if_neg Bool.false_ne_true, List.filter_cons_of_neg (by simp [h])]

/-- The names of a node, from those of its named children. -/
theorem typeNames_eq (t : SyntaxTree) :
    t.typeNames =
      if typeLeaves.contains t.kind then [t.word]
      else if genericTypes.contains t.kind then (t.namedChildren.head?.map typeNames).getD []
      else if scopedTypes.contains t.kind then (t.namedChildren.getLast?.map typeNames).getD []
      else t.namedChildren.flatMap typeNames := by
  obtain ⟨kind, isNamed, role, text, children⟩ := t
  rw [typeNames, typeNamesOfNamed_eq]
  simp only [List.head?_map, List.getLast?_map, List.flatMap_def]
  rfl

end SyntaxTree

namespace Syntax

namespace Java

/-- Whether the names of a node are all that stand below it. -/
def collects (t : SyntaxTree) : Bool :=
  !typeLeaves.contains t.kind && !genericTypes.contains t.kind && !scopedTypes.contains t.kind

/-- A tree that collects names has those of its named children. -/
theorem typeNames_of_collects {t : SyntaxTree} (h : collects t = true) :
    t.typeNames = t.namedChildren.flatMap SyntaxTree.typeNames := by
  simp only [collects, Bool.and_eq_true, Bool.not_eq_true'] at h
  rw [SyntaxTree.typeNames_eq, h.1.1, h.1.2, h.2]
  rfl

/-- The rule for a kind holds at the root of a tree without errors. -/
theorem ErrorFree.rule {t : SyntaxTree} (h : ErrorFree t) {r : Rule} (hr : r ∈ rules)
    (hkind : t.kind = r.kind) :
    r.holds t = true :=
  (SyntaxTree.follows_iff.1 h).1 r hr hkind

/-- Every part of a tree without errors is without errors. -/
theorem ErrorFree.child {t c : SyntaxTree} (h : ErrorFree t) (hc : c ∈ t.children) :
    ErrorFree c :=
  (SyntaxTree.follows_iff.1 h).2 c hc

/-- What stands anywhere in a tree without errors has none. -/
theorem ErrorFree.of_mem_spots {t : SyntaxTree} (h : ErrorFree t) {x : Spot} (hx : x ∈ t.spots) :
    ErrorFree x.tree := by
  intro y hy
  refine h ⟨x.place ++ y.place, y.tree⟩ (SyntaxTree.mem_spots_iff.2 ?_)
  rw [SyntaxTree.at?_append, SyntaxTree.mem_spots_iff.1 hx, Option.bind_some]
  exact SyntaxTree.mem_spots_iff.1 hy

theorem ErrorFree.namedChild {t c : SyntaxTree} (h : ErrorFree t) (hc : c ∈ t.namedChildren) :
    ErrorFree c :=
  h.child (List.mem_filter.1 hc).1

theorem mem_children_of_mem_content {t c : SyntaxTree} (hc : c ∈ content t) :
    c ∈ t.children :=
  (List.mem_filter.1 (List.mem_filter.1 hc).1).1

theorem mem_rules_of_mem_typeRules {r : Rule} (h : r ∈ typeRules) :
    r ∈ rules :=
  List.mem_append_left _ (List.mem_append_right _ h)

/-- Nodes without named children other than words have no names. -/
theorem typeNames_of_leafRule {t : SyntaxTree} (h : ErrorFree t)
    (hkind : t.kind ∈ "line_comment" :: "block_comment" :: primitiveKinds) :
    t.typeNames = [] := by
  have hrule : (⟨t.kind, fun t => t.namedChildren.isEmpty⟩ : Rule) ∈ rules :=
    List.mem_append_right _ (List.mem_map.2 ⟨t.kind, hkind, rfl⟩)
  have hempty : t.namedChildren = [] := List.isEmpty_iff.1 (h.rule hrule rfl)
  have hcollects : collects t = true := by
    simp only [primitiveKinds, List.mem_cons, List.not_mem_nil, or_false] at hkind
    rw [collects]
    rcases hkind with h | h | h | h | h | h <;> rw [h] <;> rfl
  rw [typeNames_of_collects hcollects, hempty]
  rfl

/-- A comment has no names. -/
theorem typeNames_of_isComment {t : SyntaxTree} (h : ErrorFree t) (hcomment : isComment t = true) :
    t.typeNames = [] := by
  refine typeNames_of_leafRule h ?_
  rw [isComment, Bool.or_eq_true, beq_iff_eq, beq_iff_eq] at hcomment
  rcases hcomment with h | h
  · exact h ▸ List.mem_cons_self
  · exact h ▸ List.mem_cons_of_mem _ List.mem_cons_self

/-- Comments bring in no names. -/
theorem typeNames_eq_content {t : SyntaxTree} (h : ErrorFree t) (hcollects : collects t = true) :
    t.typeNames = (content t).flatMap SyntaxTree.typeNames := by
  rw [typeNames_of_collects hcollects, content]
  have hnamed : ∀ c ∈ t.namedChildren, ErrorFree c := fun c => h.namedChild
  generalize t.namedChildren = cs at *
  induction cs with
  | nil => rfl
  | cons c rest ih =>
    have hrest := ih fun d hd => hnamed d (List.mem_cons_of_mem c hd)
    rw [List.flatMap_cons, hrest]
    cases hcomment : isComment c with
    | true =>
      rw [typeNames_of_isComment (hnamed c List.mem_cons_self) hcomment,
        List.filter_cons_of_neg (by simp [hcomment]), List.nil_append]
    | false => rw [List.filter_cons_of_pos (by simp [hcomment]), List.flatMap_cons]

/-- No name is empty. -/
theorem ne_empty_of_mem_typeNames {t : SyntaxTree} (h : ErrorFree t) {x : String}
    (hx : x ∈ t.typeNames) :
    x ≠ "" := by
  induction t using SyntaxTree.ind generalizing x with
  | h t ih =>
    have hchild : ∀ c ∈ t.namedChildren, x ∈ c.typeNames → x ≠ "" := fun c hc hx =>
      ih c (List.mem_filter.1 hc).1 (h.namedChild hc) hx
    rw [SyntaxTree.typeNames_eq] at hx
    split at hx
    · next hleaf =>
      obtain rfl := List.mem_singleton.1 hx
      simp only [typeLeaves, List.contains_iff_mem, List.mem_cons, List.not_mem_nil, or_false]
        at hleaf
      rcases hleaf with hkind | hkind
      · exact bne_iff_ne.1 (h.rule typeIdentifier_mem hkind)
      · exact bne_iff_ne.1 (h.rule identifier_mem hkind)
    split at hx
    · cases hhead : t.namedChildren.head? with
      | none =>
        rw [hhead] at hx
        cases hx
      | some c =>
        rw [hhead] at hx
        exact hchild c (List.mem_of_head? hhead) hx
    split at hx
    · cases hlast : t.namedChildren.getLast? with
      | none =>
        rw [hlast] at hx
        cases hx
      | some c =>
        rw [hlast] at hx
        exact hchild c (List.mem_of_getLast? hlast) hx
    · obtain ⟨c, hc, hx⟩ := List.mem_flatMap.1 hx
      exact hchild c hc hx

/-! ### The parts of written types -/

mutual

/-- The simple name of a type: a name alone is its own, a qualified type has its last one, and a
type with arguments, annotations or dimensions has that of the type without.  Types that are no
classes have none. -/
def simpleName? : SyntaxTree → Option String
  | .node kind _ _ text children =>
      if kind = "type_identifier" then some (String.ofList (Text.decodeIgnoring text))
      else if kind = "scoped_type_identifier" then (simpleNamesAmong children).getLast?.join
      else if kind ∈ ["generic_type", "array_type", "annotated_type"] then
        (simpleNamesAmong children).head?.join
      else none

/-- The simple name of each type. -/
def simpleNamesAmong : List SyntaxTree → List (Option String)
  | [] => []
  | t :: rest =>
      if t.isNamed && isType t then simpleName? t :: simpleNamesAmong rest
      else simpleNamesAmong rest

end

mutual

/-- The annotations at the dimensions of a type, if it is an array. -/
def dimensionMarkers : SyntaxTree → List SyntaxTree
  | .node kind _ _ _ children =>
      if kind ∈ ["array_type", "annotated_type"] then dimensionMarkersAmong children else []

/-- The annotations at the dimensions of types and in lists of dimensions. -/
def dimensionMarkersAmong : List SyntaxTree → List SyntaxTree
  | [] => []
  | t :: rest =>
      (if !t.isNamed then []
        else if t.kind = "dimensions" then (content t).filter isMarker
        else if isType t then dimensionMarkers t
        else []) ++ dimensionMarkersAmong rest

end

/-- The annotations in front of a type. -/
def frontMarkers (t : SyntaxTree) : List SyntaxTree :=
  if t.kind = "annotated_type" then (content t).filter isMarker else []

theorem simpleNamesAmong_eq (ts : List SyntaxTree) :
    simpleNamesAmong ts =
      ((ts.filter SyntaxTree.isNamed).filter isType).map simpleName? := by
  induction ts with
  | nil => rfl
  | cons t rest ih =>
    rw [simpleNamesAmong, ih]
    cases hn : t.isNamed <;> cases ht : isType t <;> simp [hn, ht]

/-- The types among the named children of a node. -/
def childTypes (t : SyntaxTree) : List SyntaxTree :=
  t.namedChildren.filter isType

/-- The simple name of a tree, by its kind and the types among its children. -/
theorem simpleName?_eq (t : SyntaxTree) :
    simpleName? t =
      if t.kind = "type_identifier" then some t.word
      else if t.kind = "scoped_type_identifier" then ((childTypes t).map simpleName?).getLast?.join
      else if t.kind ∈ ["generic_type", "array_type", "annotated_type"] then
        ((childTypes t).map simpleName?).head?.join
      else none := by
  obtain ⟨kind, isNamed, role, text, children⟩ := t
  rw [simpleName?, simpleNamesAmong_eq]
  rfl

/-- The annotations that a child brings in at dimensions. -/
def childMarkers (c : SyntaxTree) : List SyntaxTree :=
  if !c.isNamed then []
  else if c.kind = "dimensions" then (content c).filter isMarker
  else if isType c then dimensionMarkers c
  else []

theorem dimensionMarkersAmong_eq (ts : List SyntaxTree) :
    dimensionMarkersAmong ts = ts.flatMap childMarkers := by
  induction ts with
  | nil => rfl
  | cons t rest ih => rw [dimensionMarkersAmong, ih, List.flatMap_cons, childMarkers]

/-- The annotations of dimensions, by the kind of the tree. -/
theorem dimensionMarkers_eq (t : SyntaxTree) :
    dimensionMarkers t =
      if t.kind ∈ ["array_type", "annotated_type"] then t.children.flatMap childMarkers
      else [] := by
  obtain ⟨kind, isNamed, role, text, children⟩ := t
  rw [dimensionMarkers, dimensionMarkersAmong_eq]
  rfl

/-- What passes a test that comments fail stands among the content of a node. -/
theorem filter_namedChildren_eq {p : SyntaxTree → Bool} (hp : ∀ c, p c = true → isComment c = false)
    (t : SyntaxTree) :
    t.namedChildren.filter p = (content t).filter p := by
  rw [content, List.filter_filter]
  refine List.filter_congr fun c _ => ?_
  cases h : p c with
  | false => rw [Bool.false_and]
  | true => rw [hp c h]; rfl

theorem childTypes_eq (t : SyntaxTree) :
    childTypes t = (content t).filter isType :=
  filter_namedChildren_eq (fun _ => not_isComment_of_isType) t

/-- Comments do not contribute annotations of dimensions. -/
theorem flatMap_childMarkers (t : SyntaxTree) :
    t.children.flatMap childMarkers = (content t).flatMap childMarkers := by
  rw [content, SyntaxTree.namedChildren]
  induction t.children with
  | nil => rfl
  | cons c rest ih =>
    rw [List.flatMap_cons, ih]
    cases hnamed : c.isNamed with
    | false =>
      rw [List.filter_cons_of_neg (by simp [hnamed]), childMarkers, hnamed]
      rfl
    | true =>
      rw [List.filter_cons_of_pos hnamed]
      cases hcomment : isComment c with
      | false => rw [List.filter_cons_of_pos (by simp [hcomment]), List.flatMap_cons]
      | true =>
        have hnone : childMarkers c = [] := by
          have htype : isType c = false :=
            Bool.eq_false_iff.2 fun h =>
              absurd hcomment (by rw [not_isComment_of_isType h]; exact Bool.false_ne_true)
          have hkind : c.kind ≠ "dimensions" := by
            intro h
            rw [isComment, h] at hcomment
            cases hcomment
          rw [childMarkers, hnamed, htype, if_neg hkind]
          rfl
        rw [List.filter_cons_of_neg (by simp [hcomment]), hnone, List.nil_append]

/-- The kinds of types without annotations. -/
theorem kind_mem_of_isUnannotated {t : SyntaxTree} (h : isUnannotated t = true) :
    t.kind ∈ primitiveKinds ∨ t.kind = "type_identifier" ∨ t.kind = "scoped_type_identifier"
      ∨ t.kind = "generic_type" ∨ t.kind = "array_type" := by
  rw [isUnannotated, List.contains_iff_mem, unannotatedKinds, List.mem_append] at h
  simpa using h

/-- The names of a type are its simple name. -/
def OnlySimple (t : SyntaxTree) : Prop :=
  t.typeNames = (simpleName? t).toList ∧ dimensionMarkers t = []

/-- A type name is the only name that it has. -/
theorem onlySimple_leaf {t : SyntaxTree} (hkind : t.kind = "type_identifier") :
    OnlySimple t := by
  constructor
  · rw [SyntaxTree.typeNames_eq, simpleName?_eq, hkind]
    rfl
  · rw [dimensionMarkers_eq, hkind]
    rfl

/-- A primitive type has no names. -/
theorem onlySimple_primitive {t : SyntaxTree} (h : ErrorFree t) (hkind : t.kind ∈ primitiveKinds) :
    OnlySimple t := by
  have hnames := typeNames_of_leafRule h
    (List.mem_cons_of_mem _ (List.mem_cons_of_mem _ hkind))
  simp only [primitiveKinds, List.mem_cons, List.not_mem_nil, or_false] at hkind
  rw [OnlySimple, hnames, simpleName?_eq, dimensionMarkers_eq]
  rcases hkind with h | h | h | h <;> rw [h] <;> exact ⟨rfl, rfl⟩

/-- A qualified type contributes its last name only. -/
theorem onlySimple_scoped {t : SyntaxTree} (h : ErrorFree t)
    (hkind : t.kind = "scoped_type_identifier") :
    OnlySimple t := by
  have hrule := h.rule (mem_rules_of_mem_typeRules (r := ⟨"scoped_type_identifier",
    fun t => t.namedChildren.getLast?.any fun c => c.kind == "type_identifier"⟩)
    (by simp [typeRules])) hkind
  obtain ⟨c, hlast, hc⟩ := (Option.any_eq_true _ _).1 hrule
  have hleaf := onlySimple_leaf (beq_iff_eq.1 hc)
  have htype : isType c = true := by
    rw [isType, beq_iff_eq.1 hc]
    rfl
  have hlastType : (childTypes t).getLast? = some c := by
    obtain ⟨front, hfront⟩ := List.getLast?_eq_some_iff.1 hlast
    rw [childTypes, hfront, List.filter_append, List.filter_cons_of_pos htype]
    simp
  constructor
  · rw [SyntaxTree.typeNames_eq, simpleName?_eq, hkind, hlast, List.getLast?_map, hlastType]
    exact hleaf.1
  · rw [dimensionMarkers_eq, hkind]
    rfl

/-- A type with arguments contributes the name of its base only. -/
theorem onlySimple_generic {t : SyntaxTree} (h : ErrorFree t) (hkind : t.kind = "generic_type") :
    OnlySimple t := by
  have hrule := h.rule (mem_rules_of_mem_typeRules (r := ⟨"generic_type",
    fun t => t.namedChildren.head?.any takesArguments⟩) (by simp [typeRules])) hkind
  obtain ⟨c, hhead, hc⟩ := (Option.any_eq_true _ _).1 hrule
  have hbase : OnlySimple c ∧ isType c = true := by
    rw [takesArguments, Bool.or_eq_true, beq_iff_eq, beq_iff_eq] at hc
    rw [isType]
    rcases hc with hc | hc
    · exact ⟨onlySimple_leaf hc, by rw [hc]; rfl⟩
    · exact ⟨onlySimple_scoped (h.namedChild (List.mem_of_head? hhead)) hc, by rw [hc]; rfl⟩
  have hheadType : (childTypes t).head? = some c := by
    obtain ⟨rest, hrest⟩ := List.head?_eq_some_iff.1 hhead
    rw [childTypes, hrest, List.filter_cons_of_pos hbase.2, List.head?_cons]
  constructor
  · rw [SyntaxTree.typeNames_eq, simpleName?_eq, hkind, hhead, List.head?_map, hheadType]
    exact hbase.1.1
  · rw [dimensionMarkers_eq, hkind]
    rfl

theorem exists_of_isSingle {p : SyntaxTree → Bool} {ts : List SyntaxTree}
    (h : isSingle p ts = true) :
    ∃ t, ts = [t] ∧ p t = true := by
  match ts, h with
  | [t], h => exact ⟨t, rfl, h⟩

theorem exists_of_isPair {p q : SyntaxTree → Bool} {ts : List SyntaxTree}
    (h : isPair p q ts = true) :
    ∃ t u, ts = [t, u] ∧ p t = true ∧ q u = true := by
  match ts, h with
  | [t, u], h => exact ⟨t, u, rfl, Bool.and_eq_true_iff.1 h⟩

theorem exists_of_endsIn {p q : SyntaxTree → Bool} {ts : List SyntaxTree}
    (h : endsIn p q ts = true) :
    ∃ front t, ts = front ++ [t] ∧ (∀ u ∈ front, p u = true) ∧ q t = true := by
  match ts, h with
  | [t], h => exact ⟨[], t, rfl, by simp, h⟩
  | t :: u :: rest, h =>
    obtain ⟨ht, hrest⟩ := Bool.and_eq_true_iff.1 h
    obtain ⟨front, v, heq, hfront, hv⟩ := exists_of_endsIn hrest
    refine ⟨t :: front, v, by rw [heq, List.cons_append], fun w hw => ?_, hv⟩
    rcases List.mem_cons.1 hw with rfl | hw
    · exact ht
    · exact hfront w hw

/-- The kinds of trees that just collect names. -/
theorem collects_of_kind {t : SyntaxTree}
    (h : t.kind ∈ ["superclass", "super_interfaces", "type_list", "annotated_type", "array_type",
      "dimensions", "annotation", "marker_annotation"]) :
    collects t = true := by
  simp only [List.mem_cons, List.not_mem_nil, or_false] at h
  rw [collects]
  rcases h with h | h | h | h | h | h | h | h <;> rw [h] <;> rfl

theorem named_of_mem_content {t c : SyntaxTree} (h : c ∈ content t) :
    c.isNamed = true :=
  (List.mem_filter.1 (List.mem_filter.1 h).1).2

/-- A type without annotations contributes those of its own dimensions. -/
theorem childMarkers_of_isUnannotated {c : SyntaxTree} (hnamed : c.isNamed = true)
    (h : isUnannotated c = true) :
    childMarkers c = dimensionMarkers c := by
  have hkind : c.kind ≠ "dimensions" := by
    intro hkind
    rw [isUnannotated, hkind] at h
    cases h
  rw [childMarkers, hnamed, if_neg hkind, isType_of_isUnannotated h]
  rfl

/-- Dimensions contribute the annotations in them. -/
theorem childMarkers_of_dimensions {c : SyntaxTree} (hnamed : c.isNamed = true) (hc : ErrorFree c)
    (hkind : c.kind = "dimensions") :
    childMarkers c = content c := by
  have hrule := hc.rule (mem_rules_of_mem_typeRules (r := ⟨"dimensions",
    fun t => (content t).all isMarker⟩) (by simp [typeRules])) hkind
  rw [childMarkers, hnamed, if_pos hkind, List.filter_eq_self.2 (List.all_eq_true.1 hrule)]
  rfl

theorem not_isType_of_isMarker {t : SyntaxTree} (h : isMarker t = true) :
    isType t = false := by
  rw [isMarker, Bool.or_eq_true, beq_iff_eq, beq_iff_eq] at h
  rw [isType]
  rcases h with h | h <;> rw [h] <;> rfl

/-- An annotation in front of a type is none of a dimension. -/
theorem childMarkers_of_isMarker {c : SyntaxTree} (h : isMarker c = true) :
    childMarkers c = [] := by
  have hkind : c.kind ≠ "dimensions" := by
    intro hkind
    rw [isMarker, hkind] at h
    cases h
  rw [childMarkers, if_neg hkind, not_isType_of_isMarker h]
  cases c.isNamed <;> rfl

/-- A type that is not marked as annotated has no annotations. -/
theorem isUnannotated_of_isType {t : SyntaxTree} (h : isType t = true)
    (hkind : t.kind ≠ "annotated_type") :
    isUnannotated t = true := by
  rw [isType, List.contains_iff_mem, typeKinds, List.mem_cons] at h
  rw [isUnannotated, List.contains_iff_mem]
  exact h.resolve_left hkind

/-- An array has an element and dimensions: its names are those of both, its simple name is that of
the element, and the annotations at its dimensions are those of the element and of its own. -/
theorem exists_of_array {t : SyntaxTree} (h : ErrorFree t) (hkind : t.kind = "array_type") :
    ∃ e d, e ∈ t.children ∧ ErrorFree e ∧ isUnannotated e = true
      ∧ t.typeNames = e.typeNames ++ (content d).flatMap SyntaxTree.typeNames
      ∧ simpleName? t = simpleName? e
      ∧ dimensionMarkers t = dimensionMarkers e ++ content d := by
  have hrule := h.rule (mem_rules_of_mem_typeRules (r := ⟨"array_type",
    fun t => isPair isUnannotated (fun c => c.kind == "dimensions") (content t)⟩)
    (by simp [typeRules])) hkind
  obtain ⟨e, d, hcontent, he, hd⟩ := exists_of_isPair hrule
  have hmem : ∀ c ∈ [e, d], c ∈ t.children := fun c hc =>
    mem_children_of_mem_content (hcontent ▸ hc)
  have hnamed : ∀ c ∈ [e, d], c.isNamed = true := fun c hc =>
    named_of_mem_content (t := t) (by rwa [hcontent])
  have htype := isType_of_isUnannotated he
  have hdimensions := beq_iff_eq.1 hd
  have hfree := h.child (hmem d (by simp))
  refine ⟨e, d, hmem e (by simp), h.child (hmem e (by simp)), he, ?_, ?_, ?_⟩
  · rw [typeNames_eq_content h (collects_of_kind (by simp [hkind])), hcontent, List.flatMap_cons,
      List.flatMap_singleton,
      typeNames_eq_content hfree (collects_of_kind (by simp [hdimensions]))]
  · have hnot : isType d = false := by
      rw [isType, hdimensions]
      rfl
    rw [simpleName?_eq, hkind, childTypes_eq, hcontent, List.filter_cons_of_pos htype,
      List.filter_cons_of_neg (by simp [hnot])]
    rfl
  · rw [dimensionMarkers_eq, hkind, flatMap_childMarkers, hcontent, List.flatMap_cons,
      List.flatMap_cons, childMarkers_of_isUnannotated (hnamed e (by simp)) he,
      childMarkers_of_dimensions (hnamed d (by simp)) hfree hdimensions]
    simp

/-- The names of a type without annotations in front of it are its simple name and those of the
annotations at its dimensions. -/
theorem typeNames_of_isUnannotated {t : SyntaxTree} (h : ErrorFree t)
    (ht : isUnannotated t = true) :
    t.typeNames =
      (simpleName? t).toList ++ (dimensionMarkers t).flatMap SyntaxTree.typeNames := by
  induction t using SyntaxTree.ind with
  | h t ih =>
    have hsimple : OnlySimple t → t.typeNames =
        (simpleName? t).toList ++ (dimensionMarkers t).flatMap SyntaxTree.typeNames := fun h => by
      rw [h.1, h.2, List.flatMap_nil, List.append_nil]
    rcases kind_mem_of_isUnannotated ht with hkind | hkind | hkind | hkind | hkind
    · exact hsimple (onlySimple_primitive h hkind)
    · exact hsimple (onlySimple_leaf hkind)
    · exact hsimple (onlySimple_scoped h hkind)
    · exact hsimple (onlySimple_generic h hkind)
    · -- an array: its element and its dimensions
      obtain ⟨e, d, hmem, hfree, he, hnames, hname, hmarkers⟩ := exists_of_array h hkind
      rw [hnames, ih e hmem hfree he, hname, hmarkers, List.flatMap_append, List.append_assoc]

/-- An annotated type has annotations in front of another type: its names are those of both, and the
rest is as in that type. -/
theorem exists_of_annotated {t : SyntaxTree} (h : ErrorFree t)
    (hkind : t.kind = "annotated_type") :
    ∃ u, ErrorFree u ∧ isUnannotated u = true
      ∧ t.typeNames = (frontMarkers t).flatMap SyntaxTree.typeNames ++ u.typeNames
      ∧ simpleName? t = simpleName? u ∧ dimensionMarkers t = dimensionMarkers u := by
  have hrule := h.rule (mem_rules_of_mem_typeRules (r := ⟨"annotated_type",
    fun t => endsIn isMarker isUnannotated (content t)⟩) (by simp [typeRules])) hkind
  obtain ⟨markers, u, hcontent, hmarkers, hu⟩ := exists_of_endsIn hrule
  have hmem : u ∈ t.children := mem_children_of_mem_content (hcontent ▸ by simp)
  have hnamed : u.isNamed = true := named_of_mem_content (t := t) (by rw [hcontent]; simp)
  have htype := isType_of_isUnannotated hu
  have hfront : frontMarkers t = markers := by
    have hnot : isMarker u = false := Bool.eq_false_iff.2 fun hu => by
      rw [not_isType_of_isMarker hu] at htype
      cases htype
    rw [frontMarkers, if_pos hkind, hcontent, List.filter_append, List.filter_eq_self.2 hmarkers,
      List.filter_cons_of_neg (by simp [hnot])]
    simp
  refine ⟨u, h.child hmem, hu, ?_, ?_, ?_⟩
  · rw [typeNames_eq_content h (collects_of_kind (by simp [hkind])), hfront, hcontent,
      List.flatMap_append]
    simp
  · have hnone : markers.filter isType = [] := List.filter_eq_nil_iff.2 fun c hc => by
      simp [not_isType_of_isMarker (hmarkers c hc)]
    rw [simpleName?_eq, hkind, childTypes_eq, hcontent, List.filter_append, hnone,
      List.filter_cons_of_pos htype]
    rfl
  · have hnone : markers.flatMap childMarkers = [] := List.flatMap_eq_nil_iff.2 fun c hc =>
      childMarkers_of_isMarker (hmarkers c hc)
    rw [dimensionMarkers_eq, hkind, flatMap_childMarkers, hcontent, List.flatMap_append, hnone,
      List.flatMap_cons, childMarkers_of_isUnannotated hnamed hu]
    simp

/-- The names of a type are those of the annotations in front of it, its simple name, and those of
the annotations at its dimensions. -/
theorem typeNames_of_isType {t : SyntaxTree} (h : ErrorFree t) (ht : isType t = true) :
    t.typeNames = (frontMarkers t).flatMap SyntaxTree.typeNames ++ (simpleName? t).toList ++
      (dimensionMarkers t).flatMap SyntaxTree.typeNames := by
  by_cases hkind : t.kind = "annotated_type"
  · obtain ⟨u, hfree, hu, hnames, hname, hmarkers⟩ := exists_of_annotated h hkind
    rw [hnames, hname, hmarkers, typeNames_of_isUnannotated hfree hu, List.append_assoc]
  · have hfront : frontMarkers t = [] := if_neg hkind
    rw [hfront, List.flatMap_nil, List.nil_append]
    exact typeNames_of_isUnannotated h (isUnannotated_of_isType ht hkind)

end Java

end Syntax

end SurfaceCoverage
