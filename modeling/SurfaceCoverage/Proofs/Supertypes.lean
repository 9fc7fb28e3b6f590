import SurfaceCoverage.Proofs.TypeNames
import Mathlib.Data.List.Forall2

/-!
# Ancestors that are written in heads

Every method of a class is observed with the ancestors of the class.  They are read off the nodes of
its head: the supertype is the first name of the type behind `extends`, and the interfaces are the
names of the types behind `implements`.  So the supertype is the simple name of the written type
unless another name is annotated in front of it, and the interfaces are the simple names of the
written types unless the annotations bring in more.

**Results.**
* `head?_shownNames_eq_iff`, `mem_shownNames_iff_simple`, `unite_shownNames`: when the names of
  types are their simple names.
* `showsAncestors_ofMatch`: what is observed of a member.
* `ancestors_of_written_heads`: what the files of the language tell of ancestors.
-/

namespace SurfaceCoverage

namespace Syntax

namespace Java

/-! ### Names and annotations -/

/-- The names that a type shows: those of the annotations in front of it, its simple name, and those
of the annotations at its dimensions. -/
def shownNames (t : SyntaxTree) : List String :=
  (frontMarkers t).flatMap SyntaxTree.typeNames ++ (simpleName? t).toList ++
    (dimensionMarkers t).flatMap SyntaxTree.typeNames

/-- The names of the annotations of a type, and of their arguments. -/
def markerNames (t : SyntaxTree) : List String :=
  (frontMarkers t ++ dimensionMarkers t).flatMap SyntaxTree.typeNames

/-- What is shown of a type are the names of its annotations, and its simple name. -/
theorem mem_shownNames {t : SyntaxTree} {x : String} :
    x ∈ shownNames t ↔ x ∈ markerNames t ∨ simpleName? t = some x := by
  rw [shownNames, markerNames, List.flatMap_append]
  simp only [List.mem_append, Option.mem_toList]
  tauto

/-- The last word of a name. -/
def lastWord? (t : SyntaxTree) : Option String :=
  if t.kind = "identifier" then some t.word else t.namedChildren.getLast?.map SyntaxTree.word

/-- The name of an annotation, without what qualifies it. -/
def annotationName? (t : SyntaxTree) : Option String :=
  (content t).head?.bind lastWord?

/-- A dotted name has its last word. -/
theorem typeNames_of_isName {t : SyntaxTree} (h : ErrorFree t) (ht : isName t = true) :
    ∃ x, lastWord? t = some x ∧ t.typeNames = [x] := by
  rw [isName, Bool.or_eq_true, beq_iff_eq, beq_iff_eq] at ht
  rcases ht with hkind | hkind
  · refine ⟨t.word, if_pos hkind, ?_⟩
    rw [SyntaxTree.typeNames_eq, hkind]
    rfl
  · have hrule := h.rule (mem_rules_of_mem_typeRules (r := ⟨"scoped_identifier",
      fun t => t.namedChildren.getLast?.any fun c => c.kind == "identifier"⟩)
      (by simp [typeRules])) hkind
    obtain ⟨c, hlast, hc⟩ := (Option.any_eq_true _ _).1 hrule
    refine ⟨c.word, ?_, ?_⟩
    · rw [lastWord?, hkind, hlast]
      rfl
    · rw [SyntaxTree.typeNames_eq, hkind, hlast]
      change c.typeNames = [c.word]
      rw [SyntaxTree.typeNames_eq, beq_iff_eq.1 hc]
      rfl

/-- The first name of an annotation is its own. -/
theorem typeNames_of_isMarker {t : SyntaxTree} (h : ErrorFree t) (ht : isMarker t = true) :
    ∃ x rest, annotationName? t = some x ∧ t.typeNames = x :: rest := by
  have hkinds := ht
  rw [isMarker, Bool.or_eq_true, beq_iff_eq, beq_iff_eq] at hkinds
  have hname : ∃ c, (content t).head? = some c ∧ isName c = true := by
    rcases hkinds with hkind | hkind
    · exact (Option.any_eq_true _ _).1 (h.rule (mem_rules_of_mem_typeRules
        (r := ⟨"marker_annotation", fun t => (content t).head?.any isName⟩)
        (by simp [typeRules])) hkind)
    · exact (Option.any_eq_true _ _).1 (h.rule (mem_rules_of_mem_typeRules
        (r := ⟨"annotation", fun t => (content t).head?.any isName⟩)
        (by simp [typeRules])) hkind)
  obtain ⟨c, hhead, hc⟩ := hname
  obtain ⟨rest, hrest⟩ := List.head?_eq_some_iff.1 hhead
  obtain ⟨x, hx, hnames⟩ := typeNames_of_isName
    (h.child (mem_children_of_mem_content (List.mem_of_head? hhead))) hc
  refine ⟨x, rest.flatMap SyntaxTree.typeNames, ?_, ?_⟩
  · rw [annotationName?, hhead, Option.bind_some, hx]
  · rw [typeNames_eq_content h (collects_of_kind (by rcases hkinds with h | h <;> simp [h])), hrest,
      List.flatMap_cons, hnames]
    rfl

/-- No other name than the simple one comes first: an annotation in front of the type has this same
name, and an array of a type without a name has no annotations. -/
def StartsWithSimple (t : SyntaxTree) : Prop :=
  (∀ a ∈ (frontMarkers t).head?, annotationName? a = simpleName? t)
    ∧ (simpleName? t = none → dimensionMarkers t = [])

/-- Annotations in front of a type are parsed without errors. -/
theorem errorFree_of_mem_frontMarkers {t a : SyntaxTree} (h : ErrorFree t)
    (ha : a ∈ frontMarkers t) :
    ErrorFree a ∧ isMarker a = true := by
  rw [frontMarkers] at ha
  split at ha
  · obtain ⟨hcontent, hmarker⟩ := List.mem_filter.1 ha
    exact ⟨h.child (mem_children_of_mem_content hcontent), hmarker⟩
  · cases ha

theorem errorFree_of_mem_dimensionMarkers {t a : SyntaxTree} (h : ErrorFree t)
    (ha : a ∈ dimensionMarkers t) :
    ErrorFree a ∧ isMarker a = true := by
  induction t using SyntaxTree.ind with
  | h t ih =>
    rw [dimensionMarkers_eq] at ha
    split at ha
    · obtain ⟨c, hc, ha⟩ := List.mem_flatMap.1 ha
      have hfree := h.child hc
      rw [childMarkers] at ha
      split at ha
      · cases ha
      split at ha
      · obtain ⟨hcontent, hmarker⟩ := List.mem_filter.1 ha
        exact ⟨hfree.child (mem_children_of_mem_content hcontent), hmarker⟩
      split at ha
      · exact ih c hc hfree ha
      · cases ha
    · cases ha

/-- The first name that a type shows is its simple name exactly if no other one comes first. -/
theorem head?_shownNames_eq_iff {t : SyntaxTree} (h : ErrorFree t) :
    (shownNames t).head? = simpleName? t ↔ StartsWithSimple t := by
  rw [StartsWithSimple, shownNames]
  cases hfront : frontMarkers t with
  | cons a rest =>
    obtain ⟨hfree, hmarker⟩ := errorFree_of_mem_frontMarkers h (hfront ▸ List.mem_cons_self)
    obtain ⟨x, names, hx, hnames⟩ := typeNames_of_isMarker hfree hmarker
    have hhead : (((a :: rest).flatMap SyntaxTree.typeNames ++ (simpleName? t).toList) ++
        (dimensionMarkers t).flatMap SyntaxTree.typeNames).head? = some x := by
      rw [List.flatMap_cons, hnames]
      rfl
    rw [hhead]
    simp only [List.head?_cons, Option.mem_def, Option.some.injEq, forall_eq', hx]
    constructor
    · intro hsimple
      refine ⟨hsimple, fun hnone => ?_⟩
      rw [hnone] at hsimple
      cases hsimple
    · exact fun hsimple => hsimple.1
  | nil =>
    cases hsimple : simpleName? t with
    | some x => simp
    | none =>
      cases hdimensions : dimensionMarkers t with
      | nil => simp
      | cons a rest =>
        obtain ⟨hfree, hmarker⟩ :=
          errorFree_of_mem_dimensionMarkers h (hdimensions ▸ List.mem_cons_self)
        obtain ⟨x, names, -, hnames⟩ := typeNames_of_isMarker hfree hmarker
        simp [hnames]

/-- The names that types show are their simple names if the annotations bring in no other. -/
theorem mem_shownNames_iff_simple {ts : List SyntaxTree} :
    (∀ x, x ∈ ts.flatMap shownNames ↔ x ∈ ts.filterMap simpleName?) ↔
      ∀ t ∈ ts, ∀ x ∈ markerNames t, x ∈ ts.filterMap simpleName? := by
  constructor
  · intro h t ht x hx
    exact (h x).1 (List.mem_flatMap.2 ⟨t, ht, mem_shownNames.2 (Or.inl hx)⟩)
  · intro h x
    constructor
    · intro hx
      obtain ⟨t, ht, hx⟩ := List.mem_flatMap.1 hx
      rcases mem_shownNames.1 hx with hx | hx
      · exact h t ht x hx
      · exact List.mem_filterMap.2 ⟨t, ht, hx⟩
    · intro hx
      obtain ⟨t, ht, hx⟩ := List.mem_filterMap.1 hx
      exact List.mem_flatMap.2 ⟨t, ht, mem_shownNames.2 (Or.inr hx)⟩

end Java

end Syntax

/-- A union with names that are known, but for one, adds that one. -/
theorem unite_eq_addNew {l xs : List String} {x : String} (hx : x ∈ xs)
    (h : ∀ y ∈ xs, y ∈ l ∨ y = x) :
    unite l xs = addNew l x := by
  by_cases hl : x ∈ l
  · rw [addNew_of_mem hl]
    refine unite_eq_self fun y hy => ?_
    rcases h y hy with hy | rfl
    · exact hy
    · exact hl
  · obtain ⟨front, back, rfl, hfront⟩ := List.eq_append_cons_of_mem hx
    have hknown : unite l front = l := by
      refine unite_eq_self fun y hy => ?_
      rcases h y (List.mem_append_left _ hy) with hy | rfl
      · exact hy
      · exact absurd hy hfront
    have hadded : unite (addNew l x) back = addNew l x := by
      refine unite_eq_self fun y hy => mem_addNew.2 ?_
      exact h y (List.mem_append_right _ (List.mem_cons_of_mem x hy))
    rw [unite_append, hknown]
    exact hadded

namespace Syntax

namespace Java

/-- The names that types show are their simple names, in their order, if the annotations of each
type bring in none but those of the types up to it. -/
theorem unite_shownNames {ts : List SyntaxTree} {l : List String}
    (h : ∀ before t after, ts = before ++ t :: after → ∀ x ∈ markerNames t,
      x ∈ l ∨ x ∈ (before ++ [t]).filterMap simpleName?) :
    unite l (ts.flatMap shownNames) = unite l (ts.filterMap simpleName?) := by
  induction ts generalizing l with
  | nil => rfl
  | cons t rest ih =>
    have hmarkers := h [] t rest rfl
    rw [List.flatMap_cons, unite_append]
    cases hsimple : simpleName? t with
    | none =>
      have hfirst : unite l (shownNames t) = l := unite_eq_self fun y hy => by
        rcases mem_shownNames.1 hy with hy | hy
        · simpa [hsimple] using hmarkers y hy
        · rw [hsimple] at hy
          cases hy
      rw [hfirst, List.filterMap_cons_none hsimple]
      refine ih fun before u after hsplit x hx => ?_
      simpa [hsimple] using h (t :: before) u after (by rw [hsplit, List.cons_append]) x hx
    | some n =>
      have hfirst : unite l (shownNames t) = addNew l n := by
        refine unite_eq_addNew (mem_shownNames.2 (Or.inr hsimple)) fun y hy => ?_
        rcases mem_shownNames.1 hy with hy | hy
        · simpa [hsimple] using hmarkers y hy
        · exact Or.inr (Option.some.inj (hy.symm.trans hsimple))
      rw [hfirst, List.filterMap_cons_some hsimple]
      refine ih fun before u after hsplit x hx => ?_
      have hknown := h (t :: before) u after (by rw [hsplit, List.cons_append]) x hx
      rw [List.cons_append, List.filterMap_cons_some hsimple, List.mem_cons] at hknown
      rw [mem_addNew]
      tauto

/-! ### Heads of classes -/

/-- The type that is written behind `extends`. -/
def extendedType? (c : SyntaxTree) : Option SyntaxTree :=
  (c.children.find? (SyntaxTree.fits "superclass" none)).bind fun s => (content s).head?

/-- The types that are written behind `implements`. -/
def implementedTypes (c : SyntaxTree) : List SyntaxTree :=
  (c.children.find? (SyntaxTree.fits "super_interfaces" none)).elim [] fun s =>
    (content s).flatMap content

/-- The ancestors that an observation names are those that are written in the head of its class.
The supertype is the first name of the extended type, and the interfaces are the names of the
implemented types, each once and in their order.  The supertype is the simple name of the written
type exactly if no other one comes first.  The interfaces are simple names of the written types, and
all of them, exactly if the annotations bring in no other; and they are these, each once and in
their order, if the annotations of each type bring in no name but those of the types up to it. -/
structure ShowsAncestors (c : SyntaxTree) (o : Observation) : Prop where
  supertype : o.supertype = (extendedType? c).bind fun t => (shownNames t).head?
  interfaces : o.interfaces = ((implementedTypes c).flatMap shownNames).eraseDups
  supertype_simple : o.supertype = (extendedType? c).bind simpleName? ↔
    ∀ t ∈ extendedType? c, StartsWithSimple t
  interfaces_simple :
    (∀ x, x ∈ o.interfaces ↔ x ∈ (implementedTypes c).filterMap simpleName?) ↔
      ∀ t ∈ implementedTypes c, ∀ x ∈ markerNames t, x ∈ (implementedTypes c).filterMap simpleName?
  interfaces_ordered :
    (∀ before t after, implementedTypes c = before ++ t :: after → ∀ x ∈ markerNames t,
      x ∈ (before ++ [t]).filterMap simpleName?) →
    o.interfaces = ((implementedTypes c).filterMap simpleName?).eraseDups

/-- Of the children that fill the first slot there is at most one. -/
theorem filter_fits_eq {slot : ChildSlot} {slots : List ChildSlot} {x : Spot}
    (h : InOrder (slot :: slots) x.children) :
    x.tree.children.filter slot.fits = (x.tree.children.find? slot.fits).toList := by
  have htrees : x.children.map Spot.tree = x.tree.children := by
    simp [Spot.children, List.map_map, Function.comp_def]
  have hone := h.pairwise_filter
  rw [← List.head?_filter, ← htrees, List.filter_map]
  have hfilter : x.children.filter (slot.fits ∘ Spot.tree) =
      x.children.filter fun x => slot.fits x.tree := rfl
  rw [hfilter]
  generalize x.children.filter (fun x => slot.fits x.tree) = found at *
  rcases found with _ | ⟨y, _ | ⟨z, rest⟩⟩
  · rfl
  · rfl
  · exact ((List.pairwise_cons.1 hone).1 z List.mem_cons_self).elim

theorem namesOf_eq {ts : List SyntaxTree} (h : ∀ t ∈ ts, ErrorFree t) :
    namesOf ts = ts.flatMap SyntaxTree.typeNames := by
  refine List.filter_eq_self.2 fun x hx => ?_
  obtain ⟨t, ht, hx⟩ := List.mem_flatMap.1 hx
  exact decide_eq_true (ne_empty_of_mem_typeNames (h t ht) hx)

/-- The first name in the head of a class is the first one that its superclass shows. -/
theorem namesOf_superclass {c : SyntaxTree} (h : ErrorFree c) :
    (namesOf (c.children.find? (SyntaxTree.fits "superclass" none)).toList).head? =
      (extendedType? c).bind fun t => (shownNames t).head? := by
  rw [extendedType?]
  cases hfind : c.children.find? (SyntaxTree.fits "superclass" none) with
  | none => rfl
  | some s =>
    have hs := h.child (List.mem_of_find?_eq_some hfind)
    have hkind : s.kind = "superclass" :=
      kind_of_fits (s := ⟨"superclass", none⟩) (List.find?_some hfind)
    have hrule := hs.rule (mem_rules_of_mem_typeRules
      (r := ⟨"superclass", fun t => isSingle isType (content t)⟩) (by simp [typeRules])) hkind
    obtain ⟨t, hcontent, ht⟩ := exists_of_isSingle hrule
    have htree : ErrorFree t :=
      hs.child (mem_children_of_mem_content (hcontent ▸ List.mem_singleton_self t))
    rw [namesOf_eq (by simpa using hs), Option.toList_some, List.flatMap_singleton,
      typeNames_eq_content hs (collects_of_kind (by simp [hkind])), Option.bind_some, hcontent,
      List.flatMap_singleton, typeNames_of_isType htree ht]
    rfl

/-- The names of the interfaces are those that each of them shows. -/
theorem namesOf_super_interfaces {c : SyntaxTree} (h : ErrorFree c) :
    namesOf (c.children.find? (SyntaxTree.fits "super_interfaces" none)).toList =
      (implementedTypes c).flatMap shownNames := by
  rw [implementedTypes]
  cases hfind : c.children.find? (SyntaxTree.fits "super_interfaces" none) with
  | none => rfl
  | some s =>
    have hs := h.child (List.mem_of_find?_eq_some hfind)
    have hkind : s.kind = "super_interfaces" :=
      kind_of_fits (s := ⟨"super_interfaces", none⟩) (List.find?_some hfind)
    have hrule := hs.rule (mem_rules_of_mem_typeRules (r := ⟨"super_interfaces",
      fun t => isSingle (fun c => c.kind == "type_list") (content t)⟩) (by simp [typeRules])) hkind
    obtain ⟨list, hcontent, hlist⟩ := exists_of_isSingle hrule
    have hfree : ErrorFree list :=
      hs.child (mem_children_of_mem_content (hcontent ▸ List.mem_singleton_self list))
    have htypes := List.all_eq_true.1 (hfree.rule (mem_rules_of_mem_typeRules
      (r := ⟨"type_list", fun t => (content t).all isType⟩) (by simp [typeRules]))
      (beq_iff_eq.1 hlist))
    have hnames : (content list).flatMap SyntaxTree.typeNames =
        (content list).flatMap shownNames := by
      rw [List.flatMap_def, List.flatMap_def]
      exact congrArg List.flatten (List.map_congr_left fun t ht =>
        typeNames_of_isType (hfree.child (mem_children_of_mem_content ht)) (htypes t ht))
    rw [namesOf_eq (by simpa using hs), Option.toList_some, List.flatMap_singleton,
      typeNames_eq_content hs (collects_of_kind (by simp [hkind])), Option.elim_some, hcontent,
      List.flatMap_singleton, List.flatMap_singleton,
      typeNames_eq_content hfree (collects_of_kind (by simp [beq_iff_eq.1 hlist])), hnames]

theorem errorFree_of_mem_extendedType? {c t : SyntaxTree} (h : ErrorFree c)
    (ht : extendedType? c = some t) :
    ErrorFree t := by
  obtain ⟨s, hs, ht⟩ := Option.bind_eq_some_iff.1 ht
  exact (h.child (List.mem_of_find?_eq_some hs)).child
    (mem_children_of_mem_content (List.mem_of_head? ht))

/-- The first name is the simple name if no annotation comes before it. -/
theorem extendedType?_simple_iff {c : SyntaxTree} (h : ErrorFree c) :
    ((extendedType? c).bind fun t => (shownNames t).head?) = (extendedType? c).bind simpleName? ↔
      ∀ t ∈ extendedType? c, StartsWithSimple t := by
  cases htype : extendedType? c with
  | none => simp
  | some t =>
    rw [Option.bind_some, Option.bind_some,
      head?_shownNames_eq_iff (errorFree_of_mem_extendedType? h htype)]
    simp

/-- Of a member the ancestors in the head of its class are observed. -/
theorem showsAncestors_ofMatch {t : SyntaxTree} (h : ErrorFree t) {m : Member}
    (hm : scheme.IsMember t m) :
    ShowsAncestors m.owner.tree (Observation.ofMatch (scheme.toMatch m)) := by
  have hspot := SyntaxTree.mem_spots_iff.2 hm.owner.1
  have hfree : ErrorFree m.owner.tree := h.of_mem_spots hspot
  have horder : InOrder scheme.slots m.owner.children :=
    inOrder_of_orderRule classOrder_mem h hspot hm.owner.2
  have hsuperclass := InOrder.tail (by decide) horder
  have hinterfaces := InOrder.tail (by decide) hsuperclass
  have hnodes : ∀ slot ∈ [("superclass", "supertype"), ("super_interfaces", "interfaces")],
      (scheme.toMatch m).nodes slot.2 =
        m.owner.tree.children.filter (SyntaxTree.fits slot.1 none) := by
    have htrees : m.owner.children.map Spot.tree = m.owner.tree.children := by
      simp [Spot.children, List.map_map, Function.comp_def]
    rw [← htrees]
    simp [Match.nodes, Scheme.toMatch, scheme, Query.optionalCaptures, List.filter_map,
      Function.comp_def]
  have hsupertype : (Observation.ofMatch (scheme.toMatch m)).supertype =
      (extendedType? m.owner.tree).bind fun t => (shownNames t).head? := by
    have hfilter := filter_fits_eq hsuperclass
    rw [Observation.ofMatch, hnodes ("superclass", "supertype") (by simp)]
    exact (congrArg (fun ts => (namesOf ts).head?) hfilter).trans (namesOf_superclass hfree)
  have hlisted : (Observation.ofMatch (scheme.toMatch m)).interfaces =
      ((implementedTypes m.owner.tree).flatMap shownNames).eraseDups := by
    have hfilter := filter_fits_eq hinterfaces
    rw [Observation.ofMatch, hnodes ("super_interfaces", "interfaces") (by simp),
      ← namesOf_super_interfaces hfree, ← unite_nil_left]
    exact congrArg (fun ts => unite [] (namesOf ts)) hfilter
  refine ⟨hsupertype, hlisted, ?_, ?_, fun hknown => ?_⟩
  · rw [hsupertype]
    exact extendedType?_simple_iff hfree
  · simp only [hlisted, List.mem_eraseDups]
    exact mem_shownNames_iff_simple
  · rw [hlisted, ← unite_nil_left, ← unite_nil_left]
    exact unite_shownNames fun before t after hsplit x hx =>
      Or.inr (hknown before t after hsplit x hx)

end Java

end Syntax

/-- What a file without errors tells of ancestors, whatever parses it and runs the query.  The
methods that stand directly in the bodies of classes, at any depth, are observed one by one, each
under the names of its class and of itself, and with the ancestors that are written in the head of
the class, whatever types stand in it. -/
theorem ancestors_of_written_heads {find : Cursor} (hfind : find.IsLawful)
    {parse : List UInt8 → SyntaxTree} {f : SourceFile}
    (hfree : Syntax.Java.ErrorFree (parse f.content)) :
    ∃ ms : List Member,
      ms.Pairwise (fun m n => m.methodName.place < n.methodName.place)
      ∧ (∀ m, m ∈ ms ↔ Syntax.Java.scheme.IsMember (parse f.content) m)
      ∧ List.Forall₂
        (fun m o => o.typeName = m.typeName.tree.word ∧ o.methodName = m.methodName.tree.word
          ∧ Syntax.Java.ShowsAncestors m.owner.tree o)
        ms ((Grammar.javaBy parse find).read f.content) := by
  obtain ⟨ms, hordered, hmem, hfound⟩ := Syntax.Java.scheme.find_query hfind (by decide)
    fun x => inOrder_of_orderRule Syntax.Java.classOrder_mem hfree
  have hread : (Grammar.javaBy parse find).read f.content =
      ms.map fun m => Observation.ofMatch (Syntax.Java.scheme.toMatch m) := by
    change (find Syntax.Java.query (parse f.content)).map Observation.ofMatch = _
    rw [Syntax.Java.query_eq, hfound, List.map_map]
    rfl
  refine ⟨ms, hordered, hmem, ?_⟩
  rw [hread, List.forall₂_map_right_iff, List.forall₂_same]
  intro m hm
  obtain ⟨htype, hmethod⟩ := Syntax.Java.scheme.names_ofMatch (by decide) m
  exact ⟨htype, hmethod, Syntax.Java.showsAncestors_ofMatch hfree ((hmem m).1 hm)⟩

namespace Syntax

namespace Java

/-- A class with type parameters, arguments, qualifiers, and annotations behind them. -/
def gullText : String :=
  "class Gull<T extends Cmp<T>> extends a.@A Base<int[], ? super @B Q<T>>.Inner
  implements p.Fly<S @C []>, Swim<?>, Fly permits Tern { void cry() {} }"

/-- A class with annotations in front of its types. -/
def ternText : String :=
  "class Tern extends @N Gull implements @x.Swim Swim, @Q(v = 1) Fly { void dive() {} }"

/-- The simple names of the types in the heads of the owners of methods. -/
def simpleAncestors (t : SyntaxTree) : List (Option String × List String) :=
  (t.spots.flatMap scheme.membersAt).map fun m =>
    ((extendedType? m.owner.tree).bind simpleName?,
      (implementedTypes m.owner.tree).filterMap simpleName?)

theorem simpleNames_of_isMember {t : SyntaxTree} {a : Option String × List String}
    (h : simpleAncestors t = [a]) {m : Member} (hm : scheme.IsMember t m) :
    (extendedType? m.owner.tree).bind simpleName? = a.1
      ∧ (implementedTypes m.owner.tree).filterMap simpleName? = a.2 := by
  have hmem : ((extendedType? m.owner.tree).bind simpleName?,
      (implementedTypes m.owner.tree).filterMap simpleName?) ∈ simpleAncestors t :=
    List.mem_map_of_mem (scheme.isMember_iff.1 hm)
  rw [h, List.mem_singleton] at hmem
  exact Prod.mk.inj hmem

end Java

end Syntax

/-- Of the first class the simple names are observed. -/
theorem ancestors_of_gull :
    let f : SourceFile := ⟨⟨.root, ["Gull.java"]⟩, Syntax.Java.gullText.toUTF8.toList⟩
    findInOrder.IsLawful ∧ Syntax.Java.ErrorFree (Syntax.Java.parse f.content)
      ∧ Grammar.java.read f.content = [⟨"Gull", "cry", some "Inner", ["Fly", "Swim"]⟩]
      ∧ ∃ m, Syntax.Java.scheme.IsMember (Syntax.Java.parse f.content) m
        ∧ (Syntax.Java.extendedType? m.owner.tree).bind Syntax.Java.simpleName? = some "Inner"
        ∧ (Syntax.Java.implementedTypes m.owner.tree).filterMap Syntax.Java.simpleName? =
          ["Fly", "Swim", "Fly"] := by
  intro f
  have hfree := Syntax.Java.errorFree_parse f.content
  have hread : Grammar.java.read f.content =
      [⟨"Gull", "cry", some "Inner", ["Fly", "Swim"]⟩] := by decide +kernel
  have hsimple : Syntax.Java.simpleAncestors (Syntax.Java.parse f.content) =
      [(some "Inner", ["Fly", "Swim", "Fly"])] := by decide +kernel
  obtain ⟨ms, -, hmem, hobserved⟩ := ancestors_of_written_heads findInOrder_isLawful hfree
  have hobserved : List.Forall₂ _ ms (Grammar.java.read f.content) := hobserved
  rw [hread] at hobserved
  obtain ⟨m, rest, -, -, rfl⟩ := List.forall₂_cons_right_iff.1 hobserved
  have hm := (hmem m).1 List.mem_cons_self
  exact ⟨findInOrder_isLawful, hfree, hread, m, hm, Syntax.Java.simpleNames_of_isMember hsimple hm⟩

/-- Of the second one the first annotation passes for the supertype, and further annotations for
interfaces. -/
theorem ancestors_of_tern :
    let f : SourceFile := ⟨⟨.root, ["Tern.java"]⟩, Syntax.Java.ternText.toUTF8.toList⟩
    Syntax.Java.ErrorFree (Syntax.Java.parse f.content)
      ∧ Grammar.java.read f.content = [⟨"Tern", "dive", some "N", ["Swim", "Q", "v", "Fly"]⟩]
      ∧ ∃ m, Syntax.Java.scheme.IsMember (Syntax.Java.parse f.content) m
        ∧ (Syntax.Java.extendedType? m.owner.tree).bind Syntax.Java.simpleName? = some "Gull"
        ∧ (Syntax.Java.implementedTypes m.owner.tree).filterMap Syntax.Java.simpleName? =
          ["Swim", "Fly"] := by
  intro f
  have hread : Grammar.java.read f.content =
      [⟨"Tern", "dive", some "N", ["Swim", "Q", "v", "Fly"]⟩] := by decide +kernel
  have hsimple : Syntax.Java.simpleAncestors (Syntax.Java.parse f.content) =
      [(some "Gull", ["Swim", "Fly"])] := by decide +kernel
  have hlisted : (some "Gull", ["Swim", "Fly"]) ∈
      Syntax.Java.simpleAncestors (Syntax.Java.parse f.content) := by
    rw [hsimple]
    exact List.mem_cons_self
  obtain ⟨m, hm, hnames⟩ := List.mem_map.1 hlisted
  exact ⟨Syntax.Java.errorFree_parse f.content, hread, m,
    Syntax.Java.scheme.isMember_iff.2 hm, Prod.mk.inj hnames⟩

end SurfaceCoverage
