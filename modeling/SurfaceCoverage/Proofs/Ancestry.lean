import SurfaceCoverage.Proofs.Classification

/-!
# Which types are built on

A type builds on the types that its declaration names as supertype or interface.  The child index is
this relation turned around.  Classification asks whether anything builds on a name, but not what:
a type that names its own name, as one does that extends a namesake from elsewhere, makes itself
abstract without help from any other type.

**Results.**
* `TypeGraph.get?_childIndex`: what the child index has under a name.
* `TypeGraph.mem_childIndex_iff`: a name is listed under another one exactly when it builds on it.
* `TypeGraph.abstract_iff_built_on`: which names are abstract, and for which ones a type of another
  name is to blame.
-/

namespace SurfaceCoverage

theorem nodup_addNew {l : List String} (hl : l.Nodup) (x : String) :
    (addNew l x).Nodup := by
  by_cases h : x ∈ l
  · rwa [addNew_of_mem h]
  · rw [addNew_of_not_mem h, List.nodup_append]
    refine ⟨hl, List.pairwise_singleton _ x, fun y hy z hz => ?_⟩
    obtain rfl := List.mem_singleton.1 hz
    rintro rfl
    exact h hy

/-- Uniting lists keeps entries distinct. -/
theorem nodup_unite {l : List String} (hl : l.Nodup) (r : List String) :
    (unite l r).Nodup := by
  induction r generalizing l with
  | nil => exact hl
  | cons x rest ih => exact ih (nodup_addNew hl x)

namespace TypeGraph

variable (g : TypeGraph)

/-- A declaration of the name is in the graph. -/
def Declares (x : String) : Prop :=
  ∃ d ∈ g.toList, d.name = x

/-- A declaration of `x` names `a` as its supertype or as an interface; an empty text is no
supertype. -/
def Builds (x a : String) : Prop :=
  ∃ d ∈ g.toList, d.name = x ∧ (d.supertype = some a ∧ a ≠ "" ∨ a ∈ d.interfaces)

/-- The name builds on itself, and no other name builds on it. -/
structure BuildsOnItselfAlone (x : String) : Prop where
  itself : g.Builds x x
  alone : ∀ y, g.Builds y x → y = x

variable {g} {x a : String}

theorem Builds.declares (h : g.Builds x a) : g.Declares x := by
  obtain ⟨d, hd, hx, _⟩ := h
  exact ⟨d, hd, hx⟩

/-- A type builds on its ancestors. -/
theorem builds_iff : g.Builds x a ↔ ∃ d ∈ g.toList, d.name = x ∧ a ∈ d.ancestors := by
  simp only [Builds, Declaration.mem_ancestors, presentName_eq_some_iff]

/-! ### The child index -/

/-- The second parts of the pairs that have `a` in front. -/
def secondsOf (a : String) (pairs : List (String × String)) : List String :=
  (pairs.filter fun p => p.1 = a).map Prod.snd

theorem mem_secondsOf {pairs : List (String × String)} :
    x ∈ secondsOf a pairs ↔ (a, x) ∈ pairs := by
  simp only [secondsOf, List.mem_map, List.mem_filter, decide_eq_true_eq]
  constructor
  · rintro ⟨⟨b, y⟩, ⟨hp, rfl⟩, rfl⟩
    exact hp
  · intro h
    exact ⟨(a, x), ⟨h, rfl⟩, rfl⟩

/-- An index that takes in pairs holds under each name what it held, and the new second parts. -/
theorem get?_foldl_index (pairs : List (String × String)) (index : OrderedMap String (List String))
    (a : String) :
    (pairs.foldl
        (fun index p => index.insert p.1 (addNew ((index.get? p.1).getD []) p.2)) index).get? a =
      if secondsOf a pairs = [] then index.get? a
      else some (unite ((index.get? a).getD []) (secondsOf a pairs)) := by
  induction pairs generalizing index with
  | nil => rfl
  | cons p rest ih =>
    rw [List.foldl_cons, ih, OrderedMap.get?_insert]
    by_cases h : p.1 = a
    · have hcons : secondsOf a (p :: rest) = p.2 :: secondsOf a rest := by
        simp [secondsOf, h]
      rw [hcons, if_neg (List.cons_ne_nil _ _), if_pos h, h]
      by_cases hrest : secondsOf a rest = []
      · rw [if_pos hrest, hrest]
        rfl
      · rw [if_neg hrest]
        rfl
    · have hcons : secondsOf a (p :: rest) = secondsOf a rest := by
        simp [secondsOf, h]
      rw [hcons, if_neg h]

/-- The pairs of a graph tell which types build on which. -/
theorem mem_secondsOf_ancestry : x ∈ secondsOf a g.ancestry ↔ g.Builds x a := by
  rw [mem_secondsOf, builds_iff]
  simp only [ancestry, List.mem_flatMap, List.mem_map, Prod.mk.injEq]
  constructor
  · rintro ⟨d, hd, b, hb, rfl, rfl⟩
    exact ⟨d, hd, rfl, hb⟩
  · rintro ⟨d, hd, rfl, ha⟩
    exact ⟨d, hd, a, ha, rfl, rfl⟩

/-- The child index has a name exactly when something builds on it. -/
theorem get?_childIndex (g : TypeGraph) (a : String) :
    g.childIndex.get? a =
      if secondsOf a g.ancestry = [] then none else some (unite [] (secondsOf a g.ancestry)) :=
  get?_foldl_index g.ancestry OrderedMap.empty a

/-- A name without children is built on by no type. -/
theorem get?_childIndex_eq_none_iff : g.childIndex.get? a = none ↔ ∀ x, ¬ g.Builds x a := by
  rw [get?_childIndex]
  by_cases h : secondsOf a g.ancestry = []
  · rw [if_pos h]
    refine iff_of_true rfl fun x hx => ?_
    rw [← mem_secondsOf_ancestry, h] at hx
    cases hx
  · rw [if_neg h]
    obtain ⟨x, hx⟩ := List.exists_mem_of_ne_nil _ h
    refine iff_of_false (Option.some_ne_none _) fun hnone => ?_
    exact hnone x (mem_secondsOf_ancestry.1 hx)

/-- What is listed under a name are the names that build on it, each once. -/
theorem mem_childIndex_iff {children : List String} (h : g.childIndex.get? a = some children) :
    children ≠ [] ∧ children.Nodup ∧ ∀ x, x ∈ children ↔ g.Builds x a := by
  rw [get?_childIndex] at h
  split at h
  · cases h
  · next hne =>
    cases h
    obtain ⟨x, hx⟩ := List.exists_mem_of_ne_nil _ hne
    refine ⟨List.ne_nil_of_mem (mem_unite.2 (Or.inr hx)), nodup_unite List.nodup_nil _, ?_⟩
    intro y
    rw [mem_unite, mem_secondsOf_ancestry]
    exact or_iff_right List.not_mem_nil

/-! ### Abstract names -/

/-- An ancestor is what some type builds on. -/
theorem isAncestor_iff_built_on : g.isAncestor a = true ↔ ∃ x, g.Builds x a := by
  simp only [isAncestor, List.any_eq_true, List.contains_iff_mem, builds_iff]
  constructor
  · rintro ⟨d, hd, ha⟩
    exact ⟨d.name, d, hd, rfl, ha⟩
  · rintro ⟨x, d, hd, _, ha⟩
    exact ⟨d, hd, ha⟩

/-- Declared types are abstract if some type builds on them. -/
theorem get?_classify_abstract_iff :
    g.classify.get? x = some .abstract ↔ g.Declares x ∧ ∃ y, g.Builds y x := by
  rw [get?_classify, ← isAncestor_iff_built_on, ← kindOf_eq_abstract_iff]
  have hdeclares : x ∈ g.toList.map Declaration.name ↔ g.Declares x := by
    simp only [Declares, List.mem_map]
  by_cases hx : g.Declares x
  · rw [if_pos (hdeclares.2 hx), Option.some.injEq]
    exact (and_iff_right hx).symm
  · rw [if_neg (mt hdeclares.1 hx)]
    exact iff_of_false (fun h => by cases h) fun h => hx h.1

/-- A declared name is abstract exactly when something builds on it.  That this is a type of another
name holds of every name but those that build on themselves and are built on by nothing else.  The
child index has the names that are built on, each with those that build on it. -/
theorem abstract_iff_built_on (g : TypeGraph) :
    (∀ x, g.classify.get? x = some .abstract ↔ g.Declares x ∧ ∃ y, g.Builds y x)
    ∧ (∀ x, (g.classify.get? x = some .abstract ↔ g.Declares x ∧ ∃ y, y ≠ x ∧ g.Builds y x) ↔
        ¬ g.BuildsOnItselfAlone x)
    ∧ (∀ a, g.childIndex.get? a = none ↔ ∀ x, ¬ g.Builds x a)
    ∧ (∀ a children, g.childIndex.get? a = some children →
        children ≠ [] ∧ children.Nodup ∧ ∀ x, x ∈ children ↔ g.Builds x a) := by
  refine ⟨fun x => get?_classify_abstract_iff, fun x => ?_,
    fun a => get?_childIndex_eq_none_iff, fun a children => mem_childIndex_iff⟩
  rw [get?_classify_abstract_iff]
  constructor
  · rintro hother ⟨hitself, halone⟩
    obtain ⟨_, y, hy, hbuilds⟩ := hother.1 ⟨hitself.declares, x, hitself⟩
    exact hy (halone y hbuilds)
  · intro hnot
    refine and_congr_right fun hdeclared => ⟨?_, fun ⟨y, _, hbuilds⟩ => ⟨y, hbuilds⟩⟩
    rintro ⟨y, hbuilds⟩
    by_contra hnone
    -- every builder bears the name itself, so the name is its own only builder
    have halone : ∀ z, g.Builds z x → z = x := by
      intro z hz
      by_contra hne
      exact hnone ⟨z, hne, hz⟩
    exact hnot ⟨halone y hbuilds ▸ hbuilds, halone⟩

end TypeGraph

/-- What builds on a name, read off the observations. -/
theorem TypeGraph.builds_ofObservations_iff {os : List Observation} {x a : String} :
    (TypeGraph.ofObservations os).Builds x a ↔
      Occurs os x ∧ ((supertypesOf x os).getLast? = some a ∨ a ∈ interfacesOf x os) := by
  simp only [TypeGraph.builds_iff, TypeGraph.mem_toList_iff,
    TypeGraph.get?_ofObservations_eq_some_iff]
  constructor
  · rintro ⟨_, ⟨y, hy, rfl⟩, rfl, ha⟩
    exact ⟨hy, Declaration.mem_ancestors_ofObservations.1 ha⟩
  · rintro ⟨hx, ha⟩
    exact ⟨_, ⟨x, hx, rfl⟩, rfl, Declaration.mem_ancestors_ofObservations.2 ha⟩

/-- A goal that extends a goal of the same name from elsewhere, next to a goal on its own and a type
that builds on it in two ways. -/
def namesakes : List Observation :=
  [⟨"SwimGoal", "tick", some "SwimGoal", []⟩, ⟨"Goal", "start", none, []⟩,
    ⟨"FlyGoal", "tick", some "Goal", ["Flying", "Goal"]⟩]

theorem builds_namesakes {x : String} (hx : Occurs namesakes x) :
    x = "SwimGoal" ∨ x = "Goal" ∨ x = "FlyGoal" := by
  obtain ⟨_, o, ho, rfl⟩ := hx
  revert o
  decide

/-- The goal is abstract, though no type of another name builds on it. -/
theorem abstract_of_namesakes :
    (TypeGraph.ofObservations namesakes).classify.get? "SwimGoal" = some .abstract
    ∧ ¬ ∃ y, y ≠ "SwimGoal" ∧ (TypeGraph.ofObservations namesakes).Builds y "SwimGoal" := by
  constructor
  · have hitself : (TypeGraph.ofObservations namesakes).Builds "SwimGoal" "SwimGoal" :=
      TypeGraph.builds_ofObservations_iff.2 (by decide)
    exact TypeGraph.get?_classify_abstract_iff.2 ⟨hitself.declares, _, hitself⟩
  · rintro ⟨y, hy, hbuilds⟩
    obtain ⟨hoccurs, hnames⟩ := TypeGraph.builds_ofObservations_iff.1 hbuilds
    rcases builds_namesakes hoccurs with rfl | rfl | rfl
    · exact hy rfl
    · exact absurd hnames (by decide)
    · exact absurd hnames (by decide)

/-- The type that is built on in two ways has its child listed once. -/
theorem children_of_namesakes :
    ∃ children, (TypeGraph.ofObservations namesakes).childIndex.get? "Goal" = some children
      ∧ children = ["FlyGoal"] := by
  have hfly : (TypeGraph.ofObservations namesakes).Builds "FlyGoal" "Goal" :=
    TypeGraph.builds_ofObservations_iff.2 (by decide)
  obtain ⟨_, _, hnone, hsome⟩ := TypeGraph.abstract_iff_built_on (.ofObservations namesakes)
  obtain ⟨children, hchildren⟩ := Option.ne_none_iff_exists'.1
    (mt (hnone "Goal").1 fun h => h "FlyGoal" hfly)
  obtain ⟨_, hnodup, hmem⟩ := hsome "Goal" children hchildren
  refine ⟨children, hchildren, List.perm_singleton.1 ?_⟩
  refine (List.perm_ext_iff_of_nodup hnodup (List.pairwise_singleton _ _)).2 fun x => ?_
  rw [hmem, List.mem_singleton]
  constructor
  · intro hbuilds
    obtain ⟨hoccurs, hnames⟩ := TypeGraph.builds_ofObservations_iff.1 hbuilds
    rcases builds_namesakes hoccurs with rfl | rfl | rfl
    · exact absurd hnames (by decide)
    · exact absurd hnames (by decide)
    · rfl
  · rintro rfl
    exact hfly

end SurfaceCoverage
