import SurfaceCoverage.TypeGraph

/-!
# What a graph knows of its observations

The graph of a list of observations declares the type names that occur.  What it declares of a name
comes from the observations of that name alone: their methods and interfaces, each once and in the
order of their first occurrence, and the supertype that was written last.

**Results.**
* `TypeGraph.get?_ofObservations`: the declaration of a name is read off the observations of it.
* `TypeGraph.mem_keys_ofObservations`: the declared names are those that occur.
* `TypeGraph.mem_toList_iff`: the listed declarations are the answers of the graph.
* `TypeGraph.get?_ofObservations_append`: what later observations add to a declaration.
* `graph_gathers_observations`: the graph in closed form, name by name.
-/

namespace SurfaceCoverage

/-- The name is not empty, and some observation is about it. -/
def Occurs (os : List Observation) (x : String) : Prop :=
  x ≠ "" ∧ ∃ o ∈ os, o.typeName = x

instance (os : List Observation) (x : String) : Decidable (Occurs os x) :=
  inferInstanceAs (Decidable (x ≠ "" ∧ ∃ o ∈ os, o.typeName = x))

/-- The observations of one type. -/
def observationsOf (x : String) (os : List Observation) : List Observation :=
  os.filter fun o => o.typeName = x

/-- The methods that were observed of a type, in the order of the observations. -/
def methodsOf (x : String) (os : List Observation) : List String :=
  ((observationsOf x os).map Observation.methodName).filter (· ≠ "")

/-- The interfaces that were written for a type, in the order of the observations. -/
def interfacesOf (x : String) (os : List Observation) : List String :=
  (observationsOf x os).flatMap Observation.interfaces

/-- The supertypes that were written for a type, in the order of the observations. -/
def supertypesOf (x : String) (os : List Observation) : List String :=
  (observationsOf x os).filterMap fun o => presentName o.supertype

theorem mem_observationsOf {x : String} {os : List Observation} {o : Observation} :
    o ∈ observationsOf x os ↔ o ∈ os ∧ o.typeName = x := by
  simp [observationsOf]

theorem mem_methodsOf {x m : String} {os : List Observation} :
    m ∈ methodsOf x os ↔ m ≠ "" ∧ ∃ o ∈ os, o.typeName = x ∧ o.methodName = m := by
  simp only [methodsOf, List.mem_filter, List.mem_map, mem_observationsOf, decide_eq_true_eq]
  constructor
  · rintro ⟨⟨o, ⟨ho, hx⟩, hm⟩, hne⟩
    exact ⟨hne, o, ho, hx, hm⟩
  · rintro ⟨hne, o, ho, hx, hm⟩
    exact ⟨⟨o, ⟨ho, hx⟩, hm⟩, hne⟩

theorem mem_interfacesOf {x i : String} {os : List Observation} :
    i ∈ interfacesOf x os ↔ ∃ o ∈ os, o.typeName = x ∧ i ∈ o.interfaces := by
  simp only [interfacesOf, List.mem_flatMap, mem_observationsOf]
  constructor
  · rintro ⟨o, ⟨ho, hx⟩, hi⟩
    exact ⟨o, ho, hx, hi⟩
  · rintro ⟨o, ho, hx, hi⟩
    exact ⟨o, ⟨ho, hx⟩, hi⟩

theorem mem_supertypesOf {x s : String} {os : List Observation} :
    s ∈ supertypesOf x os ↔ s ≠ "" ∧ ∃ o ∈ os, o.typeName = x ∧ o.supertype = some s := by
  simp only [supertypesOf, List.mem_filterMap, mem_observationsOf, presentName_eq_some_iff]
  constructor
  · rintro ⟨o, ⟨ho, hx⟩, hs, hne⟩
    exact ⟨hne, o, ho, hx, hs⟩
  · rintro ⟨hne, o, ho, hx, hs⟩
    exact ⟨o, ⟨ho, hx⟩, hs, hne⟩

theorem observationsOf_cons_of_eq {x : String} {o : Observation} (h : o.typeName = x)
    (os : List Observation) :
    observationsOf x (o :: os) = o :: observationsOf x os :=
  List.filter_cons_of_pos (by simpa using h)

theorem observationsOf_cons_of_ne {x : String} {o : Observation} (h : o.typeName ≠ x)
    (os : List Observation) :
    observationsOf x (o :: os) = observationsOf x os :=
  List.filter_cons_of_neg (by simpa using h)

namespace Declaration

theorem name_foldl_observe (os : List Observation) (d : Declaration) :
    (os.foldl observe d).name = d.name := by
  induction os generalizing d with
  | nil => rfl
  | cons o rest ih => exact ih (d.observe o)

theorem methods_foldl_observe (os : List Observation) (d : Declaration) :
    (os.foldl observe d).methods =
      unite d.methods ((os.map Observation.methodName).filter (· ≠ "")) := by
  induction os generalizing d with
  | nil => rfl
  | cons o rest ih =>
    rw [List.foldl_cons, ih, List.map_cons]
    by_cases h : o.methodName = ""
    · rw [List.filter_cons_of_neg (by simpa using h)]
      simp only [observe, if_pos h]
    · rw [List.filter_cons_of_pos (by simpa using h)]
      simp only [observe, if_neg h]
      rfl

theorem interfaces_foldl_observe (os : List Observation) (d : Declaration) :
    (os.foldl observe d).interfaces =
      unite d.interfaces (os.flatMap Observation.interfaces) := by
  induction os generalizing d with
  | nil => rfl
  | cons o rest ih =>
    rw [List.foldl_cons, ih, List.flatMap_cons, unite_append]
    rfl

/-- The supertype that is written last counts; what leaves it open changes nothing. -/
theorem supertype_foldl_observe (os : List Observation) (d : Declaration) :
    (os.foldl observe d).supertype =
      (os.filterMap fun o => presentName o.supertype).getLast?.or d.supertype := by
  induction os generalizing d with
  | nil => rfl
  | cons o rest ih =>
    have hobserve : (d.observe o).supertype = (presentName o.supertype).or d.supertype := rfl
    rw [List.foldl_cons, ih, hobserve]
    cases h : presentName o.supertype with
    | none => simp only [List.filterMap_cons, h, Option.none_or]
    | some s =>
      simp only [List.filterMap_cons, h, List.getLast?_cons]
      cases (rest.filterMap fun o => presentName o.supertype).getLast? <;> rfl

/-- What a list of observations tells of the type with the given name. -/
def ofObservations (x : String) (os : List Observation) : Declaration :=
  { name := x
    methods := (methodsOf x os).eraseDups
    supertype := (supertypesOf x os).getLast?
    interfaces := (interfacesOf x os).eraseDups }

theorem foldl_observe_named (x : String) (os : List Observation) :
    (observationsOf x os).foldl observe (named x) = ofObservations x os := by
  have hname := name_foldl_observe (observationsOf x os) (named x)
  have hmethods := methods_foldl_observe (observationsOf x os) (named x)
  have hsupertype := supertype_foldl_observe (observationsOf x os) (named x)
  have hinterfaces := interfaces_foldl_observe (observationsOf x os) (named x)
  have hnamed : (named x).methods = [] ∧ (named x).supertype = none ∧ (named x).interfaces = [] :=
    ⟨rfl, rfl, rfl⟩
  rw [hnamed.1, unite_nil_left] at hmethods
  rw [hnamed.2.1, Option.or_none] at hsupertype
  rw [hnamed.2.2, unite_nil_left] at hinterfaces
  generalize (observationsOf x os).foldl observe (named x) = d at *
  obtain ⟨name, methods, supertype, interfaces⟩ := d
  simp only at hname hmethods hsupertype hinterfaces
  subst hname hmethods hsupertype hinterfaces
  rfl

end Declaration

namespace TypeGraph

theorem get?_observe_of_eq (g : TypeGraph) {o : Observation} {x : String} (hx : x ≠ "")
    (h : o.typeName = x) :
    (g.observe o).get? x = some (((g.get? x).getD (.named x)).observe o) := by
  subst h
  rw [observe, if_neg hx]
  simp [get?]

theorem get?_observe_of_ne (g : TypeGraph) {o : Observation} {x : String}
    (h : o.typeName ≠ x) :
    (g.observe o).get? x = g.get? x := by
  rw [observe]
  split
  · rfl
  · simp [get?, h]

theorem get?_foldl_observe (g : TypeGraph) {x : String} (hx : x ≠ "") (os : List Observation) :
    (os.foldl observe g).get? x =
      if observationsOf x os = [] then g.get? x
      else some ((observationsOf x os).foldl Declaration.observe
        ((g.get? x).getD (.named x))) := by
  induction os generalizing g with
  | nil => rfl
  | cons o rest ih =>
    rw [List.foldl_cons, ih]
    by_cases h : o.typeName = x
    · rw [observationsOf_cons_of_eq h, if_neg (List.cons_ne_nil o _),
        get?_observe_of_eq g hx h, Option.getD_some, List.foldl_cons]
      by_cases hrest : observationsOf x rest = []
      · rw [if_pos hrest, hrest, List.foldl_nil]
      · rw [if_neg hrest]
    · rw [observationsOf_cons_of_ne h, get?_observe_of_ne g h]

/-- No observation is about the type without a name. -/
theorem get?_foldl_observe_empty (g : TypeGraph) (os : List Observation) :
    (os.foldl observe g).get? "" = g.get? "" := by
  induction os generalizing g with
  | nil => rfl
  | cons o rest ih =>
    rw [List.foldl_cons, ih]
    by_cases h : o.typeName = ""
    · rw [observe_of_empty g h]
    · exact get?_observe_of_ne g h

/-- The declaration of a name is what the observations of that name tell. -/
theorem get?_ofObservations (os : List Observation) (x : String) :
    (ofObservations os).get? x =
      if Occurs os x then some (.ofObservations x os) else none := by
  by_cases hx : x = ""
  · subst hx
    rw [if_neg fun h => h.1 rfl]
    exact get?_foldl_observe_empty empty os
  · have hget := get?_foldl_observe empty hx os
    rw [get?_empty, Option.getD_none, Declaration.foldl_observe_named] at hget
    by_cases hos : observationsOf x os = []
    · have hnone : ¬ Occurs os x := by
        rintro ⟨_, o, ho, ho'⟩
        exact List.not_mem_nil (hos ▸ mem_observationsOf.2 ⟨ho, ho'⟩)
      rw [if_pos hos] at hget
      rw [if_neg hnone]
      exact hget
    · have hsome : ∃ o ∈ os, o.typeName = x := by
        obtain ⟨o, ho⟩ := List.exists_mem_of_ne_nil _ hos
        exact ⟨o, mem_observationsOf.1 ho⟩
      rw [if_neg hos] at hget
      rw [if_pos ⟨hx, hsome⟩]
      exact hget

theorem get?_ofObservations_eq_some_iff {os : List Observation} {x : String} {d : Declaration} :
    (ofObservations os).get? x = some d ↔
      Occurs os x ∧ Declaration.ofObservations x os = d := by
  rw [get?_ofObservations]
  split
  · next h => simp [h]
  · next h => simp [h]

theorem mem_keys_iff (g : TypeGraph) {x : String} :
    x ∈ g.declarations.keys ↔ ∃ d, g.get? x = some d := by
  rw [← g.declarations.contains_iff, OrderedMap.contains, Option.isSome_iff_exists]
  rfl

/-- The declared names are those that occur. -/
theorem mem_keys_ofObservations {os : List Observation} {x : String} :
    x ∈ (ofObservations os).declarations.keys ↔ Occurs os x := by
  rw [mem_keys_iff]
  constructor
  · rintro ⟨d, hd⟩
    exact (get?_ofObservations_eq_some_iff.1 hd).1
  · intro h
    exact ⟨_, get?_ofObservations_eq_some_iff.2 ⟨h, rfl⟩⟩

/-- The listed declarations are the answers of the graph. -/
theorem mem_toList_iff (g : TypeGraph) {d : Declaration} :
    d ∈ g.toList ↔ ∃ x, g.get? x = some d := by
  simp only [toList, names, List.mem_filterMap, Text.mem_sorted]
  constructor
  · rintro ⟨x, _, hd⟩
    exact ⟨x, hd⟩
  · rintro ⟨x, hd⟩
    exact ⟨x, g.mem_keys_iff.2 ⟨d, hd⟩, hd⟩

/-- Later observations are taken in one by one by a declaration that is there. -/
theorem get?_ofObservations_append {os : List Observation} {x : String} {d : Declaration}
    (h : (ofObservations os).get? x = some d) (later : List Observation) :
    (ofObservations (os ++ later)).get? x =
      some ((observationsOf x later).foldl Declaration.observe d) := by
  have hx : x ≠ "" := (get?_ofObservations_eq_some_iff.1 h).1.1
  have happend : ofObservations (os ++ later) = later.foldl observe (ofObservations os) :=
    List.foldl_append
  rw [happend, get?_foldl_observe _ hx, h, Option.getD_some]
  split
  · next hnil => rw [hnil, List.foldl_nil]
  · rfl

end TypeGraph

namespace Declaration

/-- The declaration gathers what the observations tell of a type: its methods and its interfaces,
each once and in the order of first occurrence, and the supertype that was written last. -/
structure Gathers (d : Declaration) (x : String) (os : List Observation) : Prop where
  name : d.name = x
  methods : d.methods = (methodsOf x os).eraseDups
  interfaces : d.interfaces = (interfacesOf x os).eraseDups
  supertype : d.supertype = (supertypesOf x os).getLast?

theorem gathers_iff {d : Declaration} {x : String} {os : List Observation} :
    d.Gathers x os ↔ ofObservations x os = d := by
  constructor
  · rintro ⟨hname, hmethods, hinterfaces, hsupertype⟩
    obtain ⟨name, methods, supertype, interfaces⟩ := d
    simp only at hname hmethods hinterfaces hsupertype
    subst hname hmethods hinterfaces hsupertype
    rfl
  · rintro rfl
    exact ⟨rfl, rfl, rfl, rfl⟩

/-- Observations that leave the supertype open do not change it. -/
theorem supertype_foldl_observe_of_open {os : List Observation}
    (h : ∀ o ∈ os, presentName o.supertype = none) (d : Declaration) :
    (os.foldl observe d).supertype = d.supertype := by
  have hnone : (os.filterMap fun o => presentName o.supertype) = [] :=
    List.filterMap_eq_nil_iff.2 h
  rw [supertype_foldl_observe, hnone, List.getLast?_nil, Option.none_or]

end Declaration

/-- The graph of a list of observations in closed form.  It declares the names that occur and are
not empty; each declaration gathers what the observations tell of its type, and nothing else; and
however many observations follow, a known supertype stays unless one of them writes another. -/
theorem graph_gathers_observations (os : List Observation) :
    (∀ x : String,
      (TypeGraph.ofObservations os).contains x = true ↔ x ≠ "" ∧ ∃ o ∈ os, o.typeName = x)
    ∧
    (∀ (x : String) (d : Declaration),
      (TypeGraph.ofObservations os).get? x = some d ↔ Occurs os x ∧ d.Gathers x os)
    ∧
    (∀ (x : String) (d : Declaration) (later : List Observation),
      (TypeGraph.ofObservations os).get? x = some d →
      (∀ o ∈ later, o.typeName = x → presentName o.supertype = none) →
      ∃ d', (TypeGraph.ofObservations (os ++ later)).get? x = some d'
        ∧ d'.supertype = d.supertype) := by
  refine ⟨?_, ?_, ?_⟩
  · intro x
    exact (OrderedMap.contains_iff _).trans TypeGraph.mem_keys_ofObservations
  · intro x d
    rw [TypeGraph.get?_ofObservations_eq_some_iff, Declaration.gathers_iff]
  · intro x d later hd hopen
    refine ⟨_, TypeGraph.get?_ofObservations_append hd later, ?_⟩
    apply Declaration.supertype_foldl_observe_of_open
    intro o ho
    obtain ⟨hlater, hx⟩ := mem_observationsOf.1 ho
    exact hopen o hlater hx

/-- Observations with a method and an interface written twice, an empty method and an empty
supertype, and one of no type. -/
def ghastObservations : List Observation :=
  [⟨"Ghast", "tick", some "Mob", ["Flying", "Flying"]⟩, ⟨"", "run", none, []⟩,
    ⟨"Ghast", "", some "", ["Enemy"]⟩, ⟨"Ghast", "tick", none, ["Flying"]⟩]

/-- A supertype that is left open later on stays as it was. -/
theorem declaration_of_ghastObservations :
    (TypeGraph.ofObservations ghastObservations).get? "Ghast" =
      some ⟨"Ghast", ["tick"], some "Mob", ["Flying", "Enemy"]⟩
    ∧ (∀ o ∈ [(⟨"Ghast", "float", some "", []⟩ : Observation)],
        o.typeName = "Ghast" → presentName o.supertype = none)
    ∧ ∃ d', (TypeGraph.ofObservations
        (ghastObservations ++ [⟨"Ghast", "float", some "", []⟩])).get? "Ghast" = some d'
      ∧ d'.supertype = some "Mob" := by
  have hd : (TypeGraph.ofObservations ghastObservations).get? "Ghast" =
      some ⟨"Ghast", ["tick"], some "Mob", ["Flying", "Enemy"]⟩ := by
    decide +kernel
  have hopen : ∀ o ∈ [(⟨"Ghast", "float", some "", []⟩ : Observation)],
      o.typeName = "Ghast" → presentName o.supertype = none := by
    decide
  obtain ⟨_, _, hstays⟩ := graph_gathers_observations ghastObservations
  exact ⟨hd, hopen, hstays "Ghast" _ _ hd hopen⟩

end SurfaceCoverage
